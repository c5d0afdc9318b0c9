/-
# The preview

A preview stands in for a plotter without hardware.  It keeps the mode, the options, the state of
the pen and the position that a plotter would have, and reports each action in the log.

| call | needs |
| --- | --- |
| pen, motion, drawing, waiting | a connection |
| plotting | a loaded drawing |
| any other | nothing |

This is the preview driver of the language specification, §14, selected with `--preview`; `perform`
has one case for each method of §6.
-/

import PlotScript.Plotter.Device

namespace PlotScript

/-- The state of a preview. -/
structure Preview where
  mode : Option Mode
  options : Options
  pending : Options
  connected : Bool
  penDown : Bool
  position : Float × Float
  plotFile : Option String
  plots : Nat
  deriving DecidableEq

namespace Preview

/-- The preview before the first call. -/
def start : Preview := ⟨none, [], [], false, false, (0, 0), none, 0⟩

/-- A position as it is shown. -/
def positionText (p : Float × Float) : String :=
  "(" ++ Number.floatText p.1 ++ ", " ++ Number.floatText p.2 ++ ")"

/-- Reports an action. -/
def say (text : String) : Act Refusal Preview Unit := .log .info ("Preview: " ++ text)

/-- A refusal of the plotter. -/
def refuse {α : Type} (cause : Cause) : Act Refusal Preview α :=
  .throw (.complaint .device cause none)

/-- Goes on only with a connection. -/
def needConnection : Act Refusal Preview Unit := do
  let p ← Act.get
  if p.connected then Act.pure () else refuse .plotterNotConnected

/-- A number as a coordinate. -/
def coordinate (n : Number) : Act Refusal Preview Float :=
  match n.toFloat? with
  | some x => Act.pure x
  | none => .throw (.failure .overflow)

/-- A point in coordinates. -/
def point (p : Point) : Act Refusal Preview (Float × Float) := do
  let x ← coordinate p.1
  let y ← coordinate p.2
  return (x, y)

/-- Raises the pen. -/
def raise : Act Refusal Preview Unit := do
  needConnection
  Act.modify fun p => { p with penDown := false }
  say "pen up."

/-- Lowers the pen. -/
def lower : Act Refusal Preview Unit := do
  needConnection
  Act.modify fun p => { p with penDown := true }
  say "pen down."

/-- Moves to a point with the pen up. -/
def moveTo (target : Point) : Act Refusal Preview Unit := do
  raise
  let xy ← point target
  Act.modify fun p => { p with position := xy }
  say ("move to " ++ positionText xy ++ ".")

/-- Draws to a point. -/
def lineTo (target : Point) : Act Refusal Preview Unit := do
  Act.modify fun p => { p with penDown := true }
  let xy ← point target
  Act.modify fun p => { p with position := xy }
  say ("line to " ++ positionText xy ++ ".")

/-- What a preview does when it is asked. -/
def perform : (c : Call) → Act Refusal Preview c.Answer
  | .enterInteractive => do
    Act.modify fun p =>
      { p with mode := some .interactive, options := p.options.putDefault .units (.num (.int 0)) }
    say "interactive mode."
  | .set s v => do
    Act.modify fun p => { p with pending := p.pending.put s (s.kept v) }
    Act.log .debug (s.record v)
  | .commitOptions => do
    let p ← Act.get
    Act.modify fun q => { q with options := q.options.merge q.pending }
    say ("options " ++ p.pending.text ++ ".")
    Act.modify fun q => { q with pending := [] }
  | .connect => do
    Act.modify fun p => { p with connected := true, penDown := false }
    say "connected."
  | .disconnect => do
    Act.modify fun p => { p with connected := false }
    say "disconnected."
  | .penUp => raise
  | .penDown => lower
  | .penToggle => do
    let p ← Act.get
    if p.penDown then raise else lower
  | .home => moveTo (.int 0, .int 0)
  | .goTo x y => moveTo (x, y)
  | .goToRelative x y => do
    let d ← point (x, y)
    let p ← Act.get
    moveTo (.float (p.position.1 + d.1), .float (p.position.2 + d.2))
  | .drawPath [] =>
    .throw (.failure (.value "not enough values to unpack (expected at least 1, got 0)"))
  | .drawPath (first :: rest) => do
    moveTo first
    Act.forEach rest lineTo
  | .wait time => do
    needConnection
    say ("wait " ++ time.text ++ " ms.")
  | .getPosition => do
    let p ← Act.get
    return (.float p.position.1, .float p.position.2)
  | .getPenDown => do
    let p ← Act.get
    return p.penDown
  | .currentMode => do
    let p ← Act.get
    return p.mode
  | .setupPlot path => do
    Act.modify fun p => { p with mode := some .plot, plotFile := some path }
    say ("plot file " ++ path ++ ".")
  | .runPlot => do
    let p ← Act.get
    match p.plotFile with
    | none => refuse .plotterWithoutDrawing
    | some path => do
      Act.modify fun p => { p with plots := p.plots + 1 }
      say ("plotted " ++ path ++ ".")

instance : Device Preview := ⟨perform⟩

end Preview
end PlotScript
