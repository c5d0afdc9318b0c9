/-
# Carrying out a command

The bench is what commands work on: the plotter, the site, the mode, the drawings fetched so far,
and the notes of what was done.  A command of a script is carried out by calls of the plotter, each
of which is recorded and noted:

| command | calls | besides |
| --- | --- | --- |
| set the mode | entering interactive mode, if it is that, and asking | the mode changes first |
| set options | one for each setting, in order, then the commit | |
| get the position, get the pen | one | the user is told |
| set the plot | one | the drawing is fetched and checked first |
| plot | one | only if a drawing was set |
| any other | one | |

A refusal of the plotter is blamed on the command.

| | follows |
| --- | --- |
| `enact` | what the Dispatcher does for each command, language specification, §4.2 and §14 |
| `obtain`, `inspect` | `SETPLOT`: fetching a URL, then checking the file |
| `blame` | anchoring a `DriverError` at the command, §13 |
| `close`, `removeAll` | `close()`: the deletion of what was fetched |
-/

import PlotScript.Deed
import PlotScript.Plotter.Device
import PlotScript.Site.Check
import PlotScript.Web.Download

namespace PlotScript

/-- What commands work on. -/
structure Bench (σ : Type) where
  device : σ
  site : Site
  mode : Option Mode
  /-- A drawing was set. -/
  plotLoaded : Bool
  /-- The temporary files that hold fetched drawings. -/
  downloads : List String
  /-- What was done so far. -/
  deeds : List Deed

namespace Bench

variable {σ : Type}

/-- The bench before the first command. -/
def start (device : σ) (site : Site) : Bench σ := ⟨device, site, none, false, [], []⟩

/-- Notes what was done. -/
def note (d : Deed) (b : Bench σ) : Bench σ := { b with deeds := b.deeds ++ [d] }

/-- Sets the mode. -/
def setMode (m : Mode) (b : Bench σ) : Bench σ := { b with mode := some m }.note (.modeSet m)

/-- An act on the site. -/
def onSite {α : Type} (x : Act Fault Site α) : Act Fault (Bench σ) α :=
  x.on site fun s b => { b with site := s }

/-- The pen as it is shown. -/
def penText (down : Bool) : String := "Pen is " ++ (if down then "down" else "up") ++ "."

/-- A position as it is shown. -/
def positionText (p : Point) : String := "X: " ++ p.1.text ++ " Y: " ++ p.2.text

/-- The path of a drawing, which is fetched first if it is on the web. -/
def obtain (p : Params) (source : String) : Act Fault (Bench σ) String :=
  if Web.isUrl source then do
    let path ← onSite (Web.fetch p source)
    Act.modify fun b => { b with downloads := b.downloads ++ [path] }
    return path
  else pure source

/-- Checks the drawing at a path for the command at a lexeme. -/
def inspect (path : String) (anchor : Lexeme) : Act Fault (Bench σ) Unit := do
  let b ← Act.get
  if !b.site.isFile path then .throw (.command (.about (.fileUnreadable path) anchor))
  else .ofExcept (b.site.checkDrawing path (some anchor))

/-- Removes a fetched drawing, and says so. -/
def removeDownload (b : Bench σ) (path : String) : Event × Bench σ :=
  match b.site.files.remove? path with
  | some f =>
    (.log .debug ("Removed temporary file " ++ path), { b with site := { b.site with files := f } })
  | none => (.warn (.plain (.removalFailed path (b.site.files.removalError path))), b)

/-- Removes fetched drawings. -/
def removeAll (b : Bench σ) : List String → List Event × Bench σ
  | [] => ([], b)
  | path :: r =>
    let (e, b) := b.removeDownload path
    let (es, b) := b.removeAll r
    (e :: es, b)

/-- Removes all fetched drawings, the last one first, unless they are to be kept. -/
def close (p : Params) (b : Bench σ) : List Event × Bench σ :=
  if p.keepDownloads then ([], b)
  else
    let (es, c) := b.removeAll b.downloads.reverse
    (es, { c with downloads := [] })

variable [Device σ]

/-- Calls the plotter. -/
def ask (c : Call) : Act Fault (Bench σ) c.Answer := fun b =>
  let o := Device.perform c b.device
  ⟨o.result.mapError Refusal.toFault, .call c :: o.events,
    { b with device := o.state }.note (.asked b.mode c o.result)⟩

/-- Does what an action says. -/
def enact (p : Params) (anchor : Lexeme) : Action → Act Fault (Bench σ) Unit
  | .setMode m => do
    Act.modify (setMode m)
    if m = .interactive then do
      ask .enterInteractive
      let entered ← ask .currentMode
      if entered ≠ some .interactive then .throw (.fatal (.about .modeRefused anchor))
    Act.log .debug ("Mode is set to " ++ m.name ++ ".")
  | .setOptions _ settings => do
    Act.forEach settings fun (s, v) => ask (.set s v)
    ask .commitOptions
  | .connect => ask .connect
  | .disconnect => ask .disconnect
  | .penUp => ask .penUp
  | .penDown => ask .penDown
  | .penToggle => ask .penToggle
  | .home => ask .home
  | .goTo x y => ask (.goTo x y)
  | .goToRelative x y => ask (.goToRelative x y)
  | .draw path => ask (.drawPath path)
  | .wait time => ask (.wait time)
  | .getPosition => do
    let at' ← ask .getPosition
    Act.tell [.out (positionText at')]
  | .getPen => do
    let down ← ask .getPenDown
    Act.tell [.out (penText down)]
  | .setPlot source => do
    let path ← obtain p source
    inspect path anchor
    ask (.setupPlot path)
    Act.modify fun b => { b with plotLoaded := true }
  | .plot => do
    let b ← Act.get
    if b.plotLoaded then ask .runPlot
    else .throw (.command (.about .plotNotLoaded anchor))

/-- A refusal of the plotter as a fault of the command, blamed on its first lexeme; `last` is the
number of its last one. -/
def blame (anchor : Lexeme) (last : Nat) : Fault → Fault
  | .complaint .device c => .command ⟨c.cause, some anchor, some last⟩
  | f => f

/-- The record of a command in the log. -/
def record (c : Command) : String :=
  "Executing " ++ c.action.name ++ " from line " ++ toString c.anchor.place.lineNumber ++ "."

/-- Carries out a command whose last lexeme has the number `last`. -/
def execute (p : Params) (last : Nat) (c : Command) : Act Fault (Bench σ) Unit := do
  Act.log .debug (record c)
  (enact p c.anchor c.action).mapError (blame c.anchor last)

end Bench
end PlotScript
