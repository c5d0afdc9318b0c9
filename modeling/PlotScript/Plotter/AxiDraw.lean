/-
# The AxiDraw

An AxiDraw is driven through a machine with an interface of its own.  The machine forgets its
options when it becomes interactive and when a drawing is loaded, so the adapter remembers every
option and applies all of them again after both.

| call | machine calls | a failure of the machine is |
| --- | --- | --- |
| enter interactive mode, connect, disconnect | one | passed on |
| pen, motion, waiting, position, plotting, committing | one or none | a refusal |
| toggle the pen | the pen's state, then up or down | passed on, then a refusal |
| draw a path | one for each point | a refusal |

The machine of this module is known by its behaviour: each answer may depend on all calls before
it, and a call that fails changes nothing.

This is the AxiDraw driver of the language specification, §14: `applyOptions` is the second
application of the options, `guarded` the turning of a `RuntimeError` into a `DriverError`, and
`perform` has one case for each method of §6.
-/

import PlotScript.Plotter.Device

namespace PlotScript

/-- What a machine answers, given the calls before. -/
structure MachineBehaviour where
  answer : List MachineCall → (c : MachineCall) → Except Refusal c.Answer
  /-- Whether the machine has options at all. -/
  hasOptions : Bool
  /-- Whether its options tell its mode. -/
  tellsMode : Bool

/-- The options of a machine: its mode, if they tell it, and the settings. -/
structure MachineOptions where
  mode : Option Mode
  settings : Options
  deriving DecidableEq

/-- The machine behind an AxiDraw. -/
structure Machine where
  behaviour : MachineBehaviour
  options : Option MachineOptions
  past : List MachineCall

namespace Machine

/-- A machine before the first call. -/
def start (b : MachineBehaviour) : Machine :=
  ⟨b, if b.hasOptions then some ⟨none, []⟩ else none, []⟩

/-- Replaces the options by an empty set with a mode. -/
def reset (m : Machine) (mode : Mode) : Machine :=
  if m.behaviour.hasOptions then
    { m with options := some ⟨if m.behaviour.tellsMode then some mode else none, []⟩ }
  else m

/-- What a call changes when it succeeds. -/
def afterCall (m : Machine) : MachineCall → Machine
  | .interactive => m.reset .interactive
  | .plotSetup _ => m.reset .plot
  | _ => m

/-- What a machine does when it is called. -/
def call (c : MachineCall) : Act Refusal Machine c.Answer := fun m =>
  let next := { m with past := m.past ++ [c] }
  match m.behaviour.answer m.past c with
  | .error e => ⟨.error e, [.machine c], next⟩
  | .ok a => ⟨.ok a, [.machine c], next.afterCall c⟩

end Machine

/-- An AxiDraw. -/
structure AxiDraw where
  machine : Machine
  /-- Every option that was ever given. -/
  options : Options
  mode : Option Mode
  connected : Bool

/-- Whether the library that gives access to a machine can be used. -/
inductive Library where
  | missing
  | broken
  | usable (b : MachineBehaviour)

namespace AxiDraw

/-- An AxiDraw before the first call. -/
def start (b : MachineBehaviour) : AxiDraw := ⟨Machine.start b, [], none, false⟩

/-- What is recorded when an AxiDraw is at hand. -/
def startEvents : List Event := [.log .debug "AxiDraw API initialized."]

/-- An AxiDraw through a library. -/
def load : Library → Except Complaint AxiDraw
  | .missing => .error (.plain .plotterMissing)
  | .broken => .error (.plain .plotterBroken)
  | .usable b => .ok (start b)

/-- A machine call. -/
def call (c : MachineCall) : Act Refusal AxiDraw c.Answer :=
  (Machine.call c).on machine fun m a => { a with machine := m }

/-- A failure of the machine as a refusal of the plotter. -/
def asRefusal : Refusal → Refusal
  | .failure (.runtime text) => .complaint .device (.said text) none
  | e => e

/-- An act in which a failure of the machine is a refusal of the plotter. -/
def guarded {α : Type} (x : Act Refusal AxiDraw α) : Act Refusal AxiDraw α := x.mapError asRefusal

/-- Gives the machine all remembered options. -/
def applyOptions (a : AxiDraw) : AxiDraw :=
  { a with machine := { a.machine with
      options := a.machine.options.map fun o =>
        { o with settings := o.settings.merge a.options } } }

/-- Leaves a record for debugging. -/
def note (text : String) : Act Refusal AxiDraw Unit := .log .debug text

/-- A pair of numbers as it is shown. -/
def pairText (p : Point) : String := "(" ++ p.1.text ++ ", " ++ p.2.text ++ ")"

/-- Raises the pen. -/
def raise : Act Refusal AxiDraw Unit := guarded do
  call .penUp
  note "Pen is up."

/-- Lowers the pen. -/
def lower : Act Refusal AxiDraw Unit := guarded do
  call .penDown
  note "Pen is down."

/-- Draws to a point. -/
def lineTo (p : Point) : Act Refusal AxiDraw Unit := do
  call (.lineTo p.1 p.2)
  note ("Drew line to " ++ pairText p ++ ".")

/-- Moves to a point. -/
def moveTo (p : Point) : Act Refusal AxiDraw Unit := do
  call (.moveTo p.1 p.2)
  note ("Moved to " ++ pairText p ++ ".")

/-- What an AxiDraw does when it is asked. -/
def perform : (c : Call) → Act Refusal AxiDraw c.Answer
  | .enterInteractive => do
    call .interactive
    Act.modify fun a => { a with mode := some .interactive }
    Act.modify applyOptions
    note "Mode is set to interactive."
  | .set s v => do
    Act.modify fun a => { a with options := a.options.put s (s.kept v) }
    note (s.record v)
  | .commitOptions => guarded do
    Act.modify applyOptions
    let a ← Act.get
    if a.mode = some .interactive ∧ a.connected then call .update
    note "Updated options."
  | .connect => do
    let found ← call .connect
    if found then do
      Act.modify fun a => { a with connected := true }
      note "Connected to AxiDraw."
    else .throw (.complaint .fatal .plotterNotFound none)
  | .disconnect => do
    call .disconnect
    Act.modify fun a => { a with connected := false }
    note "Disconnected from AxiDraw."
  | .penUp => raise
  | .penDown => lower
  | .penToggle => do
    let up ← call .currentPen
    if up then lower else raise
  | .home => guarded do
    call (.moveTo (.int 0) (.int 0))
    note "Moved to home."
  | .goTo x y => guarded (moveTo (x, y))
  | .goToRelative x y => guarded do
    call (.move x y)
    note ("Moved by " ++ pairText (x, y) ++ ".")
  | .drawPath [] =>
    .throw (.failure (.value "not enough values to unpack (expected at least 1, got 0)"))
  | .drawPath (first :: rest) => guarded do
    moveTo first
    Act.forEach rest lineTo
  | .wait time => guarded do
    call (.delay time)
    note ("Waited for " ++ time.text ++ " ms.")
  | .getPosition => guarded (call .currentPosition)
  | .getPenDown => do
    let up ← call .currentPen
    return !up
  | .currentMode => do
    let a ← Act.get
    let told := a.machine.options.bind MachineOptions.mode
    return if told = some .interactive then some .interactive else a.mode
  | .setupPlot path => guarded do
    call (.plotSetup path)
    Act.modify fun a => { a with mode := some .plot }
    Act.modify applyOptions
    note ("Plot file " ++ path ++ " loaded.")
  | .runPlot => guarded do
    note "Running plot."
    let warnings ← call .plotRun
    Act.forEach warnings fun text => Act.log .warning text

instance : Device AxiDraw := ⟨perform⟩

end AxiDraw
end PlotScript
