/-
# A plotter that only answers

A recorder does nothing.  Its answers are fixed, but any call may be refused, and whether it is may
depend on all calls before it.
-/

import PlotScript.Plotter.Device

namespace PlotScript

/-- A plotter that only answers. -/
structure Recorder where
  /-- Why a call is refused, given the calls before it. -/
  refusal : List Call → Call → Option Refusal
  position : Point
  penDown : Bool
  /-- Whether it enters interactive mode when it is asked to. -/
  obedient : Bool
  mode : Option Mode
  past : List Call

namespace Recorder

/-- What a recorder answers. -/
def answer (r : Recorder) : (c : Call) → c.Answer
  | .getPosition => r.position
  | .getPenDown => r.penDown
  | .currentMode => r.mode
  | .enterInteractive | .set _ _ | .commitOptions | .connect | .disconnect | .penUp | .penDown
  | .penToggle | .home | .goTo _ _ | .goToRelative _ _ | .drawPath _ | .wait _ | .setupPlot _
  | .runPlot => ()

/-- What a recorder does when it is asked. -/
def perform (c : Call) : Act Refusal Recorder c.Answer := fun r =>
  let after := { r with past := r.past ++ [c] }
  match r.refusal r.past c with
  | some e => ⟨.error e, [], after⟩
  | none =>
    let mode := if c = .enterInteractive ∧ r.obedient then some .interactive else r.mode
    ⟨.ok (r.answer c), [], { after with mode := mode }⟩

instance : Device Recorder := ⟨perform⟩

end Recorder
end PlotScript
