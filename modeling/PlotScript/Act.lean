/-
# Acts

An act changes a state, leaves events, and ends with a result or with a fault.  The state and the
events stay when it ends with a fault: what happened has happened.
-/

import PlotScript.Fault
import PlotScript.Plotter.Call

namespace PlotScript

/-- What can be observed of a run. -/
inductive Event where
  /-- A record in the log. -/
  | log (severity : Severity) (text : String)
  /-- A message to the user. -/
  | out (text : String)
  /-- A call of the plotter. -/
  | call (c : Call)
  /-- A call of the machine behind the plotter. -/
  | machine (c : MachineCall)
  /-- A request to a web server that does not follow redirects. -/
  | get (url : String) (userAgent timeout : Constant)
  deriving DecidableEq

namespace Event

/-- A record that is kept only when debugging. -/
def isDebug : Event → Bool
  | log .debug _ => true
  | _ => false

/-- The events that are kept. -/
def kept (debug : Bool) (es : List Event) : List Event := es.filter fun e => debug || !e.isDebug

/-- The calls of the plotter. -/
def calls (es : List Event) : List Call := es.filterMap fun
  | call c => some c
  | _ => none

/-- A complaint in the log. -/
def report (g : Grade) (c : Complaint) : Event := log g.severity (c.describe g)

/-- A complaint that ends nothing in the log. -/
def warn (c : Complaint) : Event := log .warning (diagnostic .warning c.message c.place?)

end Event

/-- How an act ends. -/
structure Outcome (ε σ α : Type) where
  result : Except ε α
  events : List Event
  state : σ

/-- An act with faults `ε` on states `σ`. -/
def Act (ε σ α : Type) : Type := σ → Outcome ε σ α

namespace Act

variable {ε σ τ α β : Type}

/-- Gives a result and does nothing. -/
def pure (a : α) : Act ε σ α := fun s => ⟨.ok a, [], s⟩

/-- Does one act and then another that may use its result. -/
def bind (x : Act ε σ α) (f : α → Act ε σ β) : Act ε σ β := fun s =>
  match x s with
  | ⟨.error e, es, t⟩ => ⟨.error e, es, t⟩
  | ⟨.ok a, es, t⟩ =>
    let o := f a t
    ⟨o.result, es ++ o.events, o.state⟩

instance : Monad (Act ε σ) where
  pure := Act.pure
  bind := Act.bind

/-- Ends with a fault. -/
def throw (e : ε) : Act ε σ α := fun s => ⟨.error e, [], s⟩

/-- The state. -/
def get : Act ε σ σ := fun s => ⟨.ok s, [], s⟩

/-- Changes the state. -/
def modify (f : σ → σ) : Act ε σ Unit := fun s => ⟨.ok (), [], f s⟩

/-- Leaves events. -/
def tell (es : List Event) : Act ε σ Unit := fun s => ⟨.ok (), es, s⟩

/-- Leaves a record in the log. -/
def log (severity : Severity) (text : String) : Act ε σ Unit := tell [.log severity text]

/-- Ends with a fault if there is one. -/
def ofExcept : Except ε α → Act ε σ α
  | .ok a => pure a
  | .error e => throw e

/-- Another fault in the place of a fault. -/
def mapError {ε' : Type} (f : ε → ε') (x : Act ε σ α) : Act ε' σ α := fun s =>
  let o := x s
  ⟨o.result.mapError f, o.events, o.state⟩

/-- An act after the faults that there is one for; what was done before the fault stays. -/
def rescue (x : Act ε σ α) (after : ε → Option (Act ε σ α)) : Act ε σ α := fun s =>
  let o := x s
  match o.result with
  | .ok _ => o
  | .error e =>
    match after e with
    | none => o
    | some y =>
      let p := y o.state
      ⟨p.result, o.events ++ p.events, p.state⟩

/-- An act on a part of the state. -/
def on (part : τ → σ) (put : σ → τ → τ) (x : Act ε σ α) : Act ε τ α := fun t =>
  let o := x (part t)
  ⟨o.result, o.events, put o.state t⟩

/-- Does an act for each element. -/
def forEach (l : List α) (f : α → Act ε σ Unit) : Act ε σ Unit :=
  match l with
  | [] => pure ()
  | a :: r => bind (f a) fun _ => forEach r f

end Act
end PlotScript
