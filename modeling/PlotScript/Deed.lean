/-
# What has been done for a script

Notes are kept of what is done for the commands of a script.  Nothing that is done depends on
them: they are there so that a whole run can be spoken of after it.

| deed | noted |
| --- | --- |
| begun | when a command has been read and is about to be carried out |
| mode set | when the mode changes |
| asked | with every call of the plotter: the mode at that moment, and the answer |
| reported | when a complaint about a command goes into the log |

The language specification has no such record; §8 speaks of the calls that a script makes.
-/

import PlotScript.Command

namespace PlotScript

/-- What is noted of a run. -/
inductive Deed where
  /-- The command whose first lexeme has this number. -/
  | begun (start : Nat) (a : Action)
  | modeSet (m : Mode)
  | asked (mode : Option Mode) (c : Call) (answer : Except Refusal c.Answer)
  /-- A complaint about the command whose first lexeme has this number. -/
  | reported (start : Nat) (c : Complaint)

namespace Deed

/-- The call that was made. -/
def call? : Deed → Option Call
  | asked _ c _ => some c
  | begun _ _ | modeSet _ | reported _ _ => none

/-- The mode that was set. -/
def mode? : Deed → Option Mode
  | modeSet m => some m
  | begun _ _ | asked _ _ _ | reported _ _ => none

/-- The complaint that was reported. -/
def complaint? : Deed → Option Complaint
  | reported _ c => some c
  | begun _ _ | modeSet _ | asked _ _ _ => none

/-- Why a call was refused. -/
def refusal? : Deed → Option Refusal
  | asked _ _ (.error r) => some r
  | asked _ _ (.ok _) | begun _ _ | modeSet _ | reported _ _ => none

/-- The number of a lexeme that the plotter named in a complaint of its own about a command. -/
def named? (d : Deed) : Option Int :=
  match d.refusal? with
  | some (.complaint .command _ index) => index
  | _ => none

/-- The calls of the plotter, in order. -/
def calls (l : List Deed) : List Call := l.filterMap call?

/-- The modes that were set, in order. -/
def modes (l : List Deed) : List Mode := l.filterMap mode?

/-- The complaints that were reported, in order. -/
def complaints (l : List Deed) : List Complaint := l.filterMap complaint?

/-- The calls of two parts are those of the first one and then those of the second one. -/
@[simp] theorem calls_append (l m : List Deed) : calls (l ++ m) = calls l ++ calls m :=
  List.filterMap_append

/-- The modes of two parts are those of the first one and then those of the second one. -/
@[simp] theorem modes_append (l m : List Deed) : modes (l ++ m) = modes l ++ modes m :=
  List.filterMap_append

/-- Beginning an action is no call. -/
@[simp]
theorem calls_begun (n : Nat) (a : Action) (l : List Deed) : calls (begun n a :: l) = calls l := rfl

/-- Beginning an action enters no mode. -/
@[simp]
theorem modes_begun (n : Nat) (a : Action) (l : List Deed) : modes (begun n a :: l) = modes l := rfl

/-- A call is among the calls if and only if it is noted with some mode and some answer. -/
theorem mem_calls {l : List Deed} {c : Call} : c ∈ calls l ↔ ∃ m r, asked m c r ∈ l := by
  rw [calls, List.mem_filterMap]
  constructor
  · rintro ⟨d, hd, h⟩
    cases d with
    | asked m c' r =>
      obtain rfl : c' = c := Option.some.inj h
      exact ⟨m, r, hd⟩
    | begun | modeSet | reported => cases h
  · rintro ⟨m, r, h⟩
    exact ⟨_, h, rfl⟩

/-- A call that is noted is among the calls. -/
theorem mem_calls_of_mem {l : List Deed} {m : Option Mode} {c : Call} {r : Except Refusal c.Answer}
    (h : asked m c r ∈ l) : c ∈ calls l := mem_calls.2 ⟨m, r, h⟩

/-- The complaints of two parts are those of the first one and then those of the second one. -/
@[simp]
theorem complaints_append (l m : List Deed) : complaints (l ++ m) = complaints l ++ complaints m :=
  List.filterMap_append

end Deed
end PlotScript
