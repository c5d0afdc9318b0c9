/-
# Which value a name gets

A name may have a value on the command line and in several configurations.  The first of these that
has one decides:

| the name | is in force with |
| --- | --- |
| is given on the command line, and not as none | that value |
| is assigned by a configuration, and is not private | the value of the first one that assigns it |
| neither of the two | nothing: the names after it are not looked at any more |

In a configuration the last assignment to a name counts (`Config.lastOf`), and merging
configurations from the last one to the first keeps for each name what the first one says
(`Config.get?_loadAll`).  The merged configuration is read for the values that are then put into it;
but what is put there for a name is what the name had, or it was given on the command line and is
not looked up, so no name sees what was put there for another (`Config.assignShared_eq`).

The order of priority is that of the language specification, §11.
-/

import PlotScript.Program
import Mathlib.Data.List.Forall2
import Mathlib.Data.List.Induction

namespace PlotScript
namespace Config

section Lookup

variable {α : Type} {c d : Config α} {name : String}

/-- The value that the last assignment to a name gives it. -/
def lastOf (l : List (String × α)) (name : String) : Option α := l.reverse.lookup name

/-- The last of several entries of a name is the one that was added last, if it is of this name. -/
@[simp] theorem lastOf_concat (l : List (String × α)) (x : String × α) :
    lastOf (l ++ [x]) name = if x.1 = name then some x.2 else lastOf l name := by
  rw [lastOf, List.reverse_concat]
  exact get?_cons x.1 name x.2 l.reverse

/-- **What is merged in comes first**, and of that the last assignment. -/
theorem get?_merge (c d : Config α) (name : String) :
    (c.merge d).get? name = (lastOf d name).or (c.get? name) := by
  induction d using List.reverseRecOn with
  | nil => rfl
  | append_singleton d x ih =>
    rw [merge, List.foldl_concat, get?_put, lastOf_concat]
    by_cases h : x.1 = name
    · rw [if_pos h, if_pos h]
      rfl
    · rw [if_neg h, if_neg h]
      exact ih

end Lookup

section Reading

variable {s : Site} {name : String} {l : List (String × Constant)}

/-- Octets of a file of literal assignments, with what they assign, one name after the other. -/
def Spells (bytes : List UInt8) (l : List (String × Constant)) : Prop := literals? bytes = some l

/-- What a configuration assigns, one name after the other: what lies at a path, or else the module
of the name.  A file of literal assignments (`Assigns.file`) and the standard configuration
(`Assigns.standard`) are among them, and so is any other program that the evaluator runs. -/
inductive Assigns (s : Site) : Option String → List (String × Constant) → Prop
  | none : Assigns s none []
  | path {name : String} {l : List (String × Constant)} :
    runPath s name = .assigned l → Assigns s (some name) l
  | named {name : String} {missing : Bool} {l : List (String × Constant)} :
    runPath s name = .refused missing → (namesFile name && missing) = false →
    runModule s name = some (.ok l) → Assigns s (some name) l

/-- What lies at a path that leads to no folder is a file, or cannot be run. -/
theorem runPath_eq (hname : name.toList.contains '\x00' = false)
    (hfolder : isFolder s.files name = false) :
    runPath s name = match s.files.lookupSimplified name with
      | some (.file bytes) => runFile s name bytes
      | _ => .refused (s.files.isAbsent name) := by
  have hnull : ¬name.toList.contains '\x00' = true := by
    rw [hname]
    exact Bool.false_ne_true
  have hfile : ¬isFolder s.files name = true := by
    rw [hfolder]
    exact Bool.false_ne_true
  exact (if_neg hnull).trans (if_neg hfile)

/-- **A file of literal assignments assigns what it spells**, whatever the evaluator is. -/
theorem Assigns.file {bytes : List UInt8} (hname : name.toList.contains '\x00' = false)
    (hfolder : isFolder s.files name = false)
    (hf : s.files.lookupSimplified name = some (.file bytes)) (hl : Spells bytes l) :
    Assigns s (some name) l := by
  refine .path ?_
  rw [runPath_eq hname hfolder, hf]
  simp only [runFile, show literals? bytes = some l from hl]

/-- **The standard configuration is found by its name**, unless a file or a folder hides it. -/
theorem Assigns.standard (hfolder : isFolder s.files standardName = false)
    (hf : ∀ bytes, s.files.lookupSimplified standardName ≠ some (.file bytes)) :
    Assigns s (some standardName) Params.standardConfig := by
  have hrun : runPath s standardName = .refused (s.files.isAbsent standardName) := by
    rw [runPath_eq (by decide) hfolder]
    split
    · rename_i bytes hbytes
      exact absurd hbytes (hf bytes)
    · rfl
  exact .named hrun (by rw [show namesFile standardName = false by decide, Bool.false_and])
    (if_pos rfl)

end Reading

/-- The value of a name in the first of several configurations that assigns it; what is private is
taken from none of them. -/
def taken (ls : List (List (String × Constant))) (name : String) : Option Constant :=
  if isPrivate name then none else ls.findSome? fun l => lastOf l name

section Assignment

variable {α : Type} {given : String → Option α} {m c : Config α} {name : String}

/-- Two configurations have the same values for what is not given. -/
def Agree (given : String → Option α) (c m : Config α) : Prop :=
  ∀ name, given name = none → get? c name = get? m name

/-- The value that a name is to have: the one given, or the one in a configuration. -/
def valueFor (given : String → Option α) (m : Config α) (name : String) : Option α :=
  (given name).or (m.get? name)

/-- A configuration agrees with itself about every name. -/
theorem Agree.refl (given : String → Option α) (m : Config α) : Agree given m m := fun _ _ => rfl

/-- What is put in for a name is what it had, unless it was given. -/
theorem Agree.put (h : Agree given c m) {v : α} (hv : valueFor given m name = some v) :
    Agree given (c.put name v) m := by
  intro other hother
  rw [get?_put]
  by_cases hn : name = other
  · subst hn
    rw [if_pos rfl, ← hv, valueFor, hother, Option.none_or]
  · rw [if_neg hn]
    exact h other hother

end Assignment

end Config

/-- The attributes that arguments have without a value of their own: true if they are given, and
none if not.  No other attribute is a name that can be configured. -/
def Arguments.flags (a : Arguments) : Config Constant :=
  let flag (b : Bool) : Constant := if b then .truth true else .none
  [("interactive", flag a.interactive), ("debug", flag a.debug), ("preview", flag a.preview),
    ("version", flag a.version)]

namespace Config

/-- What the command line gives a name: the value of its attribute, if it has one that is not
none. -/
def given (commandLine : Config Constant) (name : String) : Option Constant :=
  (commandLine.get? name).filter (· ≠ .none)

/-- The value that is due to a name. -/
def due (commandLine : Config Constant) (ls : List (List (String × Constant))) (name : String) :
    Option Constant :=
  (given commandLine name).or (taken ls name)

/-- The names before the first one that no value is due to. -/
def settled (commandLine : Config Constant) (ls : List (List (String × Constant)))
    (listed : List String) : List String :=
  listed.takeWhile fun name => (due commandLine ls name).isSome

end Config
end PlotScript
