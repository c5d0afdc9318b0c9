/-
# Configurations

A configuration gives values to names.  Several configurations are merged in order of priority, and
what the command line gives comes before all of them.
-/

import PlotScript.Fault

namespace PlotScript

/-- Names with their values. -/
abbrev Config (α : Type) := List (String × α)

namespace Config

variable {α : Type}

/-- The value of a name. -/
def get? (c : Config α) (name : String) : Option α := c.lookup name

/-- Gives a name a value. -/
def put (c : Config α) (name : String) (v : α) : Config α :=
  match c with
  | [] => [(name, v)]
  | (n, w) :: r => if n = name then (n, v) :: r else (n, w) :: put r name v

/-- Gives the names of another configuration their values there. -/
def merge (c d : Config α) : Config α := d.foldl (fun acc x => acc.put x.1 x.2) c

/-- The value of a name in the first configuration that has it. -/
def value (name : String) : List (Config α) → Except Failure α
  | [] => .error (.notConfigured name)
  | c :: r =>
    match c.get? name with
    | some v => .ok v
    | none => value name r

/-- Gives names their values in `object`: the one given on the command line, or else the one in the
first configuration that has it, `object` being the last.  A name without a value ends this. -/
def assign (commandLine : String → Option α) (configs : List (Config α)) (object : Config α) :
    List String → Except Failure Unit × Config α
  | [] => (.ok (), object)
  | name :: r =>
    match commandLine name with
    | some v => assign commandLine configs (object.put name v) r
    | none =>
      match value name (configs ++ [object]) with
      | .ok v => assign commandLine configs (object.put name v) r
      | .error f => (.error f, object)

/-- No configuration gives a name no value. -/
@[simp] theorem get?_nil (name : String) : get? ([] : Config α) name = none := rfl

/-- The first entry of a name is the one that counts. -/
@[simp] theorem get?_cons (n name : String) (w : α) (r : Config α) :
    get? ((n, w) :: r) name = if n = name then some w else get? r name := by
  unfold get?
  rw [List.lookup_cons]
  by_cases h : n = name
  · subst h; simp
  · have : (name == n) = false := by simp [Ne.symm h]
    simp [h, this]

/-- **A configuration holds the last value given for a name.** -/
@[simp] theorem get?_put (c : Config α) (name other : String) (v : α) :
    (c.put name v).get? other = if name = other then some v else c.get? other := by
  induction c with
  | nil => rw [put, get?_cons]
  | cons x r ih =>
    obtain ⟨n, w⟩ := x
    by_cases h : n = name
    · subst h
      rw [put, if_pos rfl, get?_cons, get?_cons]
      by_cases h2 : n = other <;> simp [h2]
    · rw [put, if_neg h, get?_cons, get?_cons, ih]
      by_cases h2 : n = other
      · subst h2; rw [if_pos rfl, if_neg (fun e => h e.symm), if_pos rfl]
      · simp [h2]

end Config

end PlotScript
