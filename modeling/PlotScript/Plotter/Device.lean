/-
# Plotters

A device is a type of states with an answer to every call.  The language knows plotters by this
interface alone, so what holds for every device holds for every plotter.

`Options` is a table of settings in the order in which they were first given.

This is the Driver collaborator of the language specification, §6.
-/

import PlotScript.Act

namespace PlotScript

/-- A type of plotters. -/
class Device (σ : Type) where
  /-- What a plotter does when it is asked. -/
  perform : (c : Call) → Act Refusal σ c.Answer

/-- Settings with their values, in the order in which they were first given. -/
abbrev Options := List (Setting × Value)

namespace Options

/-- Gives a setting a value. -/
def put (o : Options) (s : Setting) (v : Value) : Options :=
  match o with
  | [] => [(s, v)]
  | (t, w) :: r => if t = s then (s, v) :: r else (t, w) :: put r s v

/-- The value of a setting. -/
def get? (o : Options) (s : Setting) : Option Value := o.lookup s

/-- Gives the settings of another table their values there. -/
def merge (o p : Options) : Options := p.foldl (fun acc x => acc.put x.1 x.2) o

/-- Gives a setting a value unless it has one. -/
def putDefault (o : Options) (s : Setting) (v : Value) : Options :=
  if (o.get? s).isSome then o else o.put s v

/-- A table as it is shown. -/
def text (o : Options) : String :=
  "\x7b" ++ String.intercalate ", " (o.map fun x => Text.quote x.1.option ++ ": " ++ x.2.listed) ++
    "\x7d"

/-- No options give a setting no value. -/
@[simp] theorem get?_nil (s : Setting) : get? [] s = none := rfl

/-- The first entry of a setting is the one that counts. -/
@[simp] theorem get?_cons (t s : Setting) (w : Value) (r : Options) :
    get? ((t, w) :: r) s = if t = s then some w else get? r s := by
  unfold get?
  rw [List.lookup_cons]
  by_cases h : t = s
  · subst h; simp
  · have : (s == t) = false := by simp [Ne.symm h]
    simp [h, this]

/-- **A table holds the last value given for a setting.** -/
@[simp] theorem get?_put (o : Options) (s t : Setting) (v : Value) :
    (o.put s v).get? t = if s = t then some v else o.get? t := by
  induction o with
  | nil => rw [put, get?_cons, get?_nil]
  | cons x r ih =>
    obtain ⟨u, w⟩ := x
    by_cases h : u = s
    · subst h
      rw [put, if_pos rfl, get?_cons, get?_cons]
      by_cases h2 : u = t <;> simp [h2]
    · rw [put, if_neg h, get?_cons, get?_cons, ih]
      by_cases h2 : u = t
      · subst h2; rw [if_pos rfl, if_neg (fun e => h e.symm), if_pos rfl]
      · simp [h2]

/-- Options are merged one by one, each of them put on what there is. -/
@[simp] theorem get?_merge_cons (o p : Options) (s : Setting) (v : Value) :
    o.merge ((s, v) :: p) = (o.put s v).merge p := rfl

end Options

/-- The value that a plotter keeps for a setting: the port `auto` is the first that is found. -/
def Setting.kept (s : Setting) (v : Value) : Value :=
  if s = .port ∧ v = .text "auto" then .none else v

/-- The record of a setting in the log. -/
def Setting.record (s : Setting) (v : Value) : String :=
  "Set " ++ s.option ++ " to " ++ (s.kept v).shown ++ "."

end PlotScript
