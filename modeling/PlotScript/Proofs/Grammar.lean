/-
# The grammar of commands

`Spells` says which lexemes make up which command, without a word on how they are read:

| command | lexemes |
| --- | --- |
| mode | `MODE`, the name of a mode |
| options | `OPTS` or `UOPTS`, settings each with its value, the word that closes the block |
| motion | `GOTO` or `GOTO_REL`, two numbers |
| drawing | `DRAW`, at least two points of two numbers each |
| waiting | `WAIT`, a number |
| plot source | `SETPLOT`, a text that is not empty |
| plot, and eight words | the word alone |

Where a drawing ends depends on what follows it (`Action.EndsBefore`), and whether a command may
stand at all depends on the mode (`Action.PermittedIn`).
-/

import PlotScript.Command
import PlotScript.Number

namespace PlotScript
namespace Grammar

/-- A number as a coordinate or a time. -/
def Coordinate (x : Lexeme) (v : Number) : Prop :=
  x.kind = .number ∧ ∃ n, digitsValue? x.text = some n ∧ v = .float (Number.floatOfNat n)

/-- The points of a drawing, two numbers each. -/
inductive Path : List Lexeme → List Point → Prop
  | nil : Path [] []
  | cons {x y : Lexeme} {v w : Number} {r : List Lexeme} {ps : List Point} :
    Coordinate x v → Coordinate y w → Path r ps → Path (x :: y :: r) ((v, w) :: ps)

/-- A value of a setting: a text, or a whole number within the setting's limits. -/
inductive Gives (s : Setting) (y : Lexeme) : Value → Prop
  | text : s.takesText = true → y.kind = .string → Gives s y (.text y.text)
  | number {n : Nat} : s.takesText = false → y.kind = .number → digitsValue? y.text = some n →
    (∀ low high, s.range = some (low, high) → low ≤ n ∧ n ≤ high) → Gives s y (.num (.int n))

/-- Settings, each with its value. -/
inductive Settings : List Lexeme → List (Setting × Value) → Prop
  | nil : Settings [] []
  | cons {x y : Lexeme} {s : Setting} {v : Value} {r : List Lexeme} {l : List (Setting × Value)} :
    x.kind = .setting s → Gives s y v → Settings r l → Settings (x :: y :: r) ((s, v) :: l)

/-- The lexemes that make up a command. -/
inductive Spells : List Lexeme → Action → Prop
  | mode {w x : Lexeme} {m : Mode} :
    w.kind = .mode → x.kind = .modeName m → Spells [w, x] (.setMode m)
  | options {w z : Lexeme} {r : List Lexeme} {b : Block} {l : List (Setting × Value)} :
    w.kind = .blockStart b → Settings r l → z.kind = .blockEnd b →
      Spells (w :: (r ++ [z])) (.setOptions b l)
  | word {w : Lexeme} {a : Action} : Action.ofWord? w.kind = some a → Spells [w] a
  | goTo {w x y : Lexeme} {v u : Number} :
    w.kind = .goTo → Coordinate x v → Coordinate y u → Spells [w, x, y] (.goTo v u)
  | goToRelative {w x y : Lexeme} {v u : Number} :
    w.kind = .goToRelative → Coordinate x v → Coordinate y u →
      Spells [w, x, y] (.goToRelative v u)
  | draw {w : Lexeme} {r : List Lexeme} {path : List Point} :
    w.kind = .draw → Path r path → 2 ≤ path.length → Spells (w :: r) (.draw path)
  | wait {w x : Lexeme} {v : Number} :
    w.kind = .wait → Coordinate x v → Spells [w, x] (.wait v)
  | setPlot {w x : Lexeme} :
    w.kind = .setPlot → x.kind = .string → x.text ≠ "" → Spells [w, x] (.setPlot x.text)
  | plot {w : Lexeme} : w.kind = .plot → Spells [w] .plot

end Grammar

namespace Action

/-- What follows a command does not belong to it: a drawing takes all numbers. -/
def EndsBefore : Action → List Lexeme → Prop
  | draw _, x :: _ => x.kind ≠ .number
  | _, _ => True

/-- What a command ends before, it ends before the first part of it. -/
theorem EndsBefore.of_append {a : Action} {l r : List Lexeme} (h : a.EndsBefore (l ++ r)) :
    a.EndsBefore l := by
  cases l with
  | nil => cases a <;> trivial
  | cons x l => cases a <;> exact h

/-- The modes in which a command may stand. -/
def PermittedIn (mode : Option Mode) : Action → Prop
  | setMode _ => mode = none
  | setOptions .options l =>
    mode ≠ none ∧ ∀ x ∈ l, x.1.interactiveOnly = true → mode = some .interactive
  | setOptions .update _ => mode = some .interactive
  | setPlot _ | plot => mode = some .plot
  | connect | disconnect | penUp | penDown | penToggle | home | goTo _ _ | goToRelative _ _
  | draw _ | wait _ | getPosition | getPen => mode = some .interactive

end Action

namespace Grammar

/-- In a mode, lexemes begin with a command, which takes the first `n` of them. -/
def Begins (mode : Option Mode) (l : List Lexeme) (a : Action) (n : Nat) : Prop :=
  ∃ ws tail, l = ws ++ tail ∧ ws.length = n ∧ Spells ws a ∧ a.EndsBefore tail ∧ a.PermittedIn mode

/-- A command has at least its own word. -/
theorem Spells.length_pos {ws : List Lexeme} {a : Action} (h : Spells ws a) : 0 < ws.length := by
  cases h <;> simp

/-- A path of points is written with two numbers for each of them. -/
theorem Path.length_eq {r : List Lexeme} {ps : List Point} (h : Path r ps) :
    r.length = 2 * ps.length := by
  induction h with
  | nil => rfl
  | cons _ _ _ ih => simp only [List.length_cons, ih]; omega

/-- A path of points is written with numbers only. -/
theorem Path.kind_of_mem {r : List Lexeme} {ps : List Point} (h : Path r ps) {x : Lexeme}
    (hx : x ∈ r) : x.kind = .number := by
  induction h with
  | nil => simp at hx
  | cons hv hw _ ih =>
    rcases List.mem_cons.1 hx with rfl | hx
    · exact hv.1
    · rcases List.mem_cons.1 hx with rfl | hx
      · exact hw.1
      · exact ih hx

end Grammar
end PlotScript
