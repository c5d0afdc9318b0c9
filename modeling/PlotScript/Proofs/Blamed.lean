/-
# Lexemes that are blamed

A reader that finds no command blames one of the lexemes, and says how far behind the word of the
command that one is.  Arguments are counted in each reader by itself: `readDraw` from the end of
its numbers, `readSettings` from where it is in the block, and an argument that is missing is blamed
on what is before it.  The count is right in all of them (`Reader.points_read`).
-/

import PlotScript.Command.Reader
import Mathlib.Data.List.TakeWhile

namespace PlotScript
namespace Reader

variable {α β : Type} {mode : Option Mode} {word x : Lexeme} {l rest : List Lexeme} {offset : Nat}
  {cause : Cause}

/-- A lexeme that is blamed is the one at its distance. -/
def Points (l : List Lexeme) (r : Except Stop α) : Prop :=
  ∀ cause x offset, r = .error (.wrong cause x offset) → l[offset]? = some x

/-- Giving a result blames nothing. -/
theorem points_pure (a : α) : Points l (pure a : Except Stop α) := fun _ _ _ h => by cases h

/-- A reading that fails blames the lexeme that it is given, if that is the one at the distance. -/
theorem points_fail (h : l[offset]? = some x) : Points l (fail cause x offset : Except Stop α) := by
  rintro _ _ _ ⟨⟩
  exact h

/-- Two readings, one after the other, blame as each of them does. -/
theorem Points.bind {x : Except Stop α} {f : α → Except Stop β} (hx : Points l x)
    (hf : ∀ a, Points l (f a)) : Points l (x >>= f) := by
  intro cause y offset h
  cases x with
  | ok a => exact hf a cause y offset h
  | error e => exact hx cause y offset (congrArg Except.error (Except.error.inj h))

/-- The same reason blames the same lexeme, whatever was to be read. -/
theorem Points.error {x : Except Stop α} {e : Stop} (hx : Points l x) (he : x = .error e) :
    Points l (.error e : Except Stop β) := by
  rintro cause y offset ⟨⟩
  exact hx cause y offset he

/-- That no mode is set is blamed on the word, at no distance. -/
theorem points_needMode : Points (word :: rest) (needMode mode word) := by
  cases mode with
  | none => exact points_fail rfl
  | some m => exact points_pure m

/-- That the mode is not the interactive one is blamed on the word. -/
theorem points_needInteractive : Points (word :: rest) (needInteractive mode word) := by
  refine points_needMode.bind fun m => ?_
  cases m with
  | interactive => exact points_pure ()
  | plot => exact points_fail rfl

/-- That the mode is not the one for plots is blamed on the word. -/
theorem points_needPlot : Points (word :: rest) (needPlot mode word) := by
  refine points_needMode.bind fun m => ?_
  cases m with
  | interactive => exact points_fail rfl
  | plot => exact points_pure ()

/-- A number token that is no number is blamed on no lexeme. -/
theorem points_coordinate (x : Lexeme) : Points l (coordinate x) := by
  unfold coordinate
  split <;> rintro _ _ _ ⟨⟩

/-- Of several number tokens, one that is no number is blamed on no lexeme. -/
theorem points_mapM_coordinate (run : List Lexeme) : Points l (run.mapM coordinate) := by
  induction run with
  | nil => exact points_pure []
  | cons x run ih =>
    rw [List.mapM_cons]
    exact (points_coordinate x).bind fun v => ih.bind fun vs => points_pure (v :: vs)

/-- A number that is missing is blamed on the word, and one that is wrong on the lexeme in its
place. -/
theorem points_readNumber (a : Argument) (i : Nat) :
    Points (word :: rest) (readNumber a word (i + 1) rest[i]?) := by
  rcases h : rest[i]? with _ | x
  · exact points_fail rfl
  · show Points _ (if x.kind = .number then coordinate x else _)
    split
    · exact points_coordinate x
    · exact points_fail (List.getElem?_cons_succ.trans h)

/-- What is wrong with a point is blamed on the word, or on one of the two lexemes behind it. -/
theorem points_readMotion : Points (word :: rest) (readMotion word rest) :=
  (points_readNumber .x 0).bind fun x => (points_readNumber .y 1).bind fun y => points_pure (x, y)

/-- What is wrong with a mode is blamed on the word, or on the lexeme behind it. -/
theorem points_readMode : Points (word :: rest) (readMode mode word rest) := by
  unfold readMode
  split
  · exact points_fail rfl
  · split
    · exact points_fail rfl
    · exact points_pure _
    · exact points_fail rfl

/-- What is wrong with a drawing is blamed on the word, or on the lexeme behind it. -/
theorem points_readSetPlot : Points (word :: rest) (readSetPlot word rest) := by
  unfold readSetPlot
  split
  · exact points_fail rfl
  · split
    · exact points_pure _
    · exact points_fail rfl

/-- The last one of the lexemes that a list begins with, or the word if there are none. -/
theorem getElem?_of_isPrefix {run : List Lexeme} (h : run <+: rest) :
    (word :: rest)[run.length]? = some (run.getLast?.getD word) := by
  obtain ⟨tail, rfl⟩ := h
  rw [← List.cons_append, List.getElem?_append_left (Nat.lt_succ_self run.length),
    ← List.getLast?_cons, List.getLast?_eq_getElem?]
  rfl

/-- A path that is too short is blamed on its last number, and one with a number left over on what
follows, or else on that number. -/
theorem points_readDraw : Points (word :: rest) (readDraw word rest) := by
  have hrun : (rest.takeWhile fun x => decide (x.kind = .number)) <+: rest :=
    List.takeWhile_prefix _
  refine (points_mapM_coordinate _).bind fun values => ?_
  simp only
  split
  · split
    · rename_i x hx
      exact points_fail hx
    · exact points_fail (getElem?_of_isPrefix hrun)
  · split
    · exact points_fail (getElem?_of_isPrefix hrun)
    · exact points_pure _

/-- Every command without a block blames the lexeme at the distance that it gives. -/
theorem points_readSimple : Points (word :: rest) (readSimple mode word rest) := by
  unfold readSimple
  split
  · exact points_readMode
  · exact points_needInteractive.bind fun _ => points_readMotion.bind fun _ => points_pure _
  · exact points_needInteractive.bind fun _ => points_readMotion.bind fun _ => points_pure _
  · exact points_needInteractive.bind fun _ => points_readDraw
  · exact points_needInteractive.bind fun _ => (points_readNumber .time 0).bind fun _ =>
      points_pure _
  · exact points_needPlot.bind fun _ => points_readSetPlot
  · exact points_needPlot.bind fun _ => points_pure _
  · exact points_fail rfl
  · split
    · exact points_needInteractive.bind fun _ => points_pure _
    · exact points_fail rfl

/-- A value that is wrong is blamed on itself. -/
theorem points_readValue (s : Setting) (h : l[offset]? = some x) :
    Points l (readValue s x offset) := by
  unfold readValue
  split
  · exact points_fail h
  split
  · exact points_pure _
  split
  · rintro _ _ _ ⟨⟩
  split
  · rintro _ _ _ ⟨⟩
  split
  · split
    · exact points_pure _
    · exact points_fail h
  · exact points_pure _

/-- What is read of a block before does not matter for what is blamed in the rest. -/
theorem result_cons_eq_wrong {ws : List Complaint} {v : Setting × Value} {r : BlockReading} :
    (r.cons ws v).result = .error (.wrong cause x offset) ↔
      r.result = .error (.wrong cause x offset) := by
  rcases h : r.result with e | p
  · simp only [BlockReading.cons, h, Except.map]
  · simp only [BlockReading.cons, h, Except.map]
    constructor
    · intro h
      cases h
    · intro h
      cases h

/-- A block blames what it blames behind its first setting: distances are counted from its opening
word. -/
theorem Points.cons {ws : List Complaint} {v : Setting × Value} {r : BlockReading}
    (h : Points l r.result) : Points l (r.cons ws v).result :=
  fun cause x offset hr => h cause x offset (result_cons_eq_wrong.1 hr)

/-- Settings that are read from a distance on blame lexemes by their distances from the opening
word.  The induction is the one along which they are read. -/
theorem points_readSettings {b : Block} {interactive more : Bool} {seen : List Setting}
    {m : List Lexeme} (hm : (word :: rest).drop offset = m) :
    Points (word :: rest) (readSettings b interactive more word seen offset m).result := by
  have hfirst {k : Nat} {x : Lexeme} {r : List Lexeme} (h : (word :: rest).drop k = x :: r) :
      (word :: rest)[k]? = some x := by
    rw [← List.head?_drop, h]
    rfl
  have hnext {k : Nat} {x : Lexeme} {r : List Lexeme} (h : (word :: rest).drop k = x :: r) :
      (word :: rest).drop (k + 1) = r := by
    rw [← List.tail_drop, h]
    rfl
  fun_induction readSettings b interactive more word seen offset m with
  | case1 =>
    split
    · rintro _ _ _ ⟨⟩
    · exact points_fail rfl
  | case3 =>
    simp only
    split
    · rintro _ _ _ ⟨⟩
    · exact points_fail (hfirst hm)
  | case2 | case6 => exact points_pure _
  | case4 | case5 | case9 | case10 => exact points_fail (hfirst hm)
  | case7 seen k x y r _ s _ _ e he =>
    exact (points_readValue s (hfirst (hnext hm))).error he
  | case8 seen k x y r _ s _ _ v _ warnings ih => exact (ih (hnext (hnext hm))).cons

/-- That a block does not suit the mode is blamed on its opening word. -/
theorem points_needBlockMode (b : Block) :
    Points (word :: rest) (needBlockMode b mode word) := by
  cases b with
  | options => exact points_needMode
  | update => exact points_needInteractive.bind fun _ => points_pure _

/-- **The lexeme that is blamed is the one at its distance.** -/
theorem points_read {more : Bool} : Points (word :: rest) (read mode more word rest).result := by
  unfold read
  split
  · rename_i b _
    have hmode := @points_needBlockMode mode word rest b
    split
    · rename_i e he
      exact hmode.error he
    · rename_i m _
      have hsettings : Points (word :: rest)
          (readSettings b (m == .interactive) more word [] 1 rest).result :=
        points_readSettings rfl
      unfold readBlock
      simp only
      split
      · rename_i e he
        exact hsettings.error he
      · exact points_pure _
  · exact points_readSimple

end Reader
end PlotScript
