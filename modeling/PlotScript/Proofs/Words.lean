/-
# What a lexer gives

A lexer gives words and then the end of the file, which comes only once (`Lexer.tokens_eq`).  A word
is never empty, so every number token is a number (`Lexer.of_mem_words`).
-/

import PlotScript.Number
import PlotScript.Token.Lexer

namespace PlotScript

/-- Digits have a value. -/
theorem isSome_digitsValue? {s : String} (hs : s.toList ≠ []) (h : s.toList.all isDecimalDigit) :
    (digitsValue? s).isSome = true := by
  have hfold : ∀ (cs : List Char) (n : Nat), cs.all isDecimalDigit = true →
      (cs.foldl (fun acc c => acc.bind fun n =>
        if '0' ≤ c ∧ c ≤ '9' then some (10 * n + (c.toNat - '0'.toNat)) else none)
        (some n)).isSome = true := by
    intro cs
    induction cs with
    | nil => intro n _; rfl
    | cons c cs ih =>
      intro n h
      rw [List.all_cons, Bool.and_eq_true] at h
      have hc : '0' ≤ c ∧ c ≤ '9' := by simpa [isDecimalDigit] using h.1
      rw [List.foldl_cons, Option.bind_some, if_pos hc]
      exact ih _ h.2
  rw [digitsValue?, if_neg (by simpa using hs)]
  exact hfold s.toList 0 h

/-- A number token has decimal digits only. -/
def Lexeme.WellFormed (x : Lexeme) : Prop :=
  x.kind = .number → (digitsValue? x.text).isSome = true

instance (x : Lexeme) : Decidable x.WellFormed := inferInstanceAs (Decidable (_ → _ = true))

/-- No keyword is a number, and none ends the file. -/
theorem kind_ne_of_lookup {word : String} {k : Kind} (h : keywords.lookup word = some k) :
    k ≠ .number ∧ k ≠ .endOfFile := by
  have hall : ∀ p ∈ keywords, p.2 ≠ .number ∧ p.2 ≠ .endOfFile := by decide +kernel
  obtain ⟨l, r, hk, -⟩ := List.lookup_eq_some_iff.1 h
  have hmem : (word, k) ∈ keywords := by
    rw [hk]
    exact List.mem_append_right _ List.mem_cons_self
  exact hall (word, k) hmem

/-- A word that is not empty is no number token unless it is a number. -/
theorem wellFormed_classify {word : String} (hw : word.toList ≠ []) (place : Place) :
    Lexeme.WellFormed ⟨classify word, place⟩ := by
  intro hk
  show (digitsValue? (classify word).text).isSome = true
  change (classify word).kind = _ at hk
  unfold classify at hk ⊢
  split at hk
  · rename_i k hl
    exact absurd hk (kind_ne_of_lookup hl).1
  · simp only at hk ⊢
    split at hk
    · rename_i hd
      rw [if_pos hd]
      exact isSome_digitsValue? hw hd
    · split at hk <;> cases hk

/-- No word ends the file. -/
theorem kind_classify_ne (word : String) : (classify word).kind ≠ .endOfFile := by
  unfold classify
  split
  · rename_i k hl
    exact (kind_ne_of_lookup hl).2
  · simp only
    split
    · nofun
    · split <;> nofun

namespace Lexer

/-- A word is never empty. -/
theorem ne_nil_of_scan {place : Nat → Nat → Place} {comment : Option Lexeme} {n : Nat}
    {cs : List Char} {start : Nat} {word rest : List Char} {c : Option Lexeme}
    (h : scan place comment n cs = ⟨some (start, word, rest), c⟩) : word ≠ [] := by
  fun_induction scan place comment n cs with
  | case1 | case5 => simp at h
  | case2 _ _ _ ih | case3 _ _ _ _ _ ih | case4 _ _ ih | case6 _ _ _ _ _ _ ih => exact ih h
  | case7 n c r _ _ _ =>
    simp only [Scan.mk.injEq, Option.some.injEq, Prod.mk.injEq] at h
    obtain ⟨⟨-, rfl, -⟩, -⟩ := h
    exact List.cons_ne_nil _ _

/-- A word is classified, and it is not empty. -/
theorem search_cases (x : Lexer) (lines : List String) :
    (∃ word place y, word.toList ≠ [] ∧ x.search lines = .word ⟨classify word, place⟩ y) ∨
      ∃ place warning y, x.search lines = .stop ⟨⟨.endOfFile, ""⟩, place⟩ warning y := by
  induction lines generalizing x with
  | nil =>
    unfold search
    split
    · rename_i start word rest c hs
      refine .inl ⟨String.ofList word, _, _, ?_, rfl⟩
      rw [String.toList_ofList]
      exact ne_nil_of_scan hs
    · exact .inr ⟨_, _, _, rfl⟩
  | cons line lines ih =>
    unfold search
    split
    · rename_i start word rest c hs
      refine .inl ⟨String.ofList word, _, _, ?_, rfl⟩
      rw [String.toList_ofList]
      exact ne_nil_of_scan hs
    · exact ih _

/-- All remaining words. -/
def words (x : Lexer) : List Lexeme := x.tokens.1.dropLast

/-- The tokens of a lexer are well-formed words, and then exactly one end of the file. -/
theorem exists_tokens_eq (x : Lexer) : ∃ l place,
    x.tokens.1 = l ++ [⟨⟨.endOfFile, ""⟩, place⟩] ∧
      ∀ y ∈ l, y.WellFormed ∧ y.kind ≠ .endOfFile := by
  fun_induction tokens x with
  | case1 x l warning y h =>
    rcases search_cases x (x.unread.getD []) with ⟨_, _, _, -, hs⟩ | ⟨place, _, _, hs⟩
    · cases h.symm.trans hs
    · cases h.symm.trans hs
      exact ⟨[], place, rfl, by simp⟩
  | case2 x l y h _ ls warning z heq ih =>
    rcases search_cases x (x.unread.getD []) with ⟨word, place, _, hw, hs⟩ | ⟨_, _, _, hs⟩
    · cases h.symm.trans hs
      obtain ⟨l, p, hl, hall⟩ := ih
      rw [heq] at hl
      refine ⟨⟨classify word, place⟩ :: l, p, congrArg _ hl, ?_⟩
      rintro t ht
      rcases List.mem_cons.1 ht with rfl | ht
      · exact ⟨wellFormed_classify hw place, kind_classify_ne word⟩
      · exact hall t ht
    · cases h.symm.trans hs

/-- **The end of the file comes after all words.** -/
theorem tokens_eq (x : Lexer) : ∃ place,
    x.tokens.1 = x.words ++ [⟨⟨.endOfFile, ""⟩, place⟩] := by
  obtain ⟨l, place, hl, -⟩ := x.exists_tokens_eq
  refine ⟨place, ?_⟩
  rw [words, hl, List.dropLast_concat]

/-- **A number token is a number**, and no word ends the file. -/
theorem of_mem_words {x : Lexer} {y : Lexeme} (h : y ∈ x.words) :
    y.WellFormed ∧ y.kind ≠ .endOfFile := by
  obtain ⟨l, place, hl, hall⟩ := x.exists_tokens_eq
  rw [words, hl, List.dropLast_concat] at h
  exact hall y h

end Lexer
end PlotScript
