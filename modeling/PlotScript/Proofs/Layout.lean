/-
# What a lexer makes of every character

Each line of a script is made up of parts, one after the other: words, blanks, comments up to the
end of the line, and block comments, which may go on from line to line.  `First` says what the first
part of a line can be, and with it the parts of all lines are determined.

No character is lost and none is in two parts; the words that a lexer gives are the words among the
parts, in order, each with its line and its columns (`Lexer.lexes_layout`).

The parts of a line are those that the algorithm of the language specification, §4.1, passes over or
takes.
-/

import PlotScript.Proofs.Rows
import Mathlib.Data.List.Infix
import Mathlib.Data.List.TakeWhile

namespace PlotScript

/-- A part of a line. -/
inductive Part where
  | word (cs : List Char)
  | blank (c : Char)
  | lineComment (cs : List Char)
  | blockComment (cs : List Char)
  deriving DecidableEq

namespace Part

/-- The characters of a part. -/
def text : Part → List Char
  | blank c => [c]
  | word cs | lineComment cs | blockComment cs => cs

/-- The word that a part is, if it is one that begins at a column. -/
def words (place : Nat → Nat → Place) (n : Nat) : Part → List Lexeme
  | word cs => [⟨classify (String.ofList cs), place n (n + cs.length)⟩]
  | blank _ | lineComment _ | blockComment _ => []

/-- The first `=%` ends a text. -/
def Closing (cs : List Char) : Prop := ∃ t, cs = t ++ ['=', '%'] ∧ ¬['=', '%'] <:+: t ++ ['=']

/-- No `=%` is in a text. -/
def Unclosed (cs : List Char) : Prop := ¬['=', '%'] <:+: cs

/-- A text begins with a blank, or it is over. -/
def Apart (cs : List Char) : Prop := ∀ c ∈ cs.head?, Text.isBlank c = true

/-- What the first part of a text can be, whether a block comment is open before it, what is left
then, and whether a block comment is open then. -/
inductive First : Bool → List Char → Part → List Char → Bool → Prop
  | blank {c : Char} {r : List Char} : Text.isBlank c = true →
    First false (c :: r) (blank c) r false
  | word {c : Char} {cs r : List Char} : Text.isBlank c = false → c ≠ '%' →
    (∀ d ∈ cs, Text.isBlank d = false) → Apart r → First false (c :: cs ++ r) (word (c :: cs)) r false
  | lineComment {cs : List Char} : cs.head? ≠ some '=' →
    First false ('%' :: cs) (lineComment ('%' :: cs)) [] false
  | block {cs r : List Char} : Closing cs →
    First false ('%' :: '=' :: cs ++ r) (blockComment ('%' :: '=' :: cs)) r false
  | opened {cs : List Char} : Unclosed cs →
    First false ('%' :: '=' :: cs) (blockComment ('%' :: '=' :: cs)) [] true
  | closed {cs r : List Char} : Closing cs → First true (cs ++ r) (blockComment cs) r false
  | unclosed {cs : List Char} : cs ≠ [] → Unclosed cs → First true cs (blockComment cs) [] true

/-- The parts of a text, one after the other. -/
inductive Parts : Bool → List Char → List Part → Bool → Prop
  | nil (o : Bool) : Parts o [] [] o
  | cons {o o₁ o₂ : Bool} {cs r : List Char} {p : Part} {ps : List Part} :
    First o cs p r o₁ → Parts o₁ r ps o₂ → Parts o cs (p :: ps) o₂

/-- The parts of lines. -/
inductive Layout : Bool → List (List Char) → List (List Part) → Bool → Prop
  | nil (o : Bool) : Layout o [] [] o
  | cons {o o₁ o₂ : Bool} {cs : List Char} {ls : List (List Char)} {ps : List Part}
    {pss : List (List Part)} : Parts o cs ps o₁ → Layout o₁ ls pss o₂ →
      Layout o (cs :: ls) (ps :: pss) o₂

variable {o o₁ o₂ : Bool} {cs ds r s : List Char} {p q : Part} {ps qs : List Part}

/-- A text that a `=%` ends is not empty. -/
theorem Closing.ne_nil (h : Closing cs) : cs ≠ [] := by
  obtain ⟨t, rfl, -⟩ := h
  exact List.append_ne_nil_of_right_ne_nil t (List.cons_ne_nil _ _)

/-- A text that is closed is not unclosed. -/
theorem Closing.not_unclosed (h : Closing cs) (r : List Char) : ¬Unclosed (cs ++ r) := by
  obtain ⟨t, rfl, -⟩ := h
  exact fun hu => hu ⟨t, r, rfl⟩

/-- Where the first `=%` ends is determined. -/
theorem Closing.length_le (h : Closing cs) (k : Closing ds) (he : cs ++ r = ds ++ s) :
    cs.length ≤ ds.length := by
  obtain ⟨t, rfl, ht⟩ := h
  obtain ⟨u, rfl, -⟩ := k
  by_contra hlt
  refine ht ?_
  -- The `=%` that ends the shorter text is before the last character of the longer one.
  have hpre : u ++ ['=', '%'] <+: t ++ ['='] := by
    have hlong : t ++ ['='] <+: t ++ ['=', '%'] ++ r := ⟨'%' :: r, by simp⟩
    refine List.prefix_of_prefix_length_le ⟨s, he.symm⟩ hlong ?_
    simp only [List.length_append, List.length_cons, List.length_nil] at hlt ⊢
    omega
  exact (List.suffix_append u _).isInfix.trans hpre.isInfix

/-- Where the first `=%` ends a text, it is determined what is closed and what is left. -/
theorem Closing.unique (h : Closing cs) (k : Closing ds) (he : cs ++ r = ds ++ s) :
    cs = ds ∧ r = s :=
  List.append_inj he ((h.length_le k he).antisymm (k.length_le h he.symm))

/-- A text is unclosed, or it begins with a text that is closed.  The induction is on the text; it
is closed at once, or closed by what follows its first character. -/
theorem unclosed_or_closing (cs : List Char) : Unclosed cs ∨ ∃ t r, Closing t ∧ cs = t ++ r := by
  induction cs with
  | nil => exact .inl (by rintro ⟨s, t, h⟩; simp at h)
  | cons c cs ih =>
    by_cases hc : ∃ r, c :: cs = '=' :: '%' :: r
    · obtain ⟨r, hr⟩ := hc
      refine .inr ⟨['=', '%'], r, ⟨[], rfl, ?_⟩, hr⟩
      exact fun h => absurd h.length_le (by decide)
    · rcases ih with hu | ⟨t, r, ⟨u, rfl, hu⟩, rfl⟩
      · refine .inl fun h => ?_
        rcases List.infix_cons_iff.1 h with ⟨r, hr⟩ | h
        · exact hc ⟨r, hr.symm⟩
        · exact hu h
      · refine .inr ⟨c :: (u ++ ['=', '%']), r, ⟨c :: u, rfl, fun h => ?_⟩, rfl⟩
        rcases List.infix_cons_iff.1 h with ⟨s, hs⟩ | h
        · obtain ⟨rfl, htail⟩ : '=' = c ∧ '%' :: s = u ++ ['='] := List.cons.inj hs
          cases u with
          | nil => exact absurd (List.cons.inj htail).1 (by decide)
          | cons d u =>
            obtain ⟨rfl, -⟩ := List.cons.inj htail
            exact hc ⟨u ++ ['=', '%'] ++ r, rfl⟩
        · exact hu h

/-- A word ends where a blank comes or the text is over: what is not blank at the front is the
word. -/
theorem Apart.takeWhile_eq {w r : List Char} (hw : ∀ c ∈ w, Text.isBlank c = false)
    (hr : Apart r) : ((w ++ r).takeWhile fun c => !Text.isBlank c) = w ∧
      ((w ++ r).dropWhile fun c => !Text.isBlank c) = r := by
  have hw' : ∀ c ∈ w, (!Text.isBlank c) = true := fun c hc => by rw [hw c hc]; rfl
  rw [List.takeWhile_append_of_pos hw', List.dropWhile_append_of_pos hw']
  cases r with
  | nil => exact ⟨List.append_nil w, rfl⟩
  | cons c r =>
    have hc : ¬(!Text.isBlank c) = true := by rw [hr c rfl]; decide
    rw [List.takeWhile_cons_of_neg (p := fun c => !Text.isBlank c) hc,
      List.dropWhile_cons_of_neg (p := fun c => !Text.isBlank c) hc, List.append_nil]
    exact ⟨rfl, rfl⟩

/-- The parts of a text make it up. -/
theorem First.eq_append (h : First o cs p r o₁) : cs = p.text ++ r := by
  cases h with
  | blank | word | block | closed => rfl
  | lineComment | opened | unclosed => exact (List.append_nil _).symm

/-- No part is empty. -/
theorem First.text_ne_nil (h : First o cs p r o₁) : p.text ≠ [] := by
  cases h with
  | closed hc => exact hc.ne_nil
  | unclosed hn _ => exact hn
  | _ => exact List.cons_ne_nil _ _

/-- The sign that a comment begins with is no blank. -/
theorem isBlank_percent : Text.isBlank '%' = false := by decide

/-- **The first part of a text is determined.**  The first characters tell which kind of part it is,
and a part of one kind has one end. -/
theorem First.unique (h : First o cs p r o₁) (k : First o ds q s o₂) (he : cs = ds) :
    p = q ∧ r = s ∧ o₁ = o₂ := by
  have hb := isBlank_percent
  cases h with
  | blank hc =>
    cases k with
    | blank =>
      obtain ⟨rfl, rfl⟩ := List.cons.inj he
      exact ⟨rfl, rfl, rfl⟩
    | word | lineComment | block | opened => grind
  | @word c w _ hc hp hw ha =>
    cases k with
    | @word d v _ hd hq hv hb =>
      obtain ⟨rfl, htail⟩ : c = d ∧ w ++ r = v ++ s := List.cons.inj he
      obtain ⟨ht, hd⟩ := Apart.takeWhile_eq hw ha
      obtain ⟨ht', hd'⟩ := Apart.takeWhile_eq hv hb
      rw [htail] at ht hd
      obtain rfl : w = v := ht.symm.trans ht'
      exact ⟨rfl, hd.symm.trans hd', rfl⟩
    | blank | lineComment | block | opened => grind
  | lineComment hn =>
    cases k with
    | lineComment =>
      obtain ⟨-, rfl⟩ := List.cons.inj he
      exact ⟨rfl, rfl, rfl⟩
    | blank | word | block | opened => grind
  | block hc =>
    cases k with
    | block hd =>
      obtain ⟨rfl, rfl⟩ := hc.unique hd (List.cons.inj (List.cons.inj he).2).2
      exact ⟨rfl, rfl, rfl⟩
    | opened hu =>
      rw [← (List.cons.inj (List.cons.inj he).2).2] at hu
      exact absurd hu (hc.not_unclosed r)
    | blank | word | lineComment => grind
  | opened hu =>
    cases k with
    | opened =>
      obtain ⟨-, rfl⟩ := List.cons.inj (List.cons.inj he).2
      exact ⟨rfl, rfl, rfl⟩
    | block hd =>
      rw [(List.cons.inj (List.cons.inj he).2).2] at hu
      exact absurd hu (hd.not_unclosed s)
    | blank | word | lineComment => grind
  | closed hc =>
    cases k with
    | closed hd =>
      obtain ⟨rfl, rfl⟩ := hc.unique hd he
      exact ⟨rfl, rfl, rfl⟩
    | unclosed hn hu =>
      rw [← he] at hu
      exact absurd hu (hc.not_unclosed r)
  | unclosed hn hu =>
    cases k with
    | closed hd =>
      rw [he] at hu
      exact absurd hu (hd.not_unclosed s)
    | unclosed => exact ⟨congrArg blockComment he, rfl, rfl⟩

/-- **The parts of a text are determined.** -/
theorem Parts.unique (h : Parts o cs ps o₁) (k : Parts o cs qs o₂) : ps = qs ∧ o₁ = o₂ := by
  induction h generalizing qs with
  | nil =>
    cases k with
    | nil => exact ⟨rfl, rfl⟩
    | cons hf _ => exact absurd hf.eq_append (by simp [hf.text_ne_nil])
  | cons hf _ ih =>
    cases k with
    | nil => exact absurd hf.eq_append (by simp [hf.text_ne_nil])
    | cons kf k =>
      obtain ⟨rfl, rfl, rfl⟩ := hf.unique kf rfl
      obtain ⟨rfl, rfl⟩ := ih k
      exact ⟨rfl, rfl⟩

/-- A text that is not over has a first part.  The cases are whether a comment is open, and then
what the first character is. -/
theorem exists_first (o : Bool) (hcs : cs ≠ []) : ∃ p r o₁, First o cs p r o₁ := by
  cases o with
  | true =>
    rcases unclosed_or_closing cs with hu | ⟨t, r, ht, rfl⟩
    · exact ⟨_, _, _, .unclosed hcs hu⟩
    · exact ⟨_, _, _, .closed ht⟩
  | false =>
    obtain ⟨c, r, rfl⟩ := List.exists_cons_of_ne_nil hcs
    cases hb : Text.isBlank c with
    | true => exact ⟨_, _, _, .blank hb⟩
    | false =>
      by_cases hp : c = '%'
      · subst hp
        by_cases he : r.head? = some '='
        · obtain ⟨r, rfl⟩ := List.head?_eq_some_iff.1 he
          rcases unclosed_or_closing r with hu | ⟨t, r, ht, rfl⟩
          · exact ⟨_, _, _, .opened hu⟩
          · exact ⟨_, _, _, .block ht⟩
        · exact ⟨_, _, _, .lineComment he⟩
      · have hw := @First.word c (r.takeWhile (!Text.isBlank ·)) (r.dropWhile (!Text.isBlank ·)) hb hp
          (fun d hd => by simpa using List.mem_takeWhile_imp hd) fun d hd => ?_
        · rw [List.cons_append, List.takeWhile_append_dropWhile] at hw
          exact ⟨_, _, _, hw⟩
        · have hd' := List.head?_dropWhile_not (fun c => !Text.isBlank c) r
          rw [Option.mem_def.1 hd] at hd'
          simpa using hd'

/-- **Every text has parts.** -/
theorem exists_parts (o : Bool) (cs : List Char) : ∃ ps o₁, Parts o cs ps o₁ := by
  induction hn : cs.length using Nat.strongRecOn generalizing o cs with
  | _ n ih =>
    by_cases hcs : cs = []
    · subst hcs
      exact ⟨[], o, .nil o⟩
    · obtain ⟨p, r, o₁, hf⟩ := exists_first o hcs
      have hlt : r.length < n := by
        have hpos := List.length_pos_of_ne_nil hf.text_ne_nil
        rw [← hn, hf.eq_append, List.length_append]
        omega
      obtain ⟨ps, o₂, hps⟩ := ih r.length hlt o₁ r rfl
      exact ⟨p :: ps, o₂, .cons hf hps⟩

/-- **No character is lost, and none is in two parts.** -/
theorem Parts.flatMap_text (h : Parts o cs ps o₁) : ps.flatMap text = cs := by
  induction h with
  | nil => rfl
  | cons hf _ ih => rw [List.flatMap_cons, ih, ← hf.eq_append]

/-- Lines have parts, whatever is on them and whether a comment is open before them or not. -/
theorem exists_layout (o : Bool) (ls : List (List Char)) : ∃ pss o₁, Layout o ls pss o₁ := by
  induction ls generalizing o with
  | nil => exact ⟨[], o, .nil o⟩
  | cons cs ls ih =>
    obtain ⟨ps, o₁, hp⟩ := exists_parts o cs
    obtain ⟨pss, o₂, hl⟩ := ih o₁
    exact ⟨ps :: pss, o₂, .cons hp hl⟩

/-- The parts of lines are those of the first one, and those of the others from there on. -/
theorem Layout.exists_eq_cons {cs : List Char} {ls : List (List Char)} {pss : List (List Part)}
    (h : Layout o (cs :: ls) pss o₂) :
    ∃ ps qss o₁, pss = ps :: qss ∧ Parts o cs ps o₁ ∧ Layout o₁ ls qss o₂ := by
  cases h with
  | cons hp hl => exact ⟨_, _, _, rfl, hp, hl⟩

/-- The parts of lines are determined. -/
theorem Layout.unique {ls : List (List Char)} {pss qss : List (List Part)}
    (h : Layout o ls pss o₁) (k : Layout o ls qss o₂) : pss = qss ∧ o₁ = o₂ := by
  induction h generalizing qss with
  | nil =>
    cases k with
    | nil => exact ⟨rfl, rfl⟩
  | cons hp _ ih =>
    cases k with
    | cons kp kl =>
      obtain ⟨rfl, rfl⟩ := hp.unique kp
      obtain ⟨rfl, rfl⟩ := ih kl
      exact ⟨rfl, rfl⟩

/-- Each line is made up of its parts: no character is lost, and none is in two of them. -/
theorem Layout.map_flatMap_text {ls : List (List Char)} {pss : List (List Part)}
    (h : Layout o ls pss o₁) : pss.map (fun ps => ps.flatMap text) = ls := by
  induction h with
  | nil => rfl
  | cons hp _ ih => rw [List.map_cons, ih, hp.flatMap_text]

end Part

namespace Lexer

open PlotScript.Part

variable {place : Nat → Nat → Place} {o o₁ o₂ : Bool} {cs r : List Char} {p : Part}
  {ps : List Part}

/-- Two rests of lines on which the same is found have the same words. -/
theorem row_congr {c c' : Option Lexeme} {n n' : Nat} {cs cs' : List Char}
    (h : scan place c n cs = scan place c' n' cs') :
    row place c n cs = row place c' n' cs' := by
  rcases hs : scan place c' n' cs' with ⟨_ | ⟨start, word, rest⟩, open'⟩
  · rw [row_of_none hs, row_of_none (h.trans hs)]
  · rw [row_of_word hs, row_of_word (h.trans hs)]

-- The unfolded definition is split here: its equations, made one by one, take long.
/-- At the end of a line nothing is found, and a comment that is open stays open. -/
theorem scan_nil (c : Option Lexeme) (n : Nat) : scan place c n [] = ⟨none, c⟩ := by
  rw [scan.eq_def]

/-- In an open comment a character is passed over, unless a `=%` begins with it. -/
theorem scan_open {x : Lexeme} {c : Char} (hc : ∀ s, c = '=' → r = '%' :: s → False) (n : Nat) :
    scan place (some x) n (c :: r) = scan place (some x) (n + 1) r := by
  rw [scan.eq_def]
  split <;> simp_all

/-- An open comment goes on to the end of a line without `=%`. -/
theorem scan_unclosed (x : Lexeme) (n : Nat) (h : Unclosed cs) :
    scan place (some x) n cs = ⟨none, some x⟩ := by
  induction cs generalizing n with
  | nil => exact scan_nil _ n
  | cons c cs ih =>
    have hc : ∀ r, c = '=' → cs = '%' :: r → False := by
      rintro r rfl rfl
      exact h ⟨[], r, rfl⟩
    rw [scan_open hc, ih _ fun hi => h (hi.trans (List.suffix_cons c cs).isInfix)]

/-- An open comment ends behind the first `=%`.  The induction is on the text of the comment, which
holds no earlier `=%`. -/
theorem scan_closing (x : Lexeme) (n : Nat) (h : Closing cs) (r : List Char) :
    scan place (some x) n (cs ++ r) = scan place none (n + cs.length) r := by
  obtain ⟨t, rfl, ht⟩ := h
  induction t generalizing n with
  | nil =>
    rw [List.nil_append, List.cons_append, List.cons_append, List.nil_append, scan.eq_def]
    rfl
  | cons c t ih =>
    have hc : ∀ s, c = '=' → t ++ ['=', '%'] ++ r = '%' :: s → False := by
      rintro s rfl hs
      cases t with
      | nil => exact absurd (List.cons.inj hs).1 (by decide)
      | cons d t =>
        obtain ⟨rfl, -⟩ := List.cons.inj hs
        exact ht ⟨[], t ++ ['='], rfl⟩
    have hi := ih (n + 1) fun hi => ht (hi.trans (List.suffix_cons c _).isInfix)
    rw [List.cons_append, List.cons_append, scan_open hc, hi, List.length_cons]
    congr 1
    omega

/-- Outside of comments a blank is passed over, and anything else is the beginning of a word that
goes up to the next blank. -/
theorem scan_none {c : Char} (hp : c ≠ '%') (n : Nat) : scan place none n (c :: r) =
    if Text.isBlank c then scan place none (n + 1) r
    else ⟨some (n, c :: r.takeWhile (!Text.isBlank ·), r.dropWhile (!Text.isBlank ·)), none⟩ := by
  rw [scan.eq_def]
  split <;> simp_all

/-- A `%` without `=` behind it ends what is read of a line. -/
theorem scan_lineComment (hn : cs.head? ≠ some '=') (n : Nat) :
    scan place none n ('%' :: cs) = ⟨none, none⟩ := by
  rw [scan.eq_def]
  split <;> grind

/-- A `%=` opens a comment, and its columns are remembered. -/
theorem scan_blockComment (n : Nat) : scan place none n ('%' :: '=' :: r) =
    scan place (some ⟨⟨.unknown, "%="⟩, place n (n + 2)⟩) (n + 2) r := by
  rw [scan.eq_def]
  rfl

/-- The `%=` at a column, as the beginning of a comment. -/
def opener (place : Nat → Nat → Place) (n : Nat) : Lexeme :=
  ⟨⟨.unknown, "%="⟩, place n (n + 2)⟩

/-- A comment that is open behind the first part of a text: the text is over, and the comment was
open before it, or the text begins with its `%=`. -/
def StaysOpen (place : Nat → Nat → Place) (c : Option Lexeme) (n : Nat) (cs r : List Char)
    (x : Lexeme) : Prop :=
  r = [] ∧ (c = some x ∧ Unclosed cs ∨
    c = none ∧ x = opener place n ∧ ∃ post, cs = '%' :: '=' :: post ∧ Unclosed post)

/-- The first part of a text is the word that is found, or it is passed over.  A comment that stays
open is kept for what comes next, with the place where it was opened. -/
theorem scan_of_first (place : Nat → Nat → Place) (h : First o cs p r o₁) {c : Option Lexeme}
    (hc : c.isSome = o) (n : Nat) :
    (∃ w, p = .word w ∧ o₁ = false ∧ scan place c n cs = ⟨some (n, w, r), none⟩) ∨
    p.words place n = [] ∧ ∃ c', c'.isSome = o₁ ∧
      scan place c n cs = scan place c' (n + p.text.length) r ∧
      ∀ x, c' = some x → StaysOpen place c n cs r x := by
  cases h with
  | @blank d r hb =>
    obtain rfl : c = none := by simpa using hc
    have hp : d ≠ '%' := by
      rintro rfl
      rw [isBlank_percent] at hb
      cases hb
    refine .inr ⟨rfl, none, rfl, ?_, fun _ => nofun⟩
    rw [scan_none hp, if_pos hb]
    rfl
  | @word d w r hb hp hw ha =>
    obtain rfl : c = none := by simpa using hc
    obtain ⟨ht, hd⟩ := ha.takeWhile_eq hw
    refine .inl ⟨d :: w, rfl, rfl, ?_⟩
    rw [List.cons_append, scan_none hp, if_neg (by rw [hb]; exact Bool.false_ne_true), ht, hd]
  | @lineComment cs hn =>
    obtain rfl : c = none := by simpa using hc
    refine .inr ⟨rfl, none, rfl, ?_, fun _ => nofun⟩
    rw [scan_lineComment hn n, scan_nil]
  | block hcl =>
    obtain rfl : c = none := by simpa using hc
    refine .inr ⟨rfl, none, rfl, ?_, fun _ => nofun⟩
    rw [List.cons_append, List.cons_append, scan_blockComment, scan_closing _ _ hcl]
    congr 1
    simp only [text, List.length_cons]
    omega
  | @opened post hu =>
    obtain rfl : c = none := by simpa using hc
    refine .inr ⟨rfl, some (opener place n), rfl, ?_, ?_⟩
    · rw [scan_nil]
      exact (scan_blockComment n).trans (scan_unclosed _ _ hu)
    · rintro x ⟨⟩
      exact ⟨rfl, .inr ⟨rfl, rfl, post, rfl, hu⟩⟩
  | closed hcl =>
    obtain ⟨x, rfl⟩ := Option.isSome_iff_exists.1 hc
    exact .inr ⟨rfl, none, rfl, scan_closing x n hcl r, fun _ => nofun⟩
  | unclosed hn hu =>
    obtain ⟨x, rfl⟩ := Option.isSome_iff_exists.1 hc
    refine .inr ⟨rfl, some x, rfl, ?_, fun y hy => ⟨rfl, .inl ⟨hy, hu⟩⟩⟩
    rw [scan_unclosed x n hu, scan_nil]

/-- **A lexer takes the first part of a line as it is.** -/
theorem row_of_first (h : First o cs p r o₁) {c : Option Lexeme} (hc : c.isSome = o) (n : Nat) :
    ∃ c', c'.isSome = o₁ ∧ row place c n cs =
      ⟨p.words place n ++ (row place c' (n + p.text.length) r).words,
        (row place c' (n + p.text.length) r).comment⟩ := by
  rcases scan_of_first place h hc n with ⟨w, rfl, rfl, hs⟩ | ⟨hw, c', ho, hs, -⟩
  · exact ⟨none, rfl, row_of_word hs⟩
  · refine ⟨c', ho, ?_⟩
    rw [hw, row_congr hs]
    rfl

/-- The words among the parts of a line, from a column on. -/
def partWords (place : Nat → Nat → Place) (n : Nat) : List Part → List Lexeme
  | [] => []
  | p :: ps => p.words place n ++ partWords place (n + p.text.length) ps

/-- A line without its end. -/
def chars (line : String) : List Char := (Text.dropLineEnd line).toList

/-- The words among the parts of lines that are numbered from a number on. -/
def layoutWords (source : Option String) (number : Int) : List String → List (List Part) →
    List Lexeme
  | line :: lines, ps :: pss =>
    partWords (columns (Text.dropLineEnd line) number source) 0 ps ++
      layoutWords source (number + 1) lines pss
  | _, _ => []

/-- **The words of a line are the words among its parts.** -/
theorem row_of_parts (h : Parts o cs ps o₁) {c : Option Lexeme} (hc : c.isSome = o) (n : Nat) :
    (row place c n cs).words = partWords place n ps ∧ (row place c n cs).comment.isSome = o₁ := by
  induction h generalizing c n with
  | nil =>
    rw [row_of_none (scan_nil c n)]
    exact ⟨rfl, hc⟩
  | @cons o o₁ o₂ cs r p ps hf _ ih =>
    obtain ⟨c', hc', hr⟩ := @row_of_first place _ _ _ _ _ hf c hc n
    obtain ⟨hw, ho⟩ := ih hc' (n + p.text.length)
    rw [hr]
    exact ⟨congrArg (p.words place n ++ ·) hw, ho⟩

/-- The words of lines are the words among their parts, line by line. -/
theorem rows_of_layout {ls : List String} {pss : List (List Part)} (source : Option String)
    (h : Layout o (ls.map chars) pss o₁) {c : Option Lexeme} (hc : c.isSome = o) (k : Int) :
    (rows source c k ls).words = layoutWords source k ls pss := by
  induction ls generalizing c k o pss with
  | nil =>
    cases h with
    | nil => rfl
  | cons line ls ih =>
    obtain ⟨ps, pss, o', rfl, hp, hl⟩ := h.exists_eq_cons
    obtain ⟨hw, ho⟩ :=
      @row_of_parts (columns (Text.dropLineEnd line) k source) _ _ _ _ hp c hc 0
    exact congrArg₂ (· ++ ·) hw (ih hl ho (k + 1))

/-- A token stands in a text from one column up to another. -/
structure WordAt (cs : List Char) (start stop : Nat) (t : Token) : Prop where
  lt : start < stop
  le : stop ≤ cs.length
  token : t = classify (String.ofList ((cs.take stop).drop start))
  unbroken : ∀ c ∈ (cs.take stop).drop start, Text.isBlank c = false
  apart : Apart (cs.drop stop)

/-- A word between a front and a blank stands in the text behind the front. -/
theorem wordAt_append (pre w : List Char) (hw : w ≠ []) (hb : ∀ c ∈ w, Text.isBlank c = false)
    (ha : Apart r) : WordAt (pre ++ (w ++ r)) pre.length (pre.length + w.length)
      (classify (String.ofList w)) := by
  have hslice : ((pre ++ (w ++ r)).take (pre.length + w.length)).drop pre.length = w := by
    rw [List.take_length_add_append, List.take_left, List.drop_left]
  refine ⟨?_, ?_, by rw [hslice], by rw [hslice]; exact hb, ?_⟩
  · have hpos := List.length_pos_of_ne_nil hw
    omega
  · simp only [List.length_append]
    omega
  · rw [← List.length_append, ← List.append_assoc, List.drop_left]
    exact ha

/-- Every word among the parts of a text stands in it.  The induction is on the parts, with the text
in front of them. -/
theorem wordAt_of_mem (h : Parts o cs ps o₁) (pre : List Char) {x : Lexeme}
    (hx : x ∈ partWords place pre.length ps) : ∃ start stop, x.place = place start stop ∧
      WordAt (pre ++ cs) start stop x.token := by
  induction h generalizing pre with
  | nil => cases hx
  | @cons o o₁ o₂ cs r p ps hf _ ih =>
    rcases List.mem_append.1 hx with hx | hx
    · cases hf with
      | @word c w r hb hp hw ha =>
        obtain rfl := List.mem_singleton.1 hx
        refine ⟨_, _, rfl, wordAt_append pre (c :: w) (List.cons_ne_nil _ _) ?_ ha⟩
        rintro d hd
        rcases List.mem_cons.1 hd with rfl | hd
        · exact hb
        · exact hw d hd
      | blank | lineComment | block | opened | closed | unclosed => cases hx
    · rw [← List.length_append] at hx
      obtain ⟨start, stop, hp, hw⟩ := ih (pre ++ p.text) hx
      refine ⟨start, stop, hp, ?_⟩
      rwa [List.append_assoc, ← hf.eq_append] at hw

section Order

variable {line : String} {k : Int} {source : Option String}

/-- The words among parts begin no earlier than the parts. -/
theorem le_start_of_mem {x : Lexeme} {n : Nat}
    (hx : x ∈ partWords (columns line k source) n ps) : (n : Int) ≤ x.place.start := by
  induction ps generalizing n with
  | nil => cases hx
  | cons p ps ih =>
    rcases List.mem_append.1 hx with hx | hx
    · cases p with
      | word w =>
        obtain rfl := List.mem_singleton.1 hx
        exact Int.le_refl _
      | blank | lineComment | blockComment => cases hx
    · have hle := ih hx
      omega

/-- After a word, the next one does not begin at once.  What follows a word is a blank, which takes a
column. -/
theorem lt_start_of_apart (h : Parts false cs ps o₁) (ha : Apart cs) {x : Lexeme} {n : Nat}
    (hx : x ∈ partWords (columns line k source) n ps) : (n : Int) < x.place.start := by
  cases h with
  | nil => cases hx
  | cons hf _ =>
    have hb := isBlank_percent
    cases hf with
    | @blank c r hc =>
      have hle := le_start_of_mem (n := n + 1) hx
      omega
    | @word c w r hc =>
      have hc' := ha c rfl
      rw [hc] at hc'
      cases hc'
    | lineComment | block | opened =>
      have hc' := ha '%' rfl
      rw [hb] at hc'
      cases hc'

/-- The words of a line come one after another, with a gap. -/
theorem pairwise_partWords (h : Parts o cs ps o₁) (n : Nat) :
    (partWords (columns line k source) n ps).Pairwise fun x y => x.place.stop < y.place.start := by
  induction h generalizing n with
  | nil => exact List.Pairwise.nil
  | @cons o o₁ o₂ cs r p ps hf hp ih =>
    refine List.pairwise_append.2 ⟨?_, ih _, fun x hx y hy => ?_⟩
    · cases p <;> simp [Part.words]
    · cases hf with
      | word hb hp' hw ha =>
        obtain rfl := List.mem_singleton.1 hx
        have hlt := lt_start_of_apart hp ha hy
        exact_mod_cast hlt
      | blank | lineComment | block | opened | closed | unclosed => cases hx

end Order

/-- A lexeme is a word that stands on a line, which is numbered from a number on. -/
def Stands (number : Int) (lines : List String) (source : Option String) (x : Lexeme) : Prop :=
  ∃ (k : Nat) (line : String) (start stop : Nat), lines[k]? = some line ∧
    x.place = columns (Text.dropLineEnd line) (number + k) source start stop ∧
      WordAt (chars line) start stop x.token

/-- A lexeme stands before another: on an earlier line, or on the same line with a gap. -/
def Before (x y : Lexeme) : Prop :=
  x.place.lineNumber < y.place.lineNumber ∨
    x.place.lineNumber = y.place.lineNumber ∧ x.place.stop < y.place.start

variable {ls : List String} {pss : List (List Part)} {source : Option String}

/-- Every word among the parts of lines stands on one of the lines.  The induction is on the lines,
of which each takes the number after the one before. -/
theorem stands_of_mem (h : Layout o (ls.map chars) pss o₁) {number : Int} {x : Lexeme}
    (hx : x ∈ layoutWords source number ls pss) : Stands number ls source x := by
  induction ls generalizing number o pss with
  | nil =>
    cases h with
    | nil => cases hx
  | cons line ls ih =>
    obtain ⟨ps, pss, o', rfl, hp, hl⟩ := h.exists_eq_cons
    rcases List.mem_append.1 hx with hx | hx
    · obtain ⟨start, stop, hplace, hw⟩ := wordAt_of_mem hp [] hx
      rw [List.nil_append] at hw
      refine ⟨0, line, start, stop, rfl, ?_, hw⟩
      rw [hplace, Int.natCast_zero, Int.add_zero]
    · obtain ⟨k, line', start, stop, hk, hplace, hw⟩ := ih hl hx
      refine ⟨k + 1, line', start, stop, hk, ?_, hw⟩
      rw [hplace, show number + 1 + (k : Int) = number + ((k + 1 : Nat) : Int) by omega]

/-- The words among the parts of lines come one after another, from line to line and with gaps on
each of them. -/
theorem pairwise_layoutWords (h : Layout o (ls.map chars) pss o₁) (number : Int) :
    (layoutWords source number ls pss).Pairwise Before := by
  induction ls generalizing number o pss with
  | nil =>
    cases h with
    | nil => exact List.Pairwise.nil
  | cons line ls ih =>
    obtain ⟨ps, pss, o', rfl, hp, hl⟩ := h.exists_eq_cons
    have hline : ∀ x ∈ partWords (columns (Text.dropLineEnd line) number source) 0 ps,
        x.place.lineNumber = number := by
      intro x hx
      obtain ⟨start, stop, hplace, -⟩ := wordAt_of_mem hp [] hx
      rw [hplace]
      rfl
    refine List.pairwise_append.2 ⟨?_, ih hl _, fun x hx y hy => .inl ?_⟩
    · refine (pairwise_partWords hp 0).imp_of_mem fun hx hy hlt => .inr ⟨?_, hlt⟩
      rw [hline _ hx, hline _ hy]
    · obtain ⟨k, line', start, stop, -, hplace, -⟩ := stands_of_mem hl hy
      rw [hline x hx, hplace]
      show number < number + 1 + (k : Int)
      omega

/-- A number token is not empty and has digits only. -/
theorem digits_of_number {word : String} (hw : word ≠ "") (hk : (classify word).kind = .number) :
    (classify word).text ≠ "" ∧ (classify word).text.toList.all isDecimalDigit = true := by
  unfold classify at hk ⊢
  split at hk
  · rename_i k hl
    exact absurd hk (kind_ne_of_lookup hl).1
  · simp only at hk ⊢
    split at hk
    · rename_i hd
      rw [if_pos hd]
      exact ⟨hw, hd⟩
    · split at hk <;> cases hk

/-- A number token that stands on a line has digits only, and at least one.  A text is classified as
a number by its digits, and no word is empty. -/
theorem Stands.digits {number : Int} {x : Lexeme} (h : Stands number ls source x)
    (hk : x.kind = .number) : x.text ≠ "" ∧ x.text.toList.all isDecimalDigit = true := by
  obtain ⟨k, line, start, stop, -, -, hw⟩ := h
  have hne : String.ofList (((chars line).take stop).drop start) ≠ "" := by
    have hlt := hw.lt
    have hle := hw.le
    intro he
    have hlen := congrArg (fun s : String => s.toList.length) he
    simp at hlen
    omega
  have hkind : x.token.kind = .number := hk
  rw [hw.token] at hkind
  rw [Lexeme.text, hw.token]
  exact digits_of_number hne hkind

/-- **A lexer accounts for every character.**  The lines of a script are made up of parts, in one
way only, and no character is lost or in two of them.  What a lexer gives that reads the lines are
the words among the parts, in order, and then the end of the file.  Each of them has its line,
numbered from 1, and the columns between which it stands there; it has no blank, and a blank or the
end of the line follows it.  The words come in order with gaps between them; so none is empty, and
every number has digits. -/
theorem lexes_layout (lines : List String) (source : Option String) : ∃ pss o,
    Layout false (lines.map chars) pss o ∧
    (∀ qss o', Layout false (lines.map chars) qss o' → qss = pss ∧ o' = o) ∧
    pss.map (fun ps => ps.flatMap text) = lines.map chars ∧
    (reading lines source).words = layoutWords source 1 lines pss ∧
    (∃ place, (reading lines source).tokens.1 =
      (reading lines source).words ++ [⟨⟨.endOfFile, ""⟩, place⟩]) ∧
    (∀ x ∈ (reading lines source).words, x.kind ≠ .endOfFile ∧ Stands 1 lines source x ∧
      (x.kind = .number → x.text ≠ "" ∧ x.text.toList.all isDecimalDigit = true)) ∧
    (reading lines source).words.Pairwise Before := by
  obtain ⟨pss, o, h⟩ := exists_layout false (lines.map chars)
  have hw : (reading lines source).words = layoutWords source 1 lines pss := by
    rw [words_reading, rows_of_layout source h rfl]
  refine ⟨pss, o, h, fun qss o' h' => h'.unique h, h.map_flatMap_text, hw, tokens_eq _,
    fun x hx => ?_, ?_⟩
  · have hs : Stands 1 lines source x := stands_of_mem h (hw ▸ hx)
    exact ⟨(of_mem_words hx).2, hs, hs.digits⟩
  · rw [hw]
    exact pairwise_layoutWords h 1

example : ((reading ["%=% 1", "=%HOME %==%2 a%=b"] none).words.map fun x =>
    (x.text, x.place.lineNumber, x.place.start, x.place.stop)) =
      [("HOME", 2, 2, 6), ("2", 2, 11, 12), ("a%=b", 2, 13, 17)] := by
  decide +kernel

end Lexer
end PlotScript
