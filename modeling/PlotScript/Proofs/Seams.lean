/-
# Seams of a line

A line is sanitized before it is handed over: the characters that cannot be shown are left out, and
the blanks around the rest.  Of the blanks only the space can be shown, so the others are left out
wherever they are.  Mostly this makes no difference, as a word, a comment and a blank are still what
they were (`Part.parts_shown`).  It makes one at a *seam*, and only there (`Part.First.shown_iff`):
where nothing but such blanks stands between characters that mean something else when they come
together.

| between | come together as |
| --- | --- |
| a word and the next character that can be shown, if this is not a space | one word |
| the `%` of a comment up to the end of the line and `=` | the beginning of a block comment |
| `=` and `%` in a block comment | its end |

A line without a seam has the same words when it is sanitized, and leaves a block comment open in
the same cases (`Lexer.alike_sanitize`); and so it is with the lines of a script
(`Lexer.sanitize_of_seamless`).

The language specification, §4.3, has each line sanitized: stripped of what cannot be printed, and
trimmed.
-/

import PlotScript.Proofs.Blanks
import PlotScript.Text.Printable

namespace PlotScript
namespace Text

/-- The characters of a text that can be shown. -/
def shown (cs : List Char) : List Char := cs.filter isPrintable

/-- No character of a text can be shown. -/
def Hidden (cs : List Char) : Prop := ∀ c ∈ cs, isPrintable c = false

/-- Every character of a text can be shown or is a blank. -/
def Legible (cs : List Char) : Prop := ∀ c ∈ cs, isPrintable c = true ∨ isBlank c = true

instance (cs : List Char) : Decidable (Legible cs) :=
  decidable_of_iff ((cs.all fun c => isPrintable c || isBlank c) = true) (by simp [Legible])

/-- The numbers of the blanks. -/
def blankCodes : List Nat :=
  List.range' 0x09 5 ++ List.range' 0x1C 5 ++ [0x85, 0xA0, 0x1680] ++ List.range' 0x2000 11 ++
    [0x2028, 0x2029, 0x202F, 0x205F, 0x3000]

variable {c d : Char} {cs r s : List Char}

/-- The blanks are these characters. -/
theorem toNat_mem_blankCodes (h : isBlank c = true) : c.toNat ∈ blankCodes := by
  simp only [isBlank, Bool.or_eq_true, Bool.and_eq_true, decide_eq_true_eq, beq_iff_eq] at h
  simp only [blankCodes, List.mem_append, List.mem_range'_1, List.mem_cons, List.not_mem_nil]
  omega

/-- **Of the blanks only the space can be shown.** -/
theorem eq_space_of_isBlank (hb : isBlank c = true) (hp : isPrintable c = true) : c = ' ' := by
  have hall : ∀ n ∈ blankCodes, isPrintable (Char.ofNat n) = true → Char.ofNat n = ' ' := by
    decide +kernel
  have hc := hall c.toNat (toNat_mem_blankCodes hb)
  rw [Char.ofNat_toNat] at hc
  exact hc hp

/-- What is no blank in a legible text can be shown. -/
theorem Legible.isPrintable_of_not (h : Legible cs) (hc : c ∈ cs) (hb : isBlank c = false) :
    isPrintable c = true := by
  rcases h c hc with hp | hb'
  · exact hp
  · rw [hb] at hb'
    cases hb'

/-- The second part of a legible text is legible. -/
theorem Legible.append_right (h : Legible (cs ++ r)) : Legible r :=
  fun c hc => h c (List.mem_append_right cs hc)

/-- What is shown of two texts one after the other is shown of each. -/
theorem shown_append (cs r : List Char) : shown (cs ++ r) = shown cs ++ shown r :=
  List.filter_append cs r

/-- A character that can be shown is shown in front of the others. -/
theorem shown_cons (hc : isPrintable c = true) (cs : List Char) : shown (c :: cs) = c :: shown cs :=
  List.filter_cons_of_pos hc

/-- What is shown is in the text, and can be shown. -/
theorem mem_of_mem_shown (hc : c ∈ shown cs) : c ∈ cs ∧ isPrintable c = true := List.mem_filter.1 hc

/-- A text that can be shown is shown as it is. -/
theorem shown_of_forall (h : ∀ c ∈ cs, isPrintable c = true) : shown cs = cs :=
  List.filter_eq_self.2 h

/-- Hidden characters in front of one that can be shown are left out. -/
theorem Hidden.shown_append (h : Hidden cs) (hd : isPrintable d = true) (r : List Char) :
    shown (cs ++ d :: r) = d :: shown r := by
  have hnone : shown cs = [] := List.filter_eq_nil_iff.2 fun c hc => by simp [h c hc]
  rw [Text.shown_append, hnone, List.nil_append, shown_cons hd]

/-- What is left out before the first character that is shown. -/
theorem exists_of_shown_eq_cons (h : shown cs = d :: s) : ∃ hidden r, cs = hidden ++ d :: r ∧
    Hidden hidden ∧ isPrintable d = true ∧ shown r = s := by
  obtain ⟨hidden, r, hcs, hh, hd, hs⟩ := List.filter_eq_cons_iff.1 h
  exact ⟨hidden, r, hcs, fun c hc => by simpa using hh c hc, hd, hs⟩

/-- What is left out between two characters that are shown one after the other. -/
theorem exists_of_pair_infix_shown (h : [c, d] <:+: shown cs) : ∃ before hidden after,
    cs = before ++ c :: (hidden ++ d :: after) ∧ Hidden hidden := by
  obtain ⟨u, v, huv⟩ := h
  rw [List.append_assoc] at huv
  obtain ⟨before, m, rfl, -, hm⟩ := List.filter_eq_append_iff.1 huv.symm
  obtain ⟨skipped, m, rfl, -, -, hm⟩ := exists_of_shown_eq_cons hm
  obtain ⟨hidden, after, rfl, hh, -, -⟩ := exists_of_shown_eq_cons hm
  exact ⟨before ++ skipped, hidden, after, by simp, hh⟩

/-- What ends a line cannot be shown. -/
theorem isPrintable_of_isLineEnd (h : isLineEnd c = true) : isPrintable c = false := by
  rw [isLineEnd, Bool.or_eq_true, beq_iff_eq, beq_iff_eq] at h
  rcases h with rfl | rfl <;> decide

/-- What ends a line is not shown. -/
theorem shown_dropLineEnd (line : String) :
    shown (dropLineEnd line).toList = shown line.toList := by
  have hends : shown (line.toList.reverse.takeWhile isLineEnd).reverse = [] := by
    refine List.filter_eq_nil_iff.2 fun c hc => ?_
    rw [isPrintable_of_isLineEnd (List.mem_takeWhile_imp (List.mem_reverse.1 hc))]
    decide
  have hline : line.toList = (line.toList.reverse.dropWhile isLineEnd).reverse ++
      (line.toList.reverse.takeWhile isLineEnd).reverse := by
    rw [← List.reverse_append, List.takeWhile_append_dropWhile, List.reverse_reverse]
  have hdrop : (dropLineEnd line).toList = (line.toList.reverse.dropWhile isLineEnd).reverse :=
    String.toList_ofList
  rw [hdrop]
  conv_rhs => rw [hline, shown_append, hends, List.append_nil]

/-- A line is sanitized by leaving out what cannot be shown, and then the blanks around the rest. -/
theorem sanitize_eq (line : String) :
    sanitize line = trim (String.ofList (shown line.toList)) := rfl

/-- A line that can be shown is sanitized by leaving out the blanks around it. -/
theorem sanitize_eq_trim {s : String} (h : ∀ c ∈ s.toList, isPrintable c = true) :
    sanitize s = trim s := by
  rw [sanitize_eq, shown_of_forall h, String.ofList_toList]

/-- A sanitized line does not end in what ends a line. -/
theorem dropLineEnd_sanitize (line : String) : dropLineEnd (sanitize line) = sanitize line := by
  refine dropLineEnd_of_forall fun c hc => ?_
  rw [sanitize_eq] at hc
  have hmem := mem_of_mem_trim hc
  rw [String.toList_ofList] at hmem
  by_contra hend
  have hp := (mem_of_mem_shown hmem).2
  rw [isPrintable_of_isLineEnd (by simpa using hend)] at hp
  cases hp

/-- A legible line is legible without its end. -/
theorem Legible.dropLineEnd {line : String} (h : Legible line.toList) :
    Legible (dropLineEnd line).toList := by
  intro c hc
  rw [Text.dropLineEnd, dropWhileEnd, String.toList_ofList, List.mem_reverse] at hc
  exact h c (List.mem_reverse.1 ((List.dropWhile_sublist _).subset hc))

end Text

namespace Part

open Text

/-- Hidden characters, and nothing else, stand between an `=` and a `%`. -/
def Parted (cs : List Char) : Prop :=
  ∃ before hidden after, cs = before ++ '=' :: (hidden ++ '%' :: after) ∧ hidden ≠ [] ∧
    Hidden hidden

/-- A part, and what comes after it, mean something else without the characters that cannot be
shown.  A block comment may have been open before the part. -/
inductive Seam : Bool → Part → List Char → Prop
  | word {o : Bool} {w hidden r : List Char} {d : Char} : hidden ≠ [] → Hidden hidden →
    isPrintable d = true → d ≠ ' ' → Seam o (word w) (hidden ++ d :: r)
  | lineComment {o : Bool} {hidden r after : List Char} : hidden ≠ [] → Hidden hidden →
    Seam o (lineComment ('%' :: (hidden ++ '=' :: r))) after
  | blockComment {cs after : List Char} : Parted cs →
    Seam false (blockComment ('%' :: '=' :: cs)) after
  | openComment {cs after : List Char} : Parted cs → Seam true (blockComment cs) after

/-- A text has a seam, at its first part or later. -/
inductive Seamed : Bool → List Char → Prop
  | here {o o₁ : Bool} {cs r : List Char} {p : Part} : First o cs p r o₁ → Seam o p r → Seamed o cs
  | later {o o₁ : Bool} {cs r : List Char} {p : Part} : First o cs p r o₁ → Seamed o₁ r →
    Seamed o cs

/-- No line has a seam, each with the block comment that is open before it. -/
inductive Seamless : Bool → List (List Char) → Prop
  | nil (o : Bool) : Seamless o []
  | cons {o o₁ : Bool} {cs : List Char} {ls : List (List Char)} {ps : List Part} :
    Parts o cs ps o₁ → ¬Seamed o cs → Seamless o₁ ls → Seamless o (cs :: ls)

/-- What is left of a part. -/
def shown? : Part → Option Part
  | word w => some (word w)
  | blank c => if isPrintable c then some (blank c) else none
  | lineComment cs => some (lineComment (shown cs))
  | blockComment cs => if shown cs = [] then none else some (blockComment (shown cs))

variable {o o₁ : Bool} {cs r t w : List Char} {p : Part} {ps : List Part}

/-- Whether a text has a seam is decided part by part. -/
theorem seamed_iff (h : First o cs p r o₁) : Seamed o cs ↔ Seam o p r ∨ Seamed o₁ r := by
  constructor
  · rintro (⟨hf, hs⟩ | ⟨hf, hs⟩)
    · obtain ⟨rfl, rfl, rfl⟩ := h.unique hf rfl
      exact .inl hs
    · obtain ⟨rfl, rfl, rfl⟩ := h.unique hf rfl
      exact .inr hs
  · rintro (hs | hs)
    · exact .here h hs
    · exact .later h hs

/-- At a seam something is hidden. -/
theorem Seam.exists_hidden (h : Seam o p r) : ∃ c ∈ p.text ++ r, isPrintable c = false := by
  cases h with
  | word hne hh _ _ | lineComment hne hh =>
    obtain ⟨c, hc⟩ := List.exists_mem_of_ne_nil _ hne
    exact ⟨c, by simp [text, hc], hh c hc⟩
  | blockComment hp | openComment hp =>
    obtain ⟨_, _, _, rfl, hne, hh⟩ := hp
    obtain ⟨c, hc⟩ := List.exists_mem_of_ne_nil _ hne
    exact ⟨c, by simp [text, hc], hh c hc⟩

/-- **A text all of which can be shown has no seam.** -/
theorem not_seamed_of_forall (h : ∀ c ∈ cs, isPrintable c = true) : ¬Seamed o cs := by
  intro hs
  induction hs with
  | here hf hs =>
    obtain ⟨c, hc, hp⟩ := hs.exists_hidden
    rw [h c (hf.eq_append ▸ hc)] at hp
    cases hp
  | later hf _ ih => exact ih fun c hc => h c (hf.eq_append ▸ List.mem_append_right _ hc)

/-- There is no seam where a space can be shown after a word. -/
theorem Seam.head_ne_space (h : Seam o (.word w) r) : (shown r).head? ≠ some ' ' := by
  cases h with
  | word hne hh hp hd =>
    rw [hh.shown_append hp]
    exact fun he => hd (Option.some.inj he)

/-- **A word without a seam ends where it ended.** -/
theorem apart_shown (ha : Apart r) (hs : ¬Seam o (word w) r) : Apart (shown r) := by
  intro d hd
  obtain ⟨s, hs'⟩ := List.head?_eq_some_iff.1 hd
  obtain ⟨hidden, r, rfl, hh, hp, -⟩ := exists_of_shown_eq_cons hs'
  by_cases hspace : d = ' '
  · subst hspace
    rfl
  · by_cases hnil : hidden = []
    · subst hnil
      exact ha d rfl
    · exact absurd (Seam.word hnil hh hp hspace) hs

/-- **A block comment without a seam is still open.** -/
theorem Unclosed.shown (hu : Unclosed cs) (hs : ¬Parted cs) : Unclosed (shown cs) := by
  intro hin
  obtain ⟨before, hidden, after, rfl, hh⟩ := exists_of_pair_infix_shown hin
  refine hs ⟨before, hidden, after, rfl, ?_, hh⟩
  rintro rfl
  exact hu ⟨before, after, by simp⟩

/-- **A block comment without a seam ends where it ended.** -/
theorem Closing.shown (hc : Closing cs) (hs : ¬Parted cs) : Closing (shown cs) := by
  obtain ⟨t, rfl, hu⟩ := hc
  refine ⟨Text.shown t, shown_append t _, ?_⟩
  have hlast : Text.shown (t ++ ['=']) = Text.shown t ++ ['='] := shown_append t _
  rw [← hlast]
  refine Unclosed.shown hu ?_
  rintro ⟨before, hidden, after, hcs, hne, hh⟩
  refine hs ⟨before, hidden, after ++ ['%'], ?_, hne, hh⟩
  calc t ++ ['=', '%'] = (t ++ ['=']) ++ ['%'] := by simp
    _ = before ++ '=' :: (hidden ++ '%' :: (after ++ ['%'])) := by rw [hcs]; simp

/-- **The first part of a text without a seam** is the first part of what is shown of the text, or
nothing of it is shown.  The cases are the kinds of parts: a blank, a word, and comments that end or
stay open. -/
theorem First.shown (h : First o cs p r o₁) (hl : Legible cs) (hs : ¬Seam o p r) :
    (∃ q, p.shown? = some q ∧ First o (shown cs) q (shown r) o₁) ∨
      (p.shown? = none ∧ shown cs = shown r ∧ o = o₁) := by
  cases h with
  | @blank c r hb =>
    by_cases hp : isPrintable c = true
    · refine .inl ⟨.blank c, if_pos hp, ?_⟩
      rw [shown_cons hp]
      exact .blank hb
    · exact .inr ⟨if_neg hp, List.filter_cons_of_neg hp, rfl⟩
  | @word c w r hb hp hw ha =>
    have hword : ∀ d ∈ c :: w, isPrintable d = true := by
      intro d hd
      refine hl.isPrintable_of_not (List.mem_append_left r hd) ?_
      rcases List.mem_cons.1 hd with rfl | hd
      · exact hb
      · exact hw d hd
    refine .inl ⟨.word (c :: w), rfl, ?_⟩
    rw [shown_append, shown_of_forall hword]
    exact .word hb hp hw (apart_shown ha hs)
  | @lineComment cs hn =>
    refine .inl ⟨.lineComment (Text.shown ('%' :: cs)), rfl, ?_⟩
    rw [shown_cons (by decide)]
    -- A mark that opens a block comment only once the hidden characters are gone is a seam.
    refine .lineComment fun hh => ?_
    obtain ⟨s, hs'⟩ := List.head?_eq_some_iff.1 hh
    obtain ⟨hidden, r, rfl, hhidden, -, -⟩ := exists_of_shown_eq_cons hs'
    refine hs (.lineComment ?_ hhidden)
    rintro rfl
    exact hn rfl
  | @block cs r hc =>
    refine .inl ⟨.blockComment ('%' :: '=' :: Text.shown cs), rfl, ?_⟩
    have hc' : Closing (Text.shown cs) := hc.shown fun hp => hs (.blockComment hp)
    rw [shown_append]
    exact .block hc'
  | @opened cs hu =>
    refine .inl ⟨.blockComment ('%' :: '=' :: Text.shown cs), rfl, ?_⟩
    exact First.opened (hu.shown fun hp => hs (.blockComment hp))
  | @closed cs r hc =>
    have hc' : Closing (Text.shown cs) := hc.shown fun hp => hs (.openComment hp)
    refine .inl ⟨.blockComment (Text.shown cs), if_neg hc'.ne_nil, ?_⟩
    rw [shown_append]
    exact .closed hc'
  | unclosed hne hu =>
    have hu' : Unclosed (Text.shown cs) := hu.shown fun hp => hs (.openComment hp)
    by_cases hnone : Text.shown cs = []
    · exact .inr ⟨if_pos hnone, hnone, rfl⟩
    · exact .inl ⟨.blockComment (Text.shown cs), if_neg hnone, .unclosed hnone hu'⟩

/-- A text that is closed goes on after no `=%`. -/
theorem Closing.eq_nil_of_append {u v : List Char} (h : Closing (u ++ '=' :: '%' :: v)) :
    v = [] := by
  obtain ⟨t, ht, hu⟩ := h
  by_contra hv
  have hfront : u ++ '=' :: '%' :: v.dropLast = t ++ ['='] := by
    have hlast := congrArg List.dropLast ht
    rw [List.dropLast_append_of_ne_nil (List.cons_ne_nil _ _),
      List.dropLast_append_of_ne_nil (List.cons_ne_nil _ _), List.dropLast_cons_of_ne_nil (by simp),
      List.dropLast_cons_of_ne_nil hv] at hlast
    exact hlast
  exact hu (hfront ▸ ⟨u, v.dropLast, by simp⟩)

/-- Whether a block comment is open behind a text that is in one. -/
def Ends (o : Bool) (cs : List Char) : Prop := if o then Unclosed cs else Closing cs

/-- Behind a block comment that opens at the front of a text, one is open exactly if it has no
`=%`. -/
theorem First.ends_of_false (h : First false cs (.blockComment ('%' :: '=' :: t)) r o₁) :
    Ends o₁ t := by
  cases h with
  | block hc => exact hc
  | opened hu => exact hu

/-- Behind a block comment that was open before a text, one is open exactly if the text has no
`=%`. -/
theorem First.ends_of_true (h : First true cs (.blockComment t) r o₁) : Ends o₁ t := by
  cases h with
  | closed hc => exact hc
  | unclosed _ hu => exact hu

/-- Behind `=` and `%` that are not together, a closed text goes on with what can be shown. -/
theorem Closing.shown_ne_nil {hidden s : List Char}
    (h : Closing (t ++ '=' :: (hidden ++ '%' :: s))) (hne : hidden ≠ []) (hh : Hidden hidden) :
    Text.shown s ≠ [] := by
  obtain ⟨u, hu, -⟩ := h
  rcases List.eq_nil_or_concat s with rfl | ⟨s, c, rfl⟩
  · obtain ⟨front, c, rfl⟩ := (List.eq_nil_or_concat hidden).resolve_left hne
    have hlast : (t ++ '=' :: front) ++ [c, '%'] = u ++ ['=', '%'] := by
      rw [← hu]
      simp
    obtain ⟨rfl, -⟩ := List.cons.inj (List.append_inj_right' hlast rfl)
    exact absurd (hh '=' (by simp)) (by decide)
  · have hlast : (t ++ '=' :: (hidden ++ '%' :: s)) ++ [c] = (u ++ ['=']) ++ ['%'] := by
      rw [List.append_assoc u, List.singleton_append, ← hu]
      simp
    obtain ⟨rfl, -⟩ := List.cons.inj (List.append_inj_right' hlast rfl)
    rw [List.concat_eq_append, shown_append]
    exact List.append_ne_nil_of_right_ne_nil _ (List.cons_ne_nil '%' [])

/-- Something is shown of a text in which `=` and `%` are parted. -/
theorem Parted.shown_ne_nil (h : Parted cs) : Text.shown cs ≠ [] := by
  obtain ⟨before, hidden, after, rfl, -⟩ := h
  rw [shown_append]
  exact List.append_ne_nil_of_right_ne_nil _ (List.cons_ne_nil '=' _)

/-- An `=` and a `%` that come together end a block comment sooner. -/
theorem Ends.not_shown (h : Ends o cs) (hp : Parted cs) : ¬Ends o (shown cs) := by
  obtain ⟨before, hidden, after, rfl, hne, hh⟩ := hp
  have hshown : shown (before ++ '=' :: (hidden ++ '%' :: after)) =
      shown before ++ '=' :: '%' :: shown after := by
    rw [shown_append, shown_cons (by decide), hh.shown_append (by decide)]
  rw [hshown]
  cases o with
  | true => exact fun hu => hu ⟨shown before, shown after, by simp⟩
  | false => exact fun hc => Closing.shown_ne_nil h hne hh hc.eq_nil_of_append

/-- **The first part of a text is kept exactly if it has no seam.**  With a seam, the sanitized text
has another first part: a longer word, or a comment of another kind or length. -/
theorem First.shown_iff (h : First o cs p r o₁) (hl : Legible cs) :
    ((∃ q, p.shown? = some q ∧ First o (Text.shown cs) q (Text.shown r) o₁) ∨
      (p.shown? = none ∧ Text.shown cs = Text.shown r ∧ o = o₁)) ↔ ¬Seam o p r := by
  refine ⟨fun hk hs => ?_, h.shown hl⟩
  cases hs with
  | @word _ w hidden s d hne hh hp hd =>
    rcases hk with ⟨q, hq, hf⟩ | ⟨hnone, -⟩
    · cases hq
      rw [hh.shown_append hp] at hf
      -- The character behind the word would have to be a blank.
      have ha : Apart (d :: Text.shown s) := by
        generalize Text.shown cs = cs at hf
        cases hf with
        | word _ _ _ ha => exact ha
      exact hd (eq_space_of_isBlank (ha d rfl) hp)
    · cases hnone
  | @lineComment _ hidden s _ hne hh =>
    rcases hk with ⟨q, hq, hf⟩ | ⟨hnone, -⟩
    · cases hq
      rw [shown_cons (by decide), hh.shown_append (by decide)] at hf
      generalize Text.shown cs = cs, Text.shown r = r at hf
      cases hf with
      | lineComment hn => exact hn rfl
    · cases hnone
  | @blockComment t _ hp =>
    have hshown : Text.shown ('%' :: '=' :: t) = '%' :: '=' :: Text.shown t := rfl
    simp only [shown?, hshown, List.cons_ne_nil, if_false, Option.some.injEq, exists_eq_left',
      reduceCtorEq, false_and, or_false] at hk
    exact h.ends_of_false.not_shown hp hk.ends_of_false
  | @openComment t _ hp =>
    simp only [shown?, hp.shown_ne_nil, if_false, Option.some.injEq, exists_eq_left',
      reduceCtorEq, false_and, or_false] at hk
    exact h.ends_of_true.not_shown hp hk.ends_of_true

/-- **The parts of a text without a seam are the parts of what is shown of it.** -/
theorem parts_shown (h : Parts o cs ps o₁) (hl : Legible cs) (hs : ¬Seamed o cs) :
    Parts o (shown cs) (ps.filterMap shown?) o₁ := by
  induction h with
  | nil o => exact .nil o
  | cons hf _ ih =>
    have hr := ih (hf.eq_append ▸ hl).append_right fun h => hs (.later hf h)
    rcases hf.shown hl fun h => hs (.here hf h) with ⟨q, hq, hfirst⟩ | ⟨hq, hcs, rfl⟩
    · rw [List.filterMap_cons_some hq]
      exact .cons hfirst hr
    · rw [List.filterMap_cons_none hq, hcs]
      exact hr

end Part

namespace Lexer

open PlotScript.Part Text

variable {place place' : Nat → Nat → Place} {c c' : Option Lexeme} {n n' : Nat} {cs : List Char}
  {line : String} {ls : List String} {source source' : Option String} {k k' : Int}

/-- A word is shown as it is, and nothing else is shown as a word. -/
theorem alike_words_shown {p q : Part} (hq : p.shown? = some q) :
    Alike (q.words place n) (p.words place' n') := by
  cases p with
  | word w =>
    cases hq
    exact .cons rfl .nil
  | lineComment cs =>
    cases hq
    exact .nil
  | blank d =>
    unfold shown? at hq
    obtain ⟨-, hq⟩ := Option.ite_none_right_eq_some.1 hq
    cases hq
    exact .nil
  | blockComment cs =>
    unfold shown? at hq
    obtain ⟨-, hq⟩ := Option.ite_none_left_eq_some.1 hq
    cases hq
    exact .nil

/-- A part of which nothing is shown is no word. -/
theorem words_eq_nil_of_shown {p : Part} (hp : p.shown? = none) : p.words place n = [] := by
  cases p with
  | word | lineComment => cases hp
  | blank | blockComment => rfl

/-- The words among some parts are shown as they are. -/
theorem alike_partWords_shown (ps : List Part) :
    Alike (partWords place n (ps.filterMap shown?)) (partWords place' n' ps) := by
  induction ps generalizing n n' with
  | nil => exact .nil
  | cons p ps ih =>
    cases hp : p.shown? with
    | none =>
      rw [List.filterMap_cons_none hp, partWords, words_eq_nil_of_shown hp]
      exact ih
    | some q =>
      rw [List.filterMap_cons_some hp]
      exact List.rel_append (alike_words_shown hp) ih

/-- **A text without a seam has the same words when only what can be shown of it is read.** -/
theorem alike_row_shown (hc : c.isSome = c'.isSome) (hl : Legible cs)
    (hs : ¬Seamed c'.isSome cs) :
    Alike (row place c n (shown cs)).words (row place' c' n' cs).words ∧
      (row place c n (shown cs)).comment.isSome = (row place' c' n' cs).comment.isSome := by
  obtain ⟨ps, o, h⟩ := Part.exists_parts c'.isSome cs
  obtain ⟨hw, ho⟩ := @row_of_parts place _ _ _ _ (parts_shown h hl hs) c hc n
  obtain ⟨hw', ho'⟩ := @row_of_parts place' _ _ _ _ h c' rfl n'
  rw [hw, hw']
  exact ⟨alike_partWords_shown ps, ho.trans ho'.symm⟩

/-- **A line without a seam has the same words when it is sanitized.** -/
theorem alike_sanitize (hc : c.isSome = c'.isSome) (hl : Legible line.toList)
    (hs : ¬Seamed c'.isSome (chars line)) :
    Alike (lineRow source c k (sanitize line)).words (lineRow source' c' k' line).words ∧
      (lineRow source c k (sanitize line)).comment.isSome =
        (lineRow source' c' k' line).comment.isSome := by
  rw [lineRow, lineRow, dropLineEnd_sanitize, sanitize_eq, ← shown_dropLineEnd]
  generalize columns (trim _) k source = place
  obtain ⟨htrim, hto⟩ := @alike_trim place place c c rfl
    (String.ofList (shown (dropLineEnd line).toList))
  rw [String.toList_ofList] at htrim hto
  obtain ⟨hshown, hso⟩ := @alike_row_shown place (columns (dropLineEnd line) k' source') c c' 0 0
    (dropLineEnd line).toList hc hl.dropLineEnd hs
  exact ⟨htrim.trans hshown, hto.trans hso⟩

/-- **Lines without a seam have the same words when each is sanitized.** -/
theorem alike_rows_sanitize (hc : c.isSome = c'.isSome) (hl : ∀ line ∈ ls, Legible line.toList)
    (hs : Seamless c'.isSome (ls.map chars)) :
    Alike (rows source c k (ls.map sanitize)).words (rows source' c' k' ls).words ∧
      (rows source c k (ls.map sanitize)).comment.isSome =
        (rows source' c' k' ls).comment.isSome := by
  induction ls generalizing c c' k k' with
  | nil => exact ⟨.nil, hc⟩
  | cons line ls ih =>
    cases hs with
    | cons hp hn hs =>
      obtain ⟨hw, ho⟩ := @alike_sanitize c c' line source source' k k' hc
        (hl line List.mem_cons_self) hn
      have hline : (lineRow source' c' k' line).comment.isSome = _ := (row_of_parts hp rfl 0).2
      obtain ⟨hws, hos⟩ := ih ho (fun l hm => hl l (.tail _ hm)) (hline ▸ hs)
      exact ⟨List.rel_append hw hws, hos⟩

/-- **Sanitizing a line changes nothing where the line has no seam.**  A lexer that is handed the
line as it is and one that is handed the sanitized line, with a block comment open in both or in
neither, give the same tokens, and a block comment is open afterwards in both or in neither.  So
the lines of a script that has no seams give the tokens of the script when each is sanitized and
handed over. -/
theorem sanitize_of_seamless :
    (∀ (x y : Lexer) (line : String) (number number' : Option Int), x.unread = none →
      y.unread = none → x.comment.isSome = y.comment.isSome → Legible line.toList →
      ¬Seamed y.comment.isSome (chars line) →
      ∃ l m x' y', x.lexLine (sanitize line) number = (.ok l, x') ∧
        y.lexLine line number' = (.ok m, y') ∧ l.map Lexeme.token = m.map Lexeme.token ∧
        x'.comment.isSome = y'.comment.isSome) ∧
    ∀ (ls : List String) (source source' : Option String), (∀ line ∈ ls, Legible line.toList) →
      Seamless false (ls.map chars) →
      ∃ l x', (handed source).lexLines (ls.map sanitize) = (.ok l, x') ∧
        l.map Lexeme.token = (reading ls source').words.map Lexeme.token ∧
        x'.comment.isSome = (reading ls source').tokens.2.2.comment.isSome := by
  constructor
  · intro x y line number number' hx hy hc hl hs
    obtain ⟨place, x', hlex, hcomment, -⟩ := lexLine_eq hx (sanitize line) number
    obtain ⟨place', y', hlex', hcomment', -⟩ := lexLine_eq hy line number'
    obtain ⟨hw, ho⟩ := @alike_sanitize x.comment y.comment line x.source y.source
      (number.getD (x.lineNumber + 1)) (number'.getD (y.lineNumber + 1)) hc hl hs
    refine ⟨_, _, x', y', hlex, hlex', ?_, ?_⟩
    · rw [List.map_append, List.map_append, hw.map_token]
      rfl
    · rw [hcomment, hcomment', ho]
  · intro ls source source' hl hs
    obtain ⟨x', hlex, hcomment, -⟩ := lexLines_eq (x := handed source) rfl (ls.map sanitize)
    obtain ⟨hw, ho⟩ := @alike_rows_sanitize none none ls source source' 1 1 rfl hl hs
    refine ⟨_, x', hlex, ?_, ?_⟩
    · rw [words_reading]
      exact hw.map_token
    · rw [hcomment, (reading ls source').ends_tokens.comment, ahead_reading]
      exact ho

/-- The tab is no seam, as a space comes after it. -/
theorem not_seamed_spacedTab : ¬Seamed false (chars "ACCEL\t 50\r\n") := by
  have hw : First false (chars "ACCEL\t 50\r\n") (.word "ACCEL".toList) "\t 50".toList false := by
    have hcel : ∀ d ∈ ['C', 'C', 'E', 'L'], isBlank d = false := by simp [isBlank]
    refine @First.word 'A' ['C', 'C', 'E', 'L'] "\t 50".toList rfl (by decide) hcel fun d hd => ?_
    obtain rfl : '\t' = d := Option.some.inj hd
    rfl
  have hb : First false "\t 50".toList (.blank '\t') " 50".toList false := .blank rfl
  rw [seamed_iff hw, seamed_iff hb]
  rintro (hs | hs | hs)
  · exact hs.head_ne_space (by decide +kernel)
  · cases hs
  · exact not_seamed_of_forall (List.all_eq_true.1 (by decide +kernel)) hs

/-- A tab before a space is left out of a line, handed over alone or behind a comment, and the words
are the same. -/
theorem sanitize_of_seamless_spacedTab :
    let line := "ACCEL\t 50\r\n"
    (∃ l m x y, (handed none).lexLine (sanitize line) none = (.ok l, x) ∧
      (handed none).lexLine line none = (.ok m, y) ∧ l.map Lexeme.token = m.map Lexeme.token ∧
      x.comment.isSome = y.comment.isSome) ∧
    ∃ l x, (handed none).lexLines (["% speed", line].map sanitize) = (.ok l, x) ∧
      l.map Lexeme.token = (reading ["% speed", line] none).words.map Lexeme.token ∧
      x.comment.isSome = (reading ["% speed", line] none).tokens.2.2.comment.isSome := by
  intro line
  refine ⟨sanitize_of_seamless.1 (handed none) (handed none) line none none rfl rfl rfl
    (by decide +kernel) not_seamed_spacedTab, ?_⟩
  refine sanitize_of_seamless.2 ["% speed", line] none none (by decide +kernel) ?_
  have hcomment : Parts false (chars "% speed") [.lineComment "% speed".toList] false :=
    .cons (.lineComment (by decide)) (.nil false)
  obtain ⟨ps, o, hline⟩ := exists_parts false (chars line)
  exact .cons hcomment (not_seamed_of_forall (List.all_eq_true.1 (by decide +kernel)))
    (.cons hline not_seamed_spacedTab (.nil o))

/-- **Each kind of seam makes a difference**: a word is joined to the next, a block comment begins,
and one ends. -/
theorem sanitize_seam :
    let tokens := fun (x : Lexer) line =>
      (x.lexLine line none).1.toOption.map fun l => l.map Lexeme.token
    let leaves := fun (x : Lexer) line => (x.lexLine line none).2.comment.isSome
    let commented := ((handed none).lexLine "%=" none).2
    (Legible "GOTO\t1 2".toList ∧
      tokens (handed none) "GOTO\t1 2" =
        some [⟨.goTo, "GOTO"⟩, ⟨.number, "1"⟩, ⟨.number, "2"⟩, ⟨.endOfFile, ""⟩] ∧
      tokens (handed none) (sanitize "GOTO\t1 2") =
        some [⟨.unknown, "GOTO1"⟩, ⟨.number, "2"⟩, ⟨.endOfFile, ""⟩]) ∧
    (Legible "%\t=".toList ∧ leaves (handed none) "%\t=" = false ∧
      leaves (handed none) (sanitize "%\t=") = true) ∧
    (Legible "=\t%".toList ∧ leaves commented "=\t%" = true ∧
      leaves commented (sanitize "=\t%") = false) := by
  decide +kernel

end Lexer
end PlotScript
