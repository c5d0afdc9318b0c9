/-
# Blanks around a line

The words of a line are the same tokens wherever the line stands, and blanks before and after it
make no difference to them (`Lexer.alike_row`, `Lexer.row_append`).  So a line has the same words
when it is trimmed, and leaves a block comment open in the same cases (`Lexer.alike_trim`).
-/

import PlotScript.Proofs.Layout
import PlotScript.Proofs.Sequence
import PlotScript.Text.Lines

namespace PlotScript
namespace Text

variable {isEnd : Char → Bool}

/-- What text is split into consists of its characters, and holds none of the ends at which it was
split. -/
theorem of_mem_splitAtEnds {cs l : List Char} (hl : l ∈ splitAtEnds isEnd cs) :
    ∀ c ∈ l, c ∈ cs ∧ isEnd c = false := by
  fun_induction splitAtEnds isEnd cs generalizing l with
  | case1 => cases hl
  | case2 r ih =>
    rcases List.mem_cons.1 hl with rfl | hl
    · exact fun c hc => absurd hc List.not_mem_nil
    · exact fun c hc => ⟨.tail _ (.tail _ (ih hl c hc).1), (ih hl c hc).2⟩
  | case3 c r _ _ ih =>
    rcases List.mem_cons.1 hl with rfl | hl
    · exact fun c hc => absurd hc List.not_mem_nil
    · exact fun c hc => ⟨.tail _ (ih hl c hc).1, (ih hl c hc).2⟩
  | case4 c r _ he _ =>
    obtain rfl := List.mem_singleton.1 hl
    intro d hd
    obtain rfl := List.mem_singleton.1 hd
    exact ⟨List.mem_cons_self, by simpa using he⟩
  | case5 c r _ he m ms hr ih =>
    rw [hr] at ih
    rcases List.mem_cons.1 hl with rfl | hl
    · intro d hd
      rcases List.mem_cons.1 hd with rfl | hd
      · exact ⟨List.mem_cons_self, by simpa using he⟩
      · exact ⟨.tail _ (ih List.mem_cons_self d hd).1, (ih List.mem_cons_self d hd).2⟩
    · exact fun d hd => ⟨.tail _ (ih (.tail _ hl) d hd).1, (ih (.tail _ hl) d hd).2⟩

/-- Pieces have the characters of the text, in order, but for those that end a piece. -/
theorem flatten_splitAtEnds (hr : isEnd '\r' = true) (hn : isEnd '\n' = true) (cs : List Char) :
    (splitAtEnds isEnd cs).flatten = cs.filter (!isEnd ·) := by
  fun_induction splitAtEnds isEnd cs with
  | case1 => rfl
  | case2 r ih =>
    rw [List.flatten_cons, ih, List.filter_cons_of_neg (by simp [hr]),
      List.filter_cons_of_neg (by simp [hn])]
    rfl
  | case3 c r _ hc ih =>
    rw [List.flatten_cons, ih, List.filter_cons_of_neg (by simp [hc])]
    rfl
  | case4 c r _ hc hr ih =>
    rw [List.filter_cons_of_pos (by simp [hc]), ← ih, hr]
    rfl
  | case5 c r _ hc l ls hr ih =>
    rw [List.filter_cons_of_pos (by simp [hc]), ← ih, hr]
    rfl

/-- The lines of a file have its characters, but no ends of lines. -/
theorem of_mem_fileLines {cs : List Char} {line : String} (hl : line ∈ fileLines cs) :
    ∀ c ∈ line.toList, c ∈ cs ∧ isLineEnd c = false := by
  obtain ⟨l, hm, rfl⟩ := List.mem_map.1 hl
  rw [String.toList_ofList]
  exact of_mem_splitAtEnds hm

/-- A text without line ends has none to drop. -/
theorem dropLineEnd_of_forall {s : String} (h : ∀ c ∈ s.toList, isLineEnd c = false) :
    dropLineEnd s = s := by
  have hd : s.toList.reverse.dropWhile (fun c => c == '\n' || c == '\r') = s.toList.reverse := by
    cases hr : s.toList.reverse with
    | nil => rfl
    | cons c r =>
      have hc : isLineEnd c = false := h c (List.mem_reverse.1 (hr ▸ List.mem_cons_self))
      exact List.dropWhile_cons_of_neg (by rw [show (c == '\n' || c == '\r') = false from hc]; decide)
  rw [dropLineEnd, dropWhileEnd, hd, List.reverse_reverse, String.ofList_toList]

/-- A text is what is left of it when it is trimmed, between blanks. -/
theorem exists_trim (s : String) : ∃ before after, (∀ c ∈ before, isBlank c = true) ∧
    (∀ c ∈ after, isBlank c = true) ∧ s.toList = before ++ ((trim s).toList ++ after) := by
  refine ⟨s.toList.takeWhile isBlank,
    ((s.toList.dropWhile isBlank).reverse.takeWhile isBlank).reverse,
    fun c hc => List.mem_takeWhile_imp hc,
    fun c hc => List.mem_takeWhile_imp (List.mem_reverse.1 hc), ?_⟩
  rw [trim, String.toList_ofList, dropWhileEnd, ← List.reverse_append,
    List.takeWhile_append_dropWhile, List.reverse_reverse, List.takeWhile_append_dropWhile]

/-- Trimming takes characters away and adds none. -/
theorem mem_of_mem_trim {s : String} {c : Char} (hc : c ∈ (trim s).toList) : c ∈ s.toList := by
  obtain ⟨before, after, -, -, hs⟩ := exists_trim s
  rw [hs]
  exact List.mem_append_right _ (List.mem_append_left _ hc)

end Text

namespace Lexer

open PlotScript.Part (Apart isBlank_percent)

variable {place place' : Nat → Nat → Place} {c c' : Option Lexeme} {n n' : Nat}
  {cs bs r : List Char}

/-- A blank is not a character that is not blank. -/
theorem isBlank_ne {b d : Char} (hb : Text.isBlank b = true) (hd : Text.isBlank d = false) :
    b ≠ d := by
  rintro rfl
  rw [hb] at hd
  cases hd

/-- A blank is passed over, within a comment and without. -/
theorem scan_blank {b : Char} (hb : Text.isBlank b = true) :
    scan place c n (b :: r) = scan place c (n + 1) r := by
  cases c with
  | none => rw [scan_none (isBlank_ne hb isBlank_percent), if_pos hb]
  | some x => exact scan_open (fun s he => absurd he (isBlank_ne hb (by decide))) n

/-- Blanks in front move the column and nothing else: the scan goes on behind them. -/
theorem scan_blanks (hb : ∀ b ∈ bs, Text.isBlank b = true) :
    scan place c n (bs ++ r) = scan place c (n + bs.length) r := by
  induction bs generalizing n with
  | nil => rfl
  | cons b bs ih =>
    rw [List.cons_append, scan_blank (hb b List.mem_cons_self),
      ih fun d hd => hb d (List.mem_cons_of_mem b hd), List.length_cons]
    congr 1
    omega

/-- What blanks begin with is no other character. -/
theorem append_blanks_ne_cons {d : Char} (hd : Text.isBlank d = false)
    (hb : ∀ b ∈ bs, Text.isBlank b = true) (h : ∀ s, r ≠ d :: s) (s : List Char) :
    r ++ bs ≠ d :: s := by
  cases r with
  | cons c r => exact fun he => h r (congrArg (· :: r) (List.cons.inj he).1)
  | nil =>
    cases bs with
    | nil => exact h s
    | cons b bs => exact fun he => isBlank_ne (hb b List.mem_cons_self) hd (List.cons.inj he).1

/-- The word at the start of a text ends before the blanks at its end. -/
theorem takeWhile_append_blanks (hb : ∀ b ∈ bs, Text.isBlank b = true) (r : List Char) :
    (r ++ bs).takeWhile (!Text.isBlank ·) = r.takeWhile (!Text.isBlank ·) ∧
      (r ++ bs).dropWhile (!Text.isBlank ·) = r.dropWhile (!Text.isBlank ·) ++ bs := by
  induction r with
  | nil =>
    cases bs with
    | nil => exact ⟨rfl, rfl⟩
    | cons b bs =>
      have h : ¬(!Text.isBlank b) = true := by
        rw [hb b List.mem_cons_self]
        decide
      exact ⟨List.takeWhile_cons_of_neg h, List.dropWhile_cons_of_neg h⟩
  | cons c r ih =>
    rw [List.cons_append, List.takeWhile_cons, List.takeWhile_cons, List.dropWhile_cons,
      List.dropWhile_cons]
    split
    · exact ⟨congrArg (c :: ·) ih.1, ih.2⟩
    · exact ⟨rfl, rfl⟩

/-- **Blanks at the end of a text are left over**, whatever is found in it. -/
theorem scan_append (hb : ∀ b ∈ bs, Text.isBlank b = true) : scan place c n (cs ++ bs) =
    ⟨(scan place c n cs).word.map fun w => (w.1, w.2.1, w.2.2 ++ bs),
      (scan place c n cs).comment⟩ := by
  fun_induction scan place c n cs with
  | case1 c n =>
    have h : scan place c n (bs ++ []) = scan place c (n + bs.length) [] := scan_blanks hb
    rwa [List.append_nil, scan_nil] at h
  | case2 x n r ih =>
    rw [← ih, List.cons_append, List.cons_append, scan.eq_def]
    rfl
  | case3 x n d r hd ih =>
    refine (scan_open (fun s hc hr => ?_) n).trans ih
    exact append_blanks_ne_cons (by decide) hb (fun s hs => hd s hc hs) s hr
  | case4 n r ih => exact (scan_blockComment n).trans ih
  | case5 n r hr =>
    refine scan_lineComment (fun hh => ?_) n
    obtain ⟨s, hs⟩ := List.head?_eq_some_iff.1 hh
    exact append_blanks_ne_cons (by decide) hb hr s hs
  | case6 n d r _ hd h ih =>
    rw [List.cons_append, scan_none hd, if_pos h]
    exact ih
  | case7 n d r _ hd h =>
    obtain ⟨ht, hr⟩ := takeWhile_append_blanks hb r
    rw [List.cons_append, scan_none hd, if_neg h, ht, hr]
    rfl

/-- **Blanks at the end of a line make no difference.** -/
theorem row_append (hb : ∀ b ∈ bs, Text.isBlank b = true) :
    row place c n (cs ++ bs) = row place c n cs := by
  have ha := @scan_append place c n cs bs hb
  fun_induction row place c n cs with
  | case1 c n cs start word rest c' h hlt r ih =>
    rw [h] at ha
    exact (row_of_word ha).trans (by rw [ih (scan_append hb)])
  | case2 c n cs c' h =>
    rw [h] at ha
    exact row_of_none ha

/-- The words of the same parts are alike wherever the parts stand. -/
theorem alike_partWords (ps : List Part) : Alike (partWords place n ps) (partWords place' n' ps) := by
  induction ps generalizing n n' with
  | nil => exact .nil
  | cons p ps ih =>
    refine List.rel_append ?_ ih
    cases p with
    | word w => exact .cons rfl .nil
    | blank | lineComment | blockComment => exact .nil

/-- **The tokens of a line do not depend on where it stands.** -/
theorem alike_row (hc : c.isSome = c'.isSome) (cs : List Char) :
    Alike (row place c n cs).words (row place' c' n' cs).words ∧
      (row place c n cs).comment.isSome = (row place' c' n' cs).comment.isSome := by
  obtain ⟨ps, o, h⟩ := Part.exists_parts c.isSome cs
  obtain ⟨hw, ho⟩ := @row_of_parts place _ _ _ _ h c rfl n
  obtain ⟨hw', ho'⟩ := @row_of_parts place' _ _ _ _ h c' hc.symm n'
  rw [hw, hw']
  exact ⟨alike_partWords ps, ho.trans ho'.symm⟩

/-- **Blanks around a text make no difference.** -/
theorem alike_trim (hc : c.isSome = c'.isSome) (s : String) :
    Alike (row place c 0 (Text.trim s).toList).words (row place' c' 0 s.toList).words ∧
      (row place c 0 (Text.trim s).toList).comment.isSome =
        (row place' c' 0 s.toList).comment.isSome := by
  obtain ⟨before, after, hb, ha, hs⟩ := Text.exists_trim s
  rw [hs, row_congr (scan_blanks hb), row_append ha]
  exact alike_row hc _

variable {source : Option String} {k : Int} {line : String}

/-- A line without characters has no words. -/
theorem lineRow_empty (source : Option String) (c : Option Lexeme) (k : Int) :
    lineRow source c k "" = ⟨[], c⟩ := row_of_none (scan_nil c 0)

/-- The words of a line stand on it. -/
theorem lineNumber_of_mem_lineRow {x : Lexeme} (hx : x ∈ (lineRow source c k line).words) :
    x.place.lineNumber = k := by
  obtain ⟨ps, o, h⟩ := Part.exists_parts c.isSome (Text.dropLineEnd line).toList
  obtain ⟨hw, -⟩ := @row_of_parts (columns (Text.dropLineEnd line) k source) _ _ _ _ h c rfl 0
  rw [lineRow, hw] at hx
  obtain ⟨start, stop, hplace, -⟩ := wordAt_of_mem h [] hx
  rw [hplace]
  rfl

end Lexer
end PlotScript
