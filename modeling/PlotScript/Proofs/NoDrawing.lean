/-
# A script is no drawing

A drawing begins with `<`, in some encoding and perhaps after blanks.  A script without unknown
words begins with a keyword, a number, a string or a comment.  So if it is taken for a drawing, it
is malformed, whatever its layout (`Script.rootName_eq_malformed`).

For this the text of the script must be the text that is read as a document, which goes from octet
to octet: the signs of a well-formed text are its characters (`Text.Utf8.signs_of_decode?`).
-/

import Mathlib.Data.List.DropRight
import PlotScript.Markup.Document
import PlotScript.Proofs.Blanks
import PlotScript.Script

namespace PlotScript

namespace Text.Utf8

variable {n m : Nat} {p : Partial} {b : UInt8} {bytes r : List UInt8} {c : Char} {cs : List Char}

/-- It does not matter from where octets are counted, if they are sound. -/
theorem read_congr (n m : Nat) (o : Option Partial) (bytes : List UInt8) :
    (read n o bytes).1 = (read m o bytes).1 ∧
      ((read n o bytes).2 = .complete ↔ (read m o bytes).2 = .complete) := by
  induction bytes generalizing n m o with
  | nil => cases o <;> exact ⟨rfl, .rfl⟩
  | cons b r ih =>
    cases o with
    | none =>
      unfold read
      split
      · exact ⟨congrArg (Char.ofNat b.toNat :: ·) (ih _ _ none).1, (ih _ _ none).2⟩
      · split
        · exact ⟨rfl, nofun, nofun⟩
        · exact ih _ _ _
    | some p =>
      unfold read
      split
      · simp only
        split
        · refine ⟨?_, (ih _ _ none).2⟩
          rw [(ih (n + 1) (m + 1) none).1]
        · exact ih _ _ _
      · exact ⟨rfl, nofun, nofun⟩

/-- A text is well formed if reading its octets leaves no character unfinished, from wherever they
are counted. -/
theorem decode?_eq_some (n : Nat) :
    decode? bytes = some cs ↔ read n none bytes = (cs, .complete) := by
  obtain ⟨h1, h2⟩ := read_congr 0 n none bytes
  unfold decode? decode
  constructor
  · intro h
    split at h
    · rename_i ds hd
      obtain rfl := Option.some.inj h
      exact Prod.ext (h1.symm.trans (by rw [hd])) (h2.1 (by rw [hd]))
    · cases h
  · intro h
    have h0 : read 0 none bytes = (cs, .complete) :=
      Prod.ext (h1.trans (by rw [h])) (h2.2 (by rw [h]))
    rw [h0]

/-- What is left of a character comes first, and then other characters.  The octets split where the
character is complete, and no shorter piece of them reads as a character. -/
theorem read_some (h : read n (some p) bytes = (cs, .complete)) :
    ∃ t r c ds, bytes = t ++ r ∧ t.length = max p.owed 1 ∧ cs = c :: ds ∧
      decode? r = some ds ∧ (∀ m, read m (some p) t = ([c], .complete)) ∧
      ∀ k < t.length, ∀ m, read m (some p) (t.take k) = ([], .truncated) := by
  induction bytes generalizing n p with
  | nil => cases h
  | cons b r ih =>
    unfold read at h
    split at h
    · rename_i hb
      simp only at h
      split at h
      · rename_i ho
        obtain ⟨h1, h2⟩ := Prod.mk.inj h
        refine ⟨[b], r, _, _, rfl, by simp; omega, h1.symm,
          (decode?_eq_some (n + 1)).2 (Prod.ext rfl h2), fun m => ?_, fun k hk m => ?_⟩
        · unfold read
          rw [if_pos hb]
          simp only
          rw [if_pos ho]
          rfl
        · -- The last octet that is owed: the only shorter piece is empty.
          obtain rfl : k = 0 := by simpa using hk
          rfl
      · rename_i ho
        obtain ⟨t, s, c, ds, rfl, hlen, rfl, hs, ht, hk⟩ := ih h
        refine ⟨b :: t, s, c, ds, rfl, ?_, rfl, hs, fun m => ?_, fun k hk' m => ?_⟩
        · rw [List.length_cons, hlen]
          simp only
          omega
        · unfold read
          rw [if_pos hb]
          simp only
          rw [if_neg ho]
          exact ht _
        · cases k with
          | zero => rfl
          | succ k =>
            rw [List.take_succ_cons]
            unfold read
            rw [if_pos hb]
            simp only
            rw [if_neg ho]
            exact hk k (by simpa using hk') _
    · cases h

/-- The first octet of a character says that one to three follow. -/
theorem owed_of_lead (h : lead b = some p) : 1 ≤ p.owed ∧ p.owed ≤ 3 := by
  unfold lead at h
  repeat' split at h
  all_goals cases h
  all_goals simp

/-- **The first character of a text** is at the front of its octets.  It is one octet below 128, or
a lead and as many octets behind it as the lead asks for, up to three. -/
theorem first?_of_decode? (h : decode? bytes = some cs) (hne : bytes ≠ []) :
    ∃ w r c ds, bytes = w ++ r ∧ w ≠ [] ∧ cs = c :: ds ∧ first? bytes = some (c, w.length) ∧
      decode? r = some ds := by
  rcases bytes with _ | ⟨b, r⟩
  · exact absurd rfl hne
  have h := (decode?_eq_some 0).1 h
  unfold read at h
  split at h
  · rename_i hb
    obtain ⟨h1, h2⟩ := Prod.mk.inj h
    refine ⟨[b], r, _, _, rfl, List.cons_ne_nil _ _, h1.symm, ?_,
      (decode?_eq_some 1).2 (Prod.ext rfl h2)⟩
    have hd : decode [b] = ([Char.ofNat b.toNat], .complete) := by
      unfold decode read
      rw [if_pos hb]
      rfl
    simp [first?, hd]
  · rename_i hb
    split at h
    · cases h
    · rename_i p hp
      obtain ⟨t, s, c, ds, rfl, hlen, rfl, hs, ht, hk⟩ := read_some h
      have hl := owed_of_lead hp
      refine ⟨b :: t, s, c, ds, rfl, List.cons_ne_nil _ _, rfl, ?_, hs⟩
      have hread (u : List UInt8) : decode (b :: u) = read 1 (some p) u := by
        rw [decode, read, if_neg hb, hp]
      have hall : decode ((b :: (t ++ s)).take (t.length + 1)) = ([c], .complete) := by
        rw [List.take_succ_cons, List.take_left, hread, ht 1]
      have hfew (k : Nat) (hk' : k < t.length) :
          decode ((b :: (t ++ s)).take (k + 1)) = ([], .truncated) := by
        rw [List.take_succ_cons, List.take_append_of_le_length hk'.le, hread, hk k hk' 1]
      -- fewer octets are truncated, so the search for the first character stops at all of them
      have h1 := hfew 0 (by omega)
      have hcases : t.length = 1 ∨ t.length = 2 ∨ t.length = 3 := by omega
      rcases hcases with ht' | ht' | ht'
      · rw [ht'] at hall
        simp only [first?, List.findSome?_cons, h1, hall, List.length_cons, ht']
      · rw [ht'] at hall
        have h2 := hfew 1 (by omega)
        simp only [first?, List.findSome?_cons, h1, h2, hall, List.length_cons, ht']
      · rw [ht'] at hall
        have h2 := hfew 1 (by omega)
        have h3 := hfew 2 (by omega)
        simp only [first?, List.findSome?_cons, h1, h2, h3, hall, List.length_cons,
          ht']

/-- **A well-formed text has its characters for signs.** -/
theorem signs_of_decode? (h : decode? bytes = some cs) : signs bytes = cs.map some := by
  induction cs generalizing bytes with
  | nil =>
    by_cases hne : bytes = []
    · subst hne
      rw [Utf8.signs, plainSigns, Text.signs]
      rfl
    · obtain ⟨w, r, c, ds, -, -, hc, -⟩ := first?_of_decode? h hne
      cases hc
  | cons c cs ih =>
    have hne : bytes ≠ [] := by
      rintro rfl
      cases h
    obtain ⟨w, r, d, ds, rfl, hw, hc, hfirst, hr⟩ := first?_of_decode? h hne
    obtain ⟨rfl, rfl⟩ := List.cons.inj hc
    obtain ⟨b, w, rfl⟩ := List.exists_cons_of_ne_nil hw
    have hdrop : (w ++ r).drop ((b :: w).length - 1) = r := by simp
    rw [List.cons_append] at hfirst
    rw [Utf8.signs, plainSigns, List.cons_append, Text.signs, hfirst]
    simp only [Option.map_some, List.map_cons, List.map_nil, List.singleton_append, hdrop]
    exact congrArg _ (ih hr)

end Text.Utf8

namespace Text

/-- The lines of a file have its characters, in order, but for the ends of lines. -/
theorem flatMap_fileLines (cs : List Char) :
    (fileLines cs).flatMap String.toList = cs.filter (!isLineEnd ·) := by
  rw [← flatten_splitAtEnds rfl rfl, fileLines, List.flatMap_map]
  simp only [String.toList_ofList, List.flatMap_id']

end Text

namespace Lexer

variable {cs bs r : List Char} {c : Char} {source : Option String}

/-- The first word of a line begins with its first character that is not blank, unless that begins
a comment. -/
theorem exists_word_of_row {place : Nat → Nat → Place} {n : Nat}
    (hb : ∀ b ∈ bs, Text.isBlank b = true) (hc : Text.isBlank c = false) (hp : c ≠ '%') :
    ∃ x ∈ (row place none n (bs ++ c :: r)).words,
      ∃ w, x.token = classify (String.ofList (c :: w)) := by
  have hs : scan place none n (bs ++ c :: r) = _ :=
    (scan_blanks hb).trans ((scan_none hp (n + bs.length)).trans
      (if_neg (by rw [hc]; exact Bool.false_ne_true)))
  rw [row_of_word hs]
  exact ⟨_, List.mem_cons_self, _, rfl⟩

/-- A line of blanks has no words. -/
theorem lineRow_blank {line : String} (hl : ∀ d ∈ line.toList, Text.isLineEnd d = false)
    (hb : ∀ b ∈ line.toList, Text.isBlank b = true) (number : Int) :
    lineRow source none number line = ⟨[], none⟩ := by
  rw [lineRow, Text.dropLineEnd_of_forall hl]
  refine row_of_none ?_
  rw [← List.append_nil line.toList, scan_blanks hb, scan_nil]

/-- The first word of some lines begins with the first character that is no blank, if that opens no
comment.  The induction is on the lines: the blanks fill the first line, or end in it. -/
theorem exists_word_of_rows {lines : List String} {number : Int}
    (hl : ∀ line ∈ lines, ∀ d ∈ line.toList, Text.isLineEnd d = false)
    (h : lines.flatMap String.toList = bs ++ c :: r) (hb : ∀ b ∈ bs, Text.isBlank b = true)
    (hc : Text.isBlank c = false) (hp : c ≠ '%') :
    ∃ x ∈ (rows source none number lines).words,
      ∃ w, x.token = classify (String.ofList (c :: w)) := by
  induction lines generalizing bs number with
  | nil => exact absurd h (by simp)
  | cons line lines ih =>
    have hlines : ∀ l ∈ lines, ∀ d ∈ l.toList, Text.isLineEnd d = false :=
      fun l hm => hl l (.tail _ hm)
    have hblank {as : List Char} (hline : ∀ b ∈ line.toList, Text.isBlank b = true)
        (h : lines.flatMap String.toList = as ++ c :: r)
        (ha : ∀ b ∈ as, Text.isBlank b = true) :
        ∃ x ∈ (rows source none number (line :: lines)).words,
          ∃ w, x.token = classify (String.ofList (c :: w)) := by
      rw [rows, lineRow_blank (hl line List.mem_cons_self) hline]
      exact ih hlines h ha
    rw [List.flatMap_cons] at h
    -- the blanks go on after this line, or they end in it
    rcases List.append_eq_append_iff.1 h with ⟨as, rfl, hr⟩ | ⟨as, hline, hr⟩
    · exact hblank (fun b hm => hb b (List.mem_append_left _ hm)) hr
        fun b hm => hb b (List.mem_append_right _ hm)
    rcases as with _ | ⟨d, as⟩
    · rw [List.append_nil] at hline
      have hr : lines.flatMap String.toList = [] ++ c :: r := hr.symm
      exact hblank (hline ▸ hb) hr fun b hm => absurd hm List.not_mem_nil
    · obtain ⟨rfl, -⟩ := List.cons.inj hr
      rw [rows, lineRow, Text.dropLineEnd_of_forall (hl line List.mem_cons_self), hline]
      obtain ⟨x, hx, hw⟩ := exists_word_of_row hb hc hp
      exact ⟨x, List.mem_append_left _ hx, hw⟩

/-- A known word begins as keywords, numbers and strings do. -/
theorem front_of_classify {w : List Char}
    (h : (classify (String.ofList (c :: w))).kind ≠ .unknown) :
    c.isUpper = true ∨ isDecimalDigit c = true ∨ c = '"' := by
  have hw : (String.ofList (c :: w)).toList = c :: w := String.toList_ofList
  unfold classify at h
  split at h
  · rename_i k hl
    have hall : ∀ p ∈ keywords, p.1.toList.head?.any Char.isUpper = true := by decide +kernel
    obtain ⟨l, r, hk, -⟩ := List.lookup_eq_some_iff.1 hl
    have hc := hall (String.ofList (c :: w), k) (hk ▸ List.mem_append_right _ List.mem_cons_self)
    rw [hw] at hc
    exact .inl hc
  · simp only [hw] at h
    split at h
    · rename_i hd
      exact .inr (.inl (List.all_eq_true.1 hd c List.mem_cons_self))
    · split at h
      · rename_i hq
        exact .inr (.inr (Option.some.inj hq))
      · exact absurd rfl h

/-- **A script without unknown words begins**, after blanks, as keywords, numbers, strings and
comments do. -/
theorem front_of_known (hu : unknowns (reading (Text.fileLines (bs ++ c :: r)) source).words = [])
    (hb : ∀ b ∈ bs, Text.isBlank b = true) (hc : Text.isBlank c = false) :
    c = '%' ∨ c.isUpper = true ∨ isDecimalDigit c = true ∨ c = '"' := by
  by_cases hp : c = '%'
  · exact .inl hp
  have hend : ¬Text.isLineEnd c = true := by
    intro he
    rcases Bool.or_eq_true_iff.1 he with he | he <;>
    · obtain rfl := eq_of_beq he
      cases hc
  have hchars := Text.flatMap_fileLines (bs ++ c :: r)
  rw [List.filter_append, List.filter_cons_of_pos (by simpa using hend)] at hchars
  obtain ⟨x, hx, w, hw⟩ : ∃ x ∈ (rows source none 1 (Text.fileLines (bs ++ c :: r))).words,
      ∃ w, x.token = classify (String.ofList (c :: w)) := exists_word_of_rows
    (fun line hl d hd => (Text.of_mem_fileLines hl d hd).2) hchars
    (fun b hm => hb b (List.mem_filter.1 hm).1) hc hp
  rw [words_reading, unknowns, List.map_eq_nil_iff, List.filter_eq_nil_iff] at hu
  refine .inr (front_of_classify (w := w) ?_)
  rw [← hw]
  simpa using hu x hx

end Lexer

namespace Markup
namespace Reading

variable {c : Cursor} {r : List Char} {α β : Type}

/-- One reading goes on where another one ends. -/
theorem bind_apply (x : Reading α) (f : α → Reading β) (c : Cursor) :
    (x >>= f) c = f (x c).1 (x c).2 := rfl

/-- Where the first of two readings is known, the other goes on from there. -/
theorem bind_of {x : Reading α} {f : α → Reading β} {d : Cursor} {a : α} (h : x c = (a, d)) :
    (x >>= f) c = f a d := by
  rw [bind_apply, h]

/-- A text that does not begin with `<` begins with nothing that does. -/
theorem isPrefixOf_of_head? {front : List Char} (h : r.head? ≠ some '<') :
    ('<' :: front).isPrefixOf r = false := by
  cases r with
  | nil => rfl
  | cons d r =>
    have hd : ('<' == d) = false := beq_false_of_ne fun he => h (congrArg some he.symm)
    rw [List.isPrefixOf, hd, Bool.false_and]

/-- Nothing that begins with `<` is found at the front of such a text. -/
theorem isAt_of_head? {front : String} {l : List Char} (hf : front.toList = '<' :: l)
    (h : c.rest.head? ≠ some '<') : isAt front c = (false, c) := by
  show (front.toList.isPrefixOf c.rest, c) = _
  rw [hf, isPrefixOf_of_head? h]

/-- Nothing that begins with `<` is taken from the front of such a text. -/
theorem accept_of_head? {front : String} {l : List Char} (hf : front.toList = '<' :: l)
    (h : c.rest.head? ≠ some '<') : accept front c = (false, c) := by
  unfold accept
  rw [bind_apply, isAt_of_head? hf h]
  rfl

/-! ### Texts whose first character, after blanks, is not `<` -/

/-- Behind the blanks at the front of a text, the rest of it is left. -/
theorem blanks_snd (c : Cursor) : (blanks c).2 = { c with rest := c.rest.dropWhile isSpace } := by
  show Cursor.mk (c.rest.drop (c.rest.takeWhile isSpace).length) _ _ = _
  congr 1
  have h : (c.rest.takeWhile isSpace ++ c.rest.dropWhile isSpace).drop
      (c.rest.takeWhile isSpace).length = c.rest.dropWhile isSpace := List.drop_left
  rwa [List.takeWhile_append_dropWhile] at h

/-- No comment and no instruction is taken from such a text, only the blanks. -/
theorem miscellaneous_eq (h : (c.rest.dropWhile isSpace).head? ≠ some '<') :
    miscellaneous c = ((), { c with rest := c.rest.dropWhile isSpace }) := by
  have hstep : miscellaneousStep () c =
      (.done (), { c with rest := c.rest.dropWhile isSpace }) := by
    unfold miscellaneousStep
    rw [bind_apply, blanks_snd, bind_apply, accept_of_head? (l := ['?']) rfl h]
    simp only [Bool.false_eq_true, if_false]
    rw [bind_apply, accept_of_head? (l := ['!', '-', '-']) rfl h]
    rfl
  unfold miscellaneous loop
  rw [bind_apply]
  show loopAlong miscellaneousStep id (' ' :: c.rest) () c = _
  rw [loopAlong, bind_apply, hstep]
  rfl

/-- There is no root in it. -/
theorem body_eq (d : Declaration) (h : (c.rest.dropWhile isSpace).head? ≠ some '<') :
    body d c = (none, { c with rest := c.rest.dropWhile isSpace, log := c.log.add .fatal }) := by
  have hagain : (c.rest.dropWhile isSpace).dropWhile isSpace = c.rest.dropWhile isSpace :=
    List.dropWhile_idempotent _ _
  have hmisc := miscellaneous_eq (c := { c with rest := c.rest.dropWhile isSpace })
    (by rwa [hagain])
  rw [hagain] at hmisc
  refine (bind_of (miscellaneous_eq h)).trans ?_
  refine (bind_of (accept_of_head? (l := "!DOCTYPE".toList) rfl h)).trans ?_
  refine (bind_of (a := DocumentType.empty) rfl).trans ?_
  refine (bind_of hmisc).trans ?_
  exact (bind_of (isAt_of_head? (l := []) rfl h)).trans rfl

/-- The rest of a text is looked at and left. -/
theorem rest_eq (c : Cursor) : rest c = (c.rest, c) := rfl

/-- There is no declaration at its front. -/
theorem declaration?_eq (h : c.rest.head? ≠ some '<') : declaration? c = (.none, c) := by
  unfold declaration?
  refine (bind_of (rest_eq c)).trans ?_
  rcases c.rest.drop 5 with _ | ⟨d, r⟩
  · rfl
  · exact (bind_of (isAt_of_head? (l := "?xml".toList) rfl h)).trans rfl

/-- A text without a mark, which begins with anything but `<` after its blanks, is no document, and
the first that is wrong with it is fatal. -/
theorem document_eq {octets : List UInt8} (hs : shown? octets = none)
    (h : ((Encoding.text .utf8 octets).dropWhile isSpace).head? ≠ some '<') :
    document octets (.start []) =
      (none, ⟨(Encoding.text .utf8 octets).dropWhile isSpace, false, Log.empty.add .fatal⟩) := by
  have hh : (Encoding.text .utf8 octets).head? ≠ some '<' := by
    intro he
    obtain ⟨r, hr⟩ := List.head?_eq_some_iff.1 he
    rw [hr] at h
    exact h rfl
  have hgo : goOn .utf8 octets (.start []) = ((), .start (Encoding.text .utf8 octets)) := rfl
  unfold document
  rw [hs]
  refine (bind_of hgo).trans ?_
  refine (bind_of (rest_eq _)).trans ?_
  refine (bind_of (declaration?_eq hh)).trans ?_
  refine (bind_of (rest_eq _)).trans ?_
  exact body_eq .none h

end Reading

/-- **A text that begins with anything but `<`** is no document, if it has no mark. -/
theorem rootName_eq_malformed {octets : List UInt8} (hs : shown? octets = none)
    (h : ((Encoding.text .utf8 octets).dropWhile isSpace).head? ≠ some '<') :
    rootName octets = .error .malformed := by
  unfold rootName
  rw [Reading.document_eq hs h]
  rfl

/-- A text whose first character begins no document has no mark at its front. -/
theorem shown?_eq_none {bytes : List UInt8} {cs : List Char}
    (hd : Text.Utf8.decode? bytes = some cs)
    (h : ∀ c, cs.head? = some c → c ≠ '<' ∧ c ≠ '\x00' ∧ c ≠ '\uFEFF') : shown? bytes = none := by
  rw [shown?, Option.map_eq_none_iff, List.find?_eq_none]
  intro x hx hp
  obtain ⟨r, rfl⟩ := List.isPrefixOf_iff_prefix.1 hp
  have hread := (Text.Utf8.decode?_eq_some 0).1 hd
  have hhead (c : Char) (he : (Text.Utf8.read 0 none (x.1 ++ r)).1.head? = some c) :
      c ≠ '<' ∧ c ≠ '\x00' ∧ c ≠ '\uFEFF' := h c (by rw [hread] at he; exact he)
  simp only [marks, List.mem_cons, List.not_mem_nil, or_false] at hx
  rcases hx with rfl | rfl | rfl | rfl | rfl | rfl | rfl
  · exact (hhead '\uFEFF' rfl).2.2 rfl
  · cases hread
  · cases hread
  · exact (hhead '<' rfl).1 rfl
  · exact (hhead '\x00' rfl).2.1 rfl
  · exact (hhead '<' rfl).1 rfl
  · exact (hhead '\x00' rfl).2.1 rfl

/-- A well-formed text is read as its characters, each as it is written in a document. -/
theorem Encoding.text_utf8 {bytes : List UInt8} {cs : List Char}
    (hd : Text.Utf8.decode? bytes = some cs) :
    Encoding.utf8.text bytes = cs.map fun c => written (some c) := by
  show (Text.Utf8.signs bytes).map written = _
  rw [Text.Utf8.signs_of_decode? hd, List.map_map]
  rfl

/-- What a document takes for a space is a blank of a script. -/
theorem isBlank_of_isSpace_written {c : Char} (h : isSpace (Encoding.written (some c)) = true) :
    Text.isBlank c = true := by
  unfold Encoding.written at h
  simp only at h
  split at h
  · exact absurd h (by decide)
  · simp only [isSpace, Bool.or_eq_true, beq_iff_eq] at h
    rcases h with ((rfl | rfl) | rfl) | rfl <;> rfl

/-- Only `<` is written as `<`. -/
theorem eq_of_written {c : Char} (h : Encoding.written (some c) = '<') : c = '<' := by
  unfold Encoding.written at h
  simp only at h
  split at h
  · exact absurd h (by decide)
  · exact h

end Markup

/-- **A script without unknown words is no drawing.** -/
theorem Script.rootName_eq_malformed {bytes : List UInt8} {cs : List Char} {source : Option String}
    (hd : Text.Utf8.decode? bytes = some cs)
    (hu : Lexer.unknowns (Lexer.reading (Text.fileLines cs) source).words = []) :
    Markup.rootName bytes = .error .malformed := by
  have hfront (bs : List Char) {r : List Char} {c : Char} (he : cs = bs ++ c :: r)
      (hb : ∀ b ∈ bs, Text.isBlank b = true) : c ≠ '<' ∧ c ≠ '\x00' ∧ c ≠ '\uFEFF' := by
    subst he
    refine ⟨?_, ?_, ?_⟩ <;>
    · rintro rfl
      exact absurd (Lexer.front_of_known hu hb (by decide)) (by decide)
  refine Markup.rootName_eq_malformed (Markup.shown?_eq_none hd fun c hc => ?_) fun hlt => ?_
  · obtain ⟨r, he⟩ := List.head?_eq_some_iff.1 hc
    exact hfront [] he fun b hm => absurd hm List.not_mem_nil
  · rw [Markup.Encoding.text_utf8 hd, List.dropWhile_map, List.head?_map,
      Option.map_eq_some_iff] at hlt
    obtain ⟨c, hc, hw⟩ := hlt
    obtain rfl := Markup.eq_of_written hw
    obtain ⟨r, he⟩ := List.head?_eq_some_iff.1 hc
    refine (hfront (cs.takeWhile _) (r := r)
      (by rw [← he, List.takeWhile_append_dropWhile]) fun b hm => ?_).1 rfl
    have hs := List.mem_takeWhile_imp hm
    exact Markup.isBlank_of_isSpace_written hs

end PlotScript
