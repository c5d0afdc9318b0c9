/-
# Writing a script out

A script is written out as its words, with fillers before them, between them and after them:

| filler | is written |
| --- | --- |
| blank | as it is |
| end of a line | by beginning another line |
| line comment | `%` and a text that does not begin with `=`, up to the end of the line |
| block comment | `%=`, any number of lines without `=%`, and one whose first `=%` ends it |

Behind a word there is a blank, or its line ends.  However a script is written out, reading gives
its words again, and nothing else (`Lexer.tokens_written`).

Each filler is a part of its lines, or several, and so is each word (`Page.Shows`); what a lexer
makes of the lines is then known from their parts.

The fillers are all that the language specification, §4.1 and §6, lets stand between two words.
-/

import PlotScript.Proofs.Blanks

namespace PlotScript

/-- Lines, of which there is at least one. -/
structure Page where
  first : List Char
  others : List (List Char)
  deriving DecidableEq

namespace Page

/-- The lines of a page. -/
def lines (p : Page) : List (List Char) := p.first :: p.others

/-- A page with a text in front of its first line. -/
def prepend (cs : List Char) (p : Page) : Page := ⟨cs ++ p.first, p.others⟩

/-- A page with lines above it; the first of them is given apart. -/
def below (cs : List Char) (ls : List (List Char)) (p : Page) : Page := ⟨cs, ls ++ p.lines⟩

end Page

/-- What may stand between words. -/
inductive Filler where
  | blank (c : Char)
  | lineEnd
  /-- A comment up to the end of its line, which it includes. -/
  | lineComment (cs : List Char)
  /-- A comment with a text of several lines, the last of which is given apart. -/
  | blockComment (ls : List (List Char)) (last : List Char)
  deriving DecidableEq

namespace Filler

/-- The page that begins with a filler and goes on with another page. -/
def write (p : Page) : Filler → Page
  | blank c => p.prepend [c]
  | lineEnd => p.below [] []
  | lineComment cs => p.below ('%' :: cs) []
  | blockComment [] last => p.prepend ('%' :: '=' :: (last ++ ['=', '%']))
  | blockComment (l :: ls) last => (p.prepend (last ++ ['=', '%'])).below ('%' :: '=' :: l) ls

/-- A filler that is what it is meant to be. -/
def Valid : Filler → Prop
  | blank c => Text.isBlank c = true
  | lineEnd => True
  | lineComment cs => cs.head? ≠ some '='
  | blockComment ls last => (∀ l ∈ ls, Part.Unclosed l) ∧ Part.Closing (last ++ ['=', '%'])

instance (f : Filler) : Decidable f.Valid :=
  match f with
  | blank c => inferInstanceAs (Decidable (Text.isBlank c = true))
  | lineEnd => inferInstanceAs (Decidable True)
  | lineComment cs => inferInstanceAs (Decidable (cs.head? ≠ some '='))
  | blockComment ls last =>
    decidable_of_iff ((∀ l ∈ ls, ¬['=', '%'] <:+: l) ∧ ¬['=', '%'] <:+: last ++ ['='])
      (and_congr_right fun _ => ⟨fun h => ⟨last, rfl, h⟩,
        fun ⟨_, he, h⟩ => List.append_cancel_right he ▸ h⟩)

/-- A filler that separates what is before it from what is after it. -/
def Separates : Filler → Prop
  | blank _ | lineEnd => True
  | lineComment _ | blockComment _ _ => False

/-- The page that begins with fillers. -/
def writeAll (fs : List Filler) (p : Page) : Page := fs.foldr (fun f p => f.write p) p

end Filler

/-- A text that is a word, and begins no comment. -/
structure IsWord (w : List Char) : Prop where
  ne_nil : w ≠ []
  unbroken : ∀ c ∈ w, Text.isBlank c = false
  noComment : w.head? ≠ some '%'

instance (w : List Char) : Decidable (IsWord w) :=
  decidable_of_iff (w ≠ [] ∧ (w.all fun c => !Text.isBlank c) = true ∧ w.head? ≠ some '%')
    ⟨fun ⟨hn, hb, hc⟩ => ⟨hn, by simpa using hb, hc⟩,
      fun h => ⟨h.ne_nil, by simpa using h.unbroken, h.noComment⟩⟩

/-- A script that is to be written out: what stands before its words, each of them with what stands
behind it, and a line comment that is ended by the script. -/
structure Writing where
  lead : List Filler
  words : List (List Char × List Filler)
  remark : Option (List Char)

namespace Writing

/-- The last line of a script, behind all its fillers. -/
def ending : Option (List Char) → Page
  | none => ⟨[], []⟩
  | some cs => ⟨'%' :: cs, []⟩

/-- The page with words and what stands behind them. -/
def writeWords (remark : Option (List Char)) : List (List Char × List Filler) → Page
  | [] => ending remark
  | (w, fs) :: r => (Filler.writeAll fs (writeWords remark r)).prepend w

/-- A script as it is written out. -/
def page (w : Writing) : Page := Filler.writeAll w.lead (writeWords w.remark w.words)

/-- The tokens of a script. -/
def tokens (w : Writing) : List Token := w.words.map fun x => classify (String.ofList x.1)

/-- Words, each with valid fillers behind it, the first of which separates it from what follows;
behind the last word there need not be any. -/
inductive Separated (remark : Option (List Char)) : List (List Char × List Filler) → Prop
  | nil : Separated remark []
  | last {w : List Char} : IsWord w → remark = none → Separated remark [(w, [])]
  | cons {w : List Char} {f : Filler} {fs : List Filler} {r : List (List Char × List Filler)} :
    IsWord w → f.Separates → (∀ g ∈ f :: fs, g.Valid) → Separated remark r →
      Separated remark ((w, f :: fs) :: r)

/-- A script that can be written out. -/
structure WellFormed (w : Writing) : Prop where
  lead : ∀ f ∈ w.lead, f.Valid
  words : Separated w.remark w.words
  remark : ∀ cs ∈ w.remark, cs.head? ≠ some '='

end Writing

/-- Lines of a script, each with any number of characters that end lines. -/
def Ending (ls : List (List Char)) (lines : List String) : Prop :=
  List.Forall₂ (fun cs line => ∃ e : List Char, (∀ c ∈ e, Text.isLineEnd c = true) ∧
    line.toList = cs ++ e) ls lines

namespace Part

/-- The word that a part is. -/
def word? : Part → Option (List Char)
  | word cs => some cs
  | blank _ | lineComment _ | blockComment _ => none

end Part

namespace Page

open PlotScript.Part

/-- A page is made up of these words and of what is no word, and no comment is left open. -/
def Shows (p : Page) (ws : List (List Char)) : Prop :=
  ∃ pss, Layout false p.lines pss false ∧ pss.flatMap (·.filterMap word?) = ws

variable {p : Page} {ws : List (List Char)} {cs last w : List Char} {ls : List (List Char)}

/-- The first part of a page may be put in front of it, if it leaves no comment open. -/
theorem Shows.first {q : Part} (h : p.Shows ws) (hf : First false (cs ++ p.first) q p.first false) :
    (p.prepend cs).Shows (q.word?.toList ++ ws) := by
  obtain ⟨pss, hl, rfl⟩ := h
  obtain ⟨ps, qss, o, rfl, hp, ho⟩ := hl.exists_eq_cons
  refine ⟨(q :: ps) :: qss, .cons (.cons hf hp) ho, ?_⟩
  rw [List.flatMap_cons, List.flatMap_cons, List.filterMap_cons]
  cases q.word? <;> rfl

/-- A blank in front of a page shows no word, so the page shows the words that it did. -/
theorem Shows.blank {c : Char} (h : p.Shows ws) (hc : Text.isBlank c = true) :
    (p.prepend [c]).Shows ws := h.first (q := .blank c) (.blank hc)

/-- A word in front of a page that stands apart from it is shown, and then the words of the page. -/
theorem Shows.word (h : p.Shows ws) (hw : IsWord w) (ha : Apart p.first) :
    (p.prepend w).Shows (w :: ws) := by
  obtain ⟨c, cs, rfl⟩ := List.exists_cons_of_ne_nil hw.ne_nil
  refine h.first (q := .word (c :: cs)) (.word (hw.unbroken c List.mem_cons_self) ?_
    (fun d hd => hw.unbroken d (List.mem_cons_of_mem c hd)) ha)
  rintro rfl
  exact hw.noComment rfl

/-- A block comment in front of a page is passed over up to its closing mark, so no word is
added. -/
theorem Shows.blockComment (h : p.Shows ws) (hc : Closing (last ++ ['=', '%'])) :
    (p.prepend ('%' :: '=' :: (last ++ ['=', '%']))).Shows ws := h.first (.block hc)

/-- A line without a word may be put above a page. -/
theorem Shows.below {q : Part} (h : p.Shows ws) (hq : q.word? = none)
    (hf : First false cs q [] false) : (p.below cs []).Shows ws := by
  obtain ⟨pss, hl, rfl⟩ := h
  refine ⟨[q] :: pss, .cons (.cons hf (.nil false)) hl, ?_⟩
  rw [List.flatMap_cons, List.filterMap_cons, hq]
  rfl

/-- An empty line above a page shows no word. -/
theorem Shows.lineEnd (h : p.Shows ws) : (p.below [] []).Shows ws := by
  obtain ⟨pss, hl, rfl⟩ := h
  exact ⟨[] :: pss, .cons (.nil false) hl, rfl⟩

/-- Lines within a block comment have no words. -/
theorem layout_unclosed {o : Bool} {ms : List (List Char)} {pss : List (List Part)}
    (hls : ∀ l ∈ ls, Unclosed l) (h : Layout true ms pss o) :
    ∃ qss, Layout true (ls ++ ms) qss o ∧
      qss.flatMap (·.filterMap word?) = pss.flatMap (·.filterMap word?) := by
  induction ls with
  | nil => exact ⟨pss, h, rfl⟩
  | cons l ls ih =>
    obtain ⟨qss, hq, he⟩ := ih fun m hm => hls m (List.mem_cons_of_mem l hm)
    by_cases hl : l = []
    · subst hl
      exact ⟨[] :: qss, .cons (.nil true) hq, he⟩
    · have hu := hls l List.mem_cons_self
      exact ⟨[.blockComment l] :: qss, .cons (.cons (.unclosed hl hu) (.nil true)) hq, he⟩

/-- A block comment of several lines may stand above a page and in front of its first line. -/
theorem Shows.blockLines {l : List Char} (h : p.Shows ws) (hl : Unclosed l)
    (hls : ∀ m ∈ ls, Unclosed m) (hc : Closing (last ++ ['=', '%'])) :
    ((p.prepend (last ++ ['=', '%'])).below ('%' :: '=' :: l) ls).Shows ws := by
  obtain ⟨pss, hp, rfl⟩ := h
  obtain ⟨ps, qss, o, rfl, hps, hqss⟩ := hp.exists_eq_cons
  have hlast : Layout true (p.prepend (last ++ ['=', '%'])).lines
      ((.blockComment (last ++ ['=', '%']) :: ps) :: qss) false :=
    .cons (.cons (.closed hc) hps) hqss
  obtain ⟨rss, hr, he⟩ := layout_unclosed hls hlast
  exact ⟨[.blockComment ('%' :: '=' :: l)] :: rss, .cons (.cons (.opened hl) (.nil true)) hr, he⟩

/-- **A filler adds no word.** -/
theorem Shows.write (h : p.Shows ws) {f : Filler} (hf : f.Valid) : (f.write p).Shows ws := by
  cases f with
  | blank c => exact h.blank hf
  | lineEnd => exact h.lineEnd
  | lineComment cs => exact h.below rfl (.lineComment hf)
  | blockComment ls last =>
    cases ls with
    | nil => exact h.blockComment hf.2
    | cons l ls =>
      exact h.blockLines (hf.1 l List.mem_cons_self)
        (fun m hm => hf.1 m (List.mem_cons_of_mem l hm)) hf.2

/-- Fillers of any kind and number in front of a page leave its words as they are. -/
theorem Shows.writeAll (h : p.Shows ws) {fs : List Filler} (hfs : ∀ f ∈ fs, f.Valid) :
    (Filler.writeAll fs p).Shows ws := by
  induction fs with
  | nil => exact h
  | cons f fs ih =>
    exact (ih fun g hg => hfs g (List.mem_cons_of_mem f hg)).write (hfs f List.mem_cons_self)

/-- Behind a filler that separates, a word may stand. -/
theorem apart_write {f : Filler} (hf : f.Separates) (hv : f.Valid) (p : Page) :
    Apart (f.write p).first := by
  cases f with
  | blank c =>
    rintro d ⟨⟩
    exact hv
  | lineEnd => nofun
  | lineComment | blockComment => exact hf.elim

/-- A page that ends with a remark shows no word behind its last one, if the remark does not open a
block comment. -/
theorem shows_ending {remark : Option (List Char)} (h : ∀ cs ∈ remark, cs.head? ≠ some '=') :
    (Writing.ending remark).Shows [] := by
  cases remark with
  | none => exact ⟨[[]], .cons (.nil false) (.nil false), rfl⟩
  | some cs =>
    exact ⟨[[.lineComment ('%' :: cs)]],
      .cons (.cons (.lineComment (h cs rfl)) (.nil false)) (.nil false), rfl⟩

/-- Words written with fillers between them are exactly the words that are shown, if the writing
keeps them separate. -/
theorem shows_writeWords {remark : Option (List Char)} {ws : List (List Char × List Filler)}
    (hr : ∀ cs ∈ remark, cs.head? ≠ some '=') (h : Writing.Separated remark ws) :
    (Writing.writeWords remark ws).Shows (ws.map Prod.fst) := by
  induction h with
  | nil => exact shows_ending hr
  | last hw hn =>
    subst hn
    exact (shows_ending hr).word hw nofun
  | @cons w f fs r hw hs hv _ ih =>
    have hf := hv f List.mem_cons_self
    exact (ih.writeAll hv).word hw (apart_write hs hf _)

/-- **A script that is written out shows its words.** -/
theorem shows_page {w : Writing} (h : w.WellFormed) : w.page.Shows (w.words.map Prod.fst) :=
  (shows_writeWords h.remark h.words).writeAll h.lead

end Page

namespace Lexer

open PlotScript.Part

variable {place : Nat → Nat → Place} {c : Option Lexeme} {k : Int} {source : Option String}
  {line : String} {cs : List Char}

/-- The tokens of the words among the parts of a line are the words of these parts, classified one
by one. -/
theorem map_token_partWords (n : Nat) (ps : List Part) :
    (partWords place n ps).map Lexeme.token =
      (ps.filterMap word?).map fun w => classify (String.ofList w) := by
  induction ps generalizing n with
  | nil => rfl
  | cons p ps ih =>
    rw [partWords, List.map_append, ih, List.filterMap_cons]
    cases p <;> rfl

/-- A line is what is left without its line end, and then nothing but characters of a line end. -/
theorem exists_dropLineEnd (s : String) : ∃ e : List Char, (∀ d ∈ e, Text.isLineEnd d = true) ∧
    s.toList = (Text.dropLineEnd s).toList ++ e := by
  refine ⟨(s.toList.reverse.takeWhile fun d => d == '\n' || d == '\r').reverse,
    fun d hd => List.mem_takeWhile_imp (List.mem_reverse.1 hd), ?_⟩
  rw [Text.dropLineEnd, String.toList_ofList, Text.dropWhileEnd, ← List.reverse_append,
    List.takeWhile_append_dropWhile, List.reverse_reverse]

/-- Lines end in some way when they are what is left of others without the characters that end a
line. -/
theorem ending_of_map_eq {ls : List (List Char)} {lines : List String}
    (h : lines.map (fun line => (Text.dropLineEnd line).toList) = ls) : Ending ls lines := by
  subst h
  exact List.forall₂_map_left_iff.2 (List.forall₂_same.2 fun line _ => exists_dropLineEnd line)

/-- A line end is a blank, so that trimming takes it away as well. -/
theorem isBlank_of_isLineEnd {d : Char} (h : Text.isLineEnd d = true) : Text.isBlank d = true := by
  rw [Text.isLineEnd, Bool.or_eq_true, beq_iff_eq, beq_iff_eq] at h
  obtain rfl | rfl := h <;> decide

/-- The characters that end a line make no difference. -/
theorem lineRow_eq_row {e : List Char} (he : ∀ d ∈ e, Text.isLineEnd d = true)
    (hl : line.toList = cs ++ e) :
    lineRow source c k line = row (columns (Text.dropLineEnd line) k source) c 0 cs := by
  obtain ⟨e', he', hl'⟩ := exists_dropLineEnd line
  rw [lineRow, ← row_append fun d hd => isBlank_of_isLineEnd (he' d hd), ← hl', hl,
    row_append fun d hd => isBlank_of_isLineEnd (he d hd)]

/-- **The words on lines are the words among their parts**, and a comment is open in the end if one
is open after the parts. -/
theorem map_token_rows {ls : List (List Char)} {lines : List String} {o o' : Bool}
    {pss : List (List Part)} (hl : Ending ls lines) (h : Layout o ls pss o') (hc : c.isSome = o) :
    (rows source c k lines).words.map Lexeme.token =
        (pss.flatMap (·.filterMap word?)).map (fun w => classify (String.ofList w)) ∧
      (rows source c k lines).comment.isSome = o' := by
  induction hl generalizing o c k pss with
  | nil =>
    cases h with
    | nil => exact ⟨rfl, hc⟩
  | @cons cs line ls lines hline _ ih =>
    obtain ⟨e, he, hline⟩ := hline
    obtain ⟨ps, pss, o₁, rfl, hp, hpss⟩ := h.exists_eq_cons
    obtain ⟨hw, ho⟩ := @row_of_parts (columns (Text.dropLineEnd line) k source) _ _ _ _ hp c hc 0
    obtain ⟨hws, hos⟩ := ih (k := k + 1) hpss ho
    rw [rows, lineRow_eq_row he hline]
    refine ⟨?_, hos⟩
    rw [List.map_append, hws, hw, map_token_partWords, List.flatMap_cons, List.map_append]

/-- **Reading undoes writing.**  A script is written out in any way, on lines that end in any way:
a lexer that reads them gives the tokens of the script, in order, and then the end of the file, and
it does not warn of a comment that is not closed. -/
theorem tokens_written {w : Writing} (hw : w.WellFormed) {lines : List String}
    (hl : Ending w.page.lines lines) (source : Option String) :
    (∃ place, (reading lines source).tokens.1 =
        (reading lines source).words ++ [⟨⟨.endOfFile, ""⟩, place⟩]) ∧
      (reading lines source).words.map Lexeme.token = w.tokens ∧
      (reading lines source).tokens.2.1 = none := by
  obtain ⟨pss, h, hs⟩ := Page.shows_page hw
  obtain ⟨ht, hc⟩ := map_token_rows (c := none) (k := 1) hl h rfl
  refine ⟨tokens_eq _, ?_, ?_⟩
  · rw [words_reading, ht, hs, List.map_map]
    rfl
  · rw [Option.isSome_eq_false_iff, Option.isNone_iff_eq_none] at hc
    rw [warning_tokens, ahead_reading, hc]
    rfl

/-- A block comment of three lines, in which a quote opens nothing and an end of a comment overlaps
its beginning, and lines that end in different ways. -/
theorem tokens_written_overlapping :
    let w : Writing := ⟨[.lineComment " plot".toList, .blank '\t'],
      [("HOME".toList, [.blank ' ', .blockComment ["\"x =".toList, []] ['%'], .blank ' ']),
        ("a%b".toList, [.lineEnd, .blockComment [] ['%'], .blank ' ']),
        ("\"%=\"".toList, [.blank ' '])], some " end".toList⟩
    let lines := ["% plot\r\n", "\tHOME %=\"x =\n", "\r", "%=% a%b\n", "%=%=% \"%=\" % end"]
    ((∃ place, (reading lines none).tokens.1 =
        (reading lines none).words ++ [⟨⟨.endOfFile, ""⟩, place⟩]) ∧
      (reading lines none).words.map Lexeme.token = w.tokens ∧
      (reading lines none).tokens.2.1 = none) ∧
      w.tokens = [⟨.home, "HOME"⟩, ⟨.unknown, "a%b"⟩, ⟨.string, "%="⟩] := by
  intro w lines
  have hwords : w.WellFormed := by
    refine ⟨by decide, ?_, by decide⟩
    exact .cons (by decide) trivial (by decide) <| .cons (by decide) trivial (by decide) <|
      .cons (by decide) trivial (by decide) .nil
  have hends : Ending w.page.lines lines := ending_of_map_eq (by decide)
  exact ⟨tokens_written hwords hends none, by decide⟩

end Lexer
end PlotScript
