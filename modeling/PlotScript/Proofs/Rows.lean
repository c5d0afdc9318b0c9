/-
# A lexer goes line by line

What a lexer gives is what is on its lines: the words of a line depend on that line alone, and on
whether a block comment is open where it begins (`Lexer.ends_tokens`).  So a lexer that is handed
its lines one at a time gives the words that a lexer gives which reads them, and ends with the same
complaints and the same open comment (`Lexer.lexLines_handed`).

The two lexers are the two modes of the language specification, §4.1; §14 says what the second one
carries from line to line.
-/

import PlotScript.Proofs.Words
import Mathlib.Tactic.Set

namespace PlotScript
namespace Lexer

/-- What is on a line: its words, and the comment that is open where it ends. -/
structure Row where
  words : List Lexeme
  comment : Option Lexeme

/-- What is on the rest of a line from a column on. -/
def row (place : Nat → Nat → Place) (comment : Option Lexeme) (n : Nat) (cs : List Char) : Row :=
  match h : scan place comment n cs with
  | ⟨some (start, word, rest), _⟩ =>
    have := length_of_scan h
    let r := row place none (start + word.length) rest
    ⟨⟨classify (String.ofList word), place start (start + word.length)⟩ :: r.words, r.comment⟩
  | ⟨none, open'⟩ => ⟨[], open'⟩
termination_by cs.length

/-- The columns of a numbered line. -/
def columns (line : String) (number : Int) (source : Option String) (start stop : Nat) : Place :=
  ⟨line, number, start, stop, source⟩

/-- What is on a numbered line. -/
def lineRow (source : Option String) (comment : Option Lexeme) (number : Int) (line : String) :
    Row :=
  row (columns (Text.dropLineEnd line) number source) comment 0 (Text.dropLineEnd line).toList

/-- What is on some lines, numbered from a number on. -/
def rows (source : Option String) (comment : Option Lexeme) (number : Int) : List String → Row
  | [] => ⟨[], comment⟩
  | line :: lines =>
    let r := lineRow source comment number line
    let rs := rows source r.comment (number + 1) lines
    ⟨r.words ++ rs.words, rs.comment⟩

/-- The lines that a lexer has still to read. -/
def lines (x : Lexer) : List String := x.unread.getD []

/-- What is ahead of a lexer. -/
def ahead (x : Lexer) : Row :=
  let r := row x.place x.comment x.column x.rest
  let rs := rows x.source r.comment (x.lineNumber + 1) x.lines
  ⟨r.words ++ rs.words, rs.comment⟩

/-- The complaints about unknown words. -/
def unknowns (l : List Lexeme) : List Complaint :=
  (l.filter (·.kind = .unknown)).map fun x => .about (.unknownToken x.text) x

variable {place : Nat → Nat → Place} {comment c : Option Lexeme} {n start : Nat}
  {cs word rest : List Char}

/-- Where the scan finds a word, the row is this word, and then the row of what is behind it.  This
is the equation of a row for a line on which a word is left. -/
theorem row_of_word (h : scan place comment n cs = ⟨some (start, word, rest), c⟩) :
    row place comment n cs =
      ⟨⟨classify (String.ofList word), place start (start + word.length)⟩ ::
        (row place none (start + word.length) rest).words,
        (row place none (start + word.length) rest).comment⟩ := by
  rw [row]
  split
  · rename_i heq
    rw [h] at heq
    cases heq
    rfl
  · rename_i heq
    rw [h] at heq
    cases heq

/-- Where the scan finds no word, the row is empty, and only the open comment of its end is left. -/
theorem row_of_none (h : scan place comment n cs = ⟨none, c⟩) :
    row place comment n cs = ⟨[], c⟩ := by
  rw [row]
  split
  · rename_i heq
    rw [h] at heq
    cases heq
  · rename_i heq
    rw [h] at heq
    cases heq
    rfl

/-- From one state of a lexer to another, lines may have been read. -/
structure Keeps (x y : Lexer) : Prop where
  source : y.source = x.source
  number : y.lineNumber + y.lines.length = x.lineNumber + x.lines.length
  isSome : y.unread.isSome = x.unread.isSome
  finished : y.finished = x.finished

/-- What two moves of a lexer keep, one after the other, is what both of them keep. -/
theorem Keeps.trans {x y z : Lexer} (h : Keeps x y) (k : Keeps y z) : Keeps x z :=
  ⟨k.source.trans h.source, k.number.trans h.number, k.isSome.trans h.isSome,
    k.finished.trans h.finished⟩

/-- The complaints about the unknown words of two lists are those of each, in order. -/
@[simp]
theorem unknowns_append (l m : List Lexeme) : unknowns (l ++ m) = unknowns l ++ unknowns m := by
  rw [unknowns, List.filter_append, List.map_append]
  rfl

/-- A lexer at the start of its next line. -/
def nextLine (x : Lexer) (comment : Option Lexeme) (line : String) (lines : List String) : Lexer :=
  { x.atLineEnd comment with unread := some lines }.load line (x.lineNumber + 1)

/-- The words of a line that is loaded are those of the line by itself, with the comment that was
open before it. -/
theorem row_load (x : Lexer) (text : String) (number : Int) :
    row (x.load text number).place (x.load text number).comment (x.load text number).column
      (x.load text number).rest = lineRow x.source x.comment number text := by
  simp only [load, lineRow]
  rfl

variable {x y : Lexer} {l : Lexeme} {w : Option Complaint}

/-- A lexer that has lines is one that reads a text, not one that is given single lines. -/
theorem lines_ne_nil {line : String} {lines : List String} (h : x.lines = line :: lines) :
    x.unread.isSome = true := by
  rw [Lexer.lines] at h
  cases hu : x.unread with
  | none =>
    rw [hu] at h
    cases h
  | some => rfl

/-- Going on to the next line keeps the text that is read, and the rows that are still to come. -/
theorem keeps_nextLine {line : String} {lines : List String} (h : x.lines = line :: lines)
    (comment : Option Lexeme) : Keeps x (x.nextLine comment line lines) := by
  refine ⟨rfl, ?_, (lines_ne_nil h).symm, rfl⟩
  show x.lineNumber + 1 + (lines.length : Int) = _
  rw [h, List.length_cons]
  omega

/-- Where no word is left on a line, what is ahead is on the lines after it. -/
theorem ahead_nextLine {line : String} {lines : List String} (h : x.lines = line :: lines)
    (hs : scan x.place x.comment x.column x.rest = ⟨none, c⟩) :
    (x.nextLine c line lines).ahead = x.ahead := by
  rw [ahead, ahead, row_of_none hs, h, nextLine, row_load]
  rfl

/-- Where a word is on the current line, the search takes it, and no other line is looked at. -/
theorem search_take {lines : List String}
    (hs : scan x.place x.comment x.column x.rest = ⟨some (start, word, rest), c⟩) :
    x.search lines = .word (x.take start word rest).1 (x.take start word rest).2 := by
  cases lines <;> rw [search, hs]

/-- A word that a lexer takes is the first that is ahead. -/
theorem ahead_take (hs : scan x.place x.comment x.column x.rest = ⟨some (start, word, rest), c⟩) :
    x.ahead = ⟨(x.take start word rest).1 :: (x.take start word rest).2.ahead.words,
      (x.take start word rest).2.ahead.comment⟩ := by
  rw [ahead, row_of_word hs]
  rfl

/-- An unknown word is its own text.  The cases are those of classifying: a number or a text between
quotes is not unknown. -/
theorem text_classify_of_unknown {word : String} (h : (classify word).kind = .unknown) :
    (classify word).text = word := by
  unfold classify at h ⊢
  split at h
  · rfl
  · simp only at h ⊢
    split at h
    · cases h
    · rename_i hd
      rw [if_neg hd]
      split at h
      · cases h
      · rename_i hq
        rw [if_neg hq]

/-- Taking a word adds one complaint if the word is unknown, and none otherwise.  The complaint
names the word as it stands in the line. -/
theorem complaints_take (x : Lexer) (start : Nat) (word rest : List Char) :
    (x.take start word rest).2.complaints =
      x.complaints ++ unknowns [(x.take start word rest).1] := by
  have hk : (x.take start word rest).1.kind = (classify (String.ofList word)).kind := rfl
  have ht : (x.take start word rest).1.text = (classify (String.ofList word)).text := rfl
  by_cases h : (classify (String.ofList word)).kind = .unknown
  · have hu : unknowns [(x.take start word rest).1] =
        [.about (.unknownToken (String.ofList word)) (x.take start word rest).1] := by
      rw [unknowns, List.filter_cons_of_pos (by simp [hk, h]), List.filter_nil, List.map_singleton,
        ht, text_classify_of_unknown h]
    rw [hu]
    show x.complaints ++ (if (classify (String.ofList word)).kind = .unknown then _ else _) = _
    rw [if_pos h]
    rfl
  · have hu : unknowns [(x.take start word rest).1] = [] := by
      rw [unknowns, List.filter_cons_of_neg (by simp [hk, h]), List.filter_nil, List.map_nil]
    rw [hu]
    show x.complaints ++ (if (classify (String.ofList word)).kind = .unknown then _ else _) = _
    rw [if_neg h]

/-- **A word is taken from what is ahead.**  The induction is on the lines that are still to be
loaded, and a line without a word is passed. -/
theorem of_search_word {ls : List String} (hx : x.lines = ls) (h : x.search ls = .word l y) :
    x.ahead = ⟨l :: y.ahead.words, y.ahead.comment⟩ ∧ Keeps x y ∧
      y.complaints = x.complaints ++ unknowns [l] := by
  induction ls generalizing x with
  | nil =>
    rcases hs : scan x.place x.comment x.column x.rest with ⟨_ | ⟨start, word, rest⟩, c⟩
    · rw [search, hs] at h
      cases h
    · rw [search_take hs] at h
      cases h
      exact ⟨ahead_take hs, ⟨rfl, rfl, rfl, rfl⟩, complaints_take x start word rest⟩
  | cons line ls ih =>
    rcases hs : scan x.place x.comment x.column x.rest with ⟨_ | ⟨start, word, rest⟩, c⟩
    · rw [search, hs] at h
      obtain ⟨ha, hk, hc⟩ := ih (x := x.nextLine c line ls) rfl h
      exact ⟨(ahead_nextLine hx hs).symm.trans ha, (keeps_nextLine hx c).trans hk, hc⟩
    · rw [search_take hs] at h
      cases h
      exact ⟨ahead_take hs, ⟨rfl, rfl, rfl, rfl⟩, complaints_take x start word rest⟩

/-- A lexer stops where nothing is ahead, on its last line.  The induction is on the lines that are
still to be loaded, of which none holds a word. -/
theorem of_search_stop {ls : List String} (hx : x.lines = ls) (h : x.search ls = .stop l w y) :
    (∃ place, l = ⟨⟨.endOfFile, ""⟩, place⟩) ∧ x.ahead = ⟨[], y.comment⟩ ∧
      Keeps x { y with finished := x.finished } ∧ y.lines = [] ∧
      y.complaints = x.complaints := by
  induction ls generalizing x with
  | nil =>
    rcases hs : scan x.place x.comment x.column x.rest with ⟨_ | ⟨start, word, rest⟩, c⟩
    · rw [search, hs] at h
      cases h
      refine ⟨⟨_, rfl⟩, ?_, ⟨rfl, rfl, rfl, rfl⟩, hx, rfl⟩
      rw [ahead, row_of_none hs, hx]
      rfl
    · rw [search_take hs] at h
      cases h
  | cons line ls ih =>
    rcases hs : scan x.place x.comment x.column x.rest with ⟨_ | ⟨start, word, rest⟩, c⟩
    · rw [search, hs] at h
      obtain ⟨hp, ha, hk, hl, hc⟩ := ih (x := x.nextLine c line ls) rfl h
      exact ⟨hp, (ahead_nextLine hx hs).symm.trans ha, (keeps_nextLine hx c).trans hk, hl, hc⟩
    · rw [search_take hs] at h
      cases h

/-- A lexer that reads its lines warns when it stops within a comment, the first time.  The
induction is on the lines; only a lexer that reads all of its lines itself can know that the comment
stays open. -/
theorem warning_search {ls : List String} (hx : x.lines = ls) (h : x.search ls = .stop l w y) :
    w = if x.unread.isSome && !x.finished then y.comment.map (.about .commentNotClosed)
      else none := by
  induction ls generalizing x with
  | nil =>
    rcases hs : scan x.place x.comment x.column x.rest with ⟨_ | ⟨start, word, rest⟩, c⟩
    · rw [search, hs] at h
      cases h
      rfl
    · rw [search_take hs] at h
      cases h
  | cons line ls ih =>
    rcases hs : scan x.place x.comment x.column x.rest with ⟨_ | ⟨start, word, rest⟩, c⟩
    · rw [search, hs] at h
      rw [lines_ne_nil hx]
      exact ih (x := x.nextLine c line ls) rfl h
    · rw [search_take hs] at h
      cases h

/-- How a lexer ends: it has given what was ahead of it, and then the end of the file. -/
structure Ends (x : Lexer) (o : List Lexeme × Option Complaint × Lexer) : Prop where
  words : ∃ place, o.1 = x.ahead.words ++ [⟨⟨.endOfFile, ""⟩, place⟩]
  comment : o.2.2.comment = x.ahead.comment
  source : o.2.2.source = x.source
  number : o.2.2.lineNumber = x.lineNumber + x.lines.length
  isSome : o.2.2.unread.isSome = x.unread.isSome
  complaints : o.2.2.complaints = x.complaints ++ unknowns x.ahead.words

/-- **A lexer gives what is ahead of it.**  The induction is on the words that it takes, one at a
time, up to the end. -/
theorem ends_tokens (x : Lexer) : Ends x x.tokens := by
  fun_induction tokens x with
  | case1 x l warning y h =>
    obtain ⟨⟨place, rfl⟩, ha, hk, hl, hc⟩ := of_search_stop rfl h
    refine ⟨⟨place, by rw [ha]; rfl⟩, by rw [ha], hk.source, ?_, hk.isSome, ?_⟩
    · have hn : y.lineNumber + (y.lines.length : Int) = x.lineNumber + x.lines.length := hk.number
      rw [hl] at hn
      exact (Int.add_zero _).symm.trans hn
    · rw [ha, hc]
      exact (List.append_nil _).symm
  | case2 x l y h _ ls warning z heq ih =>
    obtain ⟨ha, hk, hc⟩ := of_search_word rfl h
    rw [heq] at ih
    obtain ⟨place, hw⟩ := ih.words
    refine ⟨⟨place, ?_⟩, ?_, ih.source.trans hk.source, ih.number.trans hk.number,
      ih.isSome.trans hk.isSome, ?_⟩
    · rw [ha]
      exact congrArg (l :: ·) hw
    · rw [ha]
      exact ih.comment
    · rw [ha]
      show z.complaints = _
      rw [show z.complaints = _ from ih.complaints, hc, List.append_assoc, ← unknowns_append]
      rfl

/-- **What a lexer warns of:** that a comment is open after all lines. -/
theorem warning_tokens (x : Lexer) : x.tokens.2.1 =
    if x.unread.isSome && !x.finished then x.ahead.comment.map (.about .commentNotClosed)
    else none := by
  fun_induction tokens x with
  | case1 x l warning y h =>
    rw [(of_search_stop rfl h).2.1]
    exact warning_search rfl h
  | case2 x l y h _ ls warning z heq ih =>
    obtain ⟨ha, hk, -⟩ := of_search_word rfl h
    rw [heq, hk.isSome, hk.finished] at ih
    rw [ha]
    exact ih

/-- The words of a lexer are those that it has ahead: looking for the next one loses none. -/
theorem words_eq_ahead (x : Lexer) : x.words = x.ahead.words := by
  obtain ⟨place, hw⟩ := x.ends_tokens.words
  rw [words, hw, List.dropLast_concat]

/-- All its lines are ahead of a lexer that reads them. -/
theorem ahead_reading (lines : List String) (source : Option String) :
    (reading lines source).ahead = rows source none 1 lines := by
  rw [ahead, row_of_none (c := none) rfl]
  rfl

/-- **The words of a script are the words of its lines.** -/
theorem words_reading (lines : List String) (source : Option String) :
    (reading lines source).words = (rows source none 1 lines).words := by
  rw [words_eq_ahead, ahead_reading]

/-- **A line that is handed to a lexer gives the words of that line**, and then the end of the file.
The line is loaded first, and it is then the only one that is ahead. -/
theorem lexLine_eq (hx : x.unread = none) (text : String) (number : Option Int) :
    let k := number.getD (x.lineNumber + 1)
    ∃ place z, x.lexLine text number = (.ok ((lineRow x.source x.comment k text).words ++
        [⟨⟨.endOfFile, ""⟩, place⟩]), z) ∧
      z.comment = (lineRow x.source x.comment k text).comment ∧
      z.source = x.source ∧ z.lineNumber = k ∧ z.unread = none ∧
      z.complaints = x.complaints ++ unknowns (lineRow x.source x.comment k text).words := by
  intro k
  set t : Lexer := { x with finished := false }.load text k
  have hl : t.lines = [] := by
    show x.unread.getD [] = []
    rw [hx]
    rfl
  have ha : t.ahead = lineRow x.source x.comment k text := by
    have hr : row t.place t.comment t.column t.rest = lineRow x.source x.comment k text :=
      row_load _ _ _
    rw [ahead, hl, hr, rows, List.append_nil]
  have h := t.ends_tokens
  obtain ⟨place, hw⟩ := h.words
  have hz : t.tokens.2.2.unread = none := by
    have hs := h.isSome
    rw [show t.unread = none from hx] at hs
    simpa using hs
  refine ⟨place, t.tokens.2.2, ?_, h.comment.trans (by rw [ha]), h.source, ?_, hz, ?_⟩
  · have ht : { x.load text k with finished := false } = t := by simp only [load, t]
    rw [lexLine, hx, if_neg (by decide), ← ha, ← hw]
    simp only [show number.getD (x.lineNumber + 1) = k from rfl, ht]
  · rw [h.number, hl]
    exact Int.add_zero _
  · rw [h.complaints, ha]
    rfl

/-- The words of lines that are handed to a lexer one after the other, without the end of the file
that it gives after each. -/
def lexLines (x : Lexer) : List String → Except Failure (List Lexeme) × Lexer
  | [] => (.ok [], x)
  | line :: lines =>
    match x.lexLine line none with
    | (.error f, y) => (.error f, y)
    | (.ok l, y) =>
      let (r, z) := y.lexLines lines
      (r.map (l.filter (·.kind ≠ .endOfFile) ++ ·), z)

/-- No word of a line is the end of the file, which is a lexeme of its own behind all words. -/
theorem kind_ne_of_mem_row {l : Lexeme} (hl : l ∈ (row place comment n cs).words) :
    l.kind ≠ .endOfFile := by
  fun_induction row place comment n cs with
  | case1 c n cs start word rest c' h hlt r ih =>
    rcases List.mem_cons.1 hl with rfl | hl
    · exact kind_classify_ne _
    · exact ih hl
  | case2 => cases hl

/-- **A lexer that is handed lines gives what is on them**, from whatever line on.  The induction is
on the lines; each starts within the comment that the one before leaves open. -/
theorem lexLines_eq (hx : x.unread = none) (lines : List String) :
    let r := rows x.source x.comment (x.lineNumber + 1) lines
    ∃ y, x.lexLines lines = (.ok r.words, y) ∧ y.comment = r.comment ∧
      y.complaints = x.complaints ++ unknowns r.words := by
  induction lines generalizing x with
  | nil => exact ⟨x, rfl, rfl, (List.append_nil _).symm⟩
  | cons line lines ih =>
    obtain ⟨place, y, hl, hc, hs, hn, hu, hk⟩ := lexLine_eq hx line none
    obtain ⟨z, hz, hzc, hzk⟩ := ih hu
    rw [hs, hn, hc] at hz hzc hzk
    have hf : ∀ l ∈ (lineRow x.source x.comment (x.lineNumber + 1) line).words,
        decide (l.kind ≠ .endOfFile) = true := fun l hl => by
      simpa using kind_ne_of_mem_row hl
    refine ⟨z, ?_, hzc, ?_⟩
    · simp only [Option.getD_none] at hl
      rw [lexLines, hl]
      simp only [hz, List.filter_append, List.filter_eq_self.2 hf]
      simp [Except.map, rows]
    · rw [hzk, hk, List.append_assoc, ← unknowns_append]
      rfl

/-- **Handing lines over is reading them.**  A lexer that is handed lines one after the other gives
the words that a lexer gives which reads them, with all their places; and in the end the two have
the same complaints, and the same comment is open in both, if any is. -/
theorem lexLines_handed (lines : List String) (source : Option String) :
    let read := (reading lines source).tokens
    ∃ place y, read.1 = (reading lines source).words ++ [⟨⟨.endOfFile, ""⟩, place⟩] ∧
      (∀ l ∈ (reading lines source).words, l.kind ≠ .endOfFile) ∧
      (handed source).lexLines lines = (.ok (reading lines source).words, y) ∧
      y.complaints = read.2.2.complaints ∧ y.comment = read.2.2.comment := by
  obtain ⟨place, hp⟩ := (reading lines source).tokens_eq
  obtain ⟨y, hy, hc, hk⟩ := lexLines_eq (x := handed source) rfl lines
  have he := (reading lines source).ends_tokens
  refine ⟨place, y, hp, fun l hl => (of_mem_words hl).2, ?_, ?_, ?_⟩
  · rw [words_reading]
    exact hy
  · rw [he.complaints, ahead_reading]
    exact hk
  · rw [he.comment, ahead_reading]
    exact hc

end Lexer
end PlotScript
