/-
# From lines to lexemes

A word is a run of characters that are not blank.  Where a word could start, `%=` opens a block
comment that lasts up to the next `=%`, on this line or a later one, and any other `%` makes the
rest of the line a comment.

| lexer | lines | end of file |
| --- | --- | --- |
| reading | has its lines and goes from one to the next | after the last line |
| handed | is handed one line at a time | after each line |

In both a block comment stays open from line to line.  Unknown words are lexemes like the others
and are also noted as complaints.  A reading lexer warns once if its lines end inside a comment.

| | follows |
| --- | --- |
| `next`, `scan`, `search` | `nextToken` in streaming mode, language specification, §4.1 and §14 |
| `lexLine` | `lexLine` in single-line mode, with the comment that it carries over |
| `complaints` | the diagnostics that a lexer records |
-/

import PlotScript.Text.Blank
import PlotScript.Token.Stream

namespace PlotScript

/-- The state of a lexer. -/
structure Lexer where
  /-- The lines still to read; none for a lexer that is handed its lines. -/
  unread : Option (List String)
  source : Option String
  line : String
  lineNumber : Int
  /-- The column of the next character of the line. -/
  column : Nat
  /-- The characters of the line from `column` on. -/
  rest : List Char
  /-- Where the open block comment began. -/
  comment : Option Lexeme
  /-- The lines have run out. -/
  finished : Bool
  complaints : List Complaint

namespace Lexer

/-- A lexer that reads these lines. -/
def reading (lines : List String) (source : Option String) : Lexer :=
  ⟨some lines, source, "", 0, 0, [], none, false, []⟩

/-- A lexer that is handed its lines. -/
def handed (source : Option String) : Lexer :=
  ⟨none, source, "", 0, 0, [], none, false, []⟩

/-- Columns of the current line. -/
def place (x : Lexer) (start stop : Nat) : Place :=
  ⟨x.line, x.lineNumber, start, stop, x.source⟩

/-- What is found on the rest of a line: the next word with its column and what follows it, if
there is one, and the comment that is open then. -/
structure Scan where
  word : Option (Nat × List Char × List Char)
  comment : Option Lexeme
  deriving DecidableEq

/-- Passes over blanks and comments up to the next word. -/
def scan (place : Nat → Nat → Place) : Option Lexeme → Nat → List Char → Scan
  | comment, _, [] => ⟨none, comment⟩
  | some _, n, '=' :: '%' :: r => scan place none (n + 2) r
  | some x, n, _ :: r => scan place (some x) (n + 1) r
  | none, n, '%' :: '=' :: r => scan place (some ⟨⟨.unknown, "%="⟩, place n (n + 2)⟩) (n + 2) r
  | none, _, '%' :: _ => ⟨none, none⟩
  | none, n, c :: r =>
    if Text.isBlank c then scan place none (n + 1) r
    else ⟨some (n, c :: r.takeWhile (!Text.isBlank ·), r.dropWhile (!Text.isBlank ·)), none⟩

/-- The lexer after its line is read and a comment may be open. -/
def atLineEnd (x : Lexer) (comment : Option Lexeme) : Lexer :=
  { x with column := x.line.toList.length, rest := [], comment := comment }

/-- The lexer at the start of a line. -/
def load (x : Lexer) (text : String) (number : Int) : Lexer :=
  let line := Text.dropLineEnd text
  { x with line := line, lineNumber := number, column := 0, rest := line.toList }

/-- The lexer after a word of its line, which is noted if it is unknown. -/
def take (x : Lexer) (start : Nat) (word rest : List Char) : Lexeme × Lexer :=
  let stop := start + word.length
  let lexeme : Lexeme := ⟨classify (String.ofList word), x.place start stop⟩
  let noted :=
    if lexeme.kind = .unknown then
      [Complaint.about (.unknownToken (String.ofList word)) lexeme]
    else []
  (lexeme, { x with
    column := stop, rest := rest, comment := none, complaints := x.complaints ++ noted })

/-- What a lexer gives next. -/
inductive Next where
  | word (lexeme : Lexeme) (after : Lexer)
  | stop (lexeme : Lexeme) (warning : Option Complaint) (after : Lexer)

/-- The end of the file, with the warning for a comment that is open then. -/
def stop (x : Lexer) : Next :=
  let n := x.line.toList.length
  let warning :=
    if x.unread.isSome && !x.finished then x.comment.map (Complaint.about .commentNotClosed)
    else none
  .stop ⟨⟨.endOfFile, ""⟩, x.place n n⟩ warning { x with finished := true }

/-- Looks for the next word on the current line, then on the lines still to read. -/
def search (x : Lexer) : List String → Next
  | [] =>
    match scan x.place x.comment x.column x.rest with
    | ⟨some (start, word, rest), _⟩ => let (l, y) := x.take start word rest; .word l y
    | ⟨none, comment⟩ => (x.atLineEnd comment).stop
  | line :: lines =>
    match scan x.place x.comment x.column x.rest with
    | ⟨some (start, word, rest), _⟩ => let (l, y) := x.take start word rest; .word l y
    | ⟨none, comment⟩ =>
      search ({ x.atLineEnd comment with unread := some lines }.load line (x.lineNumber + 1)) lines

/-- The next lexeme. -/
def next (x : Lexer) : Next := x.search (x.unread.getD [])

/-- The number of characters still to read. -/
def remaining (x : Lexer) : Nat :=
  x.rest.length + ((x.unread.getD []).flatMap String.toList).length

/-- Dropping from the front does not make a list longer. -/
theorem length_dropWhile_le {α : Type} (p : α → Bool) (l : List α) :
    (l.dropWhile p).length ≤ l.length :=
  (List.dropWhile_sublist p).length_le

/-- Dropping from the end does not make a list longer. -/
theorem length_dropWhileEnd_le {α : Type} (p : α → Bool) (l : List α) :
    (Text.dropWhileEnd p l).length ≤ l.length := by
  unfold Text.dropWhileEnd
  rw [List.length_reverse]
  exact Nat.le_trans (length_dropWhile_le _ _) (Nat.le_of_eq List.length_reverse)

/-- **A word is never empty and comes out of the rest of the line,** so what follows is shorter. -/
theorem length_of_scan {place : Nat → Nat → Place} {comment : Option Lexeme} {n : Nat}
    {cs : List Char} {start : Nat} {word rest : List Char} {c : Option Lexeme}
    (h : scan place comment n cs = ⟨some (start, word, rest), c⟩) : rest.length < cs.length := by
  fun_induction scan place comment n cs with
  | case1 => simp at h
  | case2 _ n r ih => have := ih h; simp only [List.length_cons]; omega
  | case3 x n _ r _ ih => have := ih h; simp only [List.length_cons]; omega
  | case4 n r ih => have := ih h; simp only [List.length_cons]; omega
  | case5 => simp at h
  | case6 n c r _ _ _ ih => have := ih h; simp only [List.length_cons]; omega
  | case7 n c r _ _ _ =>
    simp only [Scan.mk.injEq, Option.some.injEq, Prod.mk.injEq] at h
    obtain ⟨⟨-, -, rfl⟩, -⟩ := h
    have := length_dropWhile_le (!Text.isBlank ·) r
    simp only [List.length_cons]; omega

/-- A word that is found leaves less to be read than there was, which is why lexing comes to its
end. -/
theorem remaining_search {x y : Lexer} {lines : List String} {l : Lexeme}
    (hx : x.unread.getD [] = lines) (h : x.search lines = .word l y) :
    y.remaining < x.remaining := by
  induction lines generalizing x with
  | nil =>
    unfold search at h
    split at h
    · rename_i hs
      simp only [take, Next.word.injEq] at h
      have := length_of_scan hs
      rw [← h.2]
      simp only [remaining, hx]
      omega
    · simp [stop] at h
  | cons line lines ih =>
    unfold search at h
    split at h
    · rename_i hs
      simp only [take, Next.word.injEq] at h
      have := length_of_scan hs
      rw [← h.2]
      simp only [remaining, hx]
      omega
    · have hlt := ih (by simp [load, atLineEnd]) h
      have hle : (Text.dropLineEnd line).toList.length ≤ line.toList.length := by
        simp only [Text.dropLineEnd, String.toList_ofList]
        exact length_dropWhileEnd_le _ _
      simp only [remaining, load, atLineEnd, Option.getD_some] at hlt
      simp only [remaining, hx, List.flatMap_cons, List.length_append]
      omega

/-- **A lexer makes progress:** after a word fewer characters are left to read. -/
theorem remaining_next {x y : Lexer} {l : Lexeme} (h : x.next = .word l y) :
    y.remaining < x.remaining :=
  remaining_search rfl h

/-- All remaining lexemes, with the end of the file. -/
def tokens (x : Lexer) : List Lexeme × Option Complaint × Lexer :=
  match h : x.next with
  | .stop l warning y => ([l], warning, y)
  | .word l y =>
    have := remaining_next h
    let (ls, warning, z) := y.tokens
    (l :: ls, warning, z)
termination_by x.remaining

/-- The lexemes of one line, with the end of the file.  Lines are counted on from the last one
unless a number is given. -/
def lexLine (x : Lexer) (text : String) (number : Option Int) :
    Except Failure (List Lexeme) × Lexer :=
  if x.unread.isSome then (.error .lexerReads, x)
  else
    let y := { x.load text (number.getD (x.lineNumber + 1)) with finished := false }
    let (ls, _, z) := y.tokens
    (.ok ls, z)

/-- The complaints that a lexer has and an earlier state of it had not. -/
def complaintsSince (x earlier : Lexer) : List Complaint :=
  x.complaints.drop earlier.complaints.length

end Lexer
end PlotScript
