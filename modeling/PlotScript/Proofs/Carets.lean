/-
# Where carets stand

A diagnostic about a word shows the line of the word and, below it, a caret for each column of the
word.  A lexer gives each word with the columns where it stands on its line, whatever comes before
it there: tabs, comments, texts between quotes.  So the characters above the carets are the word as
it is written (`Lexer.diagnostic_marks`).

The format is that of the language specification, §12, and §7 says what the carets underline.
-/

import PlotScript.Proofs.Blanks
import PlotScript.Proofs.UnknownWords

namespace PlotScript

open PlotScript.Part

namespace Text

/-- The rows of a message have no ends of rows. -/
theorem of_mem_rows {s row : String} (h : row ∈ rows s) : ∀ c ∈ row.toList, isRowEnd c = false := by
  obtain ⟨l, hl, rfl⟩ := List.mem_map.1 h
  rw [String.toList_ofList]
  exact fun c hc => (of_mem_splitAtEnds hl c hc).2

/-- The rows of a message have its characters, in order, but for the ends of rows. -/
theorem flatMap_rows (s : String) :
    (rows s).flatMap String.toList = s.toList.filter (!isRowEnd ·) := by
  rw [← flatten_splitAtEnds rfl rfl, rows, List.flatMap_map]
  simp only [String.toList_ofList, List.flatMap_id']

end Text

namespace Lexer

variable {x y : Lexer} {l : Lexeme} {w : Option Complaint} {texts : List String}
  {source : Option String}

/-- A lexeme is a word that stands on one of these lines, whatever the number of the line. -/
def StandsOn (texts : List String) (source : Option String) (l : Lexeme) : Prop :=
  ∃ text ∈ texts, ∃ (number : Int) (start stop : Nat),
    l.place = columns (Text.dropLineEnd text) number source start stop ∧
      WordAt (chars text) start stop l.token

/-- A word of a line stands on this line, at the columns of its place. -/
theorem standsOn_of_mem_lineRow {c : Option Lexeme} {number : Int} {text : String}
    (ht : text ∈ texts) (hl : l ∈ (lineRow source c number text).words) :
    StandsOn texts source l := by
  obtain ⟨ps, o, hps⟩ := exists_parts c.isSome (chars text)
  have hwords := (@row_of_parts (columns (Text.dropLineEnd text) number source) _ _ _ _ hps c rfl 0).1
  have hmem : l ∈ partWords (columns (Text.dropLineEnd text) number source) 0 ps := hwords ▸ hl
  obtain ⟨start, stop, hplace, hw⟩ := wordAt_of_mem hps [] hmem
  rw [List.nil_append] at hw
  exact ⟨text, ht, number, start, stop, hplace, hw⟩

/-- A word of several lines stands on one of them. -/
theorem standsOn_of_mem_rows {lines : List String} {c : Option Lexeme} {number : Int}
    (hs : lines ⊆ texts) (hl : l ∈ (rows source c number lines).words) :
    StandsOn texts source l := by
  induction lines generalizing c number with
  | nil => cases hl
  | cons line lines ih =>
    rcases List.mem_append.1 hl with hl | hl
    · exact standsOn_of_mem_lineRow (hs List.mem_cons_self) hl
    · exact ih (List.subset_of_cons_subset hs) hl

/-- Nothing is ahead of a lexer that has stopped. -/
theorem ahead_of_search_stop {ls : List String} (hx : x.lines = ls)
    (h : x.search ls = .stop l w y) : y.ahead.words = [] := by
  induction ls generalizing x with
  | nil =>
    rcases hs : scan x.place x.comment x.column x.rest with ⟨_ | ⟨start, word, rest⟩, c⟩
    · rw [search, hs] at h
      cases h
      show (row _ _ _ []).words ++ (rows _ _ _ x.lines).words = []
      rw [hx, row_of_none (scan_nil _ _)]
      rfl
    · rw [search_take hs] at h
      cases h
  | cons line ls ih =>
    rcases hs : scan x.place x.comment x.column x.rest with ⟨_ | ⟨start, word, rest⟩, c⟩
    · rw [search, hs] at h
      exact ih (x := x.nextLine c line ls) rfl h
    · rw [search_take hs] at h
      cases h

/-- Once all tokens were taken, no word is ahead. -/
@[simp] theorem ahead_tokens (x : Lexer) : x.tokens.2.2.ahead.words = [] := by
  fun_induction tokens x with
  | case1 x l warning y h => exact ahead_of_search_stop rfl h
  | case2 x l y h _ ls warning z heq ih =>
    rw [heq] at ih
    exact ih

/-- Once a line was lexed, no word is ahead: the next one comes with the next line. -/
theorem ahead_lexLine (hx : x.unread = none) (text : String) (number : Option Int) :
    (x.lexLine text number).2.ahead.words = [] := by
  rw [lexLine, hx, if_neg (by decide)]
  exact ahead_tokens _

/-- What is ahead of a lexer stands on these lines. -/
structure Looks (texts : List String) (source : Option String) (x : Lexer) : Prop where
  source_eq : x.source = source
  ahead : ∀ l ∈ x.ahead.words, StandsOn texts source l

/-- The line that a use hands to a lexer. -/
def Use.text? : Use → Option String
  | .next => none
  | .line text _ => some text

/-- **What a use gives stands on the lines**, and so does what is ahead then.  A lexer that reads
gives the first of the words ahead, and one that is handed a line gives the words of the line. -/
theorem Looks.use (h : Looks texts source x) {u : Use} (hu : ∀ text ∈ u.text?, text ∈ texts) :
    (∀ l ∈ (x.use u).1, l.kind ≠ .endOfFile → StandsOn texts source l) ∧
      Looks texts source (x.use u).2 := by
  cases u with
  | next =>
    rcases hn : x.next with ⟨l, y⟩ | ⟨l, w, y⟩
    · obtain ⟨ha, hk, -⟩ := of_search_word rfl hn
      have hall := h.ahead
      rw [ha] at hall
      simp only [Lexer.use, hn]
      obtain ⟨hl, hy⟩ := List.forall_mem_cons.1 hall
      exact ⟨List.forall_mem_singleton.2 fun _ => hl, hk.source.trans h.source_eq, hy⟩
    · obtain ⟨⟨place, rfl⟩, -, hk, -⟩ := of_search_stop rfl hn
      simp only [Lexer.use, hn]
      refine ⟨List.forall_mem_singleton.2 fun hne => absurd rfl hne, hk.source.trans h.source_eq, ?_⟩
      rw [ahead_of_search_stop rfl hn]
      exact List.forall_mem_nil _
  | line text number =>
    have ht : text ∈ texts := hu text rfl
    rcases hx : x.unread with _ | lines
    · obtain ⟨place, z, hl, -, hs, -⟩ := lexLine_eq hx text number
      have hz : z.ahead.words = [] := by
        have hz := ahead_lexLine hx text number
        rwa [hl] at hz
      simp only [Lexer.use, hl]
      refine ⟨fun l hmem hne => ?_, hs.trans h.source_eq, by rw [hz]; exact List.forall_mem_nil _⟩
      rcases List.mem_append.1 hmem with hmem | hmem
      · rw [h.source_eq] at hmem
        exact standsOn_of_mem_lineRow ht hmem
      · obtain rfl := List.mem_singleton.1 hmem
        exact absurd rfl hne
    · have hl : x.lexLine text number = (.error .lexerReads, x) := by
        rw [lexLine, hx]
        rfl
      simp only [Lexer.use, hl]
      exact ⟨List.forall_mem_nil _, h⟩

/-- What some uses give stands on the lines. -/
theorem Looks.useAll (h : Looks texts source x) {us : List Use}
    (hu : ∀ text ∈ us.filterMap Use.text?, text ∈ texts) :
    ∀ l ∈ (x.useAll us).1, l.kind ≠ .endOfFile → StandsOn texts source l := by
  induction us generalizing x with
  | nil => exact List.forall_mem_nil _
  | cons u us ih =>
    have hfirst : ∀ text ∈ u.text?, text ∈ texts := fun text ht =>
      hu text (List.mem_filterMap.2 ⟨u, List.mem_cons_self, ht⟩)
    have hrest : ∀ text ∈ us.filterMap Use.text?, text ∈ texts := fun text ht => by
      obtain ⟨v, hv, ht⟩ := List.mem_filterMap.1 ht
      exact hu text (List.mem_filterMap.2 ⟨v, List.mem_cons_of_mem u hv, ht⟩)
    obtain ⟨hl, hy⟩ := h.use hfirst
    exact List.forall_mem_append.2 ⟨hl, ih hy hrest⟩

/-- A lexer that reads lines, or one that is handed them if there are none. -/
def fresh (lines : Option (List String)) (source : Option String) : Lexer :=
  match lines with
  | some lines => reading lines source
  | none => handed source

/-- The lines that a lexer reads or is handed. -/
def given (lines : Option (List String)) (us : List Use) : List String :=
  lines.getD [] ++ us.filterMap Use.text?

/-- Nothing is ahead of a lexer that is handed its lines. -/
theorem ahead_handed (source : Option String) : (handed source).ahead.words = [] := by
  rw [ahead, row_of_none (c := none) rfl]
  rfl

/-- A lexer that has lexed nothing looks at the lines that are given to it, now or later. -/
theorem looks_fresh (lines : Option (List String)) (source : Option String) (us : List Use) :
    Looks (given lines us) source (fresh lines source) := by
  cases lines with
  | none => exact ⟨rfl, by rw [fresh, ahead_handed]; exact List.forall_mem_nil _⟩
  | some lines =>
    refine ⟨rfl, fun l hl => ?_⟩
    rw [fresh, ahead_reading] at hl
    exact standsOn_of_mem_rows (List.subset_append_left lines _) hl

end Lexer

namespace Diagnostic

variable {severity : Severity} {message : String} {p : Place} {before word after : List Char}

/-- The row that tells the place. -/
def header (severity : Severity) (p : Place) : String :=
  "[" ++ severity.name ++ "]: " ++ p.describe ++ "."

/-- The row below what is before a word and the word: a tab below each tab before the word, a space
below each other character there, and a caret below each character of the word. -/
def below (before word : List Char) : String :=
  "  " ++ String.ofList ((before.map fun c => if c = '\t' then '\t' else ' ') ++
    List.replicate word.length '^')

/-- The rows about a word of a line, and then the message. -/
def rowsOf (before word after : List Char) (message : String) : List String :=
  ("  " ++ String.ofList (before ++ (word ++ after))) :: below before word ::
    (Text.rows message).map ("  " ++ ·)

/-- The characters of a row that stand above the carets of another. -/
def above (row carets : String) : List Char :=
  ((row.toList.zip carets.toList).filter fun c => c.2 = '^').map Prod.fst

/-- A line is shown behind two spaces. -/
@[simp] theorem toList_indented (cs : List Char) :
    ("  " ++ String.ofList cs).toList = [' ', ' '] ++ cs := by
  rw [String.toList_append, String.toList_ofList (l := cs)]
  rfl

/-- **Above the carets is the word.**  The carets are as many as the characters of the word, and
before them there are blanks or tabs. -/
theorem above_below (before word after : List Char) :
    above ("  " ++ String.ofList (before ++ (word ++ after))) (below before word) = word := by
  have hgap : (List.zip [' ', ' '] [' ', ' ']).filter (fun c => c.2 = '^') = [] := rfl
  have hpad : (List.zip before (before.map fun c => if c = '\t' then '\t' else ' ')).filter
      (fun c => c.2 = '^') = [] := by
    refine List.filter_eq_nil_iff.2 fun c hc => ?_
    obtain ⟨d, -, hd⟩ := List.mem_map.1 (List.of_mem_zip hc).2
    rw [← hd]
    split <;> decide
  have hcarets : (List.zip word (List.replicate word.length '^')).filter (fun c => c.2 = '^') =
      List.zip word (List.replicate word.length '^') := by
    refine List.filter_eq_self.2 fun c hc => ?_
    rw [List.eq_of_mem_replicate (List.of_mem_zip hc).2]
    rfl
  have hrest : List.zip (word ++ after) (List.replicate word.length '^') =
      List.zip word (List.replicate word.length '^') := by
    conv_lhs => rw [← List.append_nil (List.replicate word.length '^')]
    rw [List.zip_append List.length_replicate.symm, List.zip_nil_right, List.append_nil]
  rw [above, below, toList_indented, toList_indented, List.zip_append rfl,
    List.zip_append (List.length_map _).symm, hrest, List.filter_append, List.filter_append, hgap,
    hpad, hcarets]
  exact List.map_fst_zip List.length_replicate.ge

/-- **The diagnostic of a place is made up of the rows about it.**  The columns of the place tell
how many characters stand before the word and within it. -/
theorem diagnostic_eq (hl : p.line.toList = before ++ (word ++ after)) (hw : word ≠ [])
    (hstart : p.start = before.length) (hstop : p.stop = (before.length + word.length : Nat))
    (severity : Severity) (message : String) :
    diagnostic severity message (some p) =
      String.intercalate "\n" (header severity p :: rowsOf before word after message) := by
  have hbefore : p.before = before := by
    rw [Place.before, hstart, if_neg (by omega), hl, Int.toNat_natCast, List.take_left]
  have hcarets : p.carets = List.replicate word.length '^' := by
    have hpos := List.length_pos_of_ne_nil hw
    rw [Place.carets, Place.width, hstart, hstop]
    congr 1
    omega
  have hline : "  " ++ p.line = "  " ++ String.ofList (before ++ (word ++ after)) := by
    rw [← hl, String.ofList_toList]
  show String.intercalate "\n" (diagnosticRows severity message p) = _
  rw [diagnosticRows, hline, Place.padding, hbefore, hcarets]
  rfl

/-- The rows about a word have no line feed, if its line has none.  The message is split at its line
feeds, so none is left in its rows. -/
theorem not_mem_rowsOf (hn : '\n' ∉ before ++ (word ++ after)) {row : String}
    (hr : row ∈ rowsOf before word after message) : '\n' ∉ row.toList := by
  have hgap : '\n' ∉ [' ', ' '] := by decide
  rcases List.mem_cons.1 hr with rfl | hr
  · rw [toList_indented, List.mem_append, not_or]
    exact ⟨hgap, hn⟩
  rcases List.mem_cons.1 hr with rfl | hr
  · have hpad : '\n' ∉ before.map fun c => if c = '\t' then '\t' else ' ' := fun h => by
      obtain ⟨c, -, hc⟩ := List.mem_map.1 h
      split at hc <;> exact absurd hc (by decide)
    have hcarets : '\n' ∉ List.replicate word.length '^' := fun h =>
      absurd (List.eq_of_mem_replicate h) (by decide)
    rw [below, toList_indented, List.mem_append, List.mem_append, not_or, not_or]
    exact ⟨hgap, hpad, hcarets⟩
  · obtain ⟨row, hrow, rfl⟩ := List.mem_map.1 hr
    rw [String.toList_append, List.mem_append, not_or]
    exact ⟨hgap, fun h => absurd (Text.of_mem_rows hrow _ h) (by decide)⟩

/-- The row that tells the place has no line feed, if the source has none.  The severity is one of a
few words, and the number of the line is written in digits. -/
theorem not_mem_header (hs : ∀ s, p.source = some s → '\n' ∉ s.toList) :
    '\n' ∉ (header severity p).toList := by
  have hname : '\n' ∉ severity.name.toList := by cases severity <;> decide
  have hnumber : '\n' ∉ (toString p.lineNumber).toList := fun h =>
    absurd (Text.isPlain_of_mem_intToString h) (by decide)
  simp only [header, Place.describe, String.toList_append, List.mem_append, not_or]
  refine ⟨⟨⟨⟨by decide, hname⟩, by decide⟩, ⟨by decide, hnumber⟩, ?_⟩, by decide⟩
  split
  · rename_i s hsource
    split
    · exact List.not_mem_nil
    · rw [String.toList_append]
      exact fun h => (List.mem_append.1 h).elim (by decide) (hs s hsource)
  · exact List.not_mem_nil

/-- **The rows are the lines of the diagnostic.**  The induction is on the rows; the first one may
have line feeds of its own. -/
theorem splitOn_intercalate {top : String} {rows : List String}
    (hr : ∀ row ∈ rows, '\n' ∉ row.toList) :
    (String.intercalate "\n" (top :: rows)).toList.splitOn '\n' =
      top.toList.splitOn '\n' ++ rows.map String.toList := by
  induction rows generalizing top with
  | nil => rw [String.intercalate_singleton, List.map_nil, List.append_nil]
  | cons row rows ih =>
    obtain ⟨hrow, hrest⟩ := List.forall_mem_cons.1 hr
    have hfirst : (String.intercalate "\n" (top :: row :: rows)).toList =
        top.toList ++ '\n' :: (String.intercalate "\n" (row :: rows)).toList := by
      rw [String.intercalate_cons_cons, String.toList_append, String.toList_append,
        List.append_assoc]
      rfl
    rw [hfirst, List.splitOn_append_cons_self, ih hrest, List.splitOn_eq_singleton hrow]
    rfl

end Diagnostic

namespace Lexer

open Diagnostic

/-- A token that stands in a text is classified from a piece of it.  The piece is what lies between
its two columns, and it is not empty. -/
theorem exists_piece {cs : List Char} {start stop : Nat} {t : Token} (h : WordAt cs start stop t) :
    ∃ before word after, cs = before ++ (word ++ after) ∧ start = before.length ∧
      stop = before.length + word.length ∧ word ≠ [] ∧ (∀ c ∈ word, Text.isBlank c = false) ∧
      Apart after ∧ t = classify (String.ofList word) := by
  have hlt := h.lt
  have hle := h.le
  have hbefore : (cs.take start).length = start := List.length_take_of_le (by omega)
  have hword : ((cs.take stop).drop start).length = stop - start := by
    rw [List.length_drop, List.length_take_of_le hle]
  refine ⟨cs.take start, (cs.take stop).drop start, cs.drop stop, ?_, hbefore.symm, by omega, ?_,
    h.unbroken, h.apart, h.token⟩
  · have htake : cs.take start = (cs.take stop).take start := by
      rw [List.take_take, Nat.min_eq_left hlt.le]
    rw [htake, ← List.append_assoc, List.take_append_drop, List.take_append_drop]
  · refine List.ne_nil_of_length_pos ?_
    omega

/-- **Carets mark the word, and nothing else.**  A lexer reads lines or is handed them, and is used
in any way.  Each word that it gives is a run of characters of one of these lines, and a diagnostic
about the word is made up of a row that tells the place, the line, and a row with a caret below each
character of the word and a tab or a space below each character before it; then comes the message.
The characters above the carets are the word as it is written.

If the line has no line feed inside, these rows are the lines of the diagnostic, but that the first
one is several lines if the name of the source has line feeds.  The message loses no character but
the ends of its rows. -/
theorem diagnostic_marks (lines : Option (List String)) (source : Option String) (us : List Use)
    (severity : Severity) (message : String) :
    ∀ l ∈ ((fresh lines source).useAll us).1, l.kind ≠ .endOfFile →
      ∃ text ∈ given lines us, ∃ before word after : List Char,
        (chars text = before ++ (word ++ after) ∧ word ≠ [] ∧
          (∀ c ∈ word, Text.isBlank c = false) ∧ Apart after) ∧
        (l.token = classify (String.ofList word) ∧ l.place.start = before.length ∧
          l.place.stop = (before.length + word.length : Nat)) ∧
        let shown := diagnostic severity message (some l.place)
        let top := header severity l.place
        let rows := rowsOf before word after message
        shown = String.intercalate "\n" (top :: rows) ∧
        above ("  " ++ String.ofList (chars text)) (below before word) = word ∧
        ('\n' ∉ chars text →
          shown.toList.splitOn '\n' = top.toList.splitOn '\n' ++ rows.map String.toList) ∧
        ((∀ s, source = some s → '\n' ∉ s.toList) → top.toList.splitOn '\n' = [top.toList]) ∧
        (Text.rows message).flatMap String.toList = message.toList.filter (!Text.isRowEnd ·) := by
  intro l hl hne
  have hlooks := looks_fresh lines source us
  obtain ⟨text, ht, number, start, stop, hplace, hw⟩ :=
    hlooks.useAll (fun _ h => List.mem_append_right _ h) l hl hne
  -- The word splits its line in three.
  obtain ⟨before, word, after, hchars, rfl, rfl, hnil, hb, ha, htoken⟩ := exists_piece hw
  have hstart : l.place.start = before.length := by rw [hplace]; rfl
  have hstop : l.place.stop = (before.length + word.length : Nat) := by rw [hplace]; rfl
  have hline : l.place.line.toList = before ++ (word ++ after) := by rw [hplace]; exact hchars
  have hsource : l.place.source = source := by rw [hplace]; rfl
  have hshown := diagnostic_eq hline hnil hstart hstop severity message
  refine ⟨text, ht, before, word, after, ⟨hchars, hnil, hb, ha⟩, ⟨htoken, hstart, hstop⟩, hshown,
    ?_, fun hn => ?_, fun hs => ?_, Text.flatMap_rows message⟩
  · rw [hchars]
    exact above_below before word after
  · rw [hchars] at hn
    rw [hshown]
    exact splitOn_intercalate fun row hr => not_mem_rowsOf hn hr
  · exact List.splitOn_eq_singleton (not_mem_header (hsource ▸ hs))

/-- A word between quotes, behind a tab, a comment and another tab.  The tabs are kept in the row of
the carets, and so the carets are below the word. -/
theorem diagnostic_marks_quoted :
    let text := "\tSETPLOT %= a =%\t\"b\""
    let l : Lexeme := ⟨⟨.string, "b"⟩, ⟨text, 1, 17, 20, none⟩⟩
    l ∈ ((fresh none none).useAll [.line text none]).1 ∧ l.kind ≠ .endOfFile ∧
      (∃ line ∈ given none [.line text none], ∃ before word after : List Char,
        chars line = before ++ (word ++ after) ∧ l.token = classify (String.ofList word) ∧
        diagnostic .error "No.\nUse X" (some l.place) =
          String.intercalate "\n" (header .error l.place :: rowsOf before word after "No.\nUse X") ∧
        above ("  " ++ String.ofList (chars line)) (below before word) = word) ∧
      diagnostic .error "No.\nUse X" (some l.place) =
        "[ERROR]: On line 1.\n  \tSETPLOT %= a =%\t\"b\"\n  \t               \t^^^\n  No.\n  Use X" := by
  intro text l
  have hl : l ∈ ((fresh none none).useAll [.line text none]).1 := by decide +kernel
  obtain ⟨line, ht, before, word, after, ⟨hchars, -⟩, ⟨htoken, -⟩, hshown, habove, -⟩ :=
    diagnostic_marks none none [.line text none] .error "No.\nUse X" l hl (by decide)
  exact ⟨hl, by decide, ⟨line, ht, before, word, after, hchars, htoken, hshown, habove⟩,
    by decide +kernel⟩

end Lexer
end PlotScript
