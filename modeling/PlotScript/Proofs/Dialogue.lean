/-
# How a session goes

A typed text is nothing, a command of the session, a line that sources a script, or a line of a
script (`Session.hear`), and what is done for it is one equation (`Session.handle_eq`).  All that a
session ever does with its executor is to parse the words of lines, and to discard what waits after
an interrupt: so an executor is *fed* the words of the inputs, in their order
(`Session.fed_respond`).

A session asks for one input after another (`Session.after?`) until one ends it: the word `exit`,
the end of the input, or a fault that is no interrupt (`Session.exists_end`).
-/

import PlotScript.Proofs.Progress
import PlotScript.Proofs.Sourcing

namespace PlotScript
namespace Executor

/-- A use that neither ends the stream nor closes the executor. -/
def Use.Inner : Use → Prop
  | parse l => ∀ x ∈ l, x.kind ≠ .endOfFile
  | discard => True
  | close | meanwhile _ => False

/-- The lexemes that a use adds. -/
def Use.given : Use → List Lexeme
  | parse l => l
  | discard | close | meanwhile _ => []

variable {σ : Type} [Device σ] {e t u : Executor σ} {l m : List Lexeme}

/-- From one executor to another, lexemes are parsed, in the order given, though perhaps not all of
them; and what waits may be discarded. -/
def Fed (l : List Lexeme) (e t : Executor σ) : Prop :=
  ∃ us : List Use, (∀ v ∈ us, v.Inner) ∧ (us.flatMap Use.given).Sublist l ∧ t = e.live us

/-- Nothing needs to be parsed of the lexemes that are given. -/
theorem Fed.refl (l : List Lexeme) (e : Executor σ) : Fed l e e :=
  ⟨[], by simp, List.nil_sublist l, rfl⟩

/-- Lexemes are fed one row after another by feeding them together. -/
theorem Fed.trans (h : Fed l e t) (k : Fed m t u) : Fed (l ++ m) e u := by
  obtain ⟨us, hu, hl, rfl⟩ := h
  obtain ⟨vs, hv, hm, rfl⟩ := k
  refine ⟨us ++ vs, fun v hx => ?_, ?_, List.foldl_append.symm⟩
  · exact (List.mem_append.1 hx).elim (hu v) (hv v)
  · rw [List.flatMap_append]
    exact hl.append hm

/-- What is fed may be part of more, as not all that is given has to be parsed. -/
theorem Fed.mono (h : Fed l e t) (hm : l.Sublist m) : Fed m e t := by
  obtain ⟨us, hu, hl, ht⟩ := h
  exact ⟨us, hu, hl.trans hm, ht⟩

/-- Lexemes that do not end the stream are fed by parsing them, whatever the result of that is. -/
theorem fed_parse (h : ∀ x ∈ l, x.kind ≠ .endOfFile) : Fed l e (e.parse l).state := by
  refine ⟨[.parse l], fun v hv => ?_, ?_, rfl⟩
  · obtain rfl := List.mem_singleton.1 hv
    exact h
  · simp [Use.given]

/-- Discarding what waits feeds nothing. -/
theorem fed_discard (e : Executor σ) : Fed [] e e.discard := by
  refine ⟨[.discard], fun v hv => ?_, by simp [Use.given], rfl⟩
  obtain rfl := List.mem_singleton.1 hv
  trivial

/-- A use that does not end the stream adds the lexemes that it is given to it, and keeps it
open. -/
theorem stream_use {v : Use} (he : e.stream.ended = false) (hv : v.Inner) :
    (e.use v).stream = ⟨e.stream.entries ++ v.given, false⟩ := by
  cases v with
  | parse l =>
    show (e.parse l).state.stream = _
    rw [parse_of_forall he hv, (frame_run _).stream]
    rfl
  | discard =>
    show e.stream = _
    rw [Use.given, List.append_nil, ← he]
  | close | meanwhile => exact hv.elim

/-- Lexemes are added to the stream of an executor in the order in which they are given. -/
theorem stream_live (he : e.stream.ended = false) {us : List Use} (hu : ∀ v ∈ us, v.Inner) :
    (e.live us).stream = ⟨e.stream.entries ++ us.flatMap Use.given, false⟩ := by
  induction us generalizing e with
  | nil =>
    rw [List.flatMap_nil, List.append_nil, ← he]
    rfl
  | cons v us ih =>
    have hv := stream_use he (hu v List.mem_cons_self)
    have hlive : e.live (v :: us) = (e.use v).live us := rfl
    rw [hlive, ih (by rw [hv]) fun w hw => hu w (List.mem_cons_of_mem v hw), hv,
      List.flatMap_cons, List.append_assoc]

/-- **The stream of an executor that is fed is what it was, and then the lexemes parsed.** -/
theorem Fed.stream_eq (h : Fed l e t) (he : e.stream.ended = false) :
    t.stream.ended = false ∧
      ∃ m, m.Sublist l ∧ t.stream.entries = e.stream.entries ++ m := by
  obtain ⟨us, hu, hl, rfl⟩ := h
  rw [stream_live he hu]
  exact ⟨rfl, _, hl, rfl⟩

/-- An executor that takes its commands in order still does when it was fed. -/
theorem Fed.advancing (h : Fed l e t) (he : Advancing e) : Advancing t := by
  obtain ⟨us, -, -, rfl⟩ := h
  exact he.live us

/-- What is noted while an executor is fed is about commands from a place on, if all lexemes up to
this place are behind it. -/
theorem Fed.onward (h : Fed l e t) {n : Nat} (hi : n ≤ e.index) (hs : n ≤ e.stream.size) :
    Deed.Onward n e.bench.deeds t.bench.deeds := by
  obtain ⟨us, -, -, rfl⟩ := h
  exact onward_live hi hs us

/-- A command that is carried out is begun, and no other.  The note that it is begun comes first,
and what it notes after that begins nothing. -/
theorem mem_begun_carryOut {word : Lexeme} {a a' : Action} {n k : Nat} :
    .begun k a' ∈ (e.carryOut word a n).state.bench.deeds ↔
      .begun k a' ∈ e.bench.deeds ∨ k = e.index ∧ a' = a := by
  obtain ⟨cs, -, hp⟩ := past_carryOut_cases e word a n
  have hmem : .begun k a' ∈ (e.carryOut word a n).state.bench.deeds ↔
      .begun k a' ∈ (e.past.enact e.index a cs).deeds := by
    show _ ∈ (e.carryOut word a n).state.past.deeds ↔ _
    rcases hp with hp | ⟨c, hp⟩
    · rw [hp]
    · rw [hp]
      refine ⟨fun h => (List.mem_append.1 h).resolve_right fun hc => ?_, List.mem_append_left _⟩
      cases List.mem_singleton.1 hc
  rw [hmem]
  constructor
  · intro h
    rcases mem_enact h rfl with hold | hnew
    · exact .inl hold
    · cases hnew
      exact .inr ⟨rfl, rfl⟩
  · rintro (h | ⟨rfl, rfl⟩)
    · exact List.mem_append_left _ h
    · exact List.mem_append_right _ List.mem_cons_self

/-- An executor that is fed stays in reach of its stream. -/
theorem Fed.inReach (h : Fed l e t) (he : e.InReach) : t.InReach := by
  obtain ⟨us, -, -, rfl⟩ := h
  exact he.live us

end Executor

namespace Session

open Executor Lexer

variable {σ : Type}

/-- What a typed text is to a session. -/
inductive Heard where
  | nothing
  | command (c : SessionCommand)
  /-- A line that sources the script at a path. -/
  | script (line path : String)
  | line (line : String)
  deriving DecidableEq

/-- What a typed text is to a session. -/
def hear (text : String) : Heard :=
  let line := Text.sanitize text
  if line.isEmpty then .nothing
  else match SessionCommand.ofLine? line with
    | some c => .command c
    | none =>
      match sourceArgument? line with
      | some path => .script line path
      | none => .line line

/-- The lines that are commands of the session itself, in lower case. -/
def sessionWords : List String := ["help", "history", "clear", "exit", "ports"]

/-- The line that an input gives, if there is anything on it. -/
def lineOf? : Input → Option String
  | .typed text =>
    let line := Text.sanitize text
    if line.isEmpty then none else some line
  | .interrupt | .endOfInput => none

/-- A line is a command of the session if its letters are those of one.  The cases are the four
words of a session, and any other line. -/
theorem ofLine?_cases (line : String) :
    (SessionCommand.ofLine? line = none ∧ line.toLower ∉ sessionWords) ∨
    ∃ c, SessionCommand.ofLine? line = some c ∧ line.toLower ∈ sessionWords ∧
      (c = .clear ↔ line.toLower = "clear") ∧ (c = .exit ↔ line.toLower = "exit") := by
  unfold SessionCommand.ofLine? sessionWords
  generalize line.toLower = lower
  by_cases h1 : lower = "help"
  · subst h1
    exact .inr ⟨.help, by decide, by decide, by decide, by decide⟩
  by_cases h2 : lower = "history"
  · subst h2
    exact .inr ⟨.history, by decide, by decide, by decide, by decide⟩
  by_cases h3 : lower = "clear"
  · subst h3
    exact .inr ⟨.clear, by decide, by decide, by decide, by decide⟩
  by_cases h4 : lower = "exit"
  · subst h4
    exact .inr ⟨.exit, by decide, by decide, by decide, by decide⟩
  by_cases h5 : lower = "ports"
  · subst h5
    exact .inr ⟨.ports, by decide, by decide, by decide, by decide⟩
  · refine .inl ⟨?_, by simp [h1, h2, h3, h4, h5]⟩
    rw [List.lookup_eq_none_iff]
    simp [h1, h2, h3, h4, h5]

/-- What is heard is nothing, or a line of a script, or a command of the session.  The cases are
those of hearing: an empty line, one of the four words, a path, or anything else. -/
theorem hear_cases (text : String) :
    (lineOf? (.typed text) = none ∧ hear text = .nothing) ∨
    (∃ line, lineOf? (.typed text) = some line ∧ line.toLower ∉ sessionWords ∧
      (hear text = .line line ∨ ∃ path, hear text = .script line path)) ∨
    ∃ line c, lineOf? (.typed text) = some line ∧ line.toLower ∈ sessionWords ∧
      hear text = .command c ∧ (c = .clear ↔ line.toLower = "clear") ∧
      (c = .exit ↔ line.toLower = "exit") := by
  simp only [lineOf?, hear]
  generalize Text.sanitize text = line
  by_cases he : line.isEmpty = true
  · exact .inl ⟨if_pos he, if_pos he⟩
  · refine .inr ?_
    rcases ofLine?_cases line with ⟨hn, hw⟩ | ⟨c, hc, hw, hclear, hexit⟩
    · refine .inl ⟨line, if_neg he, hw, ?_⟩
      simp only [if_neg he, hn]
      rcases sourceArgument? line with _ | path
      · exact .inl rfl
      · exact .inr ⟨path, rfl⟩
    · refine .inr ⟨line, c, if_neg he, hw, ?_, hclear, hexit⟩
      simp only [if_neg he, hc]

/-- A session with one more line in its history. -/
def remember (s : Session σ) (line : String) : Session σ :=
  { s with history := s.history ++ [line] }

/-- The bytes of the script at a path, or why there are none. -/
def script? (site : Site) (path : String) : Except Cause (List UInt8) :=
  if path.isEmpty then .error .sourceNotGiven
  else match site.lookup path with
    | none => .error (.fileMissing path)
    | some .folder => .error (.fileNotRegular path)
    | some (.file bytes) => .ok bytes

/-- The lines of a file that can be read, without what no terminal shows. -/
def shownLines (bytes : List UInt8) : List String :=
  (Text.Utf8.linesBeforeFault bytes).1.map Text.sanitize

/-- The words of the script at a path. -/
def scriptWords (site : Site) (path : String) : List Lexeme :=
  match script? site path with
  | .ok bytes => (rows (some path) none 1 (shownLines bytes)).words
  | .error _ => []

/-- The words that come with what is heard: those of a line, or of the script that it sources. -/
def wordsHeard (s : Session σ) : Heard → List Lexeme
  | .line line =>
    (lineRow s.lexer.source s.lexer.comment ((s.history.length + 1 : Nat) : Int) line).words
  | .script _ path => scriptWords s.executor.bench.site path
  | .nothing | .command _ => []

/-- The words that come with an input. -/
def words (s : Session σ) : Input → List Lexeme
  | .typed text => s.wordsHeard (hear text)
  | .interrupt | .endOfInput => []

section Device

variable [Device σ] {s t u : Session σ} {i : Input}

/-- **What a session does for a typed text.**  What is heard decides, and all but a blank line is
remembered first. -/
theorem handle_eq (text : String) (s : Session σ) : handle text s =
    match hear text with
    | .nothing => ⟨.ok (), [], s⟩
    | .command c => obey c s
    | .script line path => source path (s.remember line)
    | .line line =>
      let o := runLine line (s.history.length + 1) (s.lexer, s.executor)
      ⟨o.result, o.events, { s.remember line with lexer := o.state.1, executor := o.state.2 }⟩ := by
  unfold handle hear
  generalize Text.sanitize text = line
  by_cases he : line.isEmpty = true
  · simp only [he, if_true]
    rfl
  · simp only [he]
    rcases SessionCommand.ofLine? line with _ | c
    · have hlen : (s.history ++ [line]).length = s.history.length + 1 := by simp
      rcases sourceArgument? line with _ | path
      · show Act.on (fun s => (s.lexer, s.executor))
          (fun x s => { s with lexer := x.1, executor := x.2 })
          (runLine line (s.history ++ [line]).length) (s.remember line) = _
        rw [hlen]
        rfl
      · rfl
    · rfl

/-- To source a path is to run the bytes that are found there, or to complain that there are none.
It is refused without a path, and where there is no file at the path. -/
theorem source_eq_script (path : String) (s : Session σ) : source path s =
    match script? s.executor.bench.site path with
    | .error cause => ⟨.ok (), [.report .command (.plain cause)], s⟩
    | .ok bytes => runFile path bytes s := by
  show (if path.isEmpty then complain .sourceNotGiven
    else match s.executor.bench.site.lookup path with
      | none => complain (.fileMissing path)
      | some .folder => complain (.fileNotRegular path)
      | some (.file bytes) => runFile path bytes : Act Fault (Session σ) Unit) s = _
  unfold script?
  by_cases hp : path.isEmpty = true
  · rw [if_pos hp, if_pos hp]
    rfl
  · rw [if_neg hp, if_neg hp]
    rcases s.executor.bench.site.lookup path with _ | _ | bytes <;> rfl

/-- The lines of a script, carried out one after another. -/
def sourced (path : String) (bytes : List UInt8) (s : Session σ) :
    Outcome Fault (Lexer × Executor σ) Unit :=
  Act.forEach ((Text.Utf8.linesBeforeFault bytes).1.zipIdx 1) runSourced
    (.handed (some path), s.executor)

/-- The lines of a script are carried out with a lexer of their own, so of all that changes only the
executor is kept. -/
theorem runLines_eq (path : String) (bytes : List UInt8) (s : Session σ) : runLines path bytes s =
    let o := sourced path bytes s
    ⟨o.result, o.events ++ (if o.result.isOk && (Text.Utf8.linesBeforeFault bytes).2 then
        [.report .command (.plain (.fileUnreadable path))] else []),
      { s with executor := o.state.2 }⟩ := by
  unfold runLines sourced
  generalize Text.Utf8.linesBeforeFault bytes = file
  obtain ⟨ls, faulty⟩ := file
  generalize ho : Act.forEach (ls.zipIdx 1) runSourced (.handed (some path), s.executor) = o
  set x : Act Fault (Session σ) Unit :=
    (Act.forEach (ls.zipIdx 1) runSourced).on (fun s => (.handed (some path), s.executor))
      fun x s => { s with executor := x.2 }
  have hx : x s = ⟨o.result, o.events, { s with executor := o.state.2 }⟩ := by
    show Outcome.mk (Act.forEach (ls.zipIdx 1) runSourced (.handed (some path), s.executor)).result
      _ _ = _
    rw [ho]
  show (x >>= fun _ => if faulty then complain (.fileUnreadable path) else pure ()) s = _
  obtain ⟨r, es, u⟩ := o
  cases r with
  | error f =>
    rw [Act.bind_of_error (e := f) (by rw [hx]), hx]
    show _ = Outcome.mk _ (es ++ []) _
    rw [List.append_nil]
  | ok a =>
    rw [Act.bind_of_ok (a := a) (by rw [hx]), hx]
    cases faulty <;> rfl

/-- What the operating system refuses breaks a script off, and the session goes on. -/
def brokenOff : Except Fault Unit → Bool
  | .error (.failure (.system _)) => true
  | _ => false

/-- **What a script comes to:** its lines are carried out, and one complaint is left if it is broken
off, or if not all of it can be read. -/
theorem runFile_eq (path : String) (bytes : List UInt8) (s : Session σ) : runFile path bytes s =
    let o := sourced path bytes s
    ⟨if brokenOff o.result then .ok () else o.result,
      .log .debug ("Sourcing file '" ++ path ++ "'.") :: (o.events ++
        if brokenOff o.result || o.result.isOk && (Text.Utf8.linesBeforeFault bytes).2 then
          [.report .command (.plain (.fileUnreadable path))] else []),
      { s with executor := o.state.2 }⟩ := by
  have hlines := runLines_eq path bytes s
  have hlog (x : Act Fault (Session σ) Unit) :
      (Act.log .debug ("Sourcing file '" ++ path ++ "'.") >>= fun _ => x) s =
        ⟨(x s).result, .log .debug ("Sourcing file '" ++ path ++ "'.") :: (x s).events,
          (x s).state⟩ := rfl
  refine (hlog _).trans ?_
  generalize sourced path bytes s = o at hlines
  obtain ⟨r, es, u⟩ := o
  dsimp only at hlines ⊢
  rcases r with f | a
  · have hr : (runLines path bytes s).result = .error f := by rw [hlines]
    -- Only an error of the system breaks the reading of the script off.
    by_cases hf : ∃ text, f = .failure (.system text)
    · obtain ⟨text, rfl⟩ := hf
      rw [Act.rescue_of_some hr rfl, hlines]
      simp [brokenOff, complain, Act.tell, Except.isOk, Except.toBool]
    · have hb : brokenOff (.error f) = false := by
        unfold brokenOff
        split
        · rename_i text h
          exact absurd ⟨text, Except.error.inj h⟩ hf
        · rfl
      rw [Act.rescue_of_none hr ?_, hlines, hb]
      · rfl
      · split
        · rename_i text
          exact absurd ⟨text, rfl⟩ hf
        · rfl
  · rw [Act.rescue_of_ok (a := a) (by rw [hlines]), hlines]
    rfl

/-- Words are parsed as soon as one of them is known; else they are only reported, and the executor
stays as it is. -/
theorem feed_state (l : List Lexeme) (unknown : List Complaint) (e : Executor σ) :
    feed l unknown e =
      if l.all fun x => x.kind = .unknown then ⟨.ok (), unknown.map (Event.report .command), e⟩
      else ⟨(e.parse l).result.map fun _ => (), (e.parse l).events, (e.parse l).state⟩ := by
  unfold feed
  split
  · rfl
  · rcases hr : (e.parse l).result with f | given
    · rw [Act.bind_of_error (x := fun e : Executor σ => e.parse l) hr]
      rfl
    · rw [Act.bind_of_ok (x := fun e : Executor σ => e.parse l) hr]
      show Outcome.mk _ ((e.parse l).events ++ []) _ = _
      rw [List.append_nil]
      rfl

/-- However words are run, they are fed: reported words need not be parsed. -/
theorem fed_feed {l : List Lexeme} (h : ∀ x ∈ l, x.kind ≠ .endOfFile) (unknown : List Complaint)
    (e : Executor σ) : Fed l e (feed l unknown e).state := by
  rw [feed_state]
  split
  · exact .refl l e
  · exact fed_parse h

/-- **What a line comes to:** its words are fed, and the lexer goes on behind it.  The words come
with the end of the file behind them, which is left out before they are fed. -/
theorem exists_runLine {x : Lexer × Executor σ} (hx : x.1.unread = none) (line : String)
    (n : Nat) :
    let row := lineRow x.1.source x.1.comment n line
    let o := feed row.words (unknowns row.words) x.2
    ∃ y : Lexer, y.unread = none ∧ y.source = x.1.source ∧ y.comment = row.comment ∧
      runLine line n x = ⟨o.result,
        (unknowns row.words).map (fun c => .log .debug (c.describe .command)) ++ o.events,
        (y, o.state)⟩ := by
  obtain ⟨lexer, e⟩ := x
  intro row o
  obtain ⟨place, y, hl, hc, hs, -, hu, hk⟩ := lexLine_eq hx line (some (n : Int))
  refine ⟨y, hu, hs, hc, ?_⟩
  have hf : (row.words ++ [(⟨⟨.endOfFile, ""⟩, place⟩ : Lexeme)]).filter
      (fun z => decide (z.kind ≠ .endOfFile)) = row.words := by
    rw [List.filter_append, List.filter_eq_self.2 fun z hz => by
      simpa using kind_ne_of_mem_row hz]
    simp
  have hn : y.complaintsSince lexer = unknowns row.words := by
    rw [complaintsSince, hk, List.drop_left]
    rfl
  simp only [Option.getD_some] at hl
  simp only [runLine, hl, hn]
  rw [hf]

/-- A line leaves the lexer behind its words, with the comment that is open then, and its words are
fed. -/
theorem fed_runLine {x : Lexer × Executor σ} (hx : x.1.unread = none) (line : String) (n : Nat) :
    let row := lineRow x.1.source x.1.comment n line
    (runLine line n x).state.1.unread = none ∧
      (runLine line n x).state.1.source = x.1.source ∧
      (runLine line n x).state.1.comment = row.comment ∧
      Fed row.words x.2 (runLine line n x).state.2 := by
  intro row
  obtain ⟨y, hu, hs, hc, hr⟩ := exists_runLine hx line n
  rw [hr]
  exact ⟨hu, hs, hc, fed_feed (fun _ => kind_ne_of_mem_row) _ _⟩

/-- A line of a script is run, if there is anything on it. -/
theorem runSourced_eq (line : String) (n : Nat) (x : Lexer × Executor σ) :
    runSourced (line, n) x =
      if (Text.sanitize line).isEmpty then ⟨.ok (), [], x⟩
      else runLine (Text.sanitize line) n x := by
  simp only [runSourced]
  split <;> rfl

/-- A line of a script comes to what its words come to.  It is sanitized first, and a blank one is
not handed to the lexer at all. -/
theorem exists_runSourced {x : Lexer × Executor σ} (hx : x.1.unread = none) (line : String)
    (n : Nat) :
    let row := lineRow x.1.source x.1.comment n (Text.sanitize line)
    let o := feed row.words (unknowns row.words) x.2
    ∃ y : Lexer, y.unread = none ∧ y.source = x.1.source ∧ y.comment = row.comment ∧
      (runSourced (line, n) x).result = o.result ∧
      o.events.Sublist (runSourced (line, n) x).events ∧
      (runSourced (line, n) x).state = (y, o.state) := by
  intro row o
  rw [runSourced_eq]
  split
  · rename_i he
    have hrow : row = ⟨[], x.1.comment⟩ := by
      show lineRow _ _ _ (Text.sanitize line) = _
      rw [String.isEmpty_iff.1 he, lineRow_empty]
    have ho : o = ⟨.ok (), [], x.2⟩ := by
      show feed row.words (unknowns row.words) x.2 = _
      rw [hrow]
      rfl
    rw [ho, hrow]
    exact ⟨x.1, hx, rfl, rfl, rfl, .refl _, rfl⟩
  · obtain ⟨y, hu, hs, hc, hy⟩ := exists_runLine hx (Text.sanitize line) n
    rw [hy]
    exact ⟨y, hu, hs, hc, rfl, List.sublist_append_right _ _, rfl⟩

/-- A line of a script leaves the lexer behind its words and feeds them, like a line that is typed:
an empty one has no words. -/
theorem fed_runSourced {x : Lexer × Executor σ} (hx : x.1.unread = none) (line : String)
    (n : Nat) :
    let row := lineRow x.1.source x.1.comment n (Text.sanitize line)
    (runSourced (line, n) x).state.1.unread = none ∧
      (runSourced (line, n) x).state.1.source = x.1.source ∧
      (runSourced (line, n) x).state.1.comment = row.comment ∧
      Fed row.words x.2 (runSourced (line, n) x).state.2 := by
  intro row
  obtain ⟨y, hu, hs, hc, -, -, hstate⟩ := exists_runSourced hx line n
  rw [hstate]
  exact ⟨hu, hs, hc, fed_feed (fun _ => kind_ne_of_mem_row) _ _⟩

/-- **The lines of a script are fed in their order**, up to the one that ends with a fault.  The
induction is on the lines, with the lexer and the executor that those before leave. -/
theorem fed_forEach {x : Lexer × Executor σ} (hx : x.1.unread = none) (ls : List String)
    (n : Nat) : Fed (rows x.1.source x.1.comment n (ls.map Text.sanitize)).words x.2
      (Act.forEach (ls.zipIdx n) runSourced x).state.2 := by
  induction ls generalizing x n with
  | nil => exact .refl [] x.2
  | cons line ls ih =>
    obtain ⟨hu, hs, hc, hf⟩ := fed_runSourced hx line n
    have hrest := ih hu (n + 1)
    have hn : ((n + 1 : Nat) : Int) = n + 1 := rfl
    rw [hs, hc, hn] at hrest
    simp only [List.zipIdx_cons, Act.forEach_cons, List.map_cons, rows]
    generalize lineRow x.1.source x.1.comment n (Text.sanitize line) = row at hf hrest ⊢
    rcases hr : (runSourced (line, n) x).result with f | a
    · rw [Act.bind_of_error hr]
      generalize runSourced (line, n) x = o at hf ⊢
      exact hf.mono (List.sublist_append_left ..)
    · rw [Act.bind_of_ok hr]
      generalize runSourced (line, n) x = o at hf hrest ⊢
      exact hf.trans hrest

/-- All words of a script are fed in order, though perhaps not the last of them. -/
theorem fed_sourced (path : String) (bytes : List UInt8) (s : Session σ) :
    Fed (rows (some path) none 1 (shownLines bytes)).words s.executor
      (sourced path bytes s).state.2 := by
  unfold sourced shownLines
  generalize (Text.Utf8.linesBeforeFault bytes).1 = ls
  exact fed_forEach (x := (.handed (some path), s.executor)) rfl ls 1

/-- A session whose lexer is handed its lines, and whose executor is not strict and may be given
more. -/
structure Upright (s : Session σ) : Prop where
  unread : s.lexer.unread = none
  ended : s.executor.stream.ended = false
  advancing : Advancing s.executor
  inReach : s.executor.InReach

omit [Device σ] in
/-- A session is upright before its first prompt. -/
theorem upright_start (p : Params) (device : σ) (site : Site) : Upright (start p device site) :=
  ⟨rfl, rfl, advancing_start p device site, inReach_start false p device site⟩

/-- What is fed to the executor of a session leaves it upright. -/
theorem Upright.of_fed {l : List Lexeme} (h : Upright s) (hu : t.lexer.unread = none)
    (hf : Fed l s.executor t.executor) : Upright t :=
  ⟨hu, (hf.stream_eq h.ended).1, hf.advancing h.advancing, hf.inReach h.inReach⟩

/-- Sourcing a script feeds its words and touches neither the lexer of the session nor its
history. -/
theorem fed_source (path : String) (s : Session σ) :
    (source path s).state.lexer = s.lexer ∧ (source path s).state.history = s.history ∧
      (source path s).state.running = s.running ∧
      Fed (scriptWords s.executor.bench.site path) s.executor (source path s).state.executor := by
  rw [source_eq_script, scriptWords]
  cases script? s.executor.bench.site path with
  | error cause => exact ⟨rfl, rfl, rfl, .refl [] s.executor⟩
  | ok bytes =>
    have hf := fed_sourced path bytes s
    simp only [runFile_eq]
    generalize sourced path bytes s = o at hf ⊢
    exact ⟨trivial, trivial, trivial, hf⟩

/-- What a session has in its history after what it heard. -/
def historyAfter (history : List String) : Heard → List String
  | .nothing => history
  | .command .clear => []
  | .command _ => history
  | .script line _ | .line line => history ++ [line]

/-- **What is done for a typed text, the words of its lines are fed**, and nothing else changes but
the lexer and the history, unless it is `exit`. -/
theorem fed_handle (h : s.lexer.unread = none) (text : String) :
    (handle text s).state.lexer.unread = none ∧
      (handle text s).state.history = historyAfter s.history (hear text) ∧
      ((handle text s).state.running = s.running ∨ hear text = .command .exit) ∧
      Fed (s.words (.typed text)) s.executor (handle text s).state.executor := by
  rw [handle_eq, words]
  generalize hear text = heard
  cases heard with
  | nothing => exact ⟨h, rfl, .inl rfl, .refl [] s.executor⟩
  | command c =>
    cases c with
    | exit => exact ⟨h, rfl, .inr rfl, .refl [] s.executor⟩
    | help | history | clear | ports => exact ⟨h, rfl, .inl rfl, .refl [] s.executor⟩
  | script line path =>
    obtain ⟨hl, hh, hr, hf⟩ := fed_source path (s.remember line)
    exact ⟨(congrArg Lexer.unread hl).trans h, hh, .inl hr, hf⟩
  | line line =>
    obtain ⟨hu, -, -, hf⟩ := fed_runLine (x := (s.lexer, s.executor)) h line (s.history.length + 1)
    exact ⟨hu, rfl, .inl rfl, hf⟩

/-- What is done for a typed text after it was handled. -/
theorem respond_typed (text : String) (s : Session σ) : respond (.typed text) s =
    match (handle text s).result with
    | .error (.interrupt _) => ⟨.ok (), (handle text s).events ++ [.warn (.plain .interrupted)],
      { (handle text s).state with executor := (handle text s).state.executor.discard }⟩
    | _ => handle text s := by
  simp only [respond]
  generalize handle text s = o
  obtain ⟨r, es, t⟩ := o
  rcases r with (_ | _ | _) | _ <;> rfl

/-- What a session has in its history after an input. -/
def historyAfterInput (history : List String) : Input → List String
  | .typed text => historyAfter history (hear text)
  | .interrupt | .endOfInput => history

/-- An input that ends a session, if it is answered at all. -/
def Input.ends : Input → Bool
  | .typed text => hear text = .command .exit
  | .interrupt => false
  | .endOfInput => true

/-- **However an input is answered, its words are fed.**  An interrupt in the middle of a line
discards what waits, which feeds nothing. -/
theorem fed_respond (h : s.lexer.unread = none) (i : Input) :
    (respond i s).state.lexer.unread = none ∧
      (respond i s).state.history = historyAfterInput s.history i ∧
      ((respond i s).state.running = s.running ∨ Input.ends i = true) ∧
      Fed (s.words i) s.executor (respond i s).state.executor := by
  cases i with
  | interrupt => exact ⟨h, rfl, .inl rfl, .refl [] s.executor⟩
  | endOfInput => exact ⟨h, rfl, .inr rfl, .refl [] s.executor⟩
  | typed text =>
    obtain ⟨hu, hh, hr, hf⟩ := fed_handle h text
    have hr : (handle text s).state.running = s.running ∨ Input.ends (.typed text) = true :=
      hr.imp_right fun he => by simp [Input.ends, he]
    rw [respond_typed]
    generalize handle text s = o at hu hh hr hf ⊢
    split
    · have hd := hf.trans (fed_discard o.state.executor)
      rw [List.append_nil] at hd
      exact ⟨hu, hh, hr, hd⟩
    · exact ⟨hu, hh, hr, hf⟩

/-- A session stays upright whatever the input is and however it is answered. -/
theorem Upright.respond (h : Upright s) (i : Input) : Upright (respond i s).state := by
  obtain ⟨hu, -, -, hf⟩ := fed_respond h.unread i
  exact h.of_fed hu hf

/-- No answer to an input ends with an interrupt. -/
theorem respond_ne_interrupt (i : Input) (s : Session σ) (said : String) :
    (respond i s).result ≠ .error (.interrupt said) := by
  intro h
  cases i with
  | interrupt | endOfInput => cases h
  | typed text =>
    rw [respond_typed] at h
    generalize handle text s = o at h
    split at h
    · cases h
    · rename_i hr
      exact hr said h

/-- The session after an input, if it then asks for another. -/
def next? (s : Session σ) (i : Input) : Option (Session σ) :=
  match (respond i s).result with
  | .ok () => if (respond i s).state.running then some (respond i s).state else none
  | .error _ => none

/-- The session after some inputs, if it then asks for another. -/
def after? (s : Session σ) : List Input → Option (Session σ)
  | [] => some s
  | i :: r => (s.next? i).bind fun t => t.after? r

/-- The words that come with some inputs. -/
def wordsOf (s : Session σ) : List Input → List Lexeme
  | [] => []
  | i :: r => s.words i ++ ((s.next? i).map fun t => t.wordsOf r).getD []

/-- The exchanges for some inputs, as long as the session asks for another. -/
def trail (s : Session σ) : List Input → List (Exchange σ)
  | [] => []
  | i :: r =>
    ((s.next? i).map fun t => ⟨s.prompt, (respond i s).events, t⟩ :: t.trail r).getD []

/-- A session asks for another input if the answer ended with no fault and left it running. -/
theorem next?_eq_some : s.next? i = some t ↔ (respond i s).result = .ok () ∧
    (respond i s).state.running = true ∧ (respond i s).state = t := by
  unfold next?
  rcases (respond i s).result with f | a
  · simp
  · simp

/-- The session that asks for another input is the one that the answer leaves. -/
theorem state_of_next? (h : s.next? i = some t) : t = (respond i s).state :=
  (next?_eq_some.1 h).2.2.symm


/-- A session that asks for another input is upright. -/
theorem Upright.next (h : Upright s) (hi : s.next? i = some t) : Upright t :=
  state_of_next? hi ▸ h.respond i

/-- A session that asks for another input is upright, however many it answered. -/
theorem Upright.after {inputs : List Input} (h : Upright s) (hi : s.after? inputs = some t) :
    Upright t := by
  induction inputs generalizing s with
  | nil => exact Option.some.inj hi ▸ h
  | cons i r ih =>
    obtain ⟨u, hu, hr⟩ := Option.bind_eq_some_iff.1 hi
    exact ih (h.next hu) hr

/-- **The words of the inputs are fed, one input after another.** -/
theorem fed_after {inputs : List Input} (h : Upright s) (hi : s.after? inputs = some t) :
    Fed (s.wordsOf inputs) s.executor t.executor := by
  induction inputs generalizing s with
  | nil => exact Option.some.inj hi ▸ .refl [] s.executor
  | cons i r ih =>
    obtain ⟨u, hu, hr⟩ := Option.bind_eq_some_iff.1 hi
    have hf : Fed (s.words i) s.executor u.executor :=
      state_of_next? hu ▸ (fed_respond h.unread i).2.2.2
    rw [wordsOf, hu]
    exact hf.trans (ih (h.next hu) hr)

/-- What ends a session is answered by ending it. -/
theorem running_of_ends (h : Input.ends i = true) : (respond i s).state.running = false := by
  cases i with
  | interrupt => cases h
  | endOfInput => rfl
  | typed text =>
    have he : hear text = .command .exit := by simpa only [Input.ends, decide_eq_true_eq] using h
    have hh : handle text s = ⟨.ok (), [], { s with running := false }⟩ := by
      rw [handle_eq, he]
      rfl
    rw [respond_typed, hh]

/-- A session that does not ask for another input has heard `exit` or the end of the input, or ends
with a fault. -/
theorem next?_eq_none (hr : s.running = true) (hl : s.lexer.unread = none) : s.next? i = none ↔
    Input.ends i = true ∨ ∃ f, (respond i s).result = .error f := by
  obtain ⟨-, -, hrun, -⟩ := fed_respond hl i
  unfold next?
  constructor
  · intro h
    rcases hres : (respond i s).result with f | a
    · exact .inr ⟨f, rfl⟩
    · simp only [hres] at h
      refine .inl (hrun.resolve_left fun he => ?_)
      rw [he, hr] at h
      cases h
  · rintro (he | ⟨f, hf⟩)
    · have hstop : (respond i s).state.running = false := running_of_ends he
      rcases hres : (respond i s).result with f | a
      · rfl
      · simp only [hstop, Bool.false_eq_true, if_false]
    · rw [hf]

/-- A session that asks for another input is running. -/
theorem running_of_next? (h : s.next? i = some t) : t.running = true := by
  obtain ⟨-, hr, rfl⟩ := next?_eq_some.1 h
  exact hr

/-- A session that asks for another input is running, however many it answered. -/
theorem running_of_after? {inputs : List Input} (hr : s.running = true)
    (h : s.after? inputs = some t) : t.running = true := by
  induction inputs generalizing s with
  | nil => exact Option.some.inj h ▸ hr
  | cons i r ih =>
    obtain ⟨u, hu, hrest⟩ := Option.bind_eq_some_iff.1 h
    exact ih (running_of_next? hu) hrest

/-- Where a session asks for no other input, its transcript ends, and what comes after is not
heard. -/
theorem run_of_none (h : s.next? i = none) (r : List Input) :
    s.run (i :: r) = lastExchange s.prompt (respond i s) := by
  unfold next? at h
  rw [run]
  generalize respond i s = o at h ⊢
  obtain ⟨f | a, es, t⟩ := o
  · rfl
  · by_cases ht : t.running = true
    · simp only [ht, if_true] at h
      cases h
    · simp only [ht]
      rfl

/-- Where a session asks for another input, its transcript is the one exchange, and then that of the
session from there on. -/
theorem run_of_some (h : s.next? i = some t) (r : List Input) :
    s.run (i :: r) = ⟨⟨s.prompt, (respond i s).events, t⟩ :: (t.run r).exchanges,
      (t.run r).fault⟩ := by
  obtain ⟨hr, hrun, rfl⟩ := next?_eq_some.1 h
  rw [run]
  generalize respond i s = o at hr hrun ⊢
  obtain ⟨f | a, es, t⟩ := o
  · cases hr
  · simp only [show t.running = true from hrun, if_true]

/-- **How a session ends:** at the first input after which it does not ask for another, or at the
end of the input. -/
theorem exists_end (s : Session σ) (inputs : List Input) : ∃ before t i rest,
    inputs ++ [.endOfInput] = before ++ i :: rest ∧ s.after? before = some t ∧
      t.next? i = none ∧
      s.run inputs = ⟨s.trail before ++ (lastExchange t.prompt (respond i t)).exchanges,
        (lastExchange t.prompt (respond i t)).fault⟩ := by
  induction inputs generalizing s with
  | nil => exact ⟨[], s, .endOfInput, [], rfl, rfl, rfl, rfl⟩
  | cons i inputs ih =>
    rcases hn : s.next? i with _ | t
    · exact ⟨[], s, i, inputs ++ [.endOfInput], rfl, rfl, hn, run_of_none hn inputs⟩
    · obtain ⟨before, u, j, rest, he, hu, hj, hrun⟩ := ih t
      refine ⟨i :: before, u, j, rest, by rw [List.cons_append, he]; rfl, ?_, hj, ?_⟩
      · rw [after?, hn]
        exact hu
      · rw [run_of_some hn, hrun, trail, hn]
        rfl

end Device
end Session
end PlotScript
