/-
# Interrupts

The keyboard interrupts a session at the prompt or while a line is carried out, and then always in a
call of the plotter: the call is the last that is noted, in the mode of that moment
(`Executor.atCall_run`).  So it is with what the operating system refuses the plotter.  After an
interrupt nothing waits, and what is begun later is made up of words of
later lines (`Session.interruption`).

The history holds the lines that are no commands of the session, since the last of them that is
`clear` (`Session.remembered`).

The language specification, §4.3 and §5, has an interrupt leave the state of the session as it is.
-/

import PlotScript.Proofs.Dialogue

namespace PlotScript

open Grammar

/-- A fault that no part of the program comes to, but the plotter may: an interrupt, or what the
operating system refuses it. -/
def Fault.Outside : Fault → Prop
  | .interrupt _ | .failure (.system _) => True
  | .complaint _ _ | .failure _ => False

/-- A fault of a command's own does not come from outside. -/
theorem Fault.not_outside_of_own {f : Fault} (h : f.Own) : ¬f.Outside := by
  intro ho
  rcases f with ⟨_ | _ | _ | _, _⟩ | _ | f
  · exact ho
  · exact ho
  · exact ho
  · exact ho
  · exact h
  · cases f with
    | system => exact h
    | _ => exact ho

/-- That a lexer refuses a line is a failure of its own. -/
theorem Lexer.own_lexLine {x : Lexer} {text : String} {n : Option Int} :
    ErrorsIn Failure.Own (x.lexLine text n).1 := by
  unfold lexLine
  split
  · exact errorsIn_error (by trivial)
  · exact errorsIn_ok _

namespace Bench

open Act (Faults)

variable {σ : Type}

/-- If a fault comes only from outside, then it is the answer to the call that is noted last, and
the mode is still the one in which that call was made. -/
def AtCall (f : Fault) (b : Bench σ) : Prop := f.Outside →
  ∃ before c r, b.deeds = before ++ [.asked b.mode c (.error r)] ∧ r.toFault = f

/-- Nothing is said of a fault that does not come from outside. -/
theorem atCall_of_not {f : Fault} (h : ¬f.Outside) (b : Bench σ) : AtCall f b :=
  fun hf => absurd hf h

/-- Nothing is said of a failure of this program's own. -/
theorem atCall_failure {f : Failure} (h : f.Own) (b : Bench σ) : AtCall (.failure f) b :=
  atCall_of_not (Fault.not_outside_of_own (f := .failure f) h) b

/-- No command comes to an interrupt of its own, nor does the system refuse it anything. -/
theorem EndsWith.atCall {f : Fault} {b : Bench σ} (h : EndsWith f b) : AtCall f b :=
  fun hf => h.resolve_left fun hown => Fault.not_outside_of_own hown hf

/-- An interrupt is the answer of a call that was interrupted. -/
theorem AtCall.interrupted {said : String} {b : Bench σ} (h : AtCall (.interrupt said) b) :
    ∃ before c, b.deeds = before ++ [.asked b.mode c (.error (.interrupt said))] := by
  obtain ⟨before, c, r, hd, hr⟩ := h trivial
  cases r with
  | interrupt text =>
    cases hr
    exact ⟨before, c, hd⟩
  | complaint | failure => cases hr

variable [Device σ]

/-- **A command is interrupted only in a call.** -/
theorem atCall_execute {p : Params} {last : Nat} {command : Command} {b : Bench σ} {f : Fault}
    (h : (execute p last command b).result = .error f) :
    AtCall f (execute p last command b).state := by
  obtain ⟨g, hr, rfl⟩ := exists_of_execute_eq_error h
  unfold blame
  split
  · exact atCall_of_not id _
  · exact (faults_enact p command.anchor command.action b g hr).atCall

end Bench

namespace Executor

variable {σ : Type} {e t u : Executor σ} {word : Lexeme} {rest l : List Lexeme} {f : Fault}

/-- The commands that were begun are spelled by the lexemes at their numbers. -/
def Spelled (e : Executor σ) : Prop := ∀ n a, Deed.begun n a ∈ e.bench.deeds →
  ∃ ws, ws <+: e.stream.drop n ∧ Spells ws a

/-- What is spelled stays so when lexemes follow, and when nothing else is begun. -/
theorem Spelled.of_prefix (h : Spelled e) (hs : e.stream.entries <+: t.stream.entries)
    (hd : ∀ n a, Deed.begun n a ∈ t.bench.deeds → Deed.begun n a ∈ e.bench.deeds) :
    Spelled t := by
  intro n a ha
  obtain ⟨ws, hws, hsp⟩ := h n a (hd n a ha)
  obtain ⟨m, hm⟩ := hs
  refine ⟨ws, ?_, hsp⟩
  show ws <+: t.stream.entries.drop n
  rw [← hm, List.drop_append]
  exact hws.trans (List.prefix_append _ _)

/-- No complaint about a command ends a run with a fault that comes from outside. -/
theorem not_outside_of_recover {start : Nat} {c : Complaint}
    (h : (e.recover start word c).result = .error f) : ¬f.Outside := by
  intro ho
  have hr := recovered e start word c
  generalize e.recover start word c = o at h hr
  cases hr <;> cases h <;> exact ho

section Device

variable [Device σ]

/-- A command that was read is interrupted only in a call, and the call is the last that is noted:
after an interrupt nothing is reported. -/
theorem atCall_carryOut {a : Action} {n : Nat} (h : (e.carryOut word a n).result = .error f) :
    Bench.AtCall f (e.carryOut word a n).state.bench := by
  have hx (g : Fault) := @Bench.atCall_execute σ _ e.params (e.index + n - 1) ⟨word, a⟩
    (e.bench.note (.begun e.index a)) g
  unfold carryOut at h ⊢
  generalize Bench.execute e.params (e.index + n - 1) ⟨word, a⟩
    (e.bench.note (.begun e.index a)) = o at h hx ⊢
  simp only at h ⊢
  split at h
  · cases h
  · have h : (recover { e with index := e.index + n, bench := o.state } e.index word _).result =
      .error f := h
    exact Bench.atCall_of_not (not_outside_of_recover h) _
  · rename_i g _ hg
    cases h
    exact hx _ hg

/-- A step is interrupted only in a call of the command that it carries out.  Reading fails with
faults of its own, and a complaint is no interrupt. -/
theorem atCall_step (h : (e.step word rest).result = .error f) :
    Bench.AtCall f (e.step word rest).state.bench := by
  unfold step at h ⊢
  split at h
  · cases h
  · unfold command at h ⊢
    simp only [after] at h ⊢
    split at h
    · cases h
    · cases h
      rename_i g hg
      exact Bench.atCall_failure (Reader.own_read _ hg) _
    · exact Bench.atCall_of_not (not_outside_of_recover h) _
    · exact atCall_carryOut h

/-- **A run is interrupted only in a call**, and only in a call the system refuses it anything.  The
run ends in its last step, and the steps before it ended without a fault. -/
theorem atCall_run (h : e.run.result = .error f) : Bench.AtCall f e.run.state.bench := by
  fun_induction run e with
  | case1 e hw => cases h
  | case2 e word rest hw g es t hr =>
    have hs := @atCall_step σ e word rest g _ (by rw [hr])
    rw [hr] at hs
    cases h
    exact hs
  | case3 e word rest hw es t hr => cases h
  | case4 e word rest hw given es t hr _ o ih =>
    refine ih ?_
    rcases ho : o.result with g | k
    · have h : o.result.map (given ++ ·) = .error f := h
      rw [ho] at h
      cases h
      rfl
    · have h : o.result.map (given ++ ·) = .error f := h
      rw [ho] at h
      cases h

/-- Parsing is interrupted only in a call; adding lexemes to the stream makes none. -/
theorem atCall_parse (h : (e.parse l).result = .error f) :
    Bench.AtCall f (e.parse l).state.bench := by
  unfold parse at h ⊢
  simp only at h ⊢
  split at h
  · cases h
    rename_i g hg
    exact Bench.atCall_failure (Stream.own_extend g hg) _
  · exact atCall_run h

/-- A command that is carried out is spelled by the lexemes at its number. -/
theorem spelled_carryOut (h : Spelled e) (hw : e.waiting = word :: rest) {a : Action} {n : Nat}
    (hb : Begins e.mode (word :: rest) a n) : Spelled (e.carryOut word a n).state := by
  have hs := (frame_carryOut e word a n).stream
  obtain ⟨ws, tail, hl, -, hws, -, -⟩ := hb
  intro k a' ha'
  rw [hs]
  rcases mem_begun_carryOut.1 ha' with hold | ⟨rfl, rfl⟩
  · exact h k a' hold
  · refine ⟨ws, ⟨tail, ?_⟩, hws⟩
    rw [← hl, ← hw]
    rfl

/-- A step begins a command only where lexemes spell it.  What is read is spelled by the lexemes at
the front, and a step begins nothing else. -/
theorem spelled_step (h : Spelled e) (hw : e.waiting = word :: rest) :
    Spelled (e.step word rest).state := by
  have hs := stepped e word rest
  generalize e.step word rest = o at hs ⊢
  cases hs with
  | @skipped b _ =>
    have hd : (e.skip b).bench.deeds = e.bench.deeds := congrArg Past.deeds (past_skip e b)
    refine h.of_prefix (by rw [(frame_skip e b).stream]) fun n a ha => ?_
    rwa [hd] at ha
  | waits | failed => exact h
  | @wrong cause x offset _ _ _ =>
    generalize hc : (⟨cause, some x, some (e.index + offset)⟩ : Complaint) = c
    have hs := (frame_recover e e.index word c).stream
    have hd := congrArg Past.deeds (past_recover e e.index word c)
    have hpre : e.stream.entries <+: (e.recover e.index word c).state.stream.entries := by rw [hs]
    refine h.of_prefix hpre fun n a ha => ?_
    have ha : Deed.begun n a ∈ (e.recover e.index word c).state.past.deeds := ha
    rw [hd] at ha
    refine (List.mem_append.1 ha).resolve_right fun hc => ?_
    cases List.mem_singleton.1 hc
  | read _ _ hr => exact spelled_carryOut h hw (Reader.begins_of_read hr)

/-- A run begins commands only where lexemes spell them. -/
theorem spelled_run (h : Spelled e) : Spelled e.run.state :=
  rel_run (r := fun e t => Spelled e → Spelled t) (fun _ h => h) (fun hr hs h => hs (hr h))
    (fun hw h => spelled_step h hw) e h

/-- **What an executor begins is spelled by its lexemes**, whatever it is used for.  More lexemes
leave those at the front as they are, and only a run begins commands. -/
theorem spelled_live (h : Spelled e) (us : List Use) : Spelled (e.live us) := by
  induction us generalizing e with
  | nil => exact h
  | cons v us ih =>
    refine ih ?_
    cases v with
    | parse l =>
      have hx : Spelled { e with stream := (e.stream.extend l).2 } :=
        h.of_prefix (Stream.entries_isPrefix_extend e.stream l) fun _ _ ha => ha
      simp only [use, parse]
      split
      · exact hx
      · exact spelled_run hx
    | discard | meanwhile => exact h.of_prefix List.prefix_rfl fun _ _ ha => ha
    | close =>
      have hd : e.close.2.bench.deeds = e.bench.deeds := congrArg Past.deeds (past_close e)
      refine h.of_prefix List.prefix_rfl fun n a ha => ?_
      rwa [← hd]

/-- What an executor does when it is given words after nothing waited.  Its stream grows by some of
the words, in their order; whatever it begins is spelled by these; and none of all the commands in
its notes was begun twice. -/
structure Resumes (words : List Lexeme) (t u : Executor σ) : Prop where
  grown : ∃ l deeds, l.Sublist words ∧ u.stream.entries = t.stream.entries ++ l ∧
    u.bench.deeds = t.bench.deeds ++ deeds ∧
    ∀ n a, .begun n a ∈ deeds → ∃ k ws, n = t.stream.size + k ∧ ws <+: l.drop k ∧ Spells ws a
  once : (Deed.starts u.bench.deeds).Pairwise (· < ·)

/-- **An executor with nothing pending goes on with new words only.**  It is at the end of its
stream, so all that it begins later is spelled by lexemes that came later. -/
theorem Fed.resumes (h : Fed l t u) (he : t.stream.ended = false) (ha : Advancing t)
    (hsp : Spelled t) (hi : t.index = t.stream.size) : Resumes l t u := by
  obtain ⟨-, m, hm, hs⟩ := h.stream_eq he
  obtain ⟨deeds, hd, hnew⟩ := h.onward hi.ge le_rfl
  refine ⟨⟨m, deeds, hm, hs, hd, fun n a hn => ?_⟩, Deed.pairwise_starts (h.advancing ha).follows⟩
  obtain ⟨us, -, -, hu⟩ := h
  have hspell : Spelled u := hu ▸ spelled_live hsp us
  obtain ⟨ws, hws, hw⟩ := hspell n a (by rw [hd]; exact List.mem_append_right _ hn)
  obtain ⟨k, rfl⟩ := Nat.exists_eq_add_of_le (hnew n a hn)
  refine ⟨k, ws, rfl, ?_, hw⟩
  have hdrop : u.stream.drop (t.stream.size + k) = m.drop k := by
    show u.stream.entries.drop (t.stream.size + k) = _
    rw [hs, Stream.size, List.drop_append]
    simp
  rwa [hdrop] at hws

end Device
end Executor

namespace Session

open Executor Lexer

variable {σ : Type}

/-- The lines since the last that is `clear`, without those that are commands of the session. -/
def remembered (inputs : List Input) : List String :=
  ((inputs.filterMap lineOf?).reverse.takeWhile fun line => line.toLower ≠ "clear").reverse.filter
    fun line => line.toLower ∉ sessionWords

/-- What is remembered when one more input comes.  The word `clear` forgets all, the other words of
the session are not remembered, and any other line is. -/
theorem remembered_concat (inputs : List Input) (i : Input) : remembered (inputs ++ [i]) =
    match lineOf? i with
    | none => remembered inputs
    | some line =>
      if line.toLower = "clear" then []
      else if line.toLower ∈ sessionWords then remembered inputs
      else remembered inputs ++ [line] := by
  unfold remembered
  rw [List.filterMap_append]
  rcases hl : lineOf? i with _ | line
  · simp [hl]
  · by_cases hc : line.toLower = "clear"
    · simp [hl, hc]
    · by_cases hw : line.toLower ∈ sessionWords
      · simp [hl, hc, hw]
      · simp [hl, hc, hw]

/-- **What a session has in its history is what is remembered.**  The cases are what a line may be
heard as. -/
theorem remembered_of_heard (inputs : List Input) (i : Input) :
    historyAfterInput (remembered inputs) i = remembered (inputs ++ [i]) := by
  rw [remembered_concat]
  cases i with
  | interrupt | endOfInput => rfl
  | typed text =>
    rw [historyAfterInput]
    rcases hear_cases text with ⟨hn, hh⟩ | ⟨line, hl, hw, hh⟩ | ⟨line, c, hl, hw, hh, hclear, -⟩
    · rw [hn, hh]
      rfl
    · have hc : line.toLower ≠ "clear" := fun hc => hw (hc ▸ by decide)
      rw [hl]
      simp only [if_neg hc, if_neg hw]
      rcases hh with hh | ⟨path, hh⟩ <;> rw [hh] <;> rfl
    · rw [hl, hh]
      simp only [if_pos hw]
      cases c with
      | clear => exact (if_pos (hclear.1 rfl)).symm
      | help | history | exit | ports =>
        refine (if_neg fun hc => ?_).symm
        cases hclear.2 hc

/-- A session after a script was sourced in it, if there is one. -/
def opened [Device σ] (s : Session σ) : Option String → Session σ
  | none => s
  | some path => (source path s).state

section Device

open Act (Faults)

variable [Device σ] {s t u : Session σ} {i : Input} {inputs : List Input}

/-- `Bench.AtCall` for the executor of a lexer. -/
abbrev AtCall (f : Fault) (x : Lexer × Executor σ) : Prop := Bench.AtCall f x.2.bench

/-- Words that are run are interrupted only in a call.  Words of which all are unknown are not run,
and any others are parsed. -/
theorem faults_feed (l : List Lexeme) (unknown : List Complaint) :
    Faults (fun f (e : Executor σ) => Bench.AtCall f e.bench) (feed l unknown) := by
  intro e f h
  rw [feed_state] at h ⊢
  split at h
  · cases h
  · rename_i hk
    rw [if_neg hk]
    rcases hr : (e.parse l).result with g | given
    · rw [hr] at h
      cases h
      exact atCall_parse hr
    · rw [hr] at h
      cases h

/-- A line is interrupted only in a call. -/
theorem faults_runLine (line : String) (n : Nat) :
    Faults AtCall (runLine line n : Act Fault (Lexer × Executor σ) Unit) := by
  rintro ⟨lexer, e⟩ f h
  simp only [runLine] at h ⊢
  have hown := @Lexer.own_lexLine lexer line (some (n : Int))
  generalize lexer.lexLine line (some (n : Int)) = o at h hown ⊢
  obtain ⟨g | l, y⟩ := o
  · cases h
    exact Bench.atCall_failure (hown g rfl) _
  · exact faults_feed _ _ e f h

/-- A line of a script is interrupted only in a call. -/
theorem faults_runSourced (x : String × Nat) :
    Faults AtCall (runSourced x : Act Fault (Lexer × Executor σ) Unit) := by
  unfold runSourced
  simp only
  split
  · exact Act.faults_pure ()
  · exact faults_runLine _ _

/-- A script is interrupted only in a call; if it is broken off, that is no fault.  It goes line by
line, so the fault is one of its last line. -/
theorem faults_source (path : String) :
    Faults (fun f (s : Session σ) => Bench.AtCall f s.executor.bench) (source path) := by
  intro s f h
  rw [source_eq_script] at h ⊢
  generalize script? s.executor.bench.site path = file at h ⊢
  cases file with
  | error cause => cases h
  | ok bytes =>
    have hall : Faults AtCall (Act.forEach ((Text.Utf8.linesBeforeFault bytes).1.zipIdx 1)
        runSourced : Act Fault (Lexer × Executor σ) Unit) := Faults.forEach faults_runSourced
    simp only [runFile_eq] at h ⊢
    by_cases hb : brokenOff (sourced path bytes s).result = true
    · rw [if_pos hb] at h
      cases h
    · rw [if_neg hb] at h
      exact hall _ f h

/-- **What is done for a typed text is interrupted only in a call.** -/
theorem faults_handle (text : String) :
    Faults (fun f (s : Session σ) => Bench.AtCall f s.executor.bench) (handle text) := by
  intro s f h
  rw [handle_eq] at h ⊢
  generalize hear text = heard at h ⊢
  cases heard with
  | nothing => cases h
  | command c => cases c <;> cases h
  | script line path => exact faults_source path (s.remember line) f h
  | line line => exact faults_runLine line _ (s.lexer, s.executor) f h

end Device

/-- What is left of a session whose typed line was interrupted with these words. -/
structure Dropped [Device σ] (said : String) (t : Session σ) : Prop where
  pending : t.executor.pending = false
  waiting : t.executor.waiting = []
  /-- The interrupt came in the last call, in the mode that is still the mode. -/
  call : ∃ before c, t.executor.bench.deeds =
    before ++ [.asked t.executor.mode c (.error (.interrupt said))]
  /-- Whatever comes later, only words of later lines are carried out. -/
  later : ∀ inputs u i, t.after? inputs = some u →
    Resumes (t.wordsOf inputs ++ u.words i) t.executor (respond i u).state.executor

/-- A session that was `first` and has answered some inputs, and asks for another. -/
structure Asking [Device σ] (first : Session σ) (inputs : List Input) (s : Session σ) : Prop where
  history : s.history = remembered inputs
  /-- The executor was not closed: the words of the inputs were parsed. -/
  fed : Fed (first.wordsOf inputs) first.executor s.executor
  atPrompt : respond .interrupt s = ⟨.ok (), [.out ""], s⟩
  atCall : ∀ text said, (handle text s).result = .error (.interrupt said) →
    ∃ t, s.next? (.typed text) = some t ∧ Dropped said t
  /-- There is a next prompt unless there is a reason to end. -/
  goesOn : ∀ i, s.next? i = none ↔ Input.ends i = true ∨ ∃ f, (respond i s).result = .error f

/-- Why a session ended at an input, and with which fault. -/
inductive Ends [Device σ] (s : Session σ) : Input → Option Fault → Prop where
  | endOfInput : Ends s .endOfInput none
  | exit {text line : String} : lineOf? (.typed text) = some line → line.toLower = "exit" →
      Ends s (.typed text) none
  | fault {text : String} {f : Fault} : (handle text s).result = .error f →
      (∀ said, f ≠ .interrupt said) → Ends s (.typed text) (some f)

section Device

variable [Device σ] {s t u : Session σ} {i : Input} {inputs : List Input}

/-- The history after some inputs that were answered. -/
theorem history_after (hl : s.lexer.unread = none) (h : s.after? inputs = some t) :
    t.history = inputs.foldl historyAfterInput s.history := by
  induction inputs generalizing s with
  | nil => exact Option.some.inj h ▸ rfl
  | cons i r ih =>
    obtain ⟨u, hu, hr⟩ := Option.bind_eq_some_iff.1 h
    obtain ⟨hlu, hh, -, -⟩ := fed_respond hl i
    rw [← state_of_next? hu] at hlu hh
    rw [ih hlu hr, hh]
    rfl

/-- What is remembered is what one input after another makes of the history. -/
theorem foldl_historyAfterInput (inputs : List Input) :
    inputs.foldl historyAfterInput [] = remembered inputs := by
  induction inputs using List.reverseRecOn with
  | nil => rfl
  | append_singleton r i ih => rw [List.foldl_concat, ih, remembered_of_heard]

/-- **An interrupt drops what waits**, and the session goes on.  The stream is discarded up to its
end, so nothing is pending, and what was done before the interrupt stays done. -/
theorem exists_dropped (hs : Upright s) (hsp : Spelled s.executor) (hr : s.running = true)
    {text said : String} (h : (handle text s).result = .error (.interrupt said)) :
    ∃ t, s.next? (.typed text) = some t ∧ Dropped said t := by
  obtain ⟨-, -, hrun, -⟩ := fed_handle hs.unread text
  have hu := hs.respond (.typed text)
  obtain ⟨-, -, -, hf⟩ := fed_respond hs.unread (.typed text)
  have hcall := (faults_handle text s _ h).interrupted
  have hresp := respond_typed text s
  have hrunning : (handle text s).state.running = true := by
    rcases hrun with hrun | he
    · rw [hrun, hr]
    · rw [handle_eq, he] at h
      cases h
  generalize handle text s = o at h hcall hresp hrunning
  obtain ⟨r, es, v⟩ := o
  obtain rfl : r = .error (.interrupt said) := h
  have hresp : respond (.typed text) s = ⟨.ok (), es ++ [.warn (.plain .interrupted)],
    { v with executor := v.executor.discard }⟩ := hresp
  have hspell : Spelled (respond (.typed text) s).state.executor := by
    obtain ⟨us, -, -, he⟩ := hf
    exact he ▸ spelled_live hsp us
  rw [hresp] at hu hspell
  refine ⟨{ v with executor := v.executor.discard },
    next?_eq_some.2 ⟨by rw [hresp], by rw [hresp]; exact hrunning, by rw [hresp]⟩, ?_⟩
  refine ⟨?_, List.drop_length, hcall, fun inputs u i hi => ?_⟩
  · simp [Executor.pending, Executor.discard]
  have hfed := (fed_after hu hi).trans (fed_respond (hu.after hi).unread i).2.2.2
  exact hfed.resumes hu.ended hu.advancing hspell rfl

/-- **A session that asks for another input** has its history and its words from those it answered,
and an interrupt drops nothing but what waits. -/
theorem asking_after {first : Session σ} (hf : Upright first) (hsp : Spelled first.executor)
    (hr : first.running = true) (hh : first.history = [])
    (h : first.after? inputs = some s) : Asking first inputs s := by
  have hs := hf.after h
  have hfed := fed_after hf h
  have hrun := running_of_after? hr h
  have hspell : Spelled s.executor := by
    obtain ⟨us, -, -, he⟩ := hfed
    exact he ▸ spelled_live hsp us
  refine ⟨?_, hfed, rfl, fun text said hi => exists_dropped hs hspell hrun hi, fun i => ?_⟩
  · rw [history_after hf.unread h, hh, foldl_historyAfterInput]
  · exact next?_eq_none hrun hs.unread

/-- **What ends a session** is the word `exit`, the end of the input, or a fault that is no
interrupt.  An interrupt that a call raises is caught, and an interrupt in place of a line is
none. -/
theorem ends_of_none (hr : s.running = true) (hl : s.lexer.unread = none)
    (h : s.next? i = none) : Ends s i (lastExchange s.prompt (respond i s)).fault := by
  cases i with
  | interrupt =>
    rcases (next?_eq_none hr hl).1 h with he | ⟨f, hf⟩
    · cases he
    · cases hf
  | endOfInput => exact .endOfInput
  | typed text =>
    have hne := fun said => respond_ne_interrupt (.typed text) s said
    have hresp := respond_typed text s
    rcases hres : (respond (.typed text) s).result with f | a
    · have hlast : (lastExchange s.prompt (respond (.typed text) s)).fault = some f := by
        simp only [lastExchange, hres]
      rw [hlast]
      refine .fault ?_ fun said hf => hne said (hf ▸ hres)
      rw [← hres, hresp]
      generalize handle text s = o at hresp ⊢
      split
      · rename_i hr'
        rw [hresp, hr'] at hres
        cases hres
      · rfl
    · have hlast : (lastExchange s.prompt (respond (.typed text) s)).fault = none := by
        simp only [lastExchange, hres]
      rw [hlast]
      rcases (next?_eq_none hr hl).1 h with he | ⟨f, hf⟩
      · have he : hear text = .command .exit := by
          simpa only [Input.ends, decide_eq_true_eq] using he
        rcases hear_cases text with ⟨-, hh⟩ | ⟨line, -, -, hh | ⟨path, hh⟩⟩ |
          ⟨line, c, hline, -, hh, -, hc⟩
        · rw [he] at hh
          cases hh
        · rw [he] at hh
          cases hh
        · rw [he] at hh
          cases hh
        · rw [he] at hh
          cases hh
          exact .exit hline (hc.1 rfl)
      · rw [hf] at hres
        cases hres

/-- A session that was just started, or in which a script was sourced then, is upright. -/
theorem upright_opened (p : Params) (device : σ) (site : Site) (script : Option String) :
    let first := (start p device site).opened script
    Upright first ∧ Spelled first.executor ∧ first.running = true ∧ first.history = [] := by
  have hsp : Spelled (start p device site).executor := fun n a h => by cases h
  cases script with
  | none => exact ⟨upright_start p device site, hsp, rfl, rfl⟩
  | some path =>
    obtain ⟨hl, hh, hr, hf⟩ := fed_source path (start p device site)
    have hu := (upright_start p device site).of_fed (congrArg Lexer.unread hl) hf
    obtain ⟨us, -, -, he⟩ := hf
    exact ⟨hu, he ▸ spelled_live hsp us, hr, hh⟩

/-- **Interrupts neither replay work nor leak it.**  This is so for a session with any parameters,
plotter and site, with or without a script sourced first, for any inputs and wherever an interrupt
comes.

- While the session asks for input, its history is what is to be remembered of the inputs so far; an
  interrupt at the prompt changes nothing; and an interrupt of a line leaves nothing that waits, the
  mode as it was, and an executor that goes on with words of later lines only.
- The session ends at `exit`, at the end of the input, or at a fault that is no interrupt, and its
  executor, which no input closes, is closed then. -/
theorem interruption (p : Params) (device : σ) (site : Site) (script : Option String) :
    let first := (start p device site).opened script
    (∀ inputs s, first.after? inputs = some s → Asking first inputs s) ∧
    ∀ inputs, ∃ before s i rest fault last,
      inputs ++ [.endOfInput] = before ++ i :: rest ∧ Asking first before s ∧
      s.next? i = none ∧ Ends s i fault ∧
      first.run inputs = ⟨first.trail before ++ [last], fault⟩ ∧
      Fed (first.wordsOf before ++ s.words i) first.executor (respond i s).state.executor ∧
      last.after.executor = (respond i s).state.executor.close.2 ∧
      last.events = (respond i s).events ++ (respond i s).state.executor.close.1 ++
        [.out "Exiting interpreter."] ∧
      last.after.history = remembered (before ++ [i]) ∧ last.after.running = false := by
  intro first
  obtain ⟨hu, hsp, hr, hh⟩ := upright_opened p device site script
  have hask : ∀ inputs s, first.after? inputs = some s → Asking first inputs s :=
    fun inputs s h => asking_after hu hsp hr hh h
  refine ⟨hask, fun inputs => ?_⟩
  obtain ⟨before, s, i, rest, he, hs, hi, hrun⟩ := exists_end first inputs
  have hup := hu.after hs
  have ha := hask before s hs
  obtain ⟨-, hhist, -, hf⟩ := fed_respond hup.unread i
  refine ⟨before, s, i, rest, _, _, he, ha, hi,
    ends_of_none (running_of_after? hr hs) hup.unread hi, hrun, ha.fed.trans hf, rfl, ?_, ?_, rfl⟩
  · exact (List.append_assoc _ _ _).symm
  · rw [← remembered_of_heard, ← ha.history]
    exact hhist

end Device

/-- A plotter at which the keyboard interrupts whenever the pen is lowered. -/
def startled : Recorder :=
  { Recorder.obliging with refusal := fun _ c => if c = .penDown then some (.interrupt "") else none }

/-- The pen is not raised after the interrupt, not even by the next line. -/
theorem interruption_startled :
    let first := (start .standard startled .bare).opened none
    let s := (respond (.typed "MODE I") first).state
    let t := (respond (.typed "PENDOWN PENUP") s).state
    first.after? [.typed "MODE I"] = some s ∧ Asking first [.typed "MODE I"] s ∧
      (handle "PENDOWN PENUP" s).result = .error (.interrupt "") ∧ Dropped "" t ∧
      Resumes (t.words (.typed "HOME")) t.executor (respond (.typed "HOME") t).state.executor ∧
      Deed.calls (respond (.typed "HOME") t).state.executor.bench.deeds =
        [.enterInteractive, .currentMode, .penDown, .home] := by
  intro first s t
  obtain ⟨hall, -⟩ := interruption .standard startled .bare none
  have hs : first.after? [.typed "MODE I"] = some s := by
    have hn : first.next? (.typed "MODE I") = some s :=
      next?_eq_some.2 ⟨by decide +kernel, by decide +kernel, rfl⟩
    rw [after?, hn]
    rfl
  have ha : Asking first [.typed "MODE I"] s := hall _ s hs
  have hr : (handle "PENDOWN PENUP" s).result = .error (.interrupt "") := by decide +kernel
  obtain ⟨t', ht, hd⟩ := ha.atCall _ _ hr
  obtain rfl : t' = t := state_of_next? ht
  have hl := hd.later [] t (.typed "HOME") rfl
  rw [wordsOf, List.nil_append] at hl
  exact ⟨hs, ha, hr, hd, hl, by decide +kernel⟩

end Session
end PlotScript
