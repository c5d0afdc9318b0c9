/-
# Asides

`help`, `history`, `clear`, `ports`, a blank line and an interrupt at the prompt are asides: they
print something, perhaps, and change nothing but the history (`Session.respond_aside`).  Still they
are not without a trace, for lines are numbered by the history: after `clear`, another line with the
same text has the same number, and looks like the same line.

It makes no difference (`Session.undisturbed`).  Whatever asides are put in between, the other
inputs are answered by the same calls and the same complaints, and the session ends the same, but
for line numbers and its history.

The words are the meta-commands of the language specification, §4.3 and §14.
-/

import PlotScript.Plotter.Preview
import PlotScript.Proofs.Interruption
import PlotScript.Proofs.Renumbering

namespace PlotScript

namespace Session

open Executor Lexer

variable {σ : Type} {s t : Session σ} {i : Input} {inputs inputs' : List Input}

/-- The commands of a session that only show something, or forget what was typed. -/
def asideWords : List String := ["help", "history", "clear", "ports"]

/-- An input that a script knows nothing of: one of `asideWords`, in any letter case and between
blanks; a blank line; or an interrupt at the prompt. -/
def Input.isAside : Input → Bool
  | .typed text => (lineOf? (.typed text)).all fun line => line.toLower ∈ asideWords
  | .interrupt => true
  | .endOfInput => false

/-- Two sessions that are the same but for line numbers and their histories. -/
structure Matches (s t : Session σ) : Prop where
  alongside : Alongside (s.lexer, s.executor) (t.lexer, t.executor)
  running : s.running = t.running

/-- The answers to one input in two sessions that match. -/
structure Exchange.Matches (x y : Exchange σ) : Prop where
  prompt : x.prompt = y.prompt
  events : Event.Renumbered x.events y.events
  after : Session.Matches x.after y.after

/-- What two sessions have come to is the same, line numbers and histories apart. -/
structure SameState (s t : Session σ) : Prop where
  index : s.executor.index = t.executor.index
  tokens : s.executor.stream.tokens = t.executor.stream.tokens
  mode : s.executor.mode = t.executor.mode
  plotLoaded : s.executor.bench.plotLoaded = t.executor.bench.plotLoaded
  skipping : s.executor.skipping = t.executor.skipping
  /-- The same comment is open, or none is. -/
  comment : s.lexer.comment.map Lexeme.token = t.lexer.comment.map Lexeme.token
  device : s.executor.bench.device = t.executor.bench.device
  /-- The messages of all that was wrong with commands. -/
  messages : (Deed.complaints s.executor.bench.deeds).map Complaint.message =
    (Deed.complaints t.executor.bench.deeds).map Complaint.message

/-- The exchanges of a session but for those of asides. -/
def answers : List Input → List (Exchange σ) → List (Exchange σ)
  | [], xs => xs
  | _ :: _, [] => []
  | i :: r, x :: xs => if Input.isAside i then answers r xs else x :: answers r xs

/-- All that is observed of a session. -/
def Transcript.events (t : Transcript σ) : List Event := t.exchanges.flatMap Exchange.events

/-- Two sessions go the same way but for asides. -/
structure Undisturbed (inputs inputs' : List Input) (t t' : Transcript σ) : Prop where
  answers : List.Forall₂ Exchange.Matches (answers inputs t.exchanges)
    (answers inputs' t'.exchanges)
  calls : Event.calls t.events = Event.calls t'.events
  errors : Event.Renumbered (t.events.filter Event.isError) (t'.events.filter Event.isError)
  fault : t.fault.map (Fault.moved .unnumbered) = t'.fault.map (Fault.moved .unnumbered)
  last : ∃ x y, t.exchanges.getLast? = some x ∧ t'.exchanges.getLast? = some y ∧
    x.after.SameState y.after

/-- Sessions that match are in the same state, up to the history and the places of what waits.
Moving the places leaves the words and the messages as they are. -/
theorem Matches.sameState (h : s.Matches t) : s.SameState t := by
  have he : s.executor.moved .unnumbered = t.executor.moved .unnumbered := h.alongside.executor
  have hentries := congrArg (fun e : Executor σ => e.stream.entries.map Lexeme.token) he
  have hdeeds := congrArg (fun e : Executor σ =>
    (Deed.complaints e.bench.deeds).map Complaint.message) he
  have hcomment := congrArg (Option.map Lexeme.token) h.alongside.comment
  have htoken : ∀ l : List Lexeme,
      (l.map (.moved .unnumbered)).map Lexeme.token = l.map Lexeme.token := fun l => by
    rw [List.map_map]
    rfl
  have hmessage : ∀ l : List Deed, (Deed.complaints (l.map (Deed.moved .unnumbered))).map
      Complaint.message = (Deed.complaints l).map Complaint.message := by
    intro l
    induction l with
    | nil => rfl
    | cons d l ih =>
      cases d with
      | reported n c => exact congrArg (List.cons c.message) ih
      | begun | modeSet | asked => exact ih
  rw [Option.map_map, Option.map_map] at hcomment
  exact ⟨(congrArg Executor.index he :), (htoken _).symm.trans (hentries.trans (htoken _)),
    (congrArg Executor.mode he :), (congrArg (fun e : Executor σ => e.bench.plotLoaded) he :),
    (congrArg Executor.skipping he :), hcomment,
    (congrArg (fun e : Executor σ => e.bench.device) he :),
    (hmessage _).symm.trans (hdeeds.trans (hmessage _))⟩

/-- Sessions that match show the same prompt, for the prompt depends on what is pending and on the
options. -/
theorem Matches.prompt_eq (h : s.Matches t) : s.prompt = t.prompt := by
  have hprompt : ∀ u : Session σ, u.prompt =
      if (u.executor.moved .unnumbered).pending
      then (u.executor.moved .unnumbered).params.continuationPrompt
      else (u.executor.moved .unnumbered).params.prompt := by
    intro u
    rw [pending_moved]
    rfl
  rw [hprompt, hprompt, show s.executor.moved .unnumbered = _ from h.alongside.executor]

/-- The same session, with another history. -/
def withHistory (s : Session σ) (l : List String) : Session σ := { s with history := l }

/-- Sessions that match do so with any histories: nothing that is compared is read from them. -/
theorem Matches.withHistory (h : s.Matches t) (l m : List String) :
    (s.withHistory l).Matches (t.withHistory m) := ⟨h.alongside, h.running⟩

/-- The asides are the words that a session answers itself, apart from the one that ends it. -/
theorem mem_asideWords {word : String} :
    word ∈ asideWords ↔ word ∈ sessionWords ∧ word ≠ "exit" := by
  have hsession : ∀ word ∈ asideWords, word ∈ sessionWords ∧ word ≠ "exit" := by decide
  have hexit : ∀ word ∈ sessionWords, word ≠ "exit" → word ∈ asideWords := by decide
  exact ⟨hsession word, fun h => hexit word h.1 h.2⟩

/-- What is heard of an aside. -/
theorem hear_of_isAside {text : String} (h : Input.isAside (.typed text) = true) :
    hear text = .nothing ∨ ∃ c, c ≠ .exit ∧ hear text = .command c := by
  simp only [Input.isAside] at h
  rcases hear_cases text with ⟨-, hn⟩ | ⟨line, hl, hw, -⟩ | ⟨line, c, hl, -, hc, -, hexit⟩
  · exact .inl hn
  · rw [hl, Option.all_some, decide_eq_true_eq] at h
    exact absurd (mem_asideWords.1 h).1 hw
  · rw [hl, Option.all_some, decide_eq_true_eq] at h
    exact .inr ⟨c, fun he => (mem_asideWords.1 h).2 (hexit.1 he), hc⟩

/-- What is heard of a typed text that is no aside. -/
theorem hear_of_not_isAside {text : String} (h : Input.isAside (.typed text) = false) :
    hear text = .command .exit ∨ (∃ line path, hear text = .script line path) ∨
      ∃ line, hear text = .line line := by
  simp only [Input.isAside] at h
  rcases hear_cases text with ⟨hn, -⟩ | ⟨line, -, -, hh⟩ | ⟨line, c, hl, hw, hc, -, hexit⟩
  · rw [hn, Option.all_none] at h
    cases h
  · rcases hh with hh | ⟨path, hh⟩
    · exact .inr (.inr ⟨line, hh⟩)
    · exact .inr (.inl ⟨line, path, hh⟩)
  · rw [hl, Option.all_some, decide_eq_false_iff_not] at h
    have he : line.toLower = "exit" := by_contra fun hne => h (mem_asideWords.2 ⟨hw, hne⟩)
    exact .inl (hc.trans (congrArg Heard.command (hexit.2 he)))

/-- A session between two inputs. -/
structure Settled (s : Session σ) : Prop extends Upright s where
  typed : s.lexer.source = none
  orderly : s.executor.Orderly

/-- A settled session has its lexer and executor ready for another line. -/
theorem Settled.ready (h : Settled s) : Ready (s.lexer, s.executor) :=
  ⟨h.unread, h.ended, h.orderly⟩

/-- The session is ready for a script. -/
theorem Settled.ready_handed (h : Settled s) (path : String) :
    Ready (.handed (some path), s.executor) := ⟨rfl, h.ended, h.orderly⟩

/-- A session starts settled: nothing is waiting and nothing is being passed over. -/
theorem settled_start (p : Params) (device : σ) (site : Site) : Settled (start p device site) :=
  ⟨upright_start p device site, rfl, Tidy.orderly (tidy_of_size_le rfl le_rfl)⟩

/-- The history has no part in whether a session is settled. -/
theorem Settled.withHistory (h : Settled s) (l : List String) : Settled (s.withHistory l) :=
  ⟨⟨h.unread, h.ended, h.advancing, h.inReach⟩, h.typed, h.orderly⟩

/-- Two lists of inputs that are the same but for asides, put in anywhere. -/
inductive Aligned : List Input → List Input → Prop
  | nil : Aligned [] []
  | left {i l l'} (h : Input.isAside i = true) (r : Aligned l l') : Aligned (i :: l) l'
  | right {i l l'} (h : Input.isAside i = true) (r : Aligned l l') : Aligned l (i :: l')
  | both {i l l'} (h : Input.isAside i = false) (r : Aligned l l') : Aligned (i :: l) (i :: l')

/-- Asides may be put in front of one of two aligned dialogues, and they remain aligned. -/
theorem Aligned.prepend (h : Aligned inputs inputs') {asides : List Input}
    (ha : ∀ i ∈ asides, Input.isAside i = true) : Aligned inputs (asides ++ inputs') := by
  induction asides with
  | nil => exact h
  | cons i r ih =>
    exact .right (ha i List.mem_cons_self) (ih fun j hj => ha j (List.mem_cons_of_mem i hj))

/-- Dialogues that are the same without their asides are aligned, wherever the asides stand.  The
induction is on the one dialogue; before an input that is no aside, the other one may have asides of
its own. -/
theorem aligned_of_filter (h : inputs.filter (fun i => !Input.isAside i) =
    inputs'.filter fun i => !Input.isAside i) : Aligned inputs inputs' := by
  induction inputs generalizing inputs' with
  | nil =>
    rw [List.filter_nil, eq_comm, List.filter_eq_nil_iff] at h
    rw [← List.append_nil inputs']
    exact Aligned.nil.prepend fun i hi => by simpa using h i hi
  | cons i r ih =>
    rcases hi : Input.isAside i with _ | _
    · rw [List.filter_cons_of_pos (by rw [hi]; rfl), eq_comm, List.filter_eq_cons_iff] at h
      obtain ⟨asides, r', rfl, ha, -, hr⟩ := h
      exact (Aligned.both hi (ih hr.symm)).prepend fun j hj => by simpa using ha j hj
    · rw [List.filter_cons_of_neg (by rw [hi]; simp)] at h
      exact .left hi (ih h)

/-- What is seen of a transcript is not changed by an exchange that only shows something.  What is
shown is neither a call nor an error, and it is not the last exchange unless nothing follows. -/
theorem observed_cons {x : Exchange σ} {shown : List String} (hx : x.events = shown.map .out)
    (t : Transcript σ) :
    let u : Transcript σ := ⟨x :: t.exchanges, t.fault⟩
    Event.calls u.events = Event.calls t.events ∧
      u.events.filter Event.isError = t.events.filter Event.isError ∧
      ∀ y, t.exchanges.getLast? = some y → u.exchanges.getLast? = some y := by
  intro u
  have he : u.events = shown.map .out ++ t.events := congrArg (· ++ t.events) hx
  refine ⟨?_, ?_, fun y hy => ?_⟩
  · rw [he, Event.calls, List.filterMap_append, List.filterMap_map]
    exact congrArg (· ++ _) (List.filterMap_eq_nil_iff.2 fun _ _ => rfl)
  · rw [he, List.filter_append, List.filter_eq_nil_iff.2, List.nil_append]
    intro ev hev
    obtain ⟨text, -, rfl⟩ := List.mem_map.1 hev
    exact Bool.false_ne_true
  · rw [List.getLast?_cons, hy]
    rfl

/-- The end of a session is the same in sessions that match. -/
theorem matches_finish (h : s.Matches t) :
    s.finish.1 = t.finish.1 ∧ s.finish.2.Matches t.finish.2 := by
  have he : s.executor.moved .unnumbered = t.executor.moved .unnumbered := h.alongside.executor
  have hclose := (close_moved s.executor).symm.trans
    ((congrArg Executor.close he).trans (close_moved t.executor))
  obtain ⟨hev, hst⟩ := Prod.mk.inj hclose
  exact ⟨congrArg (· ++ [Event.out "Exiting interpreter."]) hev,
    ⟨hst, h.alongside.source, h.alongside.comment⟩, rfl⟩

/-- Outcomes that agree end a dialogue with the same fault up to the places, whichever prompt came
before. -/
theorem fault_lastExchange {o o' : Outcome Fault (Session σ) Unit}
    (h : o.Agrees Session.Matches o') (prompt : Constant) :
    (lastExchange prompt o).fault.map (Fault.moved .unnumbered) =
      (lastExchange prompt o').fault.map (Fault.moved .unnumbered) := by
  have hres := h.result
  simp only [lastExchange]
  rcases hr : o.result with fault | u
  · rcases hr' : o'.result with fault' | u'
    · rw [hr, hr'] at hres
      exact congrArg some (Except.error.inj hres)
    · rw [hr, hr'] at hres
      cases hres
  · rw [h.result_eq_ok.1 hr]

/-- Two sessions that match end the same way when the same answer ends them.  The end of a session
closes the executor, which does the same in both. -/
theorem undisturbed_last {o o' : Outcome Fault (Session σ) Unit}
    (h : o.Agrees Session.Matches o') (prompt : Constant)
    (hl : ∀ x : Exchange σ, answers inputs [x] = [x] ∧ answers inputs' [x] = [x]) :
    Undisturbed inputs inputs' (lastExchange prompt o) (lastExchange prompt o') := by
  obtain ⟨hev, hst⟩ := matches_finish h.state
  have hx : Exchange.Matches ⟨prompt, o.events ++ o.state.finish.1, o.state.finish.2⟩
      ⟨prompt, o'.events ++ o'.state.finish.1, o'.state.finish.2⟩ :=
    ⟨rfl, h.events.append (hev ▸ Event.renumbered_refl _), hst⟩
  have hevents : Event.Renumbered (lastExchange prompt o).events
      (lastExchange prompt o').events := by
    show Event.Renumbered ((o.events ++ _) ++ []) ((o'.events ++ _) ++ [])
    rw [List.append_nil, List.append_nil]
    exact hx.events
  refine ⟨?_, hevents.calls_eq, hevents.errors, fault_lastExchange h prompt, _, _, rfl, rfl,
    hx.after.sameState⟩
  show List.Forall₂ _ (answers inputs [_]) (answers inputs' [_])
  rw [(hl _).1, (hl _).2]
  exact .cons hx .nil

/-- Sessions go the same way from one input on if the answers to it are the same.  The exchanges
come in front of the others, in the calls, in the errors and in the answers. -/
theorem Undisturbed.cons {x y : Exchange σ} {u v : Transcript σ} (hxy : x.Matches y)
    (ha : Input.isAside i = false) (h : Undisturbed inputs inputs' u v) :
    Undisturbed (i :: inputs) (i :: inputs') ⟨x :: u.exchanges, u.fault⟩
      ⟨y :: v.exchanges, v.fault⟩ := by
  obtain ⟨hans, hc, he, hf, z, w, hz, hw, hsame⟩ := h
  refine ⟨?_, ?_, ?_, hf, z, w, ?_, ?_, hsame⟩
  · have hna : ¬Input.isAside i = true := Bool.eq_false_iff.1 ha
    rw [Session.answers, Session.answers, if_neg hna, if_neg hna]
    exact .cons hxy hans
  · show Event.calls (x.events ++ u.events) = Event.calls (y.events ++ v.events)
    rw [Event.calls, Event.calls, List.filterMap_append, List.filterMap_append]
    exact congrArg₂ (· ++ ·) hxy.events.calls_eq hc
  · show Event.Renumbered ((x.events ++ u.events).filter _) ((y.events ++ v.events).filter _)
    rw [List.filter_append, List.filter_append]
    exact hxy.events.errors.append he
  · rw [List.getLast?_cons, hz]
    rfl
  · rw [List.getLast?_cons, hw]
    rfl

section Device

variable [Device σ]

/-- **An aside changes nothing but the history**, and prints at most.  A blank line is forgotten,
the words of the session show something or clear the history, and an interrupt ends a line. -/
theorem respond_aside (s : Session σ) (h : Input.isAside i = true) :
    ∃ shown history : List String,
      respond i s = ⟨.ok (), shown.map Event.out, s.withHistory history⟩ := by
  cases i with
  | endOfInput => cases h
  | interrupt => exact ⟨[""], s.history, rfl⟩
  | typed text =>
    suffices hh : ∃ shown history : List String,
        handle text s = ⟨.ok (), shown.map Event.out, s.withHistory history⟩ by
      obtain ⟨shown, history, hh⟩ := hh
      refine ⟨shown, history, ?_⟩
      rw [respond_typed, hh]
    rw [handle_eq]
    rcases hear_of_isAside h with hn | ⟨c, hc, hcommand⟩
    · rw [hn]
      exact ⟨[], s.history, rfl⟩
    · rw [hcommand]
      cases c with
      | help => exact ⟨[helpText], s.history, rfl⟩
      | history => exact ⟨historyRows s.history, s.history, rfl⟩
      | clear => exact ⟨[], [], rfl⟩
      | ports => exact ⟨SerialPort.listing s.executor.bench.site.ports, s.history, rfl⟩
      | exit => exact absurd rfl hc

/-- **A script does the same in sessions that match.**  Both find the same file, whose lines are
handed to lexers that are alike. -/
theorem agrees_source (h : s.Matches t) (hs : Settled s) (ht : Settled t) (path : String) :
    (source path s).Agrees Session.Matches (source path t) := by
  have hsite : s.executor.bench.site = t.executor.bench.site :=
    (congrArg (fun e : Executor σ => e.bench.site) h.alongside.executor :)
  rw [source_eq_script, source_eq_script, hsite]
  rcases script? t.executor.bench.site path with cause | bytes
  · exact ⟨rfl, Event.renumbered_refl _, h⟩
  · have hlines : (sourced path bytes s).Agrees Alongside (sourced path bytes t) := by
      unfold sourced
      have halongside : Alongside (.handed (some path), s.executor)
          (.handed (some path), t.executor) := ⟨h.alongside.executor, rfl, rfl⟩
      exact agrees_forEach halongside (hs.ready_handed path) (ht.ready_handed path) rfl _ 1
    have hbroken := hlines.brokenOff_eq
    simp only [runFile_eq]
    generalize (Text.Utf8.linesBeforeFault bytes).2 = faulty
    generalize sourced path bytes s = o at hlines hbroken ⊢
    generalize sourced path bytes t = o' at hlines hbroken ⊢
    have hok : o.result.isOk = o'.result.isOk := by
      have hisOk : ∀ r : Except Fault Unit, r.isOk = true ↔ r = .ok () := by
        rintro (_ | _) <;> simp [Except.isOk, Except.toBool]
      rw [Bool.eq_iff_iff, hisOk, hisOk, hlines.result_eq_ok]
    refine ⟨?_, ?_, ⟨hlines.state.executor, h.alongside.source, h.alongside.comment⟩, h.running⟩
    · rw [hbroken]
      split
      · rfl
      · exact hlines.result
    · rw [hok, hbroken]
      exact (Event.renumbered_refl [_]).append (hlines.events.append (Event.renumbered_refl _))

/-- **However a script ends, the session is ready for the next line.** -/
theorem orderly_source (hs : Settled s) (path : String) :
    (source path s).state.executor.Orderly := by
  rw [source_eq_script]
  rcases script? s.executor.bench.site path with cause | bytes
  · exact hs.orderly
  · have hready := ready_forEach (hs.ready_handed path) rfl
      (Text.Utf8.linesBeforeFault bytes).1 1
    simp only [runFile_eq]
    exact hready.orderly

/-- A session after a script was sourced in it. -/
theorem settled_opened (p : Params) (device : σ) (site : Site) (script : Option String) :
    Settled ((start p device site).opened script) := by
  have hup := (upright_opened p device site script).1
  cases script with
  | none => exact settled_start p device site
  | some path =>
    have hstart := settled_start p device site
    exact ⟨hup, congrArg Lexer.source (fed_source path _).1, orderly_source hstart path⟩

/-- **A typed text does the same in sessions that match**, if it is no aside.  A line of a script is
handed with its number in the history, and the numbers may differ. -/
theorem agrees_handle (h : s.Matches t) (hs : Settled s) (ht : Settled t) {text : String}
    (ha : Input.isAside (.typed text) = false) :
    (handle text s).Agrees Session.Matches (handle text t) := by
  rw [handle_eq, handle_eq]
  rcases hear_of_not_isAside ha with hh | ⟨line, path, hh⟩ | ⟨line, hh⟩
  · rw [hh]
    exact ⟨rfl, Event.renumbered_refl _, h.alongside, rfl⟩
  · rw [hh]
    exact agrees_source (h.withHistory _ _) (hs.withHistory _) (ht.withHistory _) path
  · rw [hh]
    have hn : (s.lexer, s.executor).1.source.isSome = true →
        s.history.length + 1 = t.history.length + 1 := fun hsome => by
      rw [show (s.lexer, s.executor).1.source = none from hs.typed] at hsome
      cases hsome
    obtain ⟨hr, he, hst⟩ := agrees_runLine h.alongside hs.ready ht.ready line hn
    exact ⟨hr, he, hst, h.running⟩

/-- After a line that was handled without a fault the executor is in order, as it was before. -/
theorem orderly_handle (hs : Settled s) {text : String} (hr : (handle text s).result = .ok ()) :
    (handle text s).state.executor.Orderly := by
  rw [handle_eq] at hr ⊢
  rcases hh : hear text with _ | c | ⟨line, path⟩ | line <;> simp only [hh] at hr ⊢
  · exact hs.orderly
  · cases c <;> exact hs.orderly
  · exact orderly_source (hs.withHistory _) path
  · have hready := ready_runLine hs.ready line (s.history.length + 1)
    generalize runLine line (s.history.length + 1) (s.lexer, s.executor) = o at hr hready ⊢
    exact (hready (.inl hr)).1.orderly

/-- What a session is told does not make its lines those of a script. -/
theorem source_handle (hs : Settled s) (text : String) :
    (handle text s).state.lexer.source = none := by
  rw [handle_eq]
  rcases hear text with _ | c | ⟨line, path⟩ | line
  · exact hs.typed
  · cases c <;> exact hs.typed
  · exact (congrArg Lexer.source (fed_source path _).1).trans hs.typed
  · obtain ⟨y, -, hy, -, hr⟩ :=
      exists_runLine (x := (s.lexer, s.executor)) hs.unread line (s.history.length + 1)
    simp only [hr]
    exact hy.trans hs.typed

/-- **The next input does the same in sessions that match**, if it is no aside.  An interrupt that a
call raises drops the rest of the command in both. -/
theorem agrees_respond (h : s.Matches t) (hs : Settled s) (ht : Settled t)
    (ha : Input.isAside i = false) : (respond i s).Agrees Session.Matches (respond i t) := by
  cases i with
  | interrupt => cases ha
  | endOfInput => exact ⟨rfl, Event.renumbered_refl _, h.alongside, rfl⟩
  | typed text =>
    have hh := agrees_handle h hs ht ha
    rw [respond_typed, respond_typed]
    generalize handle text s = o at hh ⊢
    generalize handle text t = o' at hh ⊢
    split
    · rename_i said hr
      rw [(hh.result_eq_interrupt said).1 hr]
      refine ⟨rfl, hh.events.append (Event.renumbered_refl _), ⟨?_, hh.state.alongside.source,
        hh.state.alongside.comment⟩, hh.state.running⟩
      have he : o.state.executor.moved .unnumbered = o'.state.executor.moved .unnumbered :=
        hh.state.alongside.executor
      show o.state.executor.discard.moved .unnumbered = o'.state.executor.discard.moved .unnumbered
      rw [← discard_moved, ← discard_moved, he]
    · rename_i hr
      split
      · rename_i said hr'
        exact absurd ((hh.result_eq_interrupt said).2 hr') (hr said)
      · exact hh

/-- A settled session is settled after each answer that is not a fault.  The lexer is between lines,
and what waits is in order, as after any line. -/
theorem settled_respond (hs : Settled s) (hr : (respond i s).result = .ok ()) :
    Settled (respond i s).state := by
  have hup := hs.toUpright.respond i
  cases i with
  | interrupt => exact ⟨hup, hs.typed, hs.orderly⟩
  | endOfInput => exact ⟨hup, hs.typed, hs.orderly⟩
  | typed text =>
    have horderly := fun hok : (handle text s).result = .ok () => orderly_handle hs hok
    have htyped := source_handle hs text
    rw [respond_typed] at hr hup ⊢
    generalize handle text s = o at hr hup horderly htyped ⊢
    split at hup
    · exact ⟨hup, htyped, Tidy.orderly (tidy_of_size_le hup.advancing.lenient le_rfl)⟩
    · rename_i hne
      split at hr
      · rename_i said hinterrupt
        exact absurd hinterrupt (hne said)
      · exact ⟨hup, htyped, horderly hr⟩

/-- A session goes on after an aside as if there had been none. -/
theorem run_aside (hr : s.running = true) (h : Input.isAside i = true) (r : List Input) :
    ∃ (x : Exchange σ) (shown history : List String), x.events = shown.map .out ∧
      s.run (i :: r) = ⟨x :: ((s.withHistory history).run r).exchanges,
        ((s.withHistory history).run r).fault⟩ := by
  obtain ⟨shown, history, ho⟩ := respond_aside s h
  have hn : s.next? i = some (s.withHistory history) := by
    rw [next?_eq_some, ho]
    exact ⟨rfl, hr, rfl⟩
  rw [run_of_some hn, ho]
  exact ⟨_, shown, history, rfl, rfl⟩

/-- **Sessions that match go the same way**, whatever asides are put in.  The induction is on how
the inputs are aligned: an aside of the first, an aside of the second, or an input of both. -/
theorem undisturbed_run (h : s.Matches t) (hs : Settled s) (ht : Settled t)
    (hr : s.running = true) (hi : Aligned inputs inputs') :
    Undisturbed inputs inputs' (s.run inputs) (t.run inputs') := by
  -- An aside is a step of one session, any other input is one of both; the histories differ.
  induction hi generalizing s t with
  | nil =>
    rw [Session.run, Session.run, ← h.prompt_eq]
    exact undisturbed_last (agrees_respond h hs ht rfl) _ fun x => ⟨rfl, rfl⟩
  | @left i l l' ha _ ih =>
    obtain ⟨x, shown, history, hx, hrun⟩ := run_aside hr ha l
    obtain ⟨hans, hc, he, hf, y, z, hy, hz, hsame⟩ :=
      ih (h.withHistory history t.history) (hs.withHistory history) ht hr
    rw [hrun]
    obtain ⟨hcalls, herrors, hlast⟩ := observed_cons hx ((s.withHistory history).run l)
    refine ⟨?_, hcalls.trans hc, by rw [herrors]; exact he, hf, y, z, hlast y hy, hz, hsame⟩
    rw [answers, if_pos ha]
    exact hans
  | @right i l l' ha _ ih =>
    obtain ⟨x, shown, history, hx, hrun⟩ := run_aside (h.running ▸ hr) ha l'
    obtain ⟨hans, hc, he, hf, y, z, hy, hz, hsame⟩ :=
      ih (h.withHistory s.history history) hs (ht.withHistory history) hr
    rw [hrun]
    obtain ⟨hcalls, herrors, hlast⟩ := observed_cons hx ((t.withHistory history).run l')
    refine ⟨?_, hc.trans hcalls.symm, by rw [herrors]; exact he, hf, y, z, hy, hlast z hz, hsame⟩
    rw [answers, if_pos ha]
    exact hans
  | @both i l l' ha _ ih =>
    have hresp := agrees_respond h hs ht ha
    have hnext : s.next? i = none ↔ t.next? i = none := by
      have hsome : ∀ u : Session σ, u.next? i ≠ none ↔
          (respond i u).result = .ok () ∧ (respond i u).state.running = true := by
        simp [Option.ne_none_iff_exists', next?_eq_some]
      rw [← not_iff_not, ← ne_eq, ← ne_eq, hsome, hsome, hresp.result_eq_ok, hresp.state.running]
    rcases hn : s.next? i with _ | s'
    · have hlast : ∀ (m : List Input) (x : Exchange σ), answers (i :: m) [x] = [x] := by
        intro m x
        rw [answers, if_neg (Bool.eq_false_iff.1 ha)]
        cases m <;> rfl
      rw [run_of_none hn, run_of_none (hnext.1 hn), ← h.prompt_eq]
      exact undisturbed_last hresp _ fun x => ⟨hlast l x, hlast l' x⟩
    · rcases hn' : t.next? i with _ | t'
      · rw [hnext.2 hn'] at hn
        cases hn
      obtain ⟨hok, hrun, rfl⟩ := next?_eq_some.1 hn
      obtain ⟨hok', -, rfl⟩ := next?_eq_some.1 hn'
      rw [run_of_some hn, run_of_some hn', ← h.prompt_eq]
      exact (ih hresp.state (settled_respond hs hok) (settled_respond ht hok') hrun).cons
        ⟨rfl, hresp.events, hresp.state⟩ ha

/-- **Asides do not interfere with scripts.**  Two sessions with the same parameters, plotter and
site, in which the same script was sourced first, if any, and whose inputs are the same but for
asides, put in anywhere: between two lines, or in the middle of a block or of a comment.

- All other inputs are answered at the same prompts by the same events, line numbers apart.
- All in all the plotter is called in the same way, and the same errors are reported.
- The sessions end with the same fault, if any, and at the same point: the tokens read and the
  place in them, the mode, the drawing, what is skipped, and an open comment are the same. -/
theorem undisturbed (p : Params) (device : σ) (site : Site) {script : Option String}
    {inputs inputs' : List Input}
    (h : inputs.filter (fun i => !Input.isAside i) = inputs'.filter fun i => !Input.isAside i) :
    let first := (start p device site).opened script
    Undisturbed inputs inputs' (first.run inputs) (first.run inputs') := by
  intro first
  have hs := settled_opened p device site script
  have hr : first.running = true := (upright_opened p device site script).2.2.1
  exact undisturbed_run ⟨⟨rfl, rfl, rfl⟩, rfl⟩ hs hs hr (aligned_of_filter h)

/-- The history is cleared in the middle of a block, and the next line is the same as the last and
has the same number. -/
theorem undisturbed_clear :
    let first : Session Preview := (start .standard Preview.start .bare).opened none
    let inputs := [.typed "MODE P", .typed "clear", .typed "OPTS MODEL", .typed " Clear ",
      .interrupt, .typed "OPTS MODEL", .typed "2 END_OPTS"]
    let plain := [.typed "MODE P", .typed "OPTS MODEL", .typed "OPTS MODEL", .typed "2 END_OPTS"]
    (first.wordsOf inputs).map (fun x => x.place.lineNumber) = [1, 1, 1, 1, 1, 1, 2, 2] ∧
      (first.wordsOf plain).map (fun x => x.place.lineNumber) = [1, 1, 2, 2, 3, 3, 4, 4] ∧
      Undisturbed inputs plain (first.run inputs) (first.run plain) := by
  intro first inputs plain
  exact ⟨by decide +kernel, by decide +kernel,
    undisturbed .standard Preview.start .bare (by decide +kernel)⟩

end Device
end Session
end PlotScript
