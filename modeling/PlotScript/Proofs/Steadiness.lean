/-
# Nothing that is typed breaks a session

A session with a preview goes on after whatever is typed, and reports each line that is out of
order, unless its executor is broken (`Session.steadiness`): then it ends with a fault.

A line is in order if it goes on with what waits to make up commands that their modes permit, and
perhaps a block that is not closed yet.

A session does break: at a value of so many digits that it is not read (`Session.run_onesBlock`).

The language specification, §4.3 and §7, has a session survive every bad line.
-/

import PlotScript.Proofs.CalmRuns

namespace PlotScript

open Grammar

/-- A word of digits is a number. -/
theorem classify_of_digits {word : String} (h : word.toList.all isDecimalDigit = true) :
    classify word = ⟨.number, word⟩ := by
  have hnone : keywords.lookup word = none := by
    have hk : ∀ p ∈ keywords, p.1.toList.all isDecimalDigit = false := by decide +kernel
    rw [List.lookup_eq_none_iff]
    intro p hp
    rw [bne_iff_ne]
    rintro rfl
    rw [hk p hp] at h
    cases h
  unfold classify
  rw [hnone]
  simp only [h, if_true]

/-- A word of ones is a number, however many there are. -/
theorem classify_ones (n : Nat) : classify (String.ofList (List.replicate n '1')) =
    ⟨.number, String.ofList (List.replicate n '1')⟩ := by
  refine classify_of_digits ?_
  rw [String.toList_ofList, List.all_eq_true]
  intro c hc
  rw [List.eq_of_mem_replicate hc]
  rfl

/-- A number on a line is a number. -/
theorem Lexer.wellFormed_of_mem_row {place : Nat → Nat → Place} {comment : Option Lexeme} {n : Nat}
    {cs : List Char} {x : Lexeme} (hx : x ∈ (row place comment n cs).words) : x.WellFormed := by
  fun_induction row place comment n cs with
  | case1 c n cs start word rest c' h hlt r ih =>
    rcases List.mem_cons.1 hx with rfl | hx
    · refine wellFormed_classify ?_ _
      rw [String.toList_ofList]
      exact ne_nil_of_scan h
    · exact ih hx
  | case2 => cases hx

namespace Session

open Executor Lexer

variable {σ : Type}

/-- How an act ends: broken, or calm. -/
def Endures {α : Type} (site : Site) (r : Except Fault α) (e : Executor σ) : Prop :=
  (∃ f, r = .error (.failure f) ∧ f.Own) ∧ Broken site e ∨
    (∃ a, r = .ok a) ∧ Calm site e ∧ ¬Broken site e

variable {site : Site} {e : Executor σ} {s t : Session σ} {x : Lexer × Executor σ}

/-- An act that gives a result endures, if its executor is calm and not broken then. -/
theorem Endures.of_ok {α : Type} {a : α} (hc : Calm site e) (hb : ¬Broken site e) :
    Endures site (.ok a : Except Fault α) e := .inr ⟨⟨a, rfl⟩, hc, hb⟩

/-- An act that endures and gives a result leaves a calm executor that is not broken. -/
theorem Endures.calm {α : Type} {r : Except Fault α} {a : α} (h : Endures site r e)
    (hr : r = .ok a) : Calm site e ∧ ¬Broken site e := by
  rcases h with ⟨⟨f, hf, -⟩, -⟩ | ⟨-, h⟩
  · rw [hf] at hr
    cases hr
  · exact h

/-- An act that endures is not broken off: what the system refuses a plotter is no failure of its
own. -/
theorem Endures.not_brokenOff {r : Except Fault Unit} (h : Endures site r e) :
    brokenOff r = false := by
  rcases h with ⟨⟨f, rfl, hown⟩, -⟩ | ⟨⟨a, rfl⟩, -⟩
  · cases f with
    | system => exact hown.elim
    | _ => rfl
  · rfl

/-- A calm executor stays calm when lexemes come whose numbers are in order. -/
theorem calm_grow (h : Calm site e) {l : List Lexeme} (hl : Reader.Numbers l) :
    Calm site (e.grow l) :=
  ⟨h.strict, rfl, fun x hx => (List.mem_append.1 hx).elim (h.numbers x) (hl x), h.same, h.checked⟩

/-- A line that is about to be carried out. -/
structure Handover (σ : Type) where
  lexer : Lexer
  executor : Executor σ
  text : String
  number : Nat

namespace Handover

/-- The words of the line. -/
def words (q : Handover σ) : List Lexeme :=
  (lineRow q.lexer.source q.lexer.comment (q.number : Int) (Text.sanitize q.text)).words

variable [Device σ]

/-- What is done for the line. -/
def outcome (q : Handover σ) : Outcome Fault (Lexer × Executor σ) Unit :=
  runSourced (q.text, q.number) (q.lexer, q.executor)

/-- A line that is out of order is reported. -/
def Attended (q : Handover σ) : Prop :=
  q.executor.OutOfOrder q.words → ∃ c, .report .command c ∈ q.outcome.events

end Handover

variable [Device σ]

/-- The lines of a script as they are carried out, up to the one that ends with a fault. -/
def handedOver (x : Lexer × Executor σ) : List (String × Nat) → List (Handover σ)
  | [] => []
  | a :: r => ⟨x.1, x.2, a.1, a.2⟩ ::
    match (runSourced a x).result with
    | .ok () => handedOver (runSourced a x).state r
    | .error _ => []

/-- The lines that are carried out for what is heard. -/
def linesFor (s : Session σ) (text : String) : List (Handover σ) :=
  match hear text with
  | .line _ => [⟨s.lexer, s.executor, text, s.history.length + 1⟩]
  | .script _ path =>
    match script? s.executor.bench.site path with
    | .ok bytes => handedOver (.handed (some path), s.executor)
        ((Text.Utf8.linesBeforeFault bytes).1.zipIdx 1)
    | .error _ => []
  | .nothing | .command _ => []

/-- All that is out of order in what is typed is reported. -/
structure Attended (s : Session σ) (text : String) : Prop where
  lines : ∀ q ∈ s.linesFor text, q.Attended ∧ q.outcome.events <:+: (respond (.typed text) s).events
  script : ∀ line path cause, hear text = .script line path →
    script? s.executor.bench.site path = .error cause →
      .report .command (.plain cause) ∈ (respond (.typed text) s).events
  unreadable : ∀ line path bytes, hear text = .script line path →
    script? s.executor.bench.site path = .ok bytes →
      (Text.Utf8.linesBeforeFault bytes).2 = true →
        .report .command (.plain (.fileUnreadable path)) ∈ (respond (.typed text) s).events

/-- **The words of a line are carried out or reported.**  Unknown words alone are reported and not
parsed, and other lines are parsed to their ends. -/
theorem steady_feed (hM : Mild σ) (h : Calm site e) (hb : ¬Broken site e) {l : List Lexeme}
    (hn : ∀ x ∈ l, x.WellFormed ∧ x.kind ≠ .endOfFile) (hl : Local (feed l (unknowns l) e).state) :
    Endures site (feed l (unknowns l) e).result (feed l (unknowns l) e).state ∧
      ((feed l (unknowns l) e).result = .ok () → e.OutOfOrder l →
        ∃ c, .report .command c ∈ (feed l (unknowns l) e).events) := by
  have hp : e.parse l = (e.grow l).run := parse_of_forall h.ended fun x hx => (hn x hx).2
  rw [feed_state, hp] at hl ⊢
  by_cases hk : (l.all fun x => decide (x.kind = .unknown)) = true
  · rw [if_pos hk]
    refine ⟨.of_ok h hb, fun _ ho => ?_⟩
    obtain ⟨x, hx⟩ := List.exists_mem_of_ne_nil l ho.1
    have hxk : x.kind = .unknown := by simpa using List.all_eq_true.1 hk x hx
    have hc : Complaint.about (.unknownToken x.text) x ∈ unknowns l :=
      List.mem_map_of_mem (List.mem_filter.2 ⟨hx, by simpa using hxk⟩)
    exact ⟨_, List.mem_map_of_mem hc⟩
  · rw [if_neg hk] at hl ⊢
    have hrun := steady_run hM (calm_grow h fun x hx => (hn x hx).1) hl
    generalize (e.grow l).run = o at hrun ⊢
    rcases hrun with ⟨⟨f, hf, hown⟩, hbr⟩ | ⟨given, hg, hc, hbr, hr, ho⟩
    · refine ⟨.inl ⟨⟨f, by rw [hf]; rfl, hown⟩, hbr⟩, fun hok => ?_⟩
      rw [hf] at hok
      cases hok
    · refine ⟨.inr ⟨⟨(), by rw [hg]; rfl⟩, hc, hbr⟩, fun _ hout => ?_⟩
      have hne : given ≠ [] := fun hnil => by
        rcases hout.2 with hall | hin
        · exact hk (List.all_eq_true.2 fun x hx => by simpa using hall x hx)
        · exact hin (ho hnil)
      obtain ⟨c, hc⟩ := List.exists_mem_of_ne_nil given hne
      exact ⟨c, hr c hc⟩

/-- A line that is carried out. -/
theorem steady_runLine (hM : Mild σ) (hx : x.1.unread = none) (h : Calm site x.2)
    (hb : ¬Broken site x.2) (line : String) (n : Nat) (hl : Local (runLine line n x).state.2) :
    Endures site (runLine line n x).result (runLine line n x).state.2 ∧
      ((runLine line n x).result = .ok () →
        x.2.OutOfOrder (lineRow x.1.source x.1.comment n line).words →
          ∃ c, .report .command c ∈ (runLine line n x).events) := by
  obtain ⟨y, -, -, -, hr⟩ := exists_runLine hx line n
  rw [hr] at hl ⊢
  obtain ⟨he, ho⟩ := steady_feed hM h hb
    (fun _ hw => ⟨wellFormed_of_mem_row hw, kind_ne_of_mem_row hw⟩) hl
  refine ⟨he, fun hok hout => ?_⟩
  obtain ⟨c, hc⟩ := ho hok hout
  exact ⟨c, List.mem_append_right _ hc⟩

/-- A line that is handed over is carried out or reported, if no drawing on the web is set then. -/
theorem steady_handover (hM : Mild σ) (q : Handover σ) (hx : q.lexer.unread = none)
    (h : Calm site q.executor) (hb : ¬Broken site q.executor) (hl : Local q.outcome.state.2) :
    Endures site q.outcome.result q.outcome.state.2 ∧ (q.outcome.result = .ok () → q.Attended) := by
  have hr : q.outcome = _ := runSourced_eq q.text q.number (q.lexer, q.executor)
  by_cases he : (Text.sanitize q.text).isEmpty = true
  · rw [if_pos he] at hr
    rw [hr]
    refine ⟨.of_ok h hb, fun _ hout => absurd ?_ hout.1⟩
    rw [Handover.words, String.isEmpty_iff.1 he, lineRow_empty]
  · rw [if_neg he] at hr
    unfold Handover.Attended Handover.words
    rw [hr] at hl ⊢
    exact steady_runLine (x := (q.lexer, q.executor)) hM hx h hb _ _ hl

/-- What an executor notes is kept while it is fed. -/
theorem deeds_isPrefix_of_fed {l : List Lexeme} {e t : Executor σ} (h : Fed l e t) :
    e.bench.deeds <+: t.bench.deeds := by
  obtain ⟨new, hd, -⟩ := h.onward (Nat.zero_le _) (Nat.zero_le _)
  exact ⟨new, hd.symm⟩

/-- **The lines of a script are carried out or reported.**  If the run of all lines ends with no
fault, then each line that was handed over was attended to, and what came of it stands among the
events of the whole. -/
theorem steady_forEach (hM : Mild σ) (hx : x.1.unread = none) (h : Calm site x.2)
    (hb : ¬Broken site x.2) (ls : List String) (n : Nat)
    (hl : Local (Act.forEach (ls.zipIdx n) runSourced x).state.2) :
    Endures site (Act.forEach (ls.zipIdx n) runSourced x).result
        (Act.forEach (ls.zipIdx n) runSourced x).state.2 ∧
      ((Act.forEach (ls.zipIdx n) runSourced x).result = .ok () →
        ∀ q ∈ handedOver x (ls.zipIdx n), q.Attended ∧
          q.outcome.events <:+: (Act.forEach (ls.zipIdx n) runSourced x).events) := by
  induction ls generalizing x n with
  | nil => exact ⟨.of_ok h hb, fun _ q hq => by cases hq⟩
  | cons text ls ih =>
    have hq := steady_handover hM ⟨x.1, x.2, text, n⟩ hx h hb
    have hqo : (⟨x.1, x.2, text, n⟩ : Handover σ).outcome = runSourced (text, n) x := rfl
    obtain ⟨hu, -, -, -⟩ := fed_runSourced hx text n
    rw [hqo] at hq
    simp only [List.zipIdx_cons, Act.forEach_cons, handedOver] at hl ⊢
    generalize hrun : (runSourced : String × Nat → Act Fault (Lexer × Executor σ) Unit)
      (text, n) = act at hl ⊢
    have ho : runSourced (text, n) x = act x := congrFun hrun x
    rw [ho] at hq hqo hu
    generalize hox : act x = o at hq hqo hu hl ⊢
    obtain ⟨r, es, y⟩ := o
    cases r with
    | error f =>
      rw [Act.bind_of_error (by rw [hox])] at hl ⊢
      rw [hox] at hl ⊢
      exact ⟨(hq hl).1, fun hok => by cases hok⟩
    | ok v =>
      rw [Act.bind_of_ok (by rw [hox])] at hl ⊢
      rw [hox] at hl ⊢
      -- The notes only grow, so what is local in the end was local after the first line.
      have hrest : Fed _ y.2 _ := fed_forEach hu ls (n + 1)
      obtain ⟨he, ha⟩ := hq (hl.of_prefix (deeds_isPrefix_of_fed hrest))
      obtain ⟨hc, hbr⟩ := he.calm rfl
      obtain ⟨he', hall⟩ := ih hu hc hbr (n + 1) hl
      refine ⟨he', fun hok q hmem => ?_⟩
      rcases List.mem_cons.1 hmem with rfl | hmem
      · rw [hqo]
        exact ⟨ha rfl, (List.prefix_append _ _).isInfix⟩
      · obtain ⟨hat, hin⟩ := hall hok q hmem
        exact ⟨hat, hin.trans (List.suffix_append _ _).isInfix⟩

/-- A script that is sourced is carried out or reported, line by line.  It goes line by line, and
each is attended to as if it were typed in. -/
theorem steady_source (hM : Mild σ) (h : Calm site s.executor) (hb : ¬Broken site s.executor)
    (path : String) (hl : Local (source path s).state.executor) :
    Endures site (source path s).result (source path s).state.executor ∧
      ((source path s).result = .ok () → ∀ bytes, script? s.executor.bench.site path = .ok bytes →
        ∀ q ∈ handedOver (.handed (some path), s.executor)
            ((Text.Utf8.linesBeforeFault bytes).1.zipIdx 1),
          q.Attended ∧ q.outcome.events <:+: (source path s).events) := by
  rw [source_eq_script] at hl ⊢
  generalize script? s.executor.bench.site path = file at hl ⊢
  cases file with
  | error cause => exact ⟨.of_ok h hb, fun _ bytes hbytes => by cases hbytes⟩
  | ok bytes =>
    simp only [runFile_eq] at hl ⊢
    have hs := steady_forEach (x := (.handed (some path), s.executor)) hM rfl h hb
      (Text.Utf8.linesBeforeFault bytes).1 1
    rw [← sourced] at hs
    generalize hrun : sourced path bytes s = o at hl hs ⊢
    obtain ⟨he, hall⟩ := hs hl
    rw [he.not_brokenOff]
    refine ⟨he, fun hok bytes' hbytes q hq => ?_⟩
    obtain rfl := Except.ok.inj hbytes
    obtain ⟨hat, hin⟩ := hall hok q hq
    refine ⟨hat, hin.trans ?_⟩
    exact ⟨[.log .debug ("Sourcing file '" ++ path ++ "'.")], _, rfl⟩

/-- What is done for a script that cannot be sourced, or read to its end, is to report it.  The
cases are whether there is such a script, and whether all of it can be decoded. -/
theorem reports_source (path : String) (s : Session σ) :
    (∀ cause, script? s.executor.bench.site path = .error cause →
      .report .command (.plain cause) ∈ (source path s).events) ∧
    ∀ bytes, script? s.executor.bench.site path = .ok bytes → (source path s).result = .ok () →
      (Text.Utf8.linesBeforeFault bytes).2 = true →
        .report .command (.plain (.fileUnreadable path)) ∈ (source path s).events := by
  rw [source_eq_script]
  generalize script? s.executor.bench.site path = file
  cases file with
  | error cause =>
    refine ⟨fun cause' h => ?_, fun bytes h => by cases h⟩
    obtain rfl := Except.error.inj h
    exact List.mem_cons_self
  | ok bytes =>
    refine ⟨fun cause h => by (cases h), fun bytes' h hok hf => ?_⟩
    obtain rfl := Except.ok.inj h
    simp only [runFile_eq] at hok ⊢
    generalize sourced path bytes s = o at hok ⊢
    have hreport : (brokenOff o.result || o.result.isOk && (Text.Utf8.linesBeforeFault bytes).2) =
        true := by
      rcases hb : brokenOff o.result with _ | _
      · rw [hb] at hok
        rw [hf, show o.result = .ok () from hok]
        rfl
      · rfl
    rw [if_pos hreport]
    exact List.mem_cons_of_mem _ (List.mem_append_right _ List.mem_cons_self)

/-- What is heard as a line is the sanitized text, and there is something on it.  The cases are what
may be heard, and only one of them is a line. -/
theorem of_hear_line {text line : String} (h : hear text = .line line) :
    (Text.sanitize text).isEmpty = false ∧ line = Text.sanitize text := by
  have hline : lineOf? (.typed text) = some line := by
    rcases hear_cases text with ⟨-, hh⟩ | ⟨line', hl, -, hh | ⟨path, hh⟩⟩ | ⟨line', c, -, -, hh, -⟩
    · rw [h] at hh
      cases hh
    · rw [h] at hh
      cases hh
      exact hl
    · rw [h] at hh
      cases hh
    · rw [h] at hh
      cases hh
  simp only [lineOf?] at hline
  generalize Text.sanitize text = shown at hline ⊢
  by_cases he : shown.isEmpty = true
  · rw [if_pos he] at hline
    cases hline
  · rw [if_neg he] at hline
    exact ⟨by simpa using he, (Option.some.inj hline).symm⟩

/-- **What is typed is carried out or reported.**  The lines that a typed text hands over are none,
the text itself, or those of the script that it sources. -/
theorem steady_handle (hM : Mild σ) (hu : s.lexer.unread = none) (h : Calm site s.executor)
    (hb : ¬Broken site s.executor) (text : String) (hl : Local (handle text s).state.executor) :
    Endures site (handle text s).result (handle text s).state.executor ∧
      ((handle text s).result = .ok () →
        ∀ q ∈ s.linesFor text, q.Attended ∧ q.outcome.events <:+: (handle text s).events) := by
  rw [handle_eq] at hl ⊢
  unfold linesFor
  rcases hh : hear text with _ | c | ⟨line, path⟩ | line
  · exact ⟨.of_ok h hb, fun _ q hq => by cases hq⟩
  · cases c <;> exact ⟨.of_ok h hb, fun _ q hq => by cases hq⟩
  · rw [hh] at hl
    obtain ⟨he, hall⟩ := steady_source (s := s.remember line) hM h hb path hl
    refine ⟨he, fun hok q hq => ?_⟩
    simp only at hq
    generalize hf : script? s.executor.bench.site path = file at hq
    cases file with
    | error cause => cases hq
    | ok bytes => exact hall hok bytes hf q hq
  · rw [hh] at hl
    obtain ⟨hne, rfl⟩ := of_hear_line hh
    have hq := steady_handover hM ⟨s.lexer, s.executor, text, s.history.length + 1⟩ hu h hb
    -- A typed line is handed over as the line of a script is, under the number that the history
    -- gives.
    have hr : (⟨s.lexer, s.executor, text, s.history.length + 1⟩ : Handover σ).outcome =
        runLine (Text.sanitize text) (s.history.length + 1) (s.lexer, s.executor) := by
      simp only [Handover.outcome, runSourced, hne]
      rfl
    rw [hr] at hq
    simp only at hl ⊢
    generalize runLine (Text.sanitize text) (s.history.length + 1) (s.lexer, s.executor) = o
      at hl hq hr ⊢
    obtain ⟨he, ha⟩ := hq hl
    refine ⟨he, fun hok q hmem => ?_⟩
    obtain rfl := List.mem_singleton.1 hmem
    exact ⟨ha hok, hr ▸ List.infix_rfl⟩

/-- **Whatever comes, a session goes on or is broken**, and what is out of order is reported.  An
answer to a typed text is what handling it comes to, for no plotter of this kind interrupts. -/
theorem steady_respond (hM : Mild σ) (hu : s.lexer.unread = none) (h : Calm site s.executor)
    (hb : ¬Broken site s.executor) (i : Input) (hl : Local (respond i s).state.executor) :
    Endures site (respond i s).result (respond i s).state.executor ∧
      ((respond i s).result = .ok () → ∀ text, i = .typed text → s.Attended text) := by
  cases i with
  | interrupt | endOfInput => exact ⟨.of_ok h hb, fun _ text ht => by cases ht⟩
  | typed text =>
    have hresp : (∀ said, (handle text s).result ≠ .error (.interrupt said)) →
        respond (.typed text) s = handle text s := by
      intro hne
      rw [respond_typed]
      generalize handle text s = o at hne ⊢
      split
      · rename_i said hr
        exact absurd hr (hne said)
      · rfl
    -- Dropping a line notes nothing, so nothing is fetched there.
    have hlocal : Local (handle text s).state.executor := by
      refine hl.of_prefix ?_
      rw [respond_typed]
      generalize handle text s = o
      split <;> exact List.prefix_rfl
    obtain ⟨he, hall⟩ := steady_handle hM hu h hb text hlocal
    have hne : ∀ said, (handle text s).result ≠ .error (.interrupt said) := by
      intro said hr
      rcases he with ⟨⟨f, hf, -⟩, -⟩ | ⟨⟨a, ha⟩, -⟩
      · rw [hf] at hr
        cases hr
      · rw [ha] at hr
        cases hr
    rw [hresp hne]
    refine ⟨he, fun hok text' ht => ?_⟩
    obtain rfl := Input.typed.inj ht
    refine ⟨?_, ?_, ?_⟩
    · rw [hresp hne]
      exact hall hok
    · intro line path cause hh hc
      rw [hresp hne, handle_eq, hh]
      exact (reports_source path (s.remember line)).1 cause hc
    · intro line path bytes hh hc hf
      rw [handle_eq, hh] at hok
      rw [hresp hne, handle_eq, hh]
      exact (reports_source path (s.remember line)).2 bytes hc hok hf

/-- A session answers some inputs and one more if it asks for the one more after the others. -/
theorem after?_concat (s : Session σ) (inputs : List Input) (i : Input) :
    s.after? (inputs ++ [i]) = (s.after? inputs).bind fun t => t.next? i := by
  induction inputs generalizing s with
  | nil =>
    simp only [List.nil_append, after?, Option.bind_some]
    cases s.next? i <;> rfl
  | cons j r ih =>
    rw [List.cons_append, after?, after?]
    cases s.next? j with
    | none => rfl
    | some t => exact ih t

/-- All that was out of order in some inputs was reported when it was typed. -/
def AllAttended (first : Session σ) (inputs : List Input) : Prop :=
  ∀ given t text later, inputs = given ++ .typed text :: later → first.after? given = some t →
    t.Attended text

/-- What is out of order in some inputs and one more is reported, if it is for the others and for
the one more. -/
theorem AllAttended.concat {first : Session σ} {inputs : List Input} {i : Input}
    (h : AllAttended first inputs) (hs : first.after? inputs = some s)
    (hi : ∀ text, i = .typed text → s.Attended text) : AllAttended first (inputs ++ [i]) := by
  intro given t text later heq ht
  rcases List.eq_nil_or_concat later with rfl | ⟨later, j, rfl⟩
  · obtain ⟨rfl, hlast⟩ := List.append_inj' heq rfl
    rw [hs] at ht
    obtain rfl := Option.some.inj ht
    exact hi text (List.cons.inj hlast).1
  · have heq' : inputs ++ [i] = (given ++ .typed text :: later) ++ [j] := by
      rw [heq]
      simp
    exact h given t text later (List.append_inj' heq' rfl).1 ht

/-- **A session that asks for another input is calm**, and everything that was out of order so far
was reported. -/
theorem steady_after (hM : Mild σ) {first : Session σ} (hu : Upright first)
    (h : Calm site first.executor) (hb : ¬Broken site first.executor) {inputs : List Input}
    (ha : first.after? inputs = some s) (hl : Local s.executor) :
    (Calm site s.executor ∧ ¬Broken site s.executor) ∧ AllAttended first inputs := by
  induction inputs using List.reverseRecOn generalizing s with
  | nil =>
    obtain rfl := Option.some.inj ha
    exact ⟨⟨h, hb⟩, fun given t text later he => by simp at he⟩
  | append_singleton r i ih =>
    rw [after?_concat] at ha
    obtain ⟨t, ht, hi⟩ := Option.bind_eq_some_iff.1 ha
    obtain ⟨hres, -, rfl⟩ := next?_eq_some.1 hi
    have hut := (hu.after ht).unread
    obtain ⟨-, -, -, hfed⟩ := fed_respond hut i
    obtain ⟨⟨hc, hbr⟩, hall⟩ := ih ht (hl.of_prefix (deeds_isPrefix_of_fed hfed))
    obtain ⟨he, hat⟩ := steady_respond hM hut hc hbr i hl
    exact ⟨he.calm hres, hall.concat ht (hat hres)⟩

omit [Device σ] in
/-- Closing an executor mends nothing. -/
theorem broken_close : Broken site e.close.2 ↔ Broken site e := by
  have hm : e.close.2.mode = e.mode := congrArg Past.mode (past_close e)
  have hd : e.close.2.bench.deeds = e.bench.deeds := congrArg Past.deeds (past_close e)
  have hw : e.close.2.waiting = e.waiting := rfl
  rw [Broken, Broken, Checked, Checked, hm, hw, hd]

/-- **Nothing that is typed ends a session with a preview but `exit`**, as long as no drawing is
fetched: whatever files there are, whatever is typed, and however often the keyboard interrupts at
the prompt.

- The session ends with a fault if and only if it is broken then: a block has a value with too many
  digits, or the check of a drawing broke down.
- If it ends with no fault, everything that was out of order was reported when it was typed, and the
  session went on with the next line. -/
theorem steadiness (p : Params) (preview : Preview) (site : Site) (inputs : List Input) :
    let first := start p preview site
    ∃ before s i rest last fault, inputs ++ [.endOfInput] = before ++ i :: rest ∧
      first.after? before = some s ∧ first.run inputs = ⟨first.trail before ++ [last], fault⟩ ∧
      (Local last.after.executor →
        (fault = none ↔ ¬Broken site last.after.executor) ∧
        (fault = none → Input.ends i = true ∧ AllAttended first (before ++ [i]))) := by
  intro first
  have hM := Preview.mild
  have hu := upright_start p preview site
  have hcalm : Calm site first.executor :=
    ⟨rfl, rfl, fun x hx => by (cases hx), rfl, fun n path hn => by (cases hn)⟩
  have hwhole : ¬Broken site first.executor := not_broken_of_nil hcalm.checked rfl
  obtain ⟨before, s, i, rest, he, hs, hi, hrun⟩ := exists_end first inputs
  have hut := (hu.after hs).unread
  refine ⟨before, s, i, rest, _, _, he, hs, hrun, fun hl => ?_⟩
  -- The last input is answered before the executor is closed, which notes nothing.
  have hl : Local (respond i s).state.executor := by
    refine hl.of_prefix ?_
    have hd : (respond i s).state.executor.close.2.bench.deeds =
      (respond i s).state.executor.bench.deeds := congrArg Past.deeds (past_close _)
    show _ <+: (respond i s).state.executor.close.2.bench.deeds
    rw [hd]
  -- A session ends with no fault where the last answer has none.
  have hlast : (lastExchange s.prompt (respond i s)).fault = none ↔
      (respond i s).result = .ok () := by
    unfold lastExchange
    rcases (respond i s).result with f | a
    · simp
    · simp
  obtain ⟨-, -, -, hfed⟩ := fed_respond hut i
  obtain ⟨⟨hc, hbr⟩, hall⟩ :=
    steady_after hM hu hcalm hwhole hs (hl.of_prefix (deeds_isPrefix_of_fed hfed))
  obtain ⟨hend, hat⟩ := steady_respond hM hut hc hbr i hl
  rw [hlast]
  refine ⟨?_, fun hok => ⟨?_, hall.concat hs (hat hok)⟩⟩
  · show _ ↔ ¬Broken site (respond i s).state.executor.close.2
    rw [broken_close]
    rcases hend with ⟨⟨f, hf, -⟩, hb⟩ | ⟨⟨a, ha⟩, -, hb⟩
    · rw [hf]
      exact iff_of_false (by rintro ⟨⟩) (not_not.2 hb)
    · rw [ha]
      exact iff_of_true rfl hb
  · rcases (next?_eq_none (running_of_after? rfl hs) hut).1 hi with h | ⟨f, hf⟩
    · exact h
    · rw [hf] at hok
      cases hok

/-- A session that asks for another input has had one exchange for each input before. -/
theorem length_trail {first : Session σ} {inputs : List Input} (h : first.after? inputs = some s) :
    (first.trail inputs).length = inputs.length := by
  induction inputs generalizing first with
  | nil => rfl
  | cons i r ih =>
    obtain ⟨t, ht, hr⟩ := Option.bind_eq_some_iff.1 h
    rw [trail, ht]
    exact congrArg (· + 1) (ih hr)

/-- The path of the drawing that a command was to set up. -/
def drawing? : Deed → Option String
  | .begun _ (.setPlot path) => some path
  | _ => none

/-- A drawing that is not there, and half a motion in the wrong mode, are reported.  None of the
lines asks for a page, so the general statement applies to all of them. -/
theorem steadiness_noDrawing :
    let first := start .standard Preview.start .bare
    let inputs := [.typed "MODE P", .typed "SETPLOT \"x.svg\"", .interrupt, .typed "GOTO 1"]
    (first.run inputs).fault = none ∧ AllAttended first (inputs ++ [.endOfInput]) := by
  intro first inputs
  obtain ⟨before, s, i, rest, last, fault, he, hs, hrun, h⟩ :=
    steadiness .standard Preview.start .bare inputs
  have hlength : (first.run inputs).exchanges.length = inputs.length + 1 := by decide +kernel
  have hnone : (first.run inputs).fault = none := by decide +kernel
  have hall : ((first.run inputs).exchanges.all fun x => x.after.executor.bench.deeds.all fun d =>
      (drawing? d).all fun path => !Web.isUrl path) = true := by decide +kernel
  rw [hrun, List.length_append, length_trail hs] at hlength
  obtain ⟨rfl, hi⟩ := List.append_inj he (Nat.succ.inj hlength).symm
  obtain ⟨rfl, -⟩ := List.cons.inj hi
  have hlocal : Local last.after.executor := by
    intro n path hn
    rw [hrun] at hall
    have hlast := List.all_eq_true.1 hall last (List.mem_append_right _ List.mem_cons_self)
    simpa [drawing?] using List.all_eq_true.1 hlast _ hn
  have hfault : fault = none := by
    rw [hrun] at hnone
    exact hnone
  exact ⟨hnone, ((h hlocal).2 hfault).2⟩

/-- A block whose only value is a whole number of some digits. -/
def onesBlock (n : Nat) : String :=
  "OPTS MODEL " ++ String.ofList (List.replicate n '1') ++ " END_OPTS"

/-- The characters of the block are its opening word and its option, the ones, and its closing
word. -/
theorem toList_onesBlock (n : Nat) : (onesBlock n).toList =
    ['O', 'P', 'T', 'S', ' ', 'M', 'O', 'D', 'E', 'L', ' '] ++ (List.replicate n '1' ++
      ([' ', 'E', 'N', 'D', '_', 'O', 'P', 'T'] ++ ['S'])) := by
  have hfront : "OPTS MODEL ".toList = ['O', 'P', 'T', 'S', ' ', 'M', 'O', 'D', 'E', 'L', ' '] := by
    decide +kernel
  have hback : " END_OPTS".toList = [' ', 'E', 'N', 'D', '_', 'O', 'P', 'T'] ++ ['S'] := by
    decide +kernel
  rw [onesBlock, String.toList_append, String.toList_append, hfront, hback, String.toList_ofList,
    List.append_assoc]

/-- All characters of the block can be shown, and none ends a line. -/
theorem printable_onesBlock {n : Nat} {c : Char} (hc : c ∈ (onesBlock n).toList) :
    Text.isPrintable c = true ∧ Text.isLineEnd c = false := by
  have hones : (Text.isPrintable '1' && !Text.isLineEnd '1') = true := by decide +kernel
  have hall : ((onesBlock n).toList.all fun d => Text.isPrintable d && !Text.isLineEnd d) =
      true := by
    rw [toList_onesBlock, List.all_append, List.all_append, List.all_replicate, hones, ite_self]
    decide +kernel
  simpa using List.all_eq_true.1 hall c hc

/-- The block is a line that stays as it is when it is sanitized. -/
theorem sanitize_onesBlock (n : Nat) : Text.sanitize (onesBlock n) = onesBlock n := by
  have hdrop : (onesBlock n).toList.dropWhile Text.isBlank = (onesBlock n).toList := by
    rw [toList_onesBlock]
    exact List.dropWhile_cons_of_neg (by decide)
  have hend : Text.dropWhileEnd Text.isBlank (onesBlock n).toList = (onesBlock n).toList := by
    rw [toList_onesBlock, ← List.append_assoc, ← List.append_assoc]
    exact Text.dropWhileEnd_append_of_not (by decide) _
  rw [Text.sanitize_eq_trim fun c hc => (printable_onesBlock hc).1, Text.trim, hdrop, hend,
    String.ofList_toList]

/-- The block is heard as a line of a script: it is no command of the session.  It is not empty, and
its first letter is not one of theirs. -/
theorem hear_onesBlock (n : Nat) : hear (onesBlock n) = .line (onesBlock n) := by
  have hne : ¬(onesBlock n).isEmpty = true := by
    rw [String.isEmpty_iff]
    intro h
    have hl := toList_onesBlock n
    rw [h] at hl
    cases hl
  have hlower : (onesBlock n).toLower ∉ sessionWords := by
    intro h
    have hhead : (onesBlock n).toLower.toList.head? = some 'o' := by
      show ((onesBlock n).map Char.toLower).toList.head? = _
      rw [String.toList_map, toList_onesBlock]
      exact congrArg some (by decide)
    have hall : ∀ w ∈ sessionWords, w.toList.head? ≠ some 'o' := by decide +kernel
    exact hall _ h hhead
  have hnone : SessionCommand.ofLine? (onesBlock n) = none := by
    rcases ofLine?_cases (onesBlock n) with ⟨h, -⟩ | ⟨c, -, h, -⟩
    · exact h
    · exact absurd h hlower
  have hsource : sourceArgument? (onesBlock n) = none := by
    simp only [sourceArgument?, toList_onesBlock]
    rw [if_neg]
    simp
  simp only [hear]
  rw [sanitize_onesBlock, if_neg hne, hnone]
  simp only [hsource]

/-- A word, and then other parts. -/
theorem parts_word {w r : List Char} {ps : List Part} (hne : w ≠ [])
    (hw : (w.all fun c => !Text.isBlank c && c != '%') = true) (hr : Part.Apart r)
    (h : Part.Parts false r ps false) : Part.Parts false (w ++ r) (.word w :: ps) false := by
  have hw : ∀ c ∈ w, Text.isBlank c = false ∧ c ≠ '%' := by simpa using hw
  cases w with
  | nil => exact absurd rfl hne
  | cons c cs =>
    have hc := hw c List.mem_cons_self
    exact .cons (.word hc.1 hc.2 (fun d hd => (hw d (List.mem_cons_of_mem c hd)).1) hr) h

/-- The words of the block are the four that it is written with, however many digits the value has:
the digits are one word, as there is no blank and no `%` among them. -/
theorem words_onesBlock {n : Nat} (hn : 0 < n) (source : Option String) (k : Int) :
    ∃ w x y z, (lineRow source none k (onesBlock n)).words = [w, x, y, z] ∧
      w.kind = .blockStart .options ∧ x.kind = .setting .model ∧
      y.token = ⟨.number, String.ofList (List.replicate n '1')⟩ ∧ z.kind = .blockEnd .options := by
  have hends : ∀ c ∈ (onesBlock n).toList, Text.isLineEnd c = false :=
    fun c hc => (printable_onesBlock hc).2
  obtain ⟨m, rfl⟩ : ∃ m, n = m + 1 := ⟨n - 1, by omega⟩
  have hparts : Part.Parts false (onesBlock (m + 1)).toList
      [.word ['O', 'P', 'T', 'S'], .blank ' ', .word ['M', 'O', 'D', 'E', 'L'], .blank ' ',
        .word (List.replicate (m + 1) '1'), .blank ' ',
        .word ['E', 'N', 'D', '_', 'O', 'P', 'T', 'S']] false := by
    have hones : ((List.replicate (m + 1) '1').all fun c => !Text.isBlank c && c != '%') =
        true := by
      rw [List.all_replicate, show (!Text.isBlank '1' && '1' != '%') = true by decide, ite_self]
    have hspace : ∀ r : List Char, Part.Apart (' ' :: r) := by
      intro r c hc
      obtain rfl := Option.some.inj hc
      decide
    have hend : Part.Parts false (['E', 'N', 'D', '_', 'O', 'P', 'T', 'S'] ++ [])
        [.word ['E', 'N', 'D', '_', 'O', 'P', 'T', 'S']] false :=
      parts_word (by decide) (by decide) (fun c hc => by cases hc) (.nil false)
    rw [toList_onesBlock]
    exact parts_word (w := ['O', 'P', 'T', 'S']) (by decide) (by decide) (hspace _)
      (.cons (.blank (by decide)) (parts_word (w := ['M', 'O', 'D', 'E', 'L']) (by decide)
        (by decide) (hspace _) (.cons (.blank (by decide)) (parts_word (by simp) hones (hspace _)
          (.cons (.blank (by decide)) hend)))))
  rw [lineRow, Text.dropLineEnd_of_forall hends, (row_of_parts hparts rfl 0).1]
  have hw : classify (String.ofList ['O', 'P', 'T', 'S']) = ⟨.blockStart .options, "OPTS"⟩ := by
    decide +kernel
  have hx : classify (String.ofList ['M', 'O', 'D', 'E', 'L']) =
      ⟨.setting .model, "MODEL"⟩ := by decide +kernel
  have hz : classify (String.ofList ['E', 'N', 'D', '_', 'O', 'P', 'T', 'S']) =
      ⟨.blockEnd .options, "END_OPTS"⟩ := by decide +kernel
  exact ⟨_, _, _, _, rfl, congrArg Token.kind hw, congrArg Token.kind hx, classify_ones (m + 1),
    congrArg Token.kind hz⟩

/-- A number of too many digits is not read. -/
theorem read_ones {n : Nat} (hn : Reader.digitLimit < n) {w x y z : Lexeme}
    (hw : w.kind = .blockStart .options) (hx : x.kind = .setting .model)
    (hy : y.token = ⟨.number, String.ofList (List.replicate n '1')⟩) :
    (Reader.read (some .plot) true w [x, y, z]).result = .error (.failed (.tooManyDigits n)) := by
  have hlen : y.text.length = n := by
    rw [Lexeme.text, hy, String.length_ofList, List.length_replicate]
  have hk : y.kind = .number := by rw [Lexeme.kind, hy]
  have hv : Reader.readValue .model y 2 = .error (.failed (.tooManyDigits n)) := by
    rw [Reader.readValue_of_overlong rfl hk (by omega), hlen]
  unfold Reader.read
  rw [hw]
  exact Reader.readBlock_eq_error.2
    (congrArg Reader.BlockReading.result (Reader.readSettings_of_wrongValue hx rfl hv))

/-- A value with too many digits is not read in a session in which nothing waits: the step that
comes to the block breaks down where it converts the value, and neither the lexer nor the session
takes the fault for a complaint. -/
theorem handle_onesBlock {n : Nat} (hn : Reader.digitLimit < n) {s : Session Preview}
    (hu : Upright s) (hc : s.lexer.comment = none) (hskip : s.executor.skipping = none)
    (hmode : s.executor.mode = some .plot) (hindex : s.executor.index = s.executor.stream.size) :
    (handle (onesBlock n) s).result = .error (.failure (.tooManyDigits n)) := by
  obtain ⟨w, x, y, z, hl, hw, hx, hy, hz⟩ := words_onesBlock (n := n) (by omega) s.lexer.source
    ((s.history.length + 1 : Nat) : Int)
  obtain ⟨y', -, -, -, hr⟩ := exists_runLine (x := (s.lexer, s.executor)) hu.unread (onesBlock n)
    (s.history.length + 1)
  simp only [hc, hl] at hr
  rw [handle_eq, hear_onesBlock]
  simp only [hr]
  have hwait : (s.executor.grow [w, x, y, z]).waiting = [w, x, y, z] := by
    show (s.executor.stream.entries ++ [w, x, y, z]).drop s.executor.index = _
    rw [hindex, Stream.size, List.drop_left]
  have hgrow : (s.executor.grow [w, x, y, z]).mayGrow = true := by
    show (!false && !s.executor.strict) = true
    rw [hu.advancing.lenient]
    rfl
  -- The block is complete, so it is read to its value at once.
  have hstep : ((s.executor.grow [w, x, y, z]).step w [x, y, z]).result =
      .error (.failure (.tooManyDigits n)) := by
    have hread := read_ones hn hw hx hy (z := z)
    rw [step, show (s.executor.grow [w, x, y, z]).skipping = none from hskip]
    simp only [command, hgrow,
      show (s.executor.grow [w, x, y, z]).mode = some .plot from hmode, hread]
    rfl
  have hall : ¬([w, x, y, z].all fun x => decide (x.kind = .unknown)) = true := by
    simp [hw]
  have hparse : s.executor.parse [w, x, y, z] = (s.executor.grow [w, x, y, z]).run :=
    parse_of_forall hu.ended (by simp [hw, hx, hz, Lexeme.kind, hy])
  rw [feed_state, if_neg hall, hparse, run_of_cons hwait]
  generalize (s.executor.grow [w, x, y, z]).step w [x, y, z] = o at hstep ⊢
  obtain ⟨r, es, u⟩ := o
  obtain rfl : r = _ := hstep
  rfl

/-- **A value with too many digits ends a session**: the next line is not reached.  The block is
valid but for the number of its digits, so it is read, and reading breaks down. -/
theorem run_onesBlock {n : Nat} (hn : Reader.digitLimit < n) :
    let t := (start .standard Preview.start .bare).run
      [.typed "MODE P", .typed (onesBlock n), .typed "PLOT"]
    t.fault = some (.failure (.tooManyDigits n)) ∧ t.exchanges.length = 2 := by
  intro t
  show ((start .standard Preview.start .bare).run _).fault = _ ∧
    ((start .standard Preview.start .bare).run _).exchanges.length = 2
  -- The first input is evaluated, the second one is not: the number of digits is arbitrary.
  generalize hfirst : start .standard Preview.start .bare = first
  generalize hs : (respond (.typed "MODE P") first).state = s
  have hnext : first.next? (.typed "MODE P") = some s := by
    subst hs
    subst hfirst
    exact next?_eq_some.2 ⟨by decide +kernel, by decide +kernel, rfl⟩
  have hu : Upright s := (hfirst ▸ upright_start .standard Preview.start .bare).next hnext
  have hc : s.lexer.comment = none := by
    subst hs
    subst hfirst
    decide +kernel
  have hk : s.executor.skipping = none ∧ s.executor.mode = some .plot ∧
      s.executor.index = s.executor.stream.size := by
    subst hs
    subst hfirst
    decide +kernel
  have hhandle := handle_onesBlock hn hu hc hk.1 hk.2.1 hk.2.2
  have hresp : respond (.typed (onesBlock n)) s = handle (onesBlock n) s := by
    rw [respond_typed]
    generalize handle (onesBlock n) s = o at hhandle ⊢
    rw [hhandle]
  have hend : s.next? (.typed (onesBlock n)) = none := by
    rw [next?, hresp, hhandle]
  rw [run_of_some hnext, run_of_none hend, hresp]
  generalize handle (onesBlock n) s = o at hhandle ⊢
  obtain ⟨r, es, u⟩ := o
  obtain rfl : r = .error (.failure (.tooManyDigits n)) := hhandle
  exact ⟨rfl, rfl⟩

/-- More digits than are read end a session. -/
theorem unsteady_onesBlock :
    ((start .standard Preview.start .bare).run
      [.typed "MODE P", .typed (onesBlock 4301), .typed "PLOT"]).fault =
        some (.failure (.tooManyDigits 4301)) := (run_onesBlock (by decide)).1

end Session
end PlotScript
