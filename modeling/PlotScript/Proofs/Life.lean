/-
# The life of an executor

An executor lives through uses in any order: lexemes are parsed, what waits is discarded, what was
fetched is removed.  It lives on whatever the result of a use is, and the site may change in
between for reasons of its own.

`Past` is what a script has come to, and `Past.Step` lists the two ways in which it goes on: a
complaint is reported, or a command that its mode permits is carried out.  Whatever an executor
does is a row of such steps (`past_live`), so what every step keeps holds for a whole life.  How a
step of an executor goes is told once (`Executor.Stepped`), and what steps keep is shown along it.
-/

import PlotScript.Executor
import PlotScript.Plotter.Recorder
import PlotScript.Proofs.Enactment
import PlotScript.Proofs.Reading

namespace PlotScript

/-- A result of which something was made was a result before. -/
theorem exists_of_map_eq_ok {ε α β : Type} {r : Except ε α} {f : α → β} {b : β}
    (h : r.map f = .ok b) : ∃ a, r = .ok a := by
  cases r with
  | error => cases h
  | ok a => exact ⟨a, rfl⟩

/-- A step with no complaint leaves the result of a run as it is. -/
theorem map_nil_append {ε α : Type} (r : Except ε (List α)) : r.map ([] ++ ·) = r := by
  cases r <;> rfl

/-- A word alone on a line. -/
def Lexeme.alone (k : Kind) (text : String) : Lexeme :=
  ⟨⟨k, text⟩, ⟨text, 1, 0, text.length, none⟩⟩

/-- A site without files. -/
def Site.bare : Site := ⟨⟨[], []⟩, .fresh "/tmp", [], [], .plain⟩

/-- What a script has come to: its mode, the notes of what was done for it, and the plotter. -/
structure Past (σ : Type) where
  mode : Option Mode
  deeds : List Deed
  device : σ

namespace Past

variable {σ : Type}

/-- The past of a script of which nothing was done. -/
def start (device : σ) : Past σ := ⟨none, [], device⟩

/-- A complaint is reported. -/
def report (p : Past σ) (n : Nat) (c : Complaint) : Past σ :=
  { p with deeds := p.deeds ++ [.reported n c] }

/-- That a complaint is reported sets no mode. -/
theorem modes_report (p : Past σ) (n : Nat) (c : Complaint) :
    Deed.modes (p.report n c).deeds = Deed.modes p.deeds :=
  (Deed.modes_append _ _).trans (List.append_nil _)

/-- That a complaint is reported is no call. -/
theorem calls_report (p : Past σ) (n : Nat) (c : Complaint) :
    Deed.calls (p.report n c).deeds = Deed.calls p.deeds :=
  (Deed.calls_append _ _).trans (List.append_nil _)

variable [Device σ]

/-- A command is carried out by calls. -/
def enact (p : Past σ) (n : Nat) (a : Action) (cs : List Call) : Past σ :=
  let mode := a.modeAfter p.mode
  ⟨mode, p.deeds ++ .begun n a :: (a.modeDeeds ++ (askAll mode cs p.device).1),
    (askAll mode cs p.device).2⟩

/-- Where a command is carried out, no mode is set but by the command itself. -/
theorem modes_enact (p : Past σ) (n : Nat) (a : Action) (cs : List Call) :
    Deed.modes (p.enact n a cs).deeds = Deed.modes p.deeds ++ Deed.modes a.modeDeeds := by
  simp only [enact, Deed.modes_append, Deed.modes_begun, modes_askAll, List.append_nil]

/-- Where a command is carried out, the calls that are added are those that it was carried out
by. -/
theorem calls_enact (p : Past σ) (n : Nat) (a : Action) (cs : List Call) :
    Deed.calls (p.enact n a cs).deeds =
      Deed.calls p.deeds ++ Deed.calls (askAll (a.modeAfter p.mode) cs p.device).1 := by
  simp only [enact, Deed.calls_append, Deed.calls_begun, a.calls_modeDeeds, List.nil_append]

/-- What a command does is no complaint. -/
theorem complaints_enact (p : Past σ) (n : Nat) (a : Action) (cs : List Call) :
    Deed.complaints (p.enact n a cs).deeds = Deed.complaints p.deeds := by
  have hb (l : List Deed) : Deed.complaints (.begun n a :: l) = Deed.complaints l := rfl
  simp only [enact, Deed.complaints_append, hb, a.complaints_modeDeeds, complaints_askAll,
    List.append_nil]

/-- How the past of a script goes on. -/
inductive Step : Past σ → Past σ → Prop
  | reported (p : Past σ) (n : Nat) (c : Complaint) : Step p (p.report n c)
  | enacted (p : Past σ) (n : Nat) {a : Action} {cs : List Call} :
    a.PermittedIn p.mode → a.MayCall cs → Step p (p.enact n a cs)

/-- One past leads to another in any number of steps. -/
abbrev Leads : Past σ → Past σ → Prop := Relation.ReflTransGen Step

/-- On the way from one past to another, a command is carried out first. -/
def Enacts (p : Past σ) (n : Nat) (a : Action) (q : Past σ) : Prop :=
  ∃ cs, a.MayCall cs ∧ Leads (p.enact n a cs) q

/-- Notes are only added. -/
theorem Leads.deeds_isPrefix {p q : Past σ} (h : Leads p q) : p.deeds <+: q.deeds := by
  induction h with
  | refl => exact List.prefix_rfl
  | tail _ hs ih =>
    cases hs with
    | reported n c => exact ih.trans (List.prefix_append _ _)
    | enacted n _ _ => exact ih.trans (List.prefix_append _ _)

end Past

/-- What a bench remembers of a script. -/
def Bench.past {σ : Type} (b : Bench σ) : Past σ := ⟨b.mode, b.deeds, b.device⟩

namespace Executor

variable {σ : Type}

/-- What an executor remembers of its script. -/
def past (e : Executor σ) : Past σ := e.bench.past

/-- What an executor is used for. -/
inductive Use where
  | parse (l : List Lexeme)
  | discard
  | close
  /-- Nothing; the site changes for reasons of its own. -/
  | meanwhile (s : Site)

/-- What waits stands in the stream, from the index on. -/
theorem getElem?_of_waiting {e : Executor σ} {word : Lexeme} {rest : List Lexeme}
    (hw : e.waiting = word :: rest) (i : Nat) :
    e.stream.entries[e.index + i]? = (word :: rest)[i]? := by
  rw [← hw]
  exact List.getElem?_drop.symm

/-- What waits reaches to the end of the stream. -/
theorem length_waiting {e : Executor σ} {word : Lexeme} {rest : List Lexeme}
    (hw : e.waiting = word :: rest) : e.index + (rest.length + 1) = e.stream.size := by
  have hlt := index_lt_of_waiting hw
  have hlen : (e.stream.entries.drop e.index).length = rest.length + 1 := congrArg List.length hw
  rw [List.length_drop] at hlen
  rw [Stream.size] at hlt ⊢
  omega

/-- What is reported of a complaint is one record, also where the lexeme that it names is not
there. -/
@[simp] theorem events_recover (e : Executor σ) (start : Nat) (word : Lexeme) (c : Complaint) :
    (e.recover start word c).events = [.report .command c] := by
  have h := recovered e start word c
  generalize e.recover start word c = o at h ⊢
  cases h <;> rfl

/-- Recovering from a complaint notes it at the bench and changes nothing else there. -/
@[simp] theorem bench_recover (e : Executor σ) (start : Nat) (word : Lexeme) (c : Complaint) :
    (e.recover start word c).state.bench = e.bench.note (.reported start c) := by
  have h := recovered e start word c
  generalize e.recover start word c = o at h ⊢
  cases h <;> rfl

/-- Recovering from a complaint is, for the past, that it is reported. -/
@[simp] theorem past_recover (e : Executor σ) (start : Nat) (word : Lexeme) (c : Complaint) :
    (e.recover start word c).state.past = e.past.report start c :=
  congrArg Bench.past (bench_recover e start word c)

/-- Passing over a block leaves the bench as it is. -/
@[simp] theorem bench_skip (e : Executor σ) (b : Block) : (e.skip b).bench = e.bench := by
  have h := skipped e b
  generalize e.skip b = t at h ⊢
  cases h <;> rfl

/-- Passing over a block adds nothing to the past. -/
@[simp] theorem past_skip (e : Executor σ) (b : Block) : (e.skip b).past = e.past :=
  congrArg Bench.past (bench_skip e b)

/-- Where fetched drawings are removed, only the site changes. -/
theorem exists_removeAll_eq (b : Bench σ) (l : List String) :
    ∃ s, (b.removeAll l).2 = { b with site := s } := by
  induction l generalizing b with
  | nil => exact ⟨b.site, rfl⟩
  | cons path r ih =>
    obtain ⟨s, hs⟩ : ∃ s, (b.removeDownload path).2 = { b with site := s } := by
      unfold Bench.removeDownload
      split
      · exact ⟨_, rfl⟩
      · exact ⟨b.site, rfl⟩
    obtain ⟨t, ht⟩ := ih (b.removeDownload path).2
    exact ⟨t, ht.trans (by rw [hs])⟩

/-- Removing what was fetched adds nothing to the past. -/
@[simp]
theorem past_removeAll (b : Bench σ) (l : List String) : (b.removeAll l).2.past = b.past := by
  obtain ⟨s, hs⟩ := exists_removeAll_eq b l
  rw [hs]
  rfl

/-- Closing an executor adds nothing to its past. -/
@[simp] theorem past_close (e : Executor σ) : e.close.2.past = e.past := by
  show (e.bench.close e.params).2.past = _
  unfold Bench.close
  split
  · rfl
  · exact past_removeAll e.bench e.bench.downloads.reverse

/-- What no run changes. -/
structure Frame (e t : Executor σ) : Prop where
  strict : t.strict = e.strict
  params : t.params = e.params
  stream : t.stream = e.stream

/-- Where nothing is done, nothing is changed. -/
theorem Frame.refl (e : Executor σ) : Frame e e := ⟨rfl, rfl, rfl⟩

/-- What two runs do not change is not changed by one after the other. -/
theorem Frame.trans {e t u : Executor σ} (h : Frame e t) (k : Frame t u) : Frame e u :=
  ⟨k.strict.trans h.strict, k.params.trans h.params, k.stream.trans h.stream⟩

/-- Passing over a block changes neither the stream nor how the executor is set up. -/
theorem frame_skip (e : Executor σ) (b : Block) : Frame e (e.skip b) := by
  have h := skipped e b
  generalize e.skip b = t at h ⊢
  cases h <;> exact ⟨rfl, rfl, rfl⟩

/-- Recovering from a complaint changes neither the stream nor how the executor is set up. -/
theorem frame_recover (e : Executor σ) (start : Nat) (word : Lexeme) (c : Complaint) :
    Frame e (e.recover start word c).state := by
  have h := recovered e start word c
  generalize e.recover start word c = o at h ⊢
  cases h <;> exact ⟨rfl, rfl, rfl⟩

section Device

variable [Device σ]

/-- An executor after a use. -/
def use (e : Executor σ) : Use → Executor σ
  | .parse l => (e.parse l).state
  | .discard => e.discard
  | .close => e.close.2
  | .meanwhile s => { e with bench := { e.bench with site := s } }

/-- An executor after some uses. -/
def live (e : Executor σ) (l : List Use) : Executor σ := l.foldl use e

/-- A command that was read is carried out by calls that its action may make. -/
theorem past_execute (e : Executor σ) (word : Lexeme) (a : Action) (n : Nat) :
    ∃ cs, a.MayCall cs ∧ (Bench.execute e.params (e.index + n - 1) ⟨word, a⟩
      (e.bench.note (.begun e.index a))).state.past = e.past.enact e.index a cs := by
  set b := (Bench.execute e.params (e.index + n - 1) ⟨word, a⟩
    (e.bench.note (.begun e.index a))).state
  obtain ⟨cs, hc, hm, hd, hp⟩ :=
    Bench.enacted_enact e.params word a (e.bench.note (.begun e.index a))
  refine ⟨cs, hc, ?_⟩
  show Past.mk b.mode b.deeds b.device = _
  rw [show b.deeds = _ from hd, show b.device = _ from hp, show b.mode = _ from hm, hm,
    Bench.note, List.append_assoc, List.append_assoc]
  rfl

/-- A command that was read is carried out, and perhaps it is complained about. -/
theorem past_carryOut_cases (e : Executor σ) (word : Lexeme) (a : Action) (n : Nat) :
    ∃ cs, a.MayCall cs ∧ ((e.carryOut word a n).state.past = e.past.enact e.index a cs ∨
      ∃ c, (e.carryOut word a n).state.past = (e.past.enact e.index a cs).report e.index c) := by
  obtain ⟨cs, hc, hb⟩ := past_execute e word a n
  refine ⟨cs, hc, ?_⟩
  rw [← hb]
  unfold carryOut
  simp only
  split
  · exact .inl rfl
  · exact .inr ⟨_, past_recover _ e.index word _⟩
  · exact .inl rfl

/-- A command that is carried out is what its step does first; a complaint may come after it. -/
theorem enacts_carryOut (e : Executor σ) (word : Lexeme) (a : Action) (n : Nat) :
    e.past.Enacts e.index a (e.carryOut word a n).state.past := by
  obtain ⟨cs, hc, h | ⟨c, h⟩⟩ := past_carryOut_cases e word a n
  · exact ⟨cs, hc, h ▸ .refl⟩
  · exact ⟨cs, hc, h ▸ .single (.reported _ e.index c)⟩

/-- Carrying out a command that its mode permits leads on from the past. -/
theorem past_carryOut (e : Executor σ) (word : Lexeme) {a : Action} (n : Nat)
    (ha : a.PermittedIn e.mode) : Past.Leads e.past (e.carryOut word a n).state.past := by
  obtain ⟨cs, hc, h⟩ := enacts_carryOut e word a n
  exact h.head (.enacted e.past e.index ha hc)

/-- How a step goes: lexemes of a block are left unread, or else a command is waited for, cannot be
told, is complained about, or is read and carried out. -/
inductive Stepped (e : Executor σ) (word : Lexeme) (rest : List Lexeme) : Turn σ Step → Prop
  | skipped {b : Block} : e.skipping = some b →
    Stepped e word rest ⟨.ok (.reported []), [], e.skip b⟩
  | waits (es : List Event) : e.skipping = none → Stepped e word rest ⟨.ok .waits, es, e⟩
  | failed (f : Fault) (es : List Event) : e.skipping = none →
    Stepped e word rest ⟨.error f, es, e⟩
  | wrong {cause : Cause} {x : Lexeme} {offset : Nat} (es : List Event) : e.skipping = none →
    (Reader.read e.mode e.mayGrow word rest).result = .error (.wrong cause x offset) →
      Stepped e word rest
        (after es (e.recover e.index word ⟨cause, some x, some (e.index + offset)⟩))
  | read {a : Action} {n : Nat} (es : List Event) : e.skipping = none →
    (Reader.read e.mode e.mayGrow word rest).result = .ok (a, n) →
      Stepped e word rest (after es (e.carryOut word a n))

/-- Every step goes in one of the ways of `Stepped`. -/
theorem stepped (e : Executor σ) (word : Lexeme) (rest : List Lexeme) :
    Stepped e word rest (e.step word rest) := by
  unfold step
  split
  · rename_i b hb
    exact .skipped hb
  · rename_i hk
    unfold command
    simp only
    split
    · exact .waits _ hk
    · exact .failed _ _ hk
    · rename_i hr
      exact .wrong _ hk hr
    · rename_i hr
      exact .read _ hk hr

/-- Every step leads on from the past: a command is read only where its mode permits it. -/
theorem past_step (e : Executor σ) (word : Lexeme) (rest : List Lexeme) :
    Past.Leads e.past (e.step word rest).state.past := by
  have h := stepped e word rest
  generalize e.step word rest = o at h ⊢
  cases h with
  | @skipped b _ =>
    show Past.Leads e.past (e.skip b).past
    rw [past_skip]
  | waits | failed => exact .refl
  | wrong =>
    show Past.Leads e.past (e.recover _ _ _).state.past
    rw [past_recover]
    exact .single (.reported e.past e.index _)
  | read _ _ hr =>
    obtain ⟨-, -, -, -, -, -, ha⟩ := Reader.begins_of_read hr
    exact past_carryOut e word _ ha

/-- **What every step does, a run does**, if it may be done any number of times. -/
theorem rel_run {r : Executor σ → Executor σ → Prop} (hrefl : ∀ e, r e e)
    (htrans : ∀ {e t u}, r e t → r t u → r e u)
    (hstep : ∀ {e : Executor σ} {word rest}, e.waiting = word :: rest →
      r e (e.step word rest).state) (e : Executor σ) : r e e.run.state := by
  fun_induction run e with
  | case1 e hw => exact hrefl e
  | case2 e word rest hw f es t hr =>
    have h := hstep hw
    rwa [hr] at h
  | case3 e word rest hw es t hr =>
    have h := hstep hw
    rwa [hr] at h
  | case4 e word rest hw l es t hr _ o ih =>
    have h := hstep hw
    rw [hr] at h
    exact htrans h ih

/-- What a run makes of the past. -/
theorem past_run (e : Executor σ) : Past.Leads e.past e.run.state.past :=
  rel_run (r := fun e t => Past.Leads e.past t.past) (fun _ => .refl) (fun h k => h.trans k)
    (fun {e word rest} _ => past_step e word rest) e

/-- Carrying out a command changes neither the stream nor how the executor is set up. -/
theorem frame_carryOut (e : Executor σ) (word : Lexeme) (a : Action) (n : Nat) :
    Frame e (e.carryOut word a n).state := by
  unfold carryOut
  simp only
  split
  · exact ⟨rfl, rfl, rfl⟩
  · show Frame e (recover _ _ _ _).state
    refine Frame.trans ?_ (frame_recover _ _ word _)
    exact ⟨rfl, rfl, rfl⟩
  · exact ⟨rfl, rfl, rfl⟩

/-- No step changes the stream or how the executor is set up. -/
theorem frame_step (e : Executor σ) (word : Lexeme) (rest : List Lexeme) :
    Frame e (e.step word rest).state := by
  have h := stepped e word rest
  generalize e.step word rest = o at h ⊢
  cases h with
  | skipped => exact frame_skip e _
  | waits | failed => exact .refl e
  | wrong => exact frame_recover e _ word _
  | read => exact frame_carryOut e word _ _

/-- **A run adds nothing to the stream**, and leaves the executor as it was set up. -/
theorem frame_run (e : Executor σ) : Frame e e.run.state :=
  rel_run .refl .trans (fun {e word rest} _ => frame_step e word rest) e

/-- Where nothing waits, a run does nothing. -/
theorem run_of_nil {e : Executor σ} (hw : e.waiting = []) : e.run = ⟨.ok [], [], e⟩ := by
  rw [run]
  split
  · rfl
  · rename_i h
    rw [hw] at h
    cases h

/-- A run takes a step, and goes on only if something was carried out or reported. -/
theorem run_of_cons {e : Executor σ} {word : Lexeme} {rest : List Lexeme}
    (hw : e.waiting = word :: rest) : e.run =
      match e.step word rest with
      | ⟨.error f, es, t⟩ => ⟨.error f, es, t⟩
      | ⟨.ok .waits, es, t⟩ => ⟨.ok [], es, t⟩
      | ⟨.ok (.reported l), es, t⟩ =>
        ⟨t.run.result.map (l ++ ·), es ++ t.run.events, t.run.state⟩ := by
  rw [run]
  split
  · rename_i h
    rw [hw] at h
    cases h
  · rename_i h
    obtain ⟨rfl, rfl⟩ := List.cons.inj (hw.symm.trans h)
    split <;> simp only [*]

/-- The first step of a run is taken whatever comes after it. -/
theorem leads_run {e : Executor σ} {word : Lexeme} {rest : List Lexeme}
    (hw : e.waiting = word :: rest) :
    Past.Leads (e.step word rest).state.past e.run.state.past := by
  rw [run_of_cons hw]
  split
  · rename_i hr
    rw [hr]
  · rename_i hr
    rw [hr]
  · rename_i t hr
    rw [hr]
    exact past_run t

/-- **A command that can be read is begun.** -/
theorem enacts_run_of_read {e : Executor σ} {word : Lexeme} {rest : List Lexeme} {a : Action}
    {n : Nat} (hs : e.skipping = none) (hw : e.waiting = word :: rest)
    (hr : (Reader.read e.mode e.mayGrow word rest).result = .ok (a, n)) :
    e.past.Enacts e.index a e.run.state.past := by
  obtain ⟨cs, hc, h⟩ := enacts_carryOut e word a n
  refine ⟨cs, hc, h.trans ?_⟩
  have hl := leads_run hw
  rwa [step, hs, command, hr] at hl

/-- Lexemes that do not end the stream are added to those that wait, and then it is run. -/
theorem parse_of_forall {e : Executor σ} (hs : e.stream.ended = false) {l : List Lexeme}
    (hl : ∀ x ∈ l, x.kind ≠ .endOfFile) :
    e.parse l = { e with stream := ⟨e.stream.entries ++ l, false⟩ : Executor σ }.run := by
  have h := Stream.extend_of_forall hs hl []
  rw [List.append_nil, Stream.extend_nil] at h
  rw [parse, h]

/-- A whole script is run with a stream that has ended. -/
theorem parse_of_endOfFile {e : Executor σ} (hs : e.stream.ended = false) {l : List Lexeme}
    (hl : ∀ x ∈ l, x.kind ≠ .endOfFile) {x : Lexeme} (hx : x.kind = .endOfFile) :
    e.parse (l ++ [x]) = { e with stream := ⟨e.stream.entries ++ l, true⟩ : Executor σ }.run := by
  have h := Stream.extend_of_forall hs hl [x]
  rw [Stream.extend_cons, Stream.append, if_neg Bool.false_ne_true, if_pos hx] at h
  rw [parse, h]
  rfl

/-- Nothing, or the end of the file. -/
def Closing (l : List Lexeme) : Prop := l = [] ∨ ∃ x, l = [x] ∧ x.kind = .endOfFile

/-- Lexemes are added, perhaps with the end of the file, and then the stream is run. -/
theorem parse_append {e : Executor σ} (hs : e.stream.ended = false) {l t : List Lexeme}
    (hl : ∀ x ∈ l, x.kind ≠ .endOfFile) (ht : Closing t) : ∃ ended,
    e.parse (l ++ t) = { e with stream := ⟨e.stream.entries ++ l, ended⟩ : Executor σ }.run := by
  rcases ht with rfl | ⟨x, rfl, hx⟩
  · rw [List.append_nil]
    exact ⟨false, parse_of_forall hs hl⟩
  · exact ⟨true, parse_of_endOfFile hs hl hx⟩

/-- **A command that can be read is begun** as soon as its lexemes come, if none wait. -/
theorem enacts_parse_of_read {e : Executor σ} {word : Lexeme} {rest t : List Lexeme} {a : Action}
    {n : Nat} (hs : e.skipping = none) (hi : e.index = e.stream.size)
    (he : e.stream.ended = false) (hl : ∀ x ∈ word :: rest, x.kind ≠ .endOfFile) (ht : Closing t)
    (hr : ∀ more, (Reader.read e.mode more word rest).result = .ok (a, n)) :
    e.past.Enacts e.index a (e.parse (word :: rest ++ t)).state.past := by
  obtain ⟨ended, hp⟩ := parse_append he hl ht
  rw [hp]
  refine enacts_run_of_read
    (e := { e with stream := ⟨e.stream.entries ++ word :: rest, ended⟩ }) hs ?_ (hr _)
  show (e.stream.entries ++ word :: rest).drop e.index = _
  rw [hi]
  exact List.drop_left

/-- Parsing lexemes leads on from the past, whether they can be added to the stream or not. -/
theorem past_parse (e : Executor σ) (l : List Lexeme) :
    Past.Leads e.past (e.parse l).state.past := by
  unfold parse
  simp only
  split
  · exact .refl
  · exact past_run { e with stream := (e.stream.extend l).2 }

/-- Every use of an executor leads on from its past; only parsing adds to it. -/
theorem past_use (e : Executor σ) (u : Use) : Past.Leads e.past (e.use u).past := by
  cases u with
  | parse l => exact past_parse e l
  | discard => exact .refl
  | close => exact (past_close e).symm ▸ .refl
  | meanwhile s => exact .refl

/-- **Whatever an executor is used for, its past goes on step by step.** -/
theorem past_live (e : Executor σ) (l : List Use) : Past.Leads e.past (e.live l).past := by
  induction l generalizing e with
  | nil => exact .refl
  | cons u l ih => exact (past_use e u).trans (ih (e.use u))

end Device
end Executor

namespace Recorder

/-- A recorder remembers each call that it gets. -/
theorem past_perform (c : Call) (r : Recorder) :
    (Device.perform c r).state.past = r.past ++ [c] := by
  show (perform c r).state.past = _
  unfold perform
  simp only
  split <;> rfl

/-- A recorder remembers the calls of a row as they are noted. -/
theorem past_askAll (mode : Option Mode) (cs : List Call) (r : Recorder) :
    (askAll mode cs r).2.past = r.past ++ Deed.calls (askAll mode cs r).1 := by
  induction cs generalizing r with
  | nil => exact (List.append_nil _).symm
  | cons c cs ih =>
    rcases hr : (Device.perform c r).result with f | a
    · rw [askAll_of_error hr]
      exact past_perform c r
    · rw [askAll_of_ok hr]
      refine (ih _).trans ?_
      rw [past_perform, List.append_assoc]
      rfl

/-- **The notes are true.**  The calls that are noted are the calls that a recorder gets. -/
theorem past_live (strict : Bool) (p : Params) (r : Recorder) (site : Site)
    (l : List Executor.Use) :
    let e := (Executor.start strict p r site).live l
    e.bench.device.past = r.past ++ Deed.calls e.bench.deeds := by
  intro e
  have hl : Past.Leads (Past.start r) e.past :=
    Executor.past_live (Executor.start strict p r site) l
  show e.past.device.past = r.past ++ Deed.calls e.past.deeds
  generalize e.past = q at hl
  induction hl with
  | refl => exact (List.append_nil _).symm
  | tail _ hs ih =>
    cases hs with
    | reported n c => rw [Past.calls_report, ← ih]; rfl
    | enacted n _ _ =>
      rw [Past.calls_enact, ← List.append_assoc, ← ih]
      exact past_askAll _ _ _

end Recorder
end PlotScript
