/-
# Strict and lenient runs

A strict and a lenient executor are given the same whole script.  Since its end has come, neither
waits for the rest of a block, so they read the same commands; and up to the first complaint they
carry them out alike (`Executor.tallies_step`).  There the strict one ends, and the lenient one
goes on from the same notes.  So a strict run that ends well is a lenient run, and any other strict
run is the beginning of a lenient one, up to its first complaint (`Executor.parse_accords`).

Strict and lenient are the two policies of the language specification, §7 and §13.
-/

import PlotScript.Proofs.Progress
import PlotScript.Proofs.Sourcing

namespace PlotScript

/-- A stream to which the end of the file was added last has ended. -/
theorem Stream.ended_extend {s t : Stream} {l : List Lexeme} {x : Lexeme} (hx : x.kind = .endOfFile)
    (h : s.extend (l ++ [x]) = (.ok (), t)) : t.ended = true := by
  induction l generalizing s with
  | nil =>
    rw [List.nil_append, extend_cons] at h
    split at h
    · cases h
    · rename_i s' hs
      cases h
      rw [(ended_of_append hs).2.1, decide_eq_true hx]
  | cons y l ih =>
    rw [List.cons_append, extend_cons] at h
    rcases hy : s.append y with f | s'
    · rw [hy] at h
      cases h
    · rw [hy] at h
      exact ih h

namespace Executor

variable {σ : Type} {e : Executor σ} {word : Lexeme} {rest : List Lexeme} {noted : List Complaint}

/-- The same executor, but one that goes on after a complaint. -/
def lenient (e : Executor σ) : Executor σ := { e with strict := false }

/-- Where the end of the script has come, no block is waited for, strict or not. -/
theorem mayGrow_of_ended (h : e.stream.ended = true) : e.mayGrow = false := by
  simp [mayGrow, h]

/-- Passing over a block is the same for a strict executor and a lenient one. -/
@[simp]
theorem skip_lenient (e : Executor σ) (b : Block) : e.lenient.skip b = (e.skip b).lenient := by
  have hw : e.lenient.waiting = e.waiting := rfl
  simp only [skip, hw]
  split <;> rfl

/-- A lenient executor reports a complaint, with the note that a strict one leaves, and goes on, or
does not find where. -/
theorem recover_lenient (e : Executor σ) (start : Nat) (word : Lexeme) (c : Complaint) :
    ∃ r u, e.lenient.recover start word c = ⟨r, [.report .command c], u⟩ ∧
      (∀ s, r = .ok s → s = .reported [c]) ∧ u.bench = (e.note (.reported start c)).bench := by
  refine ⟨(e.lenient.recover start word c).result, (e.lenient.recover start word c).state, ?_,
    fun _ h => (of_recover_eq_ok h).2.2, bench_recover e.lenient start word c⟩
  rw [← events_recover e.lenient start word c]

variable [Device σ]

/-- How one step goes for a strict executor and for the lenient one that is like it, where some
complaints have been noted: the same for both, with no complaint; or there is a complaint, with
which the strict one ends, and perhaps the lenient one with something else. -/
inductive Tallies (noted : List Complaint) : Turn σ Step → Turn σ Step → Prop
  | same {r : Except Fault Step} {es : List Event} {t : Executor σ} :
    (∀ c, r ≠ .error (.command c)) → (∀ l, r = .ok (.reported l) → l = []) → Ordinary σ es →
      Deed.complaints t.bench.deeds = noted → Tallies noted ⟨r, es, t⟩ ⟨r, es, t.lenient⟩
  | reported (n : Nat) (c : Complaint) {r : Except Fault Step} {es : List Event}
    {t u : Executor σ} : Ordinary σ es → Deed.complaints t.bench.deeds = noted →
    (∀ s, r = .ok s → s = .reported [c]) → u.bench = (t.note (.reported n c)).bench →
      Tallies noted ⟨.error (.command c), es ++ [.report .command c], t.note (.reported n c)⟩
        ⟨r, es ++ [.report .command c], u⟩

/-- Ordinary events in front do not change how two turns tally. -/
theorem Tallies.after {o o' : Turn σ Step} (h : Tallies noted o o') {es : List Event}
    (hes : Ordinary σ es) : Tallies noted (after es o) (after es o') := by
  cases h with
  | same hr hl ho hd => exact .same hr hl (hes.append ho) hd
  | reported n c ho hd hr hb =>
    simp only [Executor.after, ← List.append_assoc]
    exact .reported n c (hes.append ho) hd hr hb

/-- Where a strict executor ends with a complaint, a lenient one reports the same complaint and goes
on. -/
theorem tallies_recover {t : Executor σ} (hs : t.strict = true)
    (hd : Deed.complaints t.bench.deeds = noted) (n : Nat) (word : Lexeme) (c : Complaint) :
    Tallies noted (t.recover n word c) (t.lenient.recover n word c) := by
  obtain ⟨r, u, hu, hr, hb⟩ := recover_lenient t n word c
  rw [recover_of_strict hs, hu]
  exact .reported n c ordinary_nil hd hr hb

/-- A command is carried out alike, strictly and leniently; only what follows a complaint differs.
Strictness is read by the recovery alone, which a complaint leads to and no other fault does. -/
theorem tallies_carryOut (hs : e.strict = true) (word : Lexeme) (a : Action) (n : Nat) :
    Tallies (Deed.complaints e.bench.deeds) (e.carryOut word a n) (e.lenient.carryOut word a n) := by
  set o := Bench.execute e.params (e.index + n - 1) ⟨word, a⟩ (e.bench.note (.begun e.index a))
    with ho
  have hes : Ordinary σ o.events := fun E hE _ hd => Bench.events_execute hE hd _ _ _ _
  have hd : Deed.complaints o.state.deeds = Deed.complaints e.bench.deeds := by
    obtain ⟨cs, -, hp⟩ := past_execute e word a n
    have hdeeds : o.state.deeds = (e.past.enact e.index a cs).deeds := congrArg Past.deeds hp
    rw [hdeeds]
    exact Past.complaints_enact e.past e.index a cs
  have ho' : Bench.execute e.lenient.params (e.lenient.index + n - 1) ⟨word, a⟩
      (e.lenient.bench.note (.begun e.lenient.index a)) = o := rfl
  unfold carryOut
  simp only [ho', ← ho]
  rcases hr : o.result with f | u
  · -- Only a complaint leads to the recovery.
    by_cases hf : ∃ c, f = .command c
    · obtain ⟨c, rfl⟩ := hf
      exact (tallies_recover (t := e.passed n o.state) hs hd e.index word c).after hes
    · have hne : ∀ c, f ≠ .command c := fun c hc => hf ⟨c, hc⟩
      split
      · rename_i he
        cases he
      · rename_i c he
        exact absurd (Except.error.inj he) (hne c)
      · rename_i he
        obtain rfl := Except.error.inj he
        have hne' : ∀ c, (.error f : Except Fault Step) ≠ .error (.command c) :=
          fun c hc => hne c (Except.error.inj hc)
        exact Tallies.same (t := e.passed n o.state) hne' (fun l h => by cases h) hes hd
  · exact Tallies.same (t := e.passed n o.state) (fun c h => by cases h)
      (fun l h => by cases h; rfl) hes hd

/-- **Up to a complaint, a step goes alike**, if the end of the script has come. -/
theorem tallies_step (hs : e.strict = true) (he : e.stream.ended = true) (word : Lexeme)
    (rest : List Lexeme) :
    Tallies (Deed.complaints e.bench.deeds) (e.step word rest) (e.lenient.step word rest) := by
  rcases hk : e.skipping with _ | b
  · have hk' : e.lenient.skipping = none := hk
    have hm : e.mayGrow = false := mayGrow_of_ended he
    have hm' : e.lenient.mayGrow = false := mayGrow_of_ended he
    have hread : Reader.read e.lenient.mode false word rest = Reader.read e.mode false word rest :=
      rfl
    simp only [step, hk, hk', command, hm, hm', hread]
    refine Tallies.after ?_ (ordinary_warnings _)
    rcases hr : (Reader.read e.mode false word rest).result with stop | ⟨a, n⟩
    · cases stop with
      | waiting => exact absurd hr Reader.read_ne_waiting
      | failed f =>
        exact .same (fun c h => by cases h) (fun l h => by cases h) ordinary_nil rfl
      | wrong cause x offset => exact tallies_recover hs rfl e.index word _
    · exact tallies_carryOut hs word a n
  · have hk' : e.lenient.skipping = some b := hk
    have hd : (e.skip b).bench.deeds = e.bench.deeds := congrArg Past.deeds (past_skip e b)
    simp only [step, hk, hk', skip_lenient]
    exact .same (fun c h => by cases h) (fun l h => by cases h; rfl) ordinary_nil
      (congrArg Deed.complaints hd)

/-- How a run goes for a strict executor and for the lenient one that is like it: the same for
both, with no complaint; or the strict one ends where the lenient one has its first complaint. -/
inductive Accords (noted : List Complaint) :
    Turn σ (List Complaint) → Turn σ (List Complaint) → Prop
  | same {r : Except Fault (List Complaint)} {es : List Event} {t : Executor σ} :
    (∀ c, r ≠ .error (.command c)) → (∀ l, r = .ok l → l = []) →
      Accords noted ⟨r, es, t⟩ ⟨r, es, t.lenient⟩
  | departs {r : Except Fault (List Complaint)} (es later : List Event) {t u : Executor σ}
    (n : Nat) (c : Complaint) (before after : List Deed) : Ordinary σ es →
    Deed.complaints before = noted →
    t.bench.deeds = before ++ [.reported n c] → u.bench.deeds = before ++ .reported n c :: after →
    (∀ l, r = .ok l → l.head? = some c) →
      Accords noted ⟨.error (.command c), es ++ [.report .command c], t⟩
        ⟨r, es ++ .report .command c :: later, u⟩

/-- A step with no complaint may come first. -/
theorem Accords.next {es : List Event} {o o' : Turn σ (List Complaint)}
    (h : Accords noted o o') (hes : Ordinary σ es) :
    Accords noted ⟨o.result.map ([] ++ ·), es ++ o.events, o.state⟩
      ⟨o'.result.map ([] ++ ·), es ++ o'.events, o'.state⟩ := by
  simp only [map_nil_append]
  cases h with
  | same hr hl => exact .same hr hl
  | departs fs later n c before after ho hb ht hu hr =>
    simp only [← List.append_assoc]
    exact .departs (es ++ fs) later n c before after (hes.append ho) hb ht hu hr

/-- After a complaint, whatever the lenient executor does goes on from the notes of the strict
one. -/
theorem accords_departs (n : Nat) (c : Complaint) {es : List Event} {t u : Executor σ}
    (hes : Ordinary σ es)
    (hd : Deed.complaints t.bench.deeds = noted)
    (hb : u.bench = (t.note (.reported n c)).bench) :
    Accords noted ⟨.error (.command c), es ++ [.report .command c], t.note (.reported n c)⟩
      ⟨u.run.result.map ([c] ++ ·), es ++ [.report .command c] ++ u.run.events, u.run.state⟩ := by
  obtain ⟨after, hafter⟩ := (past_run u).deeds_isPrefix
  have hu : u.past.deeds = t.bench.deeds ++ [.reported n c] := by
    show u.bench.deeds = _
    rw [hb]
    rfl
  have hstate : u.run.state.bench.deeds = t.bench.deeds ++ .reported n c :: after := by
    show u.run.state.past.deeds = _
    rw [← hafter, hu, List.append_assoc]
    rfl
  have hhead : ∀ l, u.run.result.map ([c] ++ ·) = .ok l → l.head? = some c := by
    intro l hl
    rcases hr : u.run.result with f | k
    · rw [hr] at hl
      cases hl
    · rw [hr] at hl
      cases hl
      rfl
  rw [List.append_assoc]
  exact .departs es u.run.events n c t.bench.deeds after hes hd rfl hstate hhead

/-- After a complaint, the lenient executor may end, too. -/
theorem accords_ends (n : Nat) (c : Complaint) (g : Fault) {es : List Event} {t u : Executor σ}
    (hes : Ordinary σ es) (hd : Deed.complaints t.bench.deeds = noted)
    (hb : u.bench = (t.note (.reported n c)).bench) :
    Accords noted ⟨.error (.command c), es ++ [.report .command c], t.note (.reported n c)⟩
      ⟨.error g, es ++ [.report .command c], u⟩ :=
  .departs es [] n c t.bench.deeds [] hes hd rfl (congrArg Bench.deeds hb) (by rintro _ ⟨⟩)

/-- **A strict run is a lenient run up to its first complaint**, if the end of the script has come.
The induction is on the strict run; where it ends with a complaint, the lenient run goes on by
itself. -/
theorem accords_run (hs : e.strict = true) (he : e.stream.ended = true) :
    Accords (Deed.complaints e.bench.deeds) e.run e.lenient.run := by
  fun_induction run e with
  | case1 e hw =>
    rw [run_of_nil (e := e.lenient) hw]
    exact .same (fun c h => by cases h) (fun l h => by cases h; rfl)
  | case2 e word rest hw f es t hr =>
    have h := tallies_step hs he word rest
    rw [run_of_cons (e := e.lenient) hw]
    rw [hr] at h
    generalize e.lenient.step word rest = o' at h ⊢
    cases h with
    | same hf _ _ _ =>
      have hf' : ∀ c, (.error f : Except Fault (List Complaint)) ≠ .error (.command c) :=
        fun c hc => hf c (by rw [Except.error.inj hc])
      exact .same hf' fun l h => by cases h
    | @reported n c r _ _ u hes hd hres hb =>
      -- After the complaint the lenient run ends with a fault of its own, or departs.
      rcases r with g | s
      · exact accords_ends n c g hes hd hb
      · obtain rfl := hres s rfl
        exact accords_departs n c hes hd hb
  | case3 e word rest hw es t hr =>
    have h := tallies_step hs he word rest
    rw [run_of_cons (e := e.lenient) hw]
    rw [hr] at h
    generalize e.lenient.step word rest = o' at h ⊢
    cases h
    exact .same (fun c h => by cases h) (fun l h => by cases h; rfl)
  | case4 e word rest hw l es t hr _ o ih =>
    have h := tallies_step hs he word rest
    have hf := frame_step e word rest
    rw [run_of_cons (e := e.lenient) hw]
    rw [hr] at h hf
    generalize e.lenient.step word rest = o' at h ⊢
    cases h with
    | same _ hl hes hd =>
      obtain rfl := hl l rfl
      -- A step that both take alike leaves the executor strict and the stream ended.
      have ho := ih (hf.strict.trans hs) ((congrArg Stream.ended hf.stream).trans he)
      rw [hd] at ho
      exact ho.next hes

/-- **A whole script, strictly and leniently.**  A fresh strict executor and a fresh lenient one are
given the same lexemes, of which the last is the end of the file.

If the strict run gives a list, it is empty, and the lenient run is the same: the executors are
alike in the end, but for their strictness.  If the strict run ends with a complaint about a
command, it is the first one of the lenient run: up to there, both leave the same events and the
same notes, none of which is a complaint, and if the lenient run gives a list, it begins with that
complaint.  If the strict run ends with any other fault, the lenient run is the same. -/
theorem parse_accords (p : Params) (device : σ) (site : Site) (l : List Lexeme) {x : Lexeme}
    (hx : x.kind = .endOfFile) :
    let strict := (start true p device site).parse (l ++ [x])
    let lenient := (start false p device site).parse (l ++ [x])
    (∀ given, strict.result = .ok given →
      given = [] ∧ lenient = ⟨.ok [], strict.events, strict.state.lenient⟩) ∧
    (∀ c, strict.result = .error (.command c) →
      (∃ es later, strict.events = es ++ [.report .command c] ∧
        lenient.events = es ++ .report .command c :: later ∧
        (Device.Leaves σ (fun ev => ev.isError = false) → ∀ ev ∈ es, ev.isError = false)) ∧
      (∃ n before after, strict.state.bench.deeds = before ++ [.reported n c] ∧
        lenient.state.bench.deeds = before ++ .reported n c :: after ∧
        Deed.complaints before = []) ∧
      ∀ given, lenient.result = .ok given → given.head? = some c) ∧
    ∀ f, (∀ c, f ≠ .command c) → strict.result = .error f →
      lenient = ⟨.error f, strict.events, strict.state.lenient⟩ := by
  intro strict lenient
  have h : Accords [] strict lenient := by
    have hstream : (start true p device site).stream = (start false p device site).stream := rfl
    rcases hl : (start true p device site).stream.extend (l ++ [x]) with ⟨_ | u, s⟩
    · rename_i f
      have hstrict : strict =
          ⟨.error (.failure f), [], { start true p device site with stream := s }⟩ := by
        simp only [strict, parse, hl]
      have hlenient : lenient =
          ⟨.error (.failure f), [], { start true p device site with stream := s }.lenient⟩ := by
        simp only [lenient, parse, ← hstream, hl]
        rfl
      rw [hstrict, hlenient]
      exact .same (fun c h => by cases h) (fun l h => by cases h)
    · have hstrict : strict = { start true p device site with stream := s }.run := by
        simp only [strict, parse, hl]
      have hlenient : lenient = { start true p device site with stream := s }.lenient.run := by
        simp only [lenient, parse, ← hstream, hl]
        rfl
      rw [hstrict, hlenient]
      exact accords_run (e := { start true p device site with stream := s }) rfl
        (Stream.ended_extend hx hl)
  generalize strict = o at h ⊢
  generalize lenient = o' at h ⊢
  cases h with
  | @same r es t hr hl =>
    refine ⟨fun given hg => ?_, fun c hc => absurd hc (hr c), fun f _ hf => ?_⟩
    · obtain rfl : r = .ok given := hg
      obtain rfl := hl given rfl
      exact ⟨rfl, rfl⟩
    · obtain rfl : r = .error f := hf
      rfl
  | departs es later n c before after ho hb ht hu hr =>
    refine ⟨fun given hg => ?_, fun c' hc => ?_, fun f hf hc => ?_⟩
    · cases hg
    · cases hc
      refine ⟨⟨es, later, rfl, rfl, fun hd => ?_⟩, ⟨n, before, after, ht, hu, hb⟩, hr⟩
      exact ho _ ⟨fun _ => rfl, fun _ => rfl, fun _ => rfl, fun _ _ _ => rfl⟩ (fun _ => rfl) hd
    · exact absurd (Except.error.inj hc).symm (hf c)

/-- The second command lacks a coordinate: a lenient run carries out the third. -/
theorem parse_accords_halfMotion :
    let l := (Lexer.reading ["MODE I", "GOTO 1", "MODE P", "PENUP"] none).words
    let strict := (start true .standard Recorder.obliging .bare).parse (l ++ [.alone .endOfFile ""])
    let lenient := (start false .standard Recorder.obliging .bare).parse
      (l ++ [.alone .endOfFile ""])
    ∃ c, strict.result = .error (.command c) ∧ c.cause = .argumentInvalid .y "GOTO" ∧
      Deed.calls lenient.state.bench.deeds = [.enterInteractive, .currentMode, .penUp] ∧
      ∀ given, lenient.result = .ok given → given.head? = some c := by
  intro l strict lenient
  obtain ⟨-, hcommand, -⟩ := parse_accords .standard Recorder.obliging .bare l
    (x := .alone .endOfFile "") rfl
  have hc : strict.result = .error (.command (fault (start true .standard Recorder.obliging .bare)
      (.argumentInvalid .y "GOTO") ⟨⟨.mode, "MODE"⟩, ⟨"MODE P", 3, 0, 4, none⟩⟩ 4)) := by
    decide +kernel
  exact ⟨_, hc, rfl, by decide +kernel, (hcommand _ hc).2.2⟩

end Executor
end PlotScript
