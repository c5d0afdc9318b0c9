/-
# After a step

Reading never goes back.  What a step leaves behind stays behind on the later rounds of its run and
in all later uses: no command is read that begins there, and none is noted.

An executor *clears* a number if it is behind that number, or passes over a block and will be there
when it comes to the closing word.  What clears a number goes on to do so (`Executor.kept_clears`),
and from then on it notes nothing about lexemes before the number, and reads none of them.
-/

import PlotScript.Proofs.Arguments

namespace PlotScript

/-- Notes are added, none of which is about a command before a number. -/
def Deed.Beyond (n : Nat) (l m : List Deed) : Prop :=
  ∃ new, m = l ++ new ∧ ∀ d ∈ new, ∀ k, d.number? = some k → n ≤ k

namespace Deed

variable {l m o : List Deed} {n k : Nat}

/-- Where nothing is noted, nothing is noted about earlier commands. -/
theorem Beyond.refl (n : Nat) (l : List Deed) : Beyond n l l :=
  ⟨[], (List.append_nil l).symm, fun _ h => absurd h List.not_mem_nil⟩

/-- Notes about commands from a number on, and then about commands from a later one on, are about
commands from the first one on. -/
theorem Beyond.trans (h : Beyond n l m) (hk : n ≤ k) (h' : Beyond k m o) : Beyond n l o := by
  obtain ⟨new, rfl, hnew⟩ := h
  obtain ⟨new', rfl, hnew'⟩ := h'
  refine ⟨new ++ new', List.append_assoc .., fun d hd i hi => ?_⟩
  rcases List.mem_append.1 hd with hd | hd
  · exact hnew d hd i hi
  · exact hk.trans (hnew' d hd i hi)

/-- The commands complained about among notes are those among the first of them, and those among the
others after them. -/
@[simp] theorem reports_append (l m : List Deed) : reports (l ++ m) = reports l ++ reports m :=
  List.filterMap_append

/-- Notes that are about no command complain about none. -/
theorem reports_eq_nil (h : ∀ d ∈ l, d.number? = none) : reports l = [] := by
  rw [reports, List.filterMap_eq_nil_iff]
  intro d hd
  have hn := h d hd
  cases d with
  | reported => cases hn
  | begun | modeSet | asked => rfl

end Deed

namespace Past

variable {σ : Type} {p : Past σ} {n : Nat}

/-- A report is noted about the command that it names, and about no earlier one. -/
theorem beyond_report (p : Past σ) (n : Nat) (c : Complaint) :
    Deed.Beyond n p.deeds (p.report n c).deeds := by
  refine ⟨[.reported n c], rfl, fun d hd k hk => ?_⟩
  obtain rfl := List.mem_singleton.1 hd
  exact (Option.some.inj hk).le

variable [Device σ]

/-- What is noted of a command that is carried out is about that command, or about none. -/
theorem beyond_enact (p : Past σ) (n : Nat) (a : Action) (cs : List Call) :
    Deed.Beyond n p.deeds (p.enact n a cs).deeds := by
  refine ⟨_, rfl, fun d hd k hk => ?_⟩
  rcases List.mem_cons.1 hd with rfl | hd
  · exact (Option.some.inj hk).le
  · rw [Executor.number?_eq_none hd] at hk
    cases hk

/-- Nothing is reported while a command is carried out. -/
theorem reports_enact (p : Past σ) (n : Nat) (a : Action) (cs : List Call) :
    Deed.reports (p.enact n a cs).deeds = Deed.reports p.deeds := by
  have hbegun (l : List Deed) : Deed.reports (.begun n a :: l) = Deed.reports l := rfl
  rw [enact, Deed.reports_append, hbegun,
    Deed.reports_eq_nil fun d hd => Executor.number?_eq_none hd, List.append_nil]

end Past

namespace Stream

variable {s t : Stream} {b : Block} {n i j : Nat}

/-- The first lexeme from a number on that closes a block. -/
def closing (s : Stream) (b : Block) (n : Nat) : Option Nat :=
  ((s.drop n).findIdx? fun x => x.kind = .blockEnd b).map (n + ·)

/-- The word that closes a block is in the stream, and not in front of where it is looked for. -/
theorem lt_size_of_closing (h : s.closing b n = some j) : n ≤ j ∧ j < s.size := by
  obtain ⟨i, hi, rfl⟩ := Option.map_eq_some_iff.1 h
  obtain ⟨hlt, -⟩ := List.findIdx?_eq_some_iff_getElem.1 hi
  have hlen : (s.drop n).length = s.size - n := List.length_drop ..
  omega

/-- The first lexeme that closes a block stays the first, whatever comes. -/
theorem closing_of_isPrefix (hp : s.entries <+: t.entries) (h : s.closing b n = some j) :
    t.closing b n = some j := by
  have hn : n ≤ s.entries.length := (lt_size_of_closing h).1.trans (lt_size_of_closing h).2.le
  obtain ⟨l, hl⟩ := hp
  obtain ⟨i, hi, rfl⟩ := Option.map_eq_some_iff.1 h
  have hdrop : t.drop n = s.drop n ++ l := by
    rw [drop, ← hl, List.drop_append_of_le_length hn]
    rfl
  rw [closing, hdrop, List.findIdx?_append, hi]
  rfl

/-- What does not close a block may be passed over. -/
theorem closing_eq (hn : n ≤ i) (hi : i ≤ s.size)
    (h : ∀ x ∈ (s.drop n).take (i - n), x.kind ≠ .blockEnd b) :
    s.closing b n = s.closing b i := by
  have hsplit : s.drop n = (s.drop n).take (i - n) ++ s.drop i := by
    have hdrop : (s.drop n).drop (i - n) = s.drop i := by
      rw [drop, List.drop_drop, Nat.add_sub_cancel' hn]
      rfl
    rw [← hdrop, List.take_append_drop]
  have hnone : ((s.drop n).take (i - n)).findIdx? (fun x => x.kind = .blockEnd b) = none :=
    List.findIdx?_eq_none_iff.2 fun x hx => by simpa using h x hx
  have hlen : ((s.drop n).take (i - n)).length = i - n := by
    have : (s.drop n).length = s.size - n := List.length_drop ..
    rw [List.length_take]
    omega
  rw [closing, hsplit, List.findIdx?_append, hnone, hlen, Option.none_or, Option.map_map, closing]
  congr 1
  funext k
  simp only [Function.comp_apply]
  omega

end Stream

namespace Executor

variable {σ : Type} {e t u : Executor σ} {word : Lexeme} {rest : List Lexeme} {b : Block}
  {m j : Nat} {ds : List Deed}

/-- An executor is behind a number, or passes over a block whose next closing word is the lexeme
before that number. -/
structure Clears (m : Nat) (e : Executor σ) : Prop where
  within : m ≤ e.stream.size
  behind : m ≤ e.index ∨
    ∃ b j, e.skipping = some b ∧ e.stream.closing b e.index = some j ∧ j + 1 = m

/-- **Where a command is read, all that was cleared is behind.** -/
theorem Clears.le_index (h : Clears m e) (hk : e.skipping = none) : m ≤ e.index := by
  rcases h.behind with hm | ⟨b, j, hb, -⟩
  · exact hm
  · rw [hk] at hb
    cases hb

/-- At the closing word of a block, the block is passed over no more. -/
theorem skip_of_closing (h : e.stream.closing b e.index = some j) :
    e.skip b = { e with index := j + 1, skipping := none } := by
  obtain ⟨i, hi, rfl⟩ := Option.map_eq_some_iff.1 h
  have hi : (e.waiting.findIdx? fun x => x.kind = .blockEnd b) = some i := hi
  simp only [skip, hi]

/-- A number that is cleared is cleared when the block is passed over: the executor is behind the
closing word then. -/
theorem Clears.skip (h : Clears m e) (hb : e.skipping = some b) (hi : e.index ≤ e.stream.size) :
    Clears m (e.skip b) := by
  refine ⟨(stream_skip e b).symm ▸ h.within, ?_⟩
  rcases h.behind with hm | ⟨b', j, hb', hj, hm⟩
  · exact .inl (hm.trans (le_index_skip b hi))
  · obtain rfl := Option.some.inj (hb.symm.trans hb')
    rw [skip_of_closing hj]
    exact .inl hm.ge

/-- More lexemes may come, and what was done does not matter. -/
theorem Clears.extend (h : Clears m e) (hp : e.stream.entries <+: t.stream.entries)
    (hi : t.index = e.index) (hk : t.skipping = e.skipping) : Clears m t := by
  refine ⟨h.within.trans hp.length_le, h.behind.imp (hi ▸ ·) ?_⟩
  rintro ⟨b, j, hb, hj, hm⟩
  exact ⟨b, j, hk.trans hb, hi ▸ Stream.closing_of_isPrefix hp hj, hm⟩

/-- A use of an executor for something else than lexemes. -/
def Use.isAside : Use → Bool
  | .parse _ => false
  | .discard | .close | .meanwhile _ => true

section Device

variable [Device σ]

/-- What is kept in every step, when lexemes come, and in other uses, if they are allowed. -/
structure Kept (allowed : Use → Prop) (P : Executor σ → Prop) : Prop where
  step : ∀ {e : Executor σ} {word rest}, e.waiting = word :: rest → P e →
    P (e.step word rest).state
  fed : ∀ {e : Executor σ} (l : List Lexeme), P e → P (e.fed l)
  aside : ∀ {e : Executor σ} {u : Use}, allowed u → u.isAside = true → P e → P (e.use u)

/-- The executors that another comes to after its first step: on the later rounds of its run, on the
rounds of the runs while it is used then, and in the end. -/
inductive Later (e : Executor σ) (us : List Use) : Executor σ → Prop
  | round {n : Nat} {t : Executor σ} : Rounds (n + 1) e t → Later e us t
  | comes {t : Executor σ} : ComesTo e.run.state us t → Later e us t
  | live : Later e us (e.run.state.live us)

namespace Kept

variable {allowed : Use → Prop} {P : Executor σ → Prop} {us : List Use}

/-- What is kept in every step is kept in a run. -/
theorem run (h : Kept allowed P) (he : P e) : P e.run.state :=
  rel_run (r := fun e t => P e → P t) (fun _ h => h) (fun hr hs h => hs (hr h))
    (fun hw h' => h.step hw h') e he

/-- What is kept in every step is kept in every use that is allowed. -/
theorem use {v : Use} (h : Kept allowed P) (hv : allowed v) (he : P e) : P (e.use v) := by
  cases v with
  | parse l =>
    have hf := h.fed l he
    simp only [Executor.use, parse]
    split
    · exact hf
    · exact h.run hf
  | discard | close | meanwhile => exact h.aside hv rfl he

/-- What is kept in every step is kept in any uses that are allowed. -/
theorem live (h : Kept allowed P) (hus : ∀ v ∈ us, allowed v) (he : P e) : P (e.live us) := by
  induction us generalizing e with
  | nil => exact he
  | cons v us ih =>
    exact ih (fun w hw => hus w (List.mem_cons_of_mem v hw)) (h.use (hus v List.mem_cons_self) he)

/-- What is kept in every step holds on every round of a run. -/
theorem rounds {n : Nat} (h : Kept allowed P) (hn : Rounds n e t) (he : P e) : P t := by
  induction hn with
  | none => exact he
  | next hw hr _ ih =>
    have hs := h.step hw he
    rw [hr] at hs
    exact ih hs

/-- What is kept in every step holds wherever an executor comes to in uses that are allowed. -/
theorem comesTo (h : Kept allowed P) (hus : ∀ v ∈ us, allowed v) (ht : ComesTo e us t)
    (he : P e) : P t := by
  obtain ⟨before, l, after, n, rfl, -, hn⟩ := ht
  exact h.rounds hn (h.fed l (h.live (fun v hv => hus v (List.mem_append_left _ hv)) he))

/-- **What holds after the first step and is kept holds later.** -/
theorem later (h : Kept allowed P) (hus : ∀ v ∈ us, allowed v) (hw : e.waiting = word :: rest)
    (he : P (e.step word rest).state) (ht : Later e us t) : P t := by
  have hrun : P e.run.state := by
    rw [run_of_cons hw]
    split <;> rename_i hr <;> rw [hr] at he
    · exact he
    · exact he
    · exact h.run he
  cases ht with
  | round hn =>
    cases hn with
    | next hw' hr hn =>
      obtain ⟨rfl, rfl⟩ := List.cons.inj (hw.symm.trans hw')
      rw [hr] at he
      exact h.rounds hn he
  | comes ht => exact h.comesTo hus ht hrun
  | live => exact h.live hus hrun

end Kept

/-- **A step notes nothing about lexemes behind the executor.** -/
theorem beyond_step (e : Executor σ) (word : Lexeme) (rest : List Lexeme) :
    Deed.Beyond e.index e.past.deeds (e.step word rest).state.past.deeds := by
  have hs := stepped e word rest
  generalize e.step word rest = o at hs ⊢
  cases hs with
  | @skipped b _ =>
    show Deed.Beyond _ _ (e.skip b).past.deeds
    rw [past_skip]
    exact .refl ..
  | waits | failed => exact .refl ..
  | wrong =>
    show Deed.Beyond _ _ (e.recover _ _ _).state.past.deeds
    rw [past_recover]
    exact Past.beyond_report e.past e.index _
  | @read a n =>
    show Deed.Beyond _ _ (e.carryOut word a n).state.past.deeds
    obtain ⟨cs, -, h | ⟨c, h⟩⟩ := past_carryOut_cases e word a n
    · rw [h]
      exact Past.beyond_enact e.past e.index a cs
    · rw [h]
      exact (Past.beyond_enact e.past e.index a cs).trans le_rfl (Past.beyond_report _ e.index c)

/-- An executor clears a number, and since notes were made it noted nothing before the number. -/
structure Leaves (m : Nat) (ds : List Deed) (e : Executor σ) : Prop where
  clears : Clears m e
  beyond : Deed.Beyond m ds e.past.deeds

/-- A step goes on to note nothing before what was cleared. -/
theorem Leaves.step (h : Leaves m ds e) (hw : e.waiting = word :: rest) :
    Leaves m ds (e.step word rest).state := by
  rcases hk : e.skipping with _ | b
  · have hm := h.clears.le_index hk
    refine ⟨⟨(frame_step e word rest).stream ▸ h.clears.within,
      .inl (hm.trans (onward_step hw).2)⟩, ?_⟩
    exact h.beyond.trans hm (beyond_step e word rest)
  · have hs : e.step word rest = ⟨.ok (.reported []), [], e.skip b⟩ := by
      rw [Executor.step, hk]
    rw [hs]
    exact ⟨h.clears.skip hk (index_lt_of_waiting hw).le, (past_skip e b).symm ▸ h.beyond⟩

/-- **What was cleared stays behind**, whatever an executor is used for. -/
theorem kept_leaves (m : Nat) (ds : List Deed) :
    Kept (fun _ => True) (Leaves (σ := σ) m ds) where
  step hw h := h.step hw
  fed l h := ⟨h.clears.extend (Stream.entries_isPrefix_extend _ l) rfl rfl, h.beyond⟩
  aside {e u} _ hu h := by
    cases u with
    | parse l => cases hu
    | discard => exact ⟨⟨h.clears.within, .inl h.clears.within⟩, h.beyond⟩
    | close =>
      refine ⟨h.clears.extend (t := e.close.2) List.prefix_rfl rfl rfl, ?_⟩
      show Deed.Beyond m ds e.close.2.past.deeds
      rw [past_close]
      exact h.beyond
    | meanwhile s => exact ⟨h.clears.extend (t := e.use (.meanwhile s)) List.prefix_rfl rfl rfl,
        h.beyond⟩

/-- An executor stays strict or lenient. -/
theorem kept_strict (s : Bool) : Kept (fun _ => True) fun e : Executor σ => e.strict = s where
  step _ h := (frame_step _ _ _).strict.trans h
  fed _ h := h
  aside {e u} _ _ h := (strict_live e [u]).trans h

/-- The past of an executor goes on step by step. -/
theorem kept_past (q : Past σ) : Kept (fun _ => True) fun e : Executor σ => q.Leads e.past where
  step _ h := h.trans (past_step _ _ _)
  fed _ h := h
  aside {e u} _ _ h := h.trans (past_use e u)

/-- **What commands and reports leave of a bench, an executor leaves of it**, if the files have no
part in it.  Reading and passing over lexemes do not touch the bench, and closing and whatever
happens meanwhile change its files alone. -/
theorem kept_bench {P : Bench σ → Prop}
    (henact : ∀ p anchor a n b, P b → P (Bench.enact p anchor a (b.note (.begun n a))).state)
    (hreport : ∀ b n c, P b → P (b.note (.reported n c)))
    (hfiles : ∀ b s l, P b → P { b with site := s, downloads := l }) :
    Kept (fun _ => True) fun e : Executor σ => P e.bench where
  step {e word rest} _ h := by
    have hs := stepped e word rest
    generalize e.step word rest = o at hs ⊢
    cases hs with
    | skipped => exact (bench_skip e _).symm ▸ h
    | waits | failed => exact h
    | wrong => exact (bench_recover e ..).symm ▸ hreport _ _ _ h
    | @read a n =>
      have ha := henact e.params word a e.index e.bench h
      obtain ⟨es, hcarry⟩ := carryOut_eq e word a n
      show P (e.carryOut word a n).state.bench
      rw [hcarry]
      split
      · exact ha
      · exact (bench_recover (e.passed n _) ..).symm ▸ hreport _ _ _ ha
      · exact ha
  fed _ h := h
  aside {e u} _ _ h := by
    cases u with
    | parse l => cases ‹Use.isAside _ = true›
    | discard => exact h
    | close =>
      show P (e.bench.close e.params).2
      unfold Bench.close
      split
      · exact h
      · show P { (e.bench.removeAll e.bench.downloads.reverse).2 with downloads := [] }
        obtain ⟨s, hs⟩ := exists_removeAll_eq e.bench e.bench.downloads.reverse
        rw [hs]
        exact hfiles e.bench s [] h
    | meanwhile s => exact hfiles _ s e.bench.downloads h

namespace ComesTo

variable {us : List Use}

/-- An executor is as strict as the one that it comes from. -/
theorem strict_eq (h : ComesTo e us t) : t.strict = e.strict :=
  (kept_strict e.strict).comesTo (fun _ _ => trivial) h rfl

/-- The past of an executor leads on from that of the one that it comes from. -/
theorem leads (h : ComesTo e us t) : e.past.Leads t.past :=
  (kept_past e.past).comesTo (fun _ _ => trivial) h .refl

end ComesTo

end Device
end Executor
end PlotScript
