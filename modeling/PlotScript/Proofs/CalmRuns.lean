/-
# Runs that go on

An executor is calm as long as it can be given another line.  With a mild plotter, a run of it ends
in one of two ways (`Executor.steady_run`): it is calm again, and everything that was out of order
was reported; or it is broken.

Two things break an executor (`Executor.Broken`): a value with more digits than a whole number can
be read from, and a drawing whose check breaks down.
-/

import PlotScript.Proofs.Dialogue
import PlotScript.Proofs.Mild
import PlotScript.Proofs.OpenBlock

namespace PlotScript

open Grammar

/-- Lexemes that make up commands, each permitted in its mode, and perhaps a block that is not
closed. -/
inductive Grammar.InOrder : Option Mode → List Lexeme → Prop
  | nil (mode : Option Mode) : InOrder mode []
  | unclosed {mode : Option Mode} {l : List Lexeme} : Unclosed mode l → InOrder mode l
  | cons {mode : Option Mode} {ws tail : List Lexeme} {a : Action} :
    Spells ws a → a.EndsBefore tail → a.PermittedIn mode → InOrder (a.modeAfter mode) tail →
      InOrder mode (ws ++ tail)

namespace Executor

variable {σ : Type} {site : Site} {e t : Executor σ} {word : Lexeme} {rest l : List Lexeme}

/-- The lexemes to be read: those of a block that is left unread are none. -/
def unread (e : Executor σ) : List Lexeme :=
  match e.skipping with
  | none => e.waiting
  | some b => (e.waiting.dropWhile fun x => x.kind ≠ .blockEnd b).drop 1

/-- A line that is out of order for an executor: all its words are unknown, or it does not go on
with what waits. -/
def OutOfOrder (e : Executor σ) (l : List Lexeme) : Prop :=
  l ≠ [] ∧ ((∀ x ∈ l, x.kind = .unknown) ∨ ¬InOrder e.mode (e.grow l).unread)

/-- The drawings that were to be set are not on the web. -/
def Local (e : Executor σ) : Prop :=
  ∀ n path, .begun n (.setPlot path) ∈ e.bench.deeds → Web.isUrl path = false

/-- The checks of the drawings that were to be set came to an end. -/
def Checked (site : Site) (e : Executor σ) : Prop :=
  ∀ n path, .begun n (.setPlot path) ∈ e.bench.deeds → ¬site.Breaks path

/-- What a session cannot go on from: a block with a value of too many digits, or a drawing whose
check broke down. -/
def Broken (site : Site) (e : Executor σ) : Prop :=
  Overlong e.mode e.waiting ∨ ¬Checked site e

/-- An executor that can be given another line. -/
structure Calm (site : Site) (e : Executor σ) : Prop where
  strict : e.strict = false
  ended : e.stream.ended = false
  numbers : Reader.Numbers e.stream.entries
  same : e.bench.site = site
  checked : Checked site e

/-- What was local at the end was local before: only notes were added in between. -/
theorem Local.of_prefix (h : Local t) (hd : e.bench.deeds <+: t.bench.deeds) : Local e :=
  fun n path hn => h n path (hd.subset hn)

/-- In a calm executor more lexemes can come, for the end of the stream has not. -/
theorem Calm.mayGrow (h : Calm site e) : e.mayGrow = true := by
  rw [Executor.mayGrow, h.ended, h.strict]
  rfl

/-- The number tokens that wait in a calm executor are numbers, as all that came out of a lexer
are. -/
theorem Calm.numbers_waiting (h : Calm site e) : Reader.Numbers e.waiting :=
  fun x hx => h.numbers x (List.mem_of_mem_drop hx)

/-- What is left of a calm executor is calm, unless it began to set another drawing. -/
theorem Calm.of_frame (h : Calm site e) (hf : Frame e t) (hs : t.bench.site = e.bench.site)
    (hd : ∀ n path, .begun n (.setPlot path) ∈ t.bench.deeds →
      .begun n (.setPlot path) ∈ e.bench.deeds ∨ ¬site.Breaks path) : Calm site t where
  strict := hf.strict.trans h.strict
  ended := (congrArg Stream.ended hf.stream).trans h.ended
  numbers := hf.stream ▸ h.numbers
  same := hs.trans h.same
  checked n path hn := (hd n path hn).elim (h.checked n path) id

/-- Where nothing waits there is nothing that could break. -/
theorem not_broken_of_nil (h : Checked site e) (hw : e.waiting = []) : ¬Broken site e := by
  rintro (⟨b, front, x, s, y, tail, hl, -⟩ | hc)
  · rw [hw] at hl
    simp at hl
  · exact hc h

/-- Recovering from a complaint touches no file and asks no server. -/
@[simp] theorem site_recover (e : Executor σ) (start : Nat) (word : Lexeme) (c : Complaint) :
    (e.recover start word c).state.bench.site = e.bench.site := by
  rw [bench_recover]
  rfl

/-- Recovering from a complaint notes the report of it, and nothing else. -/
@[simp] theorem deeds_recover (e : Executor σ) (start : Nat) (word : Lexeme) (c : Complaint) :
    (e.recover start word c).state.bench.deeds = e.bench.deeds ++ [.reported start c] :=
  congrArg Bench.deeds (bench_recover e start word c)

/-- What is to be read does not change when a block is passed over: it is what stands behind the
first closing word, before and after. -/
theorem unread_skip {b : Block} (hb : e.skipping = some b) : (e.skip b).unread = e.unread := by
  have hu : e.unread = (e.waiting.dropWhile fun x => x.kind ≠ .blockEnd b).drop 1 := by
    rw [unread, hb]
  rw [hu]
  have ht := skipped e b
  generalize e.skip b = t at ht ⊢
  cases ht with
  | @closed front back z hw hz hfront =>
    have hdrop : (e.waiting.dropWhile fun x => x.kind ≠ .blockEnd b) = z :: back := by
      rw [hw, List.dropWhile_append_of_pos fun x hx => by simpa using hfront x hx,
        List.dropWhile_cons_of_neg (by simpa using hz)]
    rw [hdrop]
    show e.stream.entries.drop (e.index + front.length + 1) = back
    rw [Nat.add_assoc, ← List.drop_drop, show e.stream.entries.drop e.index = _ from hw,
      ← List.drop_drop, List.drop_left]
    rfl
  | unclosed hall =>
    have hnil : (e.waiting.dropWhile fun x => x.kind ≠ .blockEnd b) = [] :=
      List.dropWhile_eq_nil_iff.2 fun x hx => by simpa using hall x hx
    rw [hnil, unread]
    have hw : e.stream.drop e.stream.size = [] := List.drop_length
    split
    · exact hw
    · show (List.dropWhile _ (e.stream.drop e.stream.size)).drop 1 = _
      rw [hw]
      rfl

/-- What one step of a calm executor comes to. -/
inductive Steady (site : Site) (e : Executor σ) (l : List Lexeme) : Turn σ Step → Prop
  | skipped {b : Block} : e.skipping = some b → Steady site e l ⟨.ok (.reported []), [], e.skip b⟩
  | waits (es : List Event) : e.skipping = none → Unclosed e.mode l → ¬Overlong e.mode l →
    Steady site e l ⟨.ok .waits, es, e⟩
  | done {a : Action} {n : Nat} (es : List Event) {b : Bench σ} : e.skipping = none →
    Begins e.mode l a n → b.mode = a.modeAfter e.mode →
      Steady site e l ⟨.ok (.reported []), es, e.passed n b⟩
  | reported (c : Complaint) {es : List Event} (t : Executor σ) : .report .command c ∈ es →
    Steady site e l ⟨.ok (.reported [c]), es, t⟩
  | broken {f : Failure} (es : List Event) {t : Executor σ} : f.Own → Broken site t →
    Steady site e l ⟨.error (.failure f), es, t⟩

/-- A steady turn is steady with any events in front, since none of what it says is about them. -/
theorem Steady.after {o : Turn σ Step} (h : Steady site e l o) (hs : e.skipping = none)
    (es : List Event) : Steady site e l (after es o) := by
  cases h with
  | skipped hb =>
    rw [hs] at hb
    cases hb
  | waits es' hk hu ho => exact .waits (es ++ es') hk hu ho
  | done es' hk hb hm => exact .done (es ++ es') hk hb hm
  | reported c t hc => exact .reported c t (List.mem_append_right es hc)
  | broken es' hf hb => exact .broken (es ++ es') hf hb

/-- How a run of a calm executor ends: broken, or calm with all complaints reported, of which there
are some if what was to be read is out of order. -/
def RunsOn (site : Site) (e : Executor σ) (o : Turn σ (List Complaint)) : Prop :=
  (∃ f, o.result = .error (.failure f) ∧ f.Own) ∧ Broken site o.state ∨
    ∃ given, o.result = .ok given ∧ Calm site o.state ∧ ¬Broken site o.state ∧
      (∀ c ∈ given, .report .command c ∈ o.events) ∧ (given = [] → InOrder e.mode e.unread)

/-- A run goes on as the run after its first step does. -/
theorem RunsOn.of_step {l : List Complaint} {es : List Event} {o : Turn σ (List Complaint)}
    (h : RunsOn site t o) (hes : ∀ c ∈ l, .report .command c ∈ es)
    (hi : l = [] → InOrder t.mode t.unread → InOrder e.mode e.unread) :
    RunsOn site e ⟨o.result.map (l ++ ·), es ++ o.events, o.state⟩ := by
  rcases h with ⟨⟨f, hf, hown⟩, hb⟩ | ⟨given, hg, hc, hb, hr, ho⟩
  · exact .inl ⟨⟨f, by rw [hf]; rfl, hown⟩, hb⟩
  · refine .inr ⟨l ++ given, by rw [hg]; rfl, hc, hb, fun c hmem => ?_, fun hnil => ?_⟩
    · rcases List.mem_append.1 hmem with hmem | hmem
      · exact List.mem_append_left _ (hes c hmem)
      · exact List.mem_append_right _ (hr c hmem)
    · obtain ⟨hl, hgiven⟩ := List.append_eq_nil_iff.1 hnil
      exact hi hl (ho hgiven)

/-- Where no block is passed over, all that waits is unread. -/
theorem unread_of_none (hk : e.skipping = none) : e.unread = e.waiting := by rw [unread, hk]

section Device

variable [Device σ]

/-- **A calm executor carries out a command that was read**, or reports it.  It is broken instead
only if the command sets a drawing whose check breaks down. -/
theorem steady_carryOut (hM : Mild σ) (h : Calm site e) (hk : e.skipping = none)
    (hw : e.waiting = word :: rest) {a : Action} {n : Nat} (hb : Begins e.mode (word :: rest) a n)
    (hl : Local (e.carryOut word a n).state) :
    Steady site e (word :: rest) (e.carryOut word a n) ∧
      ((e.carryOut word a n).result.isOk = true → Calm site (e.carryOut word a n).state) := by
  have hbegun : .begun e.index a ∈ (e.carryOut word a n).state.bench.deeds :=
    mem_begun_carryOut.2 (.inr ⟨rfl, rfl⟩)
  have hu : ∀ path, a = .setPlot path → Web.isUrl path = false := by
    rintro path rfl
    exact hl e.index path hbegun
  have hcalm (hnot : ¬Bench.Breaks site a)
      (hs : (e.carryOut word a n).state.bench.site = e.bench.site) :
      Calm site (e.carryOut word a n).state := by
    refine h.of_frame (frame_carryOut e word a n) hs fun k path hk => ?_
    refine (mem_begun_carryOut.1 hk).imp_right fun ⟨_, ha⟩ hbr => hnot ⟨path, ha.symm, hbr⟩
  have hbroken (hbr : Bench.Breaks site a) : Broken site (e.carryOut word a n).state := by
    obtain ⟨path, rfl, hbr⟩ := hbr
    exact .inr fun hc => hc e.index path hbegun hbr
  obtain ⟨ws, tail, happ, hlen, hws, -, -⟩ := id hb
  obtain ⟨cs, -, hpast⟩ := past_execute e word a n
  have hmode := congrArg Past.mode hpast
  -- A mild plotter refuses with complaints only, and changes no file.
  obtain ⟨hsite, hr⟩ := Bench.execute_of_mild hM e.params (e.index + n - 1) word hws hu
    (e.bench.note (.begun e.index a))
  have hsame : (e.bench.note (.begun e.index a)).site = site := h.same
  rw [hsame] at hr
  unfold carryOut at hcalm hbroken ⊢
  generalize Bench.execute e.params (e.index + n - 1) ⟨word, a⟩
    (e.bench.note (.begun e.index a)) = o at hmode hsite hr hcalm hbroken ⊢
  obtain ⟨r, es, b⟩ := o
  rcases hr with ⟨hbr, f, rfl, hf⟩ | ⟨hnot, rfl | ⟨c, rfl, hi⟩⟩
  · exact ⟨.broken es hf (hbroken hbr), fun hok => by cases hok⟩
  · exact ⟨.done es hk hb hmode, fun _ => hcalm hnot hsite⟩
  · -- The blamed lexeme is one of the command, so reading goes on within the stream.
    have hlt : blamed e.index c < e.stream.size := by
      have hpos := hws.length_pos
      have hle : ws.length ≤ rest.length + 1 := by
        rw [← List.length_cons, happ, List.length_append]
        exact Nat.le_add_right ..
      have hsize := length_waiting hw
      exact (blamed_lt (hlen ▸ hpos) hi).trans_le (by omega)
    have hrec := recover_of_lenient (e := { e with index := e.index + n, bench := b }) h.strict
      (astray_of_lt hlt word)
    refine ⟨?_, fun _ => hcalm hnot ?_⟩
    · simp only
      rw [hrec]
      exact .reported c _ (List.mem_append_right es List.mem_cons_self)
    · exact (site_recover _ _ _ _).trans hsite

/-- **A step of a calm executor** carries something out, reports it, or waits; and the executor is
calm after it, unless it is broken. -/
theorem steady_step (hM : Mild σ) (h : Calm site e) (hw : e.waiting = word :: rest)
    (hl : Local (e.step word rest).state) :
    Steady site e (word :: rest) (e.step word rest) ∧
      ((e.step word rest).result.isOk = true → Calm site (e.step word rest).state) := by
  have hn : Reader.Numbers rest := fun x hx =>
    h.numbers_waiting x (hw ▸ List.mem_cons_of_mem word hx)
  unfold step at hl ⊢
  split
  · rename_i b hb
    refine ⟨.skipped hb, fun _ => h.of_frame (frame_skip e b) ?_ fun n path hd => .inl ?_⟩
    · exact congrArg Bench.site (bench_skip e b)
    · have hp := congrArg Past.deeds (past_skip e b)
      have hd : _ ∈ (e.skip b).past.deeds := hd
      rwa [hp] at hd
  · rename_i hk
    rw [hk] at hl
    unfold command at hl ⊢
    simp only [h.mayGrow] at hl ⊢
    generalize (Reader.read e.mode true word rest).warnings.map Event.warn = ws
    split
    · rename_i hr
      -- What is waited for has no value that is too long, or reading would have broken down.
      have hlong : ¬Overlong e.mode (word :: rest) := fun ho => by
        obtain ⟨f, hf⟩ := (Reader.failed_iff hn).2 ho
        rw [hf] at hr
        cases hr
      exact ⟨.waits _ hk (Reader.unclosed_of_waiting hr) hlong, fun _ => h⟩
    · rename_i f hr
      refine ⟨.broken _ (Reader.own_read _ hr) (.inl ?_), fun hok => by cases hok⟩
      show Overlong e.mode e.waiting
      rw [hw]
      exact (Reader.failed_iff hn).1 ⟨f, hr⟩
    · rename_i cause x offset hr
      have hrec := recover_of_lenient h.strict (astray_of_wrong hw hr)
      refine ⟨?_, fun _ => h.of_frame (frame_recover e _ word _) (site_recover ..)
        fun n path hd => .inl ?_⟩
      · rw [hrec]
        exact .reported _ _ (List.mem_append_right _ List.mem_cons_self)
      · have hd : _ ∈ (e.recover e.index word _).state.bench.deeds := hd
        rw [deeds_recover] at hd
        refine (List.mem_append.1 hd).resolve_right fun hc => ?_
        cases List.mem_singleton.1 hc
    · rename_i a n hr
      rw [hr] at hl
      obtain ⟨hs, hc⟩ := steady_carryOut hM h hk hw (Reader.begins_of_read hr) hl
      exact ⟨hs.after hk _, hc⟩

/-- **A run of a calm executor breaks, or it reports whatever is out of order.**  If nothing is
reported, all that was to be read is in order: the steps show the commands one by one. -/
theorem steady_run (hM : Mild σ) (h : Calm site e) (hl : Local e.run.state) :
    RunsOn site e e.run := by
  fun_induction run e with
  | case1 e hw =>
    refine .inr ⟨[], rfl, h, not_broken_of_nil h.checked hw, by simp, fun _ => ?_⟩
    have hu : e.unread = [] := by
      unfold unread
      split
      · exact hw
      · rw [hw]
        rfl
    exact hu ▸ .nil e.mode
  | case2 e word rest hw f es t hr =>
    obtain ⟨hs, -⟩ := steady_step hM h hw (by rw [hr]; exact hl)
    rw [hr] at hs
    cases hs with
    | @broken f _ _ hf hb => exact .inl ⟨⟨f, rfl, hf⟩, hb⟩
  | case3 e word rest hw es t hr =>
    obtain ⟨hs, -⟩ := steady_step hM h hw (by rw [hr]; exact hl)
    rw [hr] at hs
    cases hs with
    | waits _ hk hu ho =>
      refine .inr ⟨[], rfl, h, ?_, by simp, fun _ => ?_⟩
      · rintro (hb | hb)
        · exact ho (hw ▸ hb)
        · exact hb h.checked
      · rw [unread_of_none hk, hw]
        exact .unclosed hu
  | case4 e word rest hw l es t hr _ o ih =>
    have hlocal : Local (e.step word rest).state := by
      rw [hr]
      exact hl.of_prefix (past_run t).deeds_isPrefix
    obtain ⟨hs, hcalm⟩ := steady_step hM h hw hlocal
    rw [hr] at hs hcalm
    have hrun := ih (hcalm rfl) hl
    cases hs with
    | @skipped b hb =>
      refine hrun.of_step (by simp) fun _ ho => ?_
      have hm : (e.skip b).mode = e.mode := congrArg Past.mode (past_skip e b)
      rwa [hm, unread_skip hb] at ho
    | @done a n _ b hk hb hm =>
      refine hrun.of_step (by simp) fun _ ho => ?_
      obtain ⟨ws, tail, hl', hn, hws, ht, hp⟩ := hb
      have hw' : (e.passed n b).unread = tail := by
        rw [unread_of_none (e := e.passed n b) hk, waiting_passed hw, hl', ← hn, List.drop_left]
      rw [hw', show (e.passed n b).mode = a.modeAfter e.mode from hm] at ho
      rw [unread_of_none hk, hw, hl']
      exact .cons hws ht hp ho
    | reported c _ hc =>
      refine hrun.of_step (fun c' hc' => ?_) fun hnil => by cases hnil
      obtain rfl := List.mem_singleton.1 hc'
      exact hc

end Device
end Executor

end PlotScript
