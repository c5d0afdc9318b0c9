/-
# Calls that the plotter refuses

What a plotter complains about says nothing of the script.  The call is the last one of its command
(`Bench.heeds_enact`), and the complaint is passed on as one about the first lexeme of the command,
with the number of the last one (`Executor.Makes.fails`).  It is reported once, and then:

| run | goes on |
| --- | --- |
| strict | not at all: it ends with the complaint, and no other call is made |
| lenient, an option block | with the lexeme behind the closing word |
| lenient, another command | with the first lexeme that is on another line than the last one |

No run ends with the complaint as the plotter made it (`Executor.result_parse_ne_device`).

In the language specification, §13, such a complaint is a `DriverError`, which is anchored anew at
the command.
-/

import PlotScript.Proofs.FailedBlocks

namespace PlotScript

namespace Place

variable {p q r : Place}

/-- Two places are on the same line where source, number and text of the line agree; the column does
not matter. -/
theorem sameLine_iff : p.sameLine q = true ↔
    p.source = q.source ∧ p.lineNumber = q.lineNumber ∧ p.line = q.line := by
  simp only [sameLine, Bool.and_eq_true, beq_iff_eq, and_assoc]

/-- Every place is on its own line, which is what makes a complaint pass over at least its own
lexeme. -/
theorem sameLine_refl (p : Place) : p.sameLine p = true := sameLine_iff.2 ⟨rfl, rfl, rfl⟩

/-- Two places on the line of a third are on one line. -/
theorem sameLine_of_sameLine (hp : p.sameLine r = true) (hq : q.sameLine r = true) :
    p.sameLine q = true := by
  obtain ⟨hs, hn, hl⟩ := sameLine_iff.1 hp
  obtain ⟨hs', hn', hl'⟩ := sameLine_iff.1 hq
  exact sameLine_iff.2 ⟨hs.trans hs'.symm, hn.trans hn'.symm, hl.trans hl'.symm⟩

end Place

/-- What is on the line of a lexeme right behind it, and what is behind that, are lines. -/
theorem Line.of_takeWhile (x : Lexeme) (r : List Lexeme) :
    Line (x :: r.takeWhile fun y => y.place.sameLine x.place)
      (r.dropWhile fun y => y.place.sameLine x.place) := by
  have hline : ∀ y ∈ x :: r.takeWhile fun y => y.place.sameLine x.place,
      y.place.sameLine x.place = true := by
    intro y hy
    rcases List.mem_cons.1 hy with rfl | hy
    · exact Place.sameLine_refl _
    · simpa using (List.mem_takeWhile_imp hy)
  refine ⟨fun y hy z hz => Place.sameLine_of_sameLine (hline z hz) (hline y hy),
    fun y hy z hz => ?_⟩
  by_contra hne
  have hzx : z.place.sameLine x.place = true := by
    have hzy : z.place.sameLine y.place = true := by simpa using hne
    have hxy := Place.sameLine_of_sameLine (Place.sameLine_refl x.place) (hline y hy)
    exact Place.sameLine_of_sameLine hzy hxy
  have hhead := List.head?_dropWhile_not (fun y : Lexeme => y.place.sameLine x.place) r
  rw [hz] at hhead
  simp [hzx] at hhead

namespace Deed

variable {l m : List Deed} {o : Option Refusal}

/-- Notes in which only the last one may be of a refusal, with that refusal. -/
inductive EndsWith : List Deed → Option Refusal → Prop
  | granted {l : List Deed} : (∀ d ∈ l, d.refusal? = none) → EndsWith l none
  | refused {l : List Deed} {d : Deed} {r : Refusal} : (∀ d ∈ l, d.refusal? = none) →
    d.refusal? = some r → EndsWith (l ++ [d]) (some r)

/-- Notes without a refusal may be put in front: what the whole ends with is what its last part ends
with. -/
theorem EndsWith.append (h : EndsWith m o) (hl : ∀ d ∈ l, d.refusal? = none) :
    EndsWith (l ++ m) o := by
  have happend {m : List Deed} (hm : ∀ d ∈ m, d.refusal? = none) : ∀ d ∈ l ++ m,
      d.refusal? = none := fun d hd => (List.mem_append.1 hd).elim (hl d) (hm d)
  cases h with
  | granted hm => exact .granted (happend hm)
  | refused hm hd =>
    rw [← List.append_assoc]
    exact .refused (happend hm) hd

/-- **After a refusal nothing is noted.**  The notes before the last one are no refusals, so the
note is the last one. -/
theorem EndsWith.eq_of_isPrefix {d : Deed} {r : Refusal} (h : EndsWith m o)
    (hd : d.refusal? = some r) (hl : l ++ [d] <+: m) : m = l ++ [d] ∧ o = some r := by
  have hnot {n : List Deed} (hn : ∀ d ∈ n, d.refusal? = none) : ¬ l ++ [d] <+: n := fun hp => by
    have hnone := hn d (hp.subset (List.mem_append_right l (List.mem_singleton_self d)))
    rw [hd] at hnone
    cases hnone
  cases h with
  | granted hm => exact absurd hl (hnot hm)
  | @refused n d' r' hm hd' =>
    rcases List.prefix_concat_iff.1 hl with heq | hp
    · obtain ⟨-, hdd⟩ := List.append_inj' heq rfl
      obtain rfl : d = d' := List.singleton_inj.1 hdd
      exact ⟨heq.symm, hd'.symm.trans hd⟩
    · exact absurd hp (hnot hm)

end Deed

namespace Bench

variable {σ : Type} {α β : Type}

/-- An act ends where a call is refused, and with the refusal. -/
def Heeds (x : Act Fault (Bench σ) α) : Prop := ∀ b, ∃ new o,
  (x b).state.deeds = b.deeds ++ new ∧ Deed.EndsWith new o ∧
    ∀ r, o = some r → (x b).result = .error r.toFault

/-- An act that notes no call. -/
theorem heeds_of_deeds {x : Act Fault (Bench σ) α} {new : List Deed}
    (hnew : ∀ d ∈ new, d.refusal? = none) (h : ∀ b, (x b).state.deeds = b.deeds ++ new) :
    Heeds x := fun b => ⟨new, none, h b, .granted hnew, fun _ h => by cases h⟩

/-- An act that notes nothing heeds every refusal, as it has none. -/
theorem heeds_of_quiet {x : Act Fault (Bench σ) α} (h : ∀ b, (x b).state.deeds = b.deeds) :
    Heeds x :=
  heeds_of_deeds (List.forall_mem_nil _) fun b => (h b).trans (List.append_nil _).symm

/-- Two acts that heed each refusal do so one after the other: if the first one is refused, the
second one is not begun. -/
theorem Heeds.bind {x : Act Fault (Bench σ) α} {f : α → Act Fault (Bench σ) β} (hx : Heeds x)
    (hf : ∀ a, Heeds (f a)) : Heeds (x >>= f) := by
  intro b
  obtain ⟨new, o, hd, he, hr⟩ := hx b
  rcases hres : (x b).result with e | a
  · rw [Act.bind_of_error hres]
    refine ⟨new, o, hd, he, fun r ho => ?_⟩
    obtain rfl : e = r.toFault := Except.error.inj (hres.symm.trans (hr r ho))
    rfl
  · rw [Act.bind_of_ok hres]
    obtain ⟨new', o', hd', he', hr'⟩ := hf a (x b).state
    -- No call was refused, as the act went on.
    have hgranted : ∀ d ∈ new, d.refusal? = none := by
      cases he with
      | granted hnew => exact hnew
      | refused _ _ =>
        rw [hr _ rfl] at hres
        cases hres
    exact ⟨new ++ new', o', by rw [hd', hd, List.append_assoc], he'.append hgranted, hr'⟩

/-- An act for each element ends at the first refusal, if the single acts do. -/
theorem Heeds.forEach {l : List α} {f : α → Act Fault (Bench σ) Unit} (h : ∀ a, Heeds (f a)) :
    Heeds (Act.forEach l f) := by
  induction l with
  | nil => exact heeds_of_quiet fun _ => rfl
  | cons a l ih => exact (h a).bind fun _ => ih

variable [Device σ]

/-- Asking is where a refusal is noted, and the note is the last one of the act. -/
theorem heeds_ask (c : Call) : Heeds (ask c : Act Fault (Bench σ) c.Answer) := by
  intro b
  rcases hp : (Device.perform c b.device).result with r | a
  · refine ⟨[] ++ [.asked b.mode c (.error r)], some r, by rw [deeds_ask, hp]; rfl,
      .refused (by simp) rfl, fun r' hr => ?_⟩
    obtain rfl := Option.some.inj hr
    rw [result_ask, hp]
    rfl
  · refine ⟨[.asked b.mode c (.ok a)], none, by rw [deeds_ask, hp], .granted fun d hd => ?_,
      fun _ h => by cases h⟩
    obtain rfl := List.mem_singleton.1 hd
    rfl

/-- **A command ends where one of its calls is refused**, and with the refusal.  The acts of a
command are calls and such as note nothing, one after the other. -/
theorem heeds_enact (p : Params) (anchor : Lexeme) (a : Action) :
    Heeds (enact p anchor a : Act Fault (Bench σ) Unit) := by
  cases a with
  | setMode m =>
    have hset : Heeds (Act.modify (Bench.setMode m) : Act Fault (Bench σ) Unit) :=
      heeds_of_deeds (fun d hd => List.mem_singleton.1 hd ▸ rfl) fun _ => rfl
    refine hset.bind fun _ => ?_
    cases m with
    | plot => exact heeds_of_quiet fun _ => rfl
    | interactive =>
      refine (heeds_ask .enterInteractive).bind fun _ => (heeds_ask .currentMode).bind
        fun entered => heeds_of_quiet fun b => ?_
      split <;> rfl
  | setOptions b settings =>
    exact (Heeds.forEach fun x : Setting × Value => heeds_ask (.set x.1 x.2)).bind fun _ =>
      heeds_ask .commitOptions
  | getPosition => exact (heeds_ask .getPosition).bind fun _ => heeds_of_quiet fun _ => rfl
  | getPen => exact (heeds_ask .getPenDown).bind fun _ => heeds_of_quiet fun _ => rfl
  | setPlot source =>
    refine (heeds_of_quiet fun b => ?_).bind fun path => (heeds_of_quiet fun b => ?_).bind fun _ =>
      (heeds_ask (.setupPlot path)).bind fun _ => heeds_of_quiet fun _ => rfl
    · exact (asks_obtain p source b).deeds.trans (List.append_nil _)
    · rw [state_inspect]
  | plot =>
    intro b
    rw [enact_plot]
    split
    · exact heeds_ask .runPlot b
    · exact ⟨[], none, (List.append_nil _).symm, .granted (by simp), fun _ h => by cases h⟩
  | connect | disconnect | penUp | penDown | penToggle | home | goTo | goToRelative | draw | wait =>
    exact heeds_ask _

end Bench

namespace Executor

variable {σ : Type} [Device σ] {e t u : Executor σ} {word : Lexeme} {rest : List Lexeme}
  {a : Action} {k n : Nat} {before : List Deed} {mode : Option Mode} {call : Call} {cause : Cause}
  {i : Option Int}

/-- What becomes of a complaint of the plotter: it is about the first lexeme of the command, and
has the number of the last one. -/
def anchored (e : Executor σ) (word : Lexeme) (k : Nat) (cause : Cause) : Complaint :=
  ⟨cause, some word, some ((e.index + k - 1 : Nat) : Int)⟩

/-- **A call that is refused is the last one of its command**, and the command fails with the
complaint of the plotter as one about it. -/
theorem execute_of_refused (hb : e.bench.deeds <+: before)
    (h : before ++ [.asked mode call (.error (.complaint .device cause i))] <+:
      (e.wrecked word a k).deeds) :
    (Bench.execute e.params (e.index + k - 1) ⟨word, a⟩ (e.begun a)).result =
        .error (.command (e.anchored word k cause)) ∧
      (e.wrecked word a k).deeds =
        before ++ [.asked mode call (.error (.complaint .device cause i))] := by
  obtain ⟨new, o, hd, he, hr⟩ := Bench.heeds_enact e.params word a (e.begun a)
  have hdeeds : (e.wrecked word a k).deeds = e.bench.deeds ++ ([.begun e.index a] ++ new) := by
    rw [← List.append_assoc]
    exact hd
  obtain ⟨mid, rfl⟩ := hb
  rw [hdeeds, List.append_assoc, List.prefix_append_right_inj] at h
  have hbegun : ∀ d ∈ [Deed.begun e.index a], d.refusal? = none :=
    fun d hd => List.mem_singleton.1 hd ▸ rfl
  obtain ⟨hnew, ho⟩ := (he.append hbegun).eq_of_isPrefix rfl h
  refine ⟨?_, by rw [hdeeds, hnew, List.append_assoc]⟩
  have hx : (Bench.execute e.params (e.index + k - 1) ⟨word, a⟩ (e.begun a)).result =
    (Bench.enact e.params word a (e.begun a)).result.mapError
      (Bench.blame word (e.index + k - 1)) := rfl
  rw [hx, hr _ ho]
  rfl

namespace Makes

/-- **A call that is refused belongs to a command that was read and fails.**  A step notes calls
only when it carries a command out, and notes its report behind them. -/
theorem fails
    (h : e.Makes word rest before (.asked mode call (.error (.complaint .device cause i)))) :
    ∃ a k, e.Fails word rest a k (.command (e.anchored word k cause)) ∧
      (e.wrecked word a k).deeds =
        before ++ [.asked mode call (.error (.complaint .device cause i))] := by
  have hstop := h.stop
  have hstep := stepped e word rest
  -- The refusal was not noted before the step.
  have hlong : ¬ before ++ [.asked mode call (.error (.complaint .device cause i))] <+:
      e.bench.deeds := fun hp => by
    have hlen := h.start.length_le
    have hlen' := hp.length_le
    rw [List.length_append, List.length_singleton] at hlen'
    omega
  have hlast {l : List Deed} {n : Nat} {c : Complaint}
      (hp : before ++ [.asked mode call (.error (.complaint .device cause i))] <+:
        l ++ [.reported n c]) :
      before ++ [.asked mode call (.error (.complaint .device cause i))] <+: l := by
    refine (List.prefix_concat_iff.1 hp).resolve_left fun heq => ?_
    cases (List.append_inj' heq rfl).2
  generalize e.step word rest = o at hstop hstep
  cases hstep with
  | @skipped b _ =>
    rw [show (e.skip b).bench.deeds = _ from congrArg Past.deeds (past_skip e b)] at hstop
    exact absurd hstop hlong
  | waits | failed => exact absurd hstop hlong
  | wrong =>
    rw [show (after _ (e.recover _ _ _)).state.bench.deeds = _ from deeds_recover ..] at hstop
    exact absurd (hlast hstop) hlong
  | @read a k es hk hr =>
    have hwrecked : before ++ [.asked mode call (.error (.complaint .device cause i))] <+:
        (e.wrecked word a k).deeds := by
      obtain ⟨fs, hcarry⟩ := carryOut_eq e word a k
      have hstop : _ <+: (e.carryOut word a k).state.bench.deeds := hstop
      rw [hcarry] at hstop
      split at hstop
      · exact hstop
      · rw [show (after _ (recover _ _ _ _)).state.bench.deeds = _ from deeds_recover ..] at hstop
        exact hlast hstop
      · exact hstop
    obtain ⟨hx, hd⟩ := execute_of_refused h.start hwrecked
    exact ⟨a, k, ⟨hk, h.waiting, hr, hx⟩, hd⟩

end Makes

omit [Device σ] in
/-- No complaint about a device ends a recovery: only a complaint about a command is recovered
from. -/
theorem result_recover_ne_device (e : Executor σ) (n : Nat) (word : Lexeme) (c d : Complaint) :
    (e.recover n word c).result ≠ .error (.complaint .device d) := by
  have h := recovered e n word c
  generalize e.recover n word c = o at h ⊢
  cases h <;> exact nofun

/-- A refusal of the device is turned into a complaint about the command at which it was met, so
that it never leaves the executor as it was. -/
theorem result_carryOut_ne_device (e : Executor σ) (word : Lexeme) (a : Action) (k : Nat)
    (d : Complaint) : (e.carryOut word a k).result ≠ .error (.complaint .device d) := by
  obtain ⟨es, hcarry⟩ := carryOut_eq e word a k
  rw [hcarry]
  rcases (Bench.enact e.params word a (e.begun a)).result with (⟨grade, c⟩ | text | f) | u
  · cases grade with
    | device | command => exact result_recover_ne_device _ _ _ _ d
    | general | fatal => simp [Except.mapError, Bench.blame]
  · simp [Except.mapError, Bench.blame]
  · simp [Except.mapError, Bench.blame]
  · simp [Except.mapError]

/-- One step never ends with a complaint about the device, as carrying out an action does not. -/
theorem result_step_ne_device (e : Executor σ) (word : Lexeme) (rest : List Lexeme)
    (d : Complaint) : (e.step word rest).result ≠ .error (.complaint .device d) := by
  unfold step
  split
  · simp
  · unfold command
    simp only [after]
    split
    · simp
    · simp
    · exact result_recover_ne_device _ _ _ _ d
    · exact result_carryOut_ne_device _ _ _ _ d

/-- **No run ends with a complaint as a plotter made it.**  The induction is on the run, and a step
says such a complaint again as its own. -/
theorem result_run_ne_device (e : Executor σ) (d : Complaint) :
    e.run.result ≠ .error (.complaint .device d) := by
  fun_induction run e with
  | case1 | case3 => simp
  | case2 e word rest hw f es t hr =>
    have hstep := result_step_ne_device e word rest d
    rw [hr] at hstep
    exact fun h => hstep (congrArg Except.error (Except.error.inj h))
  | case4 e word rest hw l es t hr _ o ih =>
    show o.result.map _ ≠ _
    rcases ho : o.result with f | cs
    · rw [ho] at ih
      exact ih
    · simp [Except.map]

/-- A whole use of the executor never ends with a complaint about the device: whatever the plotter
says is reported at a command, or ends the run as a fault of another kind. -/
theorem result_parse_ne_device (e : Executor σ) (l : List Lexeme) (d : Complaint) :
    (e.parse l).result ≠ .error (.complaint .device d) := by
  unfold parse
  simp only
  split
  · simp
  · exact result_run_ne_device _ d

/-- After some rounds, a run is what is left of it. -/
theorem Rounds.run_eq (h : Rounds n e u) : ∃ cs es,
    e.run = ⟨u.run.result.map (cs ++ ·), es ++ u.run.events, u.run.state⟩ := by
  induction h with
  | none e => exact ⟨[], [], by rw [map_nil_append]; rfl⟩
  | @next n e t u word rest l es hw hr _ ih =>
    obtain ⟨cs, fs, ih⟩ := ih
    rw [run_of_cons hw, hr]
    refine ⟨l ++ cs, es ++ fs, ?_⟩
    simp only [ih, List.append_assoc]
    rcases u.run.result with f | ds
    · rfl
    · simp [Except.map]

omit [Device σ] in
/-- Below the line of a lexeme.  The lexemes on that line come first, and dropping them leaves the
next line. -/
theorem drop_nextLine {s : Stream} {x : Lexeme} {r : List Lexeme} (hs : s.drop n = x :: r) :
    s.drop (nextLine s n) = r.dropWhile fun y => y.place.sameLine x.place := by
  have hr (m : Nat) : s.drop (n + 1 + m) = r.drop m := by
    have hdrop : s.drop (n + 1 + m) = (s.drop n).drop (1 + m) := by
      rw [Nat.add_assoc]
      exact List.drop_drop.symm
    rw [hdrop, hs, Nat.add_comm, List.drop_succ_cons]
  have hsplit : ((r.takeWhile fun y => y.place.sameLine x.place) ++
      r.dropWhile fun y => y.place.sameLine x.place).drop
        (r.takeWhile fun y => y.place.sameLine x.place).length =
      r.dropWhile fun y => y.place.sameLine x.place := List.drop_left
  rw [List.takeWhile_append_dropWhile] at hsplit
  rw [nextLine, hs]
  simp only
  rwa [hr]

/-- A run is one from lexeme `m`, with no block to pass over. -/
def RunsFrom (e : Executor σ) (m : Nat) : Prop :=
  e.run = ({ e with index := m, skipping := none } : Executor σ).run

/-- Lexeme `m` comes next after the `k` lexemes of a command: right behind them, if they are a
block, which the last one closes, and otherwise below the line of the last one. -/
structure ComesNext (e : Executor σ) (word : Lexeme) (rest : List Lexeme) (k m : Nat) : Prop where
  block : ∀ b, word.kind = .blockStart b →
    m = e.index + k ∧ ∃ z, (word :: rest)[k - 1]? = some z ∧ z.kind = .blockEnd b
  noBlock : (∀ b, word.kind ≠ .blockStart b) → ∃ x line,
    (word :: rest).drop (k - 1) = x :: line ++ e.stream.drop m ∧
      Line (x :: line) (e.stream.drop m)

namespace Fails

variable {c : Complaint}

/-- **A strict run ends with the complaint.** -/
theorem run_of_strict (h : Fails e word rest a k (.command c)) (hs : e.strict = true) :
    e.run.result = .error (.command c) ∧ e.run.state = (e.step word rest).state := by
  obtain ⟨es, hstep⟩ := h.step_eq
  obtain ⟨fs, hcarry⟩ := h.carryOut_eq_recover
  rw [run_of_cons h.waiting, hstep, hcarry, recover_of_strict (e := e.passed k _) hs]
  exact ⟨rfl, rfl⟩

/-- **A lenient run goes on.** -/
theorem run_of_lenient (h : Fails e word rest a k (.command c)) (hs : e.strict = false)
    (hi : c.index = none ∨ c.index = some ((e.index + k - 1 : Nat) : Int)) :
    e.run.result = (e.step word rest).state.run.result.map (c :: ·) ∧
      e.run.state = (e.step word rest).state.run.state := by
  have hresult := h.result_step hs hi
  rw [run_of_cons h.waiting]
  generalize e.step word rest = o at hresult ⊢
  obtain ⟨r, es, t⟩ := o
  obtain rfl : r = .ok (.reported [c]) := hresult
  exact ⟨rfl, rfl⟩

/-- Behind a block whose last lexeme is blamed.  The run skips to the closing word of the block,
which is the lexeme that is blamed. -/
theorem runsFrom_of_block (h : Fails e word rest a k (.command c)) (hs : e.strict = false)
    (hc : c.index = some ((e.index + k - 1 : Nat) : Int)) {b : Block}
    (hb : word.kind = .blockStart b) : (e.step word rest).state.RunsFrom (e.index + k) := by
  have hk := (Reader.taken_read h.read).1
  have hstate := h.step_of_block hs hb
  have hindex : (e.step word rest).state.index = e.index + k - 1 := by
    rw [hstate]
    exact h.blamed_eq hc
  have hclosing : (e.step word rest).state.stream.closing b (e.step word rest).state.index =
      some (e.index + k - 1) := by
    rw [hindex, (frame_step e word rest).stream]
    exact h.closing_of_block hb
  have hskipping : (e.step word rest).state.skipping = some b := by rw [hstate]
  obtain ⟨z, tail, hw⟩ : ∃ z tail, (e.step word rest).state.waiting = z :: tail := by
    refine List.exists_cons_of_ne_nil fun hw => ?_
    have hle := List.drop_eq_nil_iff.1 hw
    exact absurd (Stream.lt_size_of_closing hclosing).2 (Nat.not_lt.2 (hindex ▸ hle))
  rw [RunsFrom, run_of_skip hskipping hw, skip_of_closing hclosing,
    show e.index + k - 1 + 1 = e.index + k by omega]

/-- Below the line of the last lexeme, if that is blamed for a command that is no block. -/
theorem runsFrom_of_noBlock (h : Fails e word rest a k (.command c)) (hs : e.strict = false)
    (hc : c.index = some ((e.index + k - 1 : Nat) : Int))
    (hb : ∀ b, word.kind ≠ .blockStart b) :
    (e.step word rest).state.RunsFrom (nextLine e.stream (e.index + k - 1)) := by
  rw [RunsFrom, h.step_of_noBlock hs (.inr hc) hb, h.blamed_eq hc]
  congr 1
  show _ = ({ e with index := _, skipping := none, bench := _ } : Executor σ)
  rw [← h.skipping]
  rfl

/-- **Where a lenient run goes on** if the last lexeme of a command is blamed.  The cases are
whether the command is an option block, which has a closing word, or not. -/
theorem exists_runsFrom (h : Fails e word rest a k (.command c)) (hs : e.strict = false)
    (hc : c.index = some ((e.index + k - 1 : Nat) : Int)) :
    ∃ m, ComesNext e word rest k m ∧ (e.step word rest).state.RunsFrom m := by
  by_cases hb : ∃ b, word.kind = .blockStart b
  · obtain ⟨b, hb⟩ := hb
    refine ⟨e.index + k, ⟨fun b' hb' => ⟨rfl, ?_⟩, fun hne => absurd hb (hne b)⟩,
      h.runsFrom_of_block hs hc hb⟩
    obtain ⟨r, z, tail, settings, hl, rfl, hz, -⟩ := Reader.exists_blockEnd_of_read hb' h.read
    exact ⟨z, by rw [hl]; simp, hz⟩
  · have hb : ∀ b, word.kind ≠ .blockStart b := fun b hw => hb ⟨b, hw⟩
    refine ⟨_, ⟨fun b hw => absurd hw (hb b), fun _ => ?_⟩, h.runsFrom_of_noBlock hs hc hb⟩
    have hk := (Reader.taken_read h.read).1
    have hle := index_add_le h.waiting h.read
    have hdrop : (word :: rest).drop (k - 1) = e.stream.drop (e.index + k - 1) := by
      rw [← h.waiting, Nat.add_sub_assoc hk]
      exact List.drop_drop
    obtain ⟨x, r, hx⟩ : ∃ x r, e.stream.drop (e.index + k - 1) = x :: r :=
      List.exists_cons_of_ne_nil fun hnil => by
        have hsize := List.drop_eq_nil_iff.1 hnil
        rw [Stream.size] at hle
        omega
    have hnext := drop_nextLine hx
    refine ⟨x, r.takeWhile fun y => y.place.sameLine x.place, ?_, hnext ▸ .of_takeWhile x r⟩
    rw [hdrop, hx, hnext, List.cons_append, List.takeWhile_append_dropWhile]

/-- The complaint goes into the log.  It is the last event of its step, and the events of the step
come first in the run. -/
theorem report_mem_events (h : Fails e word rest a k (.command c)) :
    Event.report .command c ∈ e.run.events := by
  have hstep : Event.report .command c ∈ (e.step word rest).events := by
    obtain ⟨es, hstep⟩ := h.step_eq
    obtain ⟨fs, hcarry⟩ := h.carryOut_eq_recover
    rw [hstep, hcarry]
    refine List.mem_append_right es (List.mem_append_right fs ?_)
    rw [events_recover]
    exact List.mem_singleton_self _
  rw [run_of_cons h.waiting]
  generalize e.step word rest = o at hstep ⊢
  obtain ⟨r, es, t⟩ := o
  rcases r with f | ⟨l⟩ | _
  · exact hstep
  · exact List.mem_append_left _ hstep
  · exact hstep

end Fails

/-- What comes of a call that the plotter refuses with a complaint.  On a round of a run, at a word,
it is made for a command of `k` lexemes; given are how the run ends, what was noted before the call,
the note of it, and the complaint as one about the command. -/
structure Contained (o : Turn σ (List Complaint)) (e : Executor σ) (word : Lexeme)
    (rest : List Lexeme) (k : Nat) (before : List Deed) (d : Deed) (c : Complaint) : Prop where
  /-- The call is the last one of the command, and then there is one report. -/
  deeds : (e.step word rest).state.bench.deeds = before ++ [d, .reported e.index c]
  reported : Event.report .command c ∈ o.events
  /-- A strict run ends there. -/
  strict : e.strict = true → o.result = .error (.command c) ∧ o.state = (e.step word rest).state
  /-- A lenient run goes on behind the command, and if it ends with no fault, it gives the
  complaint. -/
  lenient : e.strict = false → (∀ cs, o.result = .ok cs → c ∈ cs) ∧
    o.state = (e.step word rest).state.run.state ∧
    ∃ m, ComesNext e word rest k m ∧ (e.step word rest).state.RunsFrom m

/-- **A refused call is contained.**  The rounds before it give their events and complaints, and
then the step that fails gives its own. -/
theorem Fails.contained (h : Fails u word rest a k (.command (u.anchored word k cause))) {d : Deed}
    (hd : (u.wrecked word a k).deeds = before ++ [d]) (hn : Rounds n e u) :
    Contained e.run u word rest k before d (u.anchored word k cause) := by
  obtain ⟨cs, es, hrun⟩ := hn.run_eq
  rw [hrun]
  refine ⟨?_, List.mem_append_right es h.report_mem_events, fun hs => ?_, fun hs => ?_⟩
  · have hpast : (u.step word rest).state.bench.deeds =
        (u.wrecked word a k).deeds ++ [.reported u.index (u.anchored word k cause)] :=
      congrArg Past.deeds h.past_step
    rw [hpast, hd, List.append_assoc]
    rfl
  · obtain ⟨hresult, hstate⟩ := h.run_of_strict hs
    exact ⟨by rw [hresult]; rfl, hstate⟩
  · obtain ⟨hresult, hstate⟩ := h.run_of_lenient hs (.inr rfl)
    refine ⟨fun ds hds => ?_, hstate, h.exists_runsFrom hs rfl⟩
    have hds : ((u.step word rest).state.run.result.map (u.anchored word k cause :: ·)).map
        (cs ++ ·) = .ok ds := hresult ▸ hds
    rcases hr : (u.step word rest).state.run.result with f | l
    · rw [hr] at hds
      cases hds
    · rw [hr] at hds
      obtain rfl : cs ++ u.anchored word k cause :: l = ds := Except.ok.inj hds
      simp

end Executor

/-- A position is among the reported ones if and only if something was reported there. -/
theorem Deed.mem_reports {l : List Deed} {n : Nat} :
    n ∈ reports l ↔ ∃ c, reported n c ∈ l := by
  simp only [reports, List.mem_filterMap]
  constructor
  · rintro ⟨d, hd, hn⟩
    cases d with
    | reported m c => exact ⟨c, Option.some.inj hn ▸ hd⟩
    | begun | modeSet | asked => cases hn
  · rintro ⟨c, hc⟩
    exact ⟨_, hc, rfl⟩

namespace Executor

variable {σ : Type} [Device σ] {e t u : Executor σ} {word : Lexeme} {rest : List Lexeme}
  {a : Action} {k n : Nat} {cause : Cause}

/-- **There is one complaint about a command that the plotter refuses**, whatever a lenient
executor is used for. -/
theorem Fails.count_reports {c : Complaint} (h : Fails u word rest a k (.command c))
    (hs : u.strict = false) (hc : c.index = some ((u.index + k - 1 : Nat) : Int))
    (hpaced : Paced u) {later : List Use} (ht : Later u later t) :
    (Deed.reports t.bench.deeds).count u.index = 1 := by
  have hk := (Reader.taken_read h.read).1
  have hleaves : Leaves (u.index + k) (u.step word rest).state.past.deeds t :=
    (kept_leaves (u.index + k) _).later (fun _ _ => trivial) h.waiting
      ⟨h.clears_of_last hs hc, .refl ..⟩ ht
  obtain ⟨new, hnew, hbeyond⟩ := hleaves.beyond
  have hbefore : u.index ∉ Deed.reports u.bench.deeds := fun hm => by
    obtain ⟨c', hc'⟩ := Deed.mem_reports.1 hm
    exact absurd (lt_index_of_number hpaced hs h.skipping hc' rfl) (lt_irrefl _)
  have hafter : u.index ∉ Deed.reports new := fun hm => by
    obtain ⟨c', hc'⟩ := Deed.mem_reports.1 hm
    have hle := hbeyond _ hc' u.index rfl
    omega
  have hstep : Deed.reports (u.step word rest).state.past.deeds = _ := h.reports_step
  rw [show t.bench.deeds = _ from hnew, Deed.reports_append, hstep, List.count_append,
    List.count_append, List.count_eq_zero_of_not_mem hbefore, List.count_eq_zero_of_not_mem hafter]
  simp

/-- **A call that the plotter refuses is blamed on its command, and on nothing else.**  An executor,
strict or not, is used in any way, with any plotter.

- No run, of any executor, ends with a complaint as a plotter made it.
- A call that the plotter refuses with a complaint is made for a command that was read on a round of
  a run, and what comes of it is as `Contained` says: it is the last call of the command, the
  complaint is reported as one about the first lexeme of the command, a strict run ends with it, and
  a lenient one goes on behind the command.
- A lenient executor has no other complaint about that command, before or later. -/
theorem refused_call (strict : Bool) (p : Params) (device : σ) (site : Site) (uses : List Use) :
    let e := start strict p device site
    (∀ (t : Executor σ) l c, (t.parse l).result ≠ .error (.complaint .device c)) ∧
    ∀ before mode call cause i,
      let d := Deed.asked mode call (.error (.complaint .device cause i))
      before ++ [d] <+: (e.live uses).bench.deeds →
      ∃ early l late n u word rest a k, uses = early ++ .parse l :: late ∧
        Rounds n ((e.live early).fed l) u ∧ u.Makes word rest before d ∧
        u.skipping = none ∧ (Reader.read u.mode u.mayGrow word rest).result = .ok (a, k) ∧
        Contained ((e.live early).parse l) u word rest k before d (u.anchored word k cause) ∧
        (strict = false → (Deed.reports (e.live uses).bench.deeds).count u.index = 1) := by
  intro e
  refine ⟨result_parse_ne_device, ?_⟩
  intro before mode call cause i d hd
  obtain ⟨u, word, rest, hu, hm⟩ := exists_made (Nat.zero_le _) hd
  obtain ⟨a, k, hf, hwrecked⟩ := hm.fails
  have hcomes := hu
  obtain ⟨early, l, late, n, rfl, hl, hn⟩ := hu
  have hparse := parse_eq_run hl
  refine ⟨early, l, late, n, u, word, rest, a, k, rfl, hn, hm, hf.skipping, hf.read,
    hparse ▸ hf.contained hwrecked hn, fun hs => ?_⟩
  have hpaced : Paced u := kept_paced.comesTo (fun _ _ => trivial) hcomes (paced_start ..)
  have hlater : Later u late (e.live (early ++ .parse l :: late)) := by
    -- The life goes on after the run that the call was made in.
    obtain ⟨cs, es, hrun⟩ := hn.run_eq
    have hlive : e.live (early ++ .parse l :: late) = u.run.state.live late := by
      rw [live, List.foldl_append, List.foldl_cons]
      show ((e.live early).parse l).state.live late = _
      rw [hparse, hrun]
    rw [hlive]
    exact .live
  exact hf.count_reports (hcomes.strict_eq.trans hs) rfl hpaced hlater

/-- A plotter at which nothing can be set, and a script with a block that sets something: there is
one complaint about the block, and then one about the command behind it. -/
theorem refused_call_rigid :
    let e := start false .standard rigid .bare
    let l := (Lexer.reading ["MODE P", "OPTS ACCEL 10", "END_OPTS PLOT"] none).tokens.1
    let deeds := (e.parse l).state.bench.deeds
    (deeds[3]?).bind Deed.refusal? = some (.complaint .device (.said "Locked") none) ∧
      Deed.reports deeds = [2, 6] ∧
      ∃ u word rest k before d, before ++ [d] <+: deeds ∧
        Contained (e.parse l) u word rest k before d (u.anchored word k (.said "Locked")) := by
  intro e l deeds
  have hrefusal : (deeds[3]?).bind Deed.refusal? =
      some (.complaint .device (.said "Locked") none) := by
    decide +kernel
  refine ⟨hrefusal, by decide +kernel, ?_⟩
  obtain ⟨d, hd, hr⟩ := Option.bind_eq_some_iff.1 hrefusal
  -- The refusal is the fourth note.
  have hpre : deeds.take 3 ++ [d] <+: deeds := by
    have htake := List.take_prefix (3 + 1) deeds
    rwa [List.take_add_one, hd] at htake
  cases d with
  | asked mode call answer =>
    rcases answer with r | x
    · obtain rfl : r = .complaint .device (.said "Locked") none := Option.some.inj hr
      obtain ⟨early, l', late, -, u, word, rest, -, k, huses, -, -, -, -, hc, -⟩ :=
        (refused_call false .standard rigid .bare [.parse l]).2 _ mode call _ _ hpre
      obtain rfl : early = [] := by
        rcases early with _ | ⟨v, early⟩
        · rfl
        · simp at huses
      obtain ⟨⟨rfl⟩, rfl⟩ := List.cons.inj huses
      exact ⟨u, word, rest, k, _, _, hpre, hc⟩
    · cases hr
  | begun | modeSet | reported => cases hr

end Executor
end PlotScript
