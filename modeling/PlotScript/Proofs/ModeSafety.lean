/-
# Mode safety

`Call.FitsIn` says in which modes a call of the plotter may be made.  Whatever an executor is used
for, and whatever the plotter answers, its mode is set at most once, interactive mode is entered
at most once, and every call was made in a mode that it fits (`mode_safety`).

The guards are those of the reader, one command at a time, so the invariant is kept step by step
(`Past.Safe.of_step`): a command is carried out only in a mode that permits it, and then its calls
fit that mode.

The language specification, §3, has the mode set exactly once, and §4.2 has every command checked
against it before it acts.
-/

import PlotScript.Proofs.Life

namespace PlotScript

/-- The modes in which a call of the plotter may be made. -/
def Call.FitsIn (mode : Option Mode) : Call → Prop
  | connect | disconnect | penUp | penDown | penToggle | home | goTo _ _ | goToRelative _ _
  | drawPath _ | wait _ | getPosition | getPenDown => mode = some .interactive
  | set .units _ => mode = some .interactive
  | set _ _ | commitOptions => mode ≠ none
  | setupPlot _ | runPlot => mode = some .plot
  | enterInteractive | currentMode => mode = some .interactive

/-- A call that makes sense in interactive mode only. -/
def Call.OnlyInteractive : Call → Prop
  | connect | disconnect | penUp | penDown | penToggle | home | goTo _ _ | goToRelative _ _
  | drawPath _ | wait _ | getPosition | getPenDown => True
  | _ => False

/-- A call that loads or plots a drawing. -/
def Call.IsPlotting : Call → Prop
  | setupPlot _ | runPlot => True
  | _ => False

/-- No call may be made before the mode is set. -/
theorem Call.not_fitsIn_none (c : Call) : ¬c.FitsIn none := by
  cases c with
  | set s v => cases s <;> simp [FitsIn]
  | _ => simp [FitsIn]

/-- A call that is for interactive mode only fits in no other mode. -/
theorem Call.FitsIn.onlyInteractive {c : Call} {m : Option Mode} (h : c.FitsIn m)
    (hc : c.OnlyInteractive) : m = some .interactive := by
  cases c <;> first | exact h | exact hc.elim

/-- A call that plots fits in plot mode only. -/
theorem Call.FitsIn.plot {c : Call} {m : Option Mode} (h : c.FitsIn m) (hc : c.IsPlotting) :
    m = some .plot := by
  cases c <;> first | exact h | exact hc.elim

/-- An option may be set in any mode, unless it is for interactive mode only. -/
theorem Call.fitsIn_set {mode : Option Mode} {s : Setting} {v : Value} (hm : mode ≠ none)
    (hs : s.interactiveOnly = true → mode = some .interactive) : (set s v).FitsIn mode := by
  cases s with
  | units => exact hs rfl
  | _ => exact hm

/-- The options of a block may be set where the block may stand. -/
theorem fitsIn_of_setOptions {mode : Option Mode} {b : Block} {l : List (Setting × Value)}
    (h : (Action.setOptions b l).PermittedIn mode) {c : Call}
    (hc : c ∈ (Action.setOptions b l).calls) : c.FitsIn mode := by
  have hm : mode ≠ none ∧ ∀ x ∈ l, x.1.interactiveOnly = true → mode = some .interactive := by
    cases b with
    | options => exact h
    | update =>
      obtain rfl : mode = some .interactive := h
      exact ⟨Option.some_ne_none _, fun _ _ _ => rfl⟩
  rcases List.mem_append.1 hc with hc | hc
  · obtain ⟨x, hx, rfl⟩ := List.mem_map.1 hc
    exact Call.fitsIn_set hm.1 (hm.2 x hx)
  · obtain rfl := List.mem_singleton.1 hc
    exact hm.1

/-- **The calls of a command fit the mode that permits it.** -/
theorem fitsIn_of_permittedIn {mode : Option Mode} {a : Action} {cs : List Call}
    (ha : a.PermittedIn mode) (hc : a.MayCall cs) {c : Call} (h : c ∈ cs) :
    c.FitsIn (a.modeAfter mode) := by
  cases hc with
  | stored source path =>
    obtain rfl := List.mem_singleton.1 h
    exact ha
  | noDrawing | notLoaded => cases h
  | all =>
    cases a with
    | setMode m =>
      cases m with
      | plot => cases h
      | interactive =>
        rcases List.mem_pair.1 h with rfl | rfl
        · rfl
        · rfl
    | setOptions b l => exact fitsIn_of_setOptions ha h
    | _ =>
      obtain rfl := List.mem_singleton.1 h
      exact ha

/-- Only the command that sets interactive mode enters it. -/
theorem count_enterInteractive {a : Action} {cs : List Call} (hc : a.MayCall cs) :
    cs.count .enterInteractive ≤ (Deed.modes a.modeDeeds).length := by
  cases hc with
  | stored | noDrawing | notLoaded => exact Nat.zero_le _
  | all =>
    cases a with
    | setMode m => cases m <;> decide
    | setOptions b l =>
      rw [Action.calls, List.count_eq_zero_of_not_mem]
      · exact Nat.zero_le _
      · simp
    | _ => exact Nat.zero_le _

/-- A command changes the mode only if none is set, and it notes the change. -/
theorem modes_of_permittedIn {mode : Option Mode} {a : Action} (ha : a.PermittedIn mode) :
    (a.modeAfter mode).toList = mode.toList ++ Deed.modes a.modeDeeds := by
  cases a with
  | setMode m =>
    obtain rfl : mode = none := ha
    rfl
  | _ => exact (List.append_nil _).symm

/-- Before the mode is set, only the command that sets it may stand. -/
theorem eq_setMode_of_permittedIn {a : Action} (ha : a.PermittedIn none) :
    ∃ m, a = .setMode m := by
  cases a with
  | setMode m => exact ⟨m, rfl⟩
  | setOptions b => cases b <;> simp [Action.PermittedIn] at ha
  | _ => cases ha

/-- Once the mode is set, no command changes it. -/
theorem modeAfter_of_permittedIn {a : Action} {m : Mode} (ha : a.PermittedIn (some m)) :
    a.modeAfter (some m) = some m ∧ a.modeDeeds = [] := by
  cases a with
  | setMode => cases ha
  | _ => exact ⟨rfl, rfl⟩

/-- A command that changes the mode is the first that makes calls. -/
theorem eq_modeAfter {mode : Option Mode} {a : Action} (ha : a.PermittedIn mode) {c : Call}
    (hc : c.FitsIn mode) : a.modeAfter mode = mode := by
  cases a with
  | setMode m =>
    obtain rfl : mode = none := ha
    exact absurd hc c.not_fitsIn_none
  | _ => rfl

namespace Past

variable {σ : Type}

/-- What holds of the past of every script. -/
structure Safe (p : Past σ) : Prop where
  modes : Deed.modes p.deeds = p.mode.toList
  fits : ∀ k c r, Deed.asked k c r ∈ p.deeds → k = p.mode ∧ c.FitsIn k
  entered : (Deed.calls p.deeds).count .enterInteractive ≤ (Deed.modes p.deeds).length

/-- An executor that has made no call is safe. -/
theorem safe_start (device : σ) : Safe (start device) :=
  ⟨rfl, fun _ _ _ h => (List.not_mem_nil h).elim, le_rfl⟩

/-- Before the mode is set, nothing is asked. -/
theorem Safe.calls_eq_nil {p : Past σ} (h : Safe p) (hm : p.mode = none) :
    Deed.calls p.deeds = [] := by
  rw [List.eq_nil_iff_forall_not_mem]
  intro c hc
  obtain ⟨k, r, hc⟩ := Deed.mem_calls.1 hc
  obtain ⟨rfl, hf⟩ := h.fits k c r hc
  rw [hm] at hf
  exact c.not_fitsIn_none hf

variable [Device σ] {p q : Past σ}

/-- **Every step keeps what holds of the past.** -/
theorem Safe.of_step (h : Safe p) (hs : Step p q) : Safe q := by
  cases hs with
  | reported n c =>
    refine ⟨?_, fun k c' r hm => ?_, ?_⟩
    · rw [modes_report]
      exact h.modes
    · rcases List.mem_append.1 hm with hm | hm
      · exact h.fits k c' r hm
      · cases List.mem_singleton.1 hm
    · rw [modes_report, calls_report]
      exact h.entered
  | @enacted n a cs ha hc =>
    refine ⟨?_, fun k c r hm => ?_, ?_⟩
    · rw [modes_enact, h.modes, ← modes_of_permittedIn ha]
      rfl
    · rcases List.mem_append.1 hm with hm | hm
      · obtain ⟨rfl, hf⟩ := h.fits k c r hm
        exact ⟨(eq_modeAfter ha hf).symm, hf⟩
      · rcases List.mem_cons.1 hm with hm | hm
        · cases hm
        rcases List.mem_append.1 hm with hm | hm
        · obtain ⟨m, hm⟩ := Action.exists_of_mem_modeDeeds hm
          cases hm
        obtain ⟨c', r', he, hc'⟩ := asked_of_mem_askAll hm
        cases he
        exact ⟨rfl, fitsIn_of_permittedIn ha hc hc'⟩
    · rw [calls_enact, modes_enact, List.count_append, List.length_append]
      exact Nat.add_le_add h.entered
        (((calls_askAll_isPrefix cs p.device).sublist.count_le _).trans
          (count_enterInteractive hc))

/-- What holds of the past of every script stays. -/
theorem Safe.of_leads (h : Safe p) (hl : Leads p q) : Safe q := by
  induction hl with
  | refl => exact h
  | tail _ hs ih => exact ih.of_step hs

/-- A mode that is set stays. -/
theorem Safe.mode_of_leads (h : Safe p) (hl : Leads p q) {m : Mode}
    (hm : p.mode = some m) : q.mode = some m := by
  have hq := h.of_leads hl
  have hp : p.mode.toList <+: q.mode.toList := by
    rw [← h.modes, ← hq.modes]
    exact hl.deeds_isPrefix.filterMap _
  rw [hm] at hp
  cases hk : q.mode with
  | none => rw [hk] at hp; simp at hp
  | some k =>
    rw [hk] at hp
    obtain rfl : m = k := by simpa using hp
    rfl

end Past

namespace Executor

variable {σ : Type} [Device σ]

/-- Whatever an executor is used for, its script has a safe past. -/
theorem safe_live (strict : Bool) (p : Params) (device : σ) (site : Site) (l : List Use) :
    ((start strict p device site).live l).past.Safe :=
  (Past.safe_start device).of_leads (past_live (start strict p device site) l)

/-- **Mode safety.**  An executor is used in any way, with any plotter.  Its mode is set at most
once and then stays, whatever it is used for later; interactive mode is entered at most once; and
every call was made in a mode that it fits.  So no script makes both a call for interactive mode and
a call that plots a drawing. -/
theorem mode_safety (strict : Bool) (p : Params) (device : σ) (site : Site) (l : List Use) :
    let e := (start strict p device site).live l
    Deed.modes e.bench.deeds = e.mode.toList ∧
    (∀ m later, e.mode = some m → (e.live later).mode = some m) ∧
    (Deed.calls e.bench.deeds).count .enterInteractive ≤ 1 ∧
    (∀ k c r, Deed.asked k c r ∈ e.bench.deeds → c.FitsIn k) ∧
    ¬((∃ c ∈ Deed.calls e.bench.deeds, c.OnlyInteractive) ∧
      ∃ c ∈ Deed.calls e.bench.deeds, c.IsPlotting) := by
  intro e
  have hs : e.past.Safe := safe_live strict p device site l
  refine ⟨hs.modes, fun m later hm => hs.mode_of_leads (past_live e later) hm, ?_, ?_, ?_⟩
  · refine hs.entered.trans ?_
    rw [hs.modes]
    cases e.past.mode <;> simp
  · intro k c r h
    exact (hs.fits k c r h).2
  · rintro ⟨⟨c, hc, hm⟩, d, hd, hp⟩
    obtain ⟨k, r, hc⟩ := Deed.mem_calls.1 hc
    obtain ⟨j, q, hd⟩ := Deed.mem_calls.1 hd
    obtain ⟨rfl, hc⟩ := hs.fits _ _ _ hc
    obtain ⟨rfl, hd⟩ := hs.fits _ _ _ hd
    have hi := hc.onlyInteractive hm
    rw [hd.plot hp] at hi
    cases hi

end Executor
end PlotScript
