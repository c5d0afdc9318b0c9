/-
# What two plotters have in common

A preview keeps settings aside until they are committed, and an AxiDraw remembers them at once and
gives them to its machine after every reset.  They are led through the same calls.  After a call

| | preview | AxiDraw, if it answers |
| --- | --- | --- |
| mode | that of the call, or as before | the same |
| connection | that of the call, or as before | the same |
| values, pending or not | the last one given, or zero units | the last one given |

What is pending is committed wherever a run of settings ends, so the options are the same from there
on, but for the units of a preview that became interactive (`Preview.agrees_with_axiDraw`).

Both are implementations of the driver interface of the language specification, §6 and §14.
-/

import PlotScript.Plotter.Preview
import PlotScript.Proofs.RememberedOptions

namespace PlotScript

/-- A call that gives a setting a value. -/
def Call.isSet : Call → Bool
  | set _ _ => true
  | _ => false

/-- A call that changes nothing but the pen and the position. -/
def Call.onlyMoves : Call → Bool
  | penUp | penDown | penToggle | home | goTo _ _ | goToRelative _ _ | drawPath _ | wait _
  | getPosition | getPenDown | currentMode => true
  | enterInteractive | set _ _ | commitOptions | connect | disconnect | setupPlot _
  | runPlot => false

/-- Calls in which settings are given in runs, and a commit comes right after each run. -/
def Call.RunsCommitted (cs : List Call) : Prop :=
  cs.IsChain fun c d => c.isSet = true → d.isSet = true ∨ d = .commitOptions

/-- Calls that a plotter answers, one after the other. -/
def Device.answersAll {σ : Type} [Device σ] (d : σ) : List Call → Bool
  | [] => true
  | c :: cs => (Device.perform c d).result.isOk && answersAll (Device.perform c d).state cs

/-- Calls are answered if the first of them are, and then the others. -/
theorem Device.answersAll_append {σ : Type} [Device σ] (d : σ) (cs ds : List Call) :
    answersAll d (cs ++ ds) = (answersAll d cs && answersAll (afterAll d cs) ds) := by
  induction cs generalizing d with
  | nil => rfl
  | cons c cs ih =>
    rw [List.cons_append, answersAll, answersAll, ih, Bool.and_assoc]
    rfl

/-- A setting has no last value if no call gives it one. -/
theorem Call.lastValue?_eq_none {s : Setting} {cs : List Call} :
    lastValue? s cs = none ↔ ∀ v, set s v ∉ cs := by
  rw [lastValue?, List.findSome?_eq_none_iff]
  refine ⟨fun h v hv => ?_, fun h c hc => ?_⟩
  · have := h _ (List.mem_reverse.2 hv)
    rw [valueFor?, if_pos rfl] at this
    cases this
  · cases c with
    | set t v =>
      refine if_neg fun ht => ?_
      subst ht
      exact h v (List.mem_reverse.1 hc)
    | _ => rfl

namespace Preview

variable {p q : Preview}

/-- The units that a preview has once it became interactive. -/
def defaultUnits : Value := .num (.int 0)

/-- What a call leaves, but for the pen and the drawing. -/
def afterCall (p : Preview) : Call → Preview
  | .enterInteractive =>
    { p with mode := some .interactive, options := p.options.putDefault .units defaultUnits }
  | .set s v => { p with pending := p.pending.put s (s.kept v) }
  | .commitOptions => { p with options := p.options.merge p.pending, pending := [] }
  | .connect => { p with connected := true }
  | .disconnect => { p with connected := false }
  | .setupPlot _ => { p with mode := some .plot }
  | _ => p

/-- The other preview is the same, but for the pen and the drawing. -/
structure Like (p q : Preview) : Prop where
  mode : q.mode = p.mode
  options : q.options = p.options
  pending : q.pending = p.pending
  connected : q.connected = p.connected

/-- A property of a preview in which its pen and its position have no part. -/
structure Unmoved (P : Preview → Prop) : Prop where
  pen : ∀ q down, P q → P { q with penDown := down }
  position : ∀ q xy, P q → P { q with position := xy }

/-- What a preview has in common with another is not in its pen and its position. -/
theorem unmoved_like (p : Preview) : Unmoved p.Like :=
  ⟨fun _ _ h => ⟨h.mode, h.options, h.pending, h.connected⟩,
    fun _ _ h => ⟨h.mode, h.options, h.pending, h.connected⟩⟩

/-- Looking for the connection changes nothing. -/
theorem keeps_needConnection (P : Preview → Prop) : Act.Keeps P needConnection :=
  Act.keeps_get.bind fun d => by
    split
    · exact Act.keeps_pure _
    · exact Act.keeps_throw _

/-- Reading a number as a coordinate changes nothing. -/
theorem keeps_coordinate (P : Preview → Prop) (n : Number) : Act.Keeps P (coordinate n) := by
  unfold coordinate
  split
  · exact Act.keeps_pure _
  · exact Act.keeps_throw _

/-- Reading two numbers as a point changes nothing. -/
theorem keeps_point (P : Preview → Prop) (t : Point) : Act.Keeps P (point t) :=
  (keeps_coordinate P _).bind fun _ => (keeps_coordinate P _).bind fun _ => Act.keeps_pure _

namespace Unmoved

variable {P : Preview → Prop}

/-- Raising the pen keeps what the pen has no part in. -/
theorem keeps_raise (h : Unmoved P) : Act.Keeps P raise :=
  (keeps_needConnection P).bind fun _ => (Act.keeps_modify fun q => h.pen q false).bind
    fun _ => Act.keeps_tell _

/-- Lowering the pen keeps what the pen has no part in. -/
theorem keeps_lower (h : Unmoved P) : Act.Keeps P lower :=
  (keeps_needConnection P).bind fun _ => (Act.keeps_modify fun q => h.pen q true).bind
    fun _ => Act.keeps_tell _

/-- Moving keeps what the pen and the position have no part in. -/
theorem keeps_moveTo (h : Unmoved P) (t : Point) : Act.Keeps P (moveTo t) :=
  h.keeps_raise.bind fun _ => (keeps_point P t).bind fun xy =>
    (Act.keeps_modify fun q => h.position q xy).bind fun _ => Act.keeps_tell _

/-- Drawing keeps what the pen and the position have no part in. -/
theorem keeps_lineTo (h : Unmoved P) (t : Point) : Act.Keeps P (lineTo t) :=
  (Act.keeps_modify fun q => h.pen q true).bind fun _ => (keeps_point P t).bind fun xy =>
    (Act.keeps_modify fun q => h.position q xy).bind fun _ => Act.keeps_tell _

end Unmoved

/-- **A call that only moves keeps what the pen and the position have no part in**, whether or not
it is refused. -/
theorem Unmoved.keeps_perform {P : Preview → Prop} (h : Unmoved P) {c : Call}
    (hc : c.onlyMoves = true) : Act.Keeps P (perform c) := by
  cases c with
  | getPosition | getPenDown | currentMode => exact Act.keeps_get.bind fun _ => Act.keeps_pure _
  | penUp => exact h.keeps_raise
  | penDown => exact h.keeps_lower
  | penToggle =>
    refine Act.keeps_get.bind fun d => ?_
    split
    · exact h.keeps_raise
    · exact h.keeps_lower
  | home => exact h.keeps_moveTo _
  | goTo x y => exact h.keeps_moveTo _
  | goToRelative x y =>
    exact (keeps_point P _).bind fun _ => Act.keeps_get.bind fun _ => h.keeps_moveTo _
  | drawPath points =>
    cases points with
    | nil => exact Act.keeps_throw _
    | cons first rest => exact (h.keeps_moveTo first).bind fun _ => Act.Keeps.forEach h.keeps_lineTo
  | wait time => exact (keeps_needConnection P).bind fun _ => Act.keeps_tell _
  | enterInteractive | set | commitOptions | connect | disconnect | setupPlot | runPlot => cases hc

/-- **What a call leaves**, whether or not it is refused. -/
theorem like_perform (c : Call) (p : Preview) : (p.afterCall c).Like (perform c p).state := by
  have hself : p.Like p := ⟨rfl, rfl, rfl, rfl⟩
  cases c with
  | enterInteractive | set | commitOptions | connect | disconnect | setupPlot =>
    exact ⟨rfl, rfl, rfl, rfl⟩
  | runPlot =>
    refine (Act.keeps_get.bind fun d => ?_) _ hself
    split
    · exact Act.keeps_throw _
    · refine Act.Keeps.bind ?_ fun _ => Act.keeps_tell _
      exact Act.keeps_modify fun _ h => ⟨h.mode, h.options, h.pending, h.connected⟩
  | _ => exact (unmoved_like p).keeps_perform rfl _ hself

/-- The value of a setting: the one that is pending, or else the one that was committed. -/
def value? (p : Preview) (s : Setting) : Option Value := (p.pending.get? s).or (p.options.get? s)

/-- Previews that are the same but for the pen and the drawing have the same values. -/
theorem Like.value? (h : p.Like q) (s : Setting) : q.value? s = p.value? s := by
  rw [Preview.value?, h.pending, h.options]
  rfl

/-- What is pending has one value for each setting after any call. -/
theorem single_pending (h : p.pending.Single) (c : Call) :
    (perform c p).state.pending.Single := by
  rw [(like_perform c p).pending]
  cases c with
  | set s v => exact Options.single_put h s _
  | commitOptions => exact List.nodup_nil
  | _ => exact h

/-- The value that a call leaves a setting which has none. -/
def defaultAfter (s : Setting) (c : Call) : Option Value :=
  if s = .units ∧ c = .enterInteractive then some defaultUnits else none

/-- Only becoming interactive gives a setting a value that it lacks. -/
theorem defaultAfter_of_ne {c : Call} (h : c ≠ .enterInteractive) (s : Setting) :
    defaultAfter s c = none := if_neg fun hs => h hs.2

/-- A preview that becomes interactive has its units or else the ones of that mode, and any other
setting as before. -/
theorem get?_putDefault_units (o : Options) (s : Setting) :
    (o.putDefault .units defaultUnits).get? s =
      (o.get? s).or (defaultAfter s .enterInteractive) := by
  rw [Options.putDefault]
  by_cases hs : s = .units
  · subst hs
    rcases ho : o.get? .units with _ | v
    · simp [Options.get?_put, defaultAfter]
    · simp [ho]
  · have hd : defaultAfter s .enterInteractive = none := if_neg fun h => hs h.1
    rw [hd, Option.or_none]
    split
    · rfl
    · rw [Options.get?_put, if_neg (Ne.symm hs)]

/-- A call gives a setting its value, or a value that it lacks. -/
theorem value?_afterCall (h : p.pending.Single) (c : Call) (s : Setting) :
    (p.afterCall c).value? s =
      ((c.valueFor? s).map s.kept).or ((p.value? s).or (defaultAfter s c)) := by
  by_cases hi : c = .enterInteractive
  · subst hi
    show (p.pending.get? s).or ((p.options.putDefault .units defaultUnits).get? s) = _
    rw [get?_putDefault_units, ← Option.or_assoc]
    rfl
  rw [defaultAfter_of_ne hi, Option.or_none]
  cases c with
  | set t v =>
    show ((p.pending.put t (t.kept v)).get? s).or (p.options.get? s) = _
    rw [Options.get?_put, Call.valueFor?]
    by_cases ht : t = s
    · subst ht
      rw [if_pos rfl, if_pos rfl]
      rfl
    · rw [if_neg ht, if_neg ht]
      rfl
  | commitOptions => exact Options.get?_merge h p.options s
  | enterInteractive => exact absurd rfl hi
  | _ => rfl

/-- What is pending has one value for each setting, whatever a preview was asked. -/
theorem single_afterAll (cs : List Call) : (Device.afterAll start cs).pending.Single := by
  induction cs using List.reverseRecOn with
  | nil => exact List.nodup_nil
  | append_singleton cs c ih =>
    rw [Device.afterAll_concat]
    exact single_pending ih c

/-- **The last value of each setting**, or the units of the interactive mode. -/
theorem value?_afterAll (cs : List Call) (s : Setting) :
    (Device.afterAll start cs).value? s = ((Call.lastValue? s cs).map s.kept).or
      (if s = .units ∧ .enterInteractive ∈ cs then some defaultUnits else none) := by
  induction cs using List.reverseRecOn with
  | nil => simp [Device.afterAll, start, value?, Options.get?_nil, Call.lastValue?]
  | append_singleton cs c ih =>
    rw [Device.afterAll_concat, Call.lastValue?_append, Call.lastValue?_singleton]
    refine ((like_perform c _).value? s).trans ?_
    refine (value?_afterCall (single_afterAll cs) c s).trans ?_
    rw [ih, Option.map_or, Option.or_assoc, Option.or_assoc]
    congr 2
    rw [defaultAfter]
    by_cases hs : s = .units
    · by_cases hc : c = .enterInteractive
      · by_cases hi : Call.enterInteractive ∈ cs <;> simp [hs, hc, hi]
      · simp [hs, hc, Ne.symm hc]
    · simp [hs]

/-- **Nothing is pending outside a run of settings.** -/
theorem pending_afterAll {cs : List Call} (hruns : Call.RunsCommitted cs)
    (hlast : ∀ c ∈ cs.getLast?, c.isSet = false) : (Device.afterAll start cs).pending = [] := by
  induction cs using List.reverseRecOn with
  | nil => rfl
  | append_singleton cs c ih =>
    obtain ⟨hcs, -, hnext⟩ := List.isChain_append.1 hruns
    have hc : c.isSet = false := hlast c (by rw [List.getLast?_concat]; rfl)
    rw [Device.afterAll_concat]
    refine (like_perform c _).pending.trans ?_
    by_cases hcommit : c = .commitOptions
    · subst hcommit
      rfl
    -- Any other call comes after a call that gives no setting a value.
    · have hbefore : ∀ d ∈ cs.getLast?, d.isSet = false := by
        intro d hd
        rcases hset : d.isSet with _ | _
        · rfl
        · rcases hnext d hd c rfl hset with hcset | hc'
          · exact absurd (hc.symm.trans hcset) Bool.false_ne_true
          · exact absurd hc' hcommit
      have hp := ih hcs hbefore
      cases c with
      | set => cases hc
      | commitOptions => exact absurd rfl hcommit
      | _ => exact hp

/-- A preview and an AxiDraw in the same mode, with the same connection. -/
structure Agrees (p : Preview) (a : AxiDraw) : Prop where
  mode : p.mode = a.mode
  connected : p.connected = a.connected
  /-- If the options of the machine tell that it is interactive, then it is. -/
  told : ∀ o, a.machine.options = some o → a.machine.behaviour.hasOptions = true ∧
    (o.mode = some .interactive → a.mode = some .interactive)

/-- A preview and an AxiDraw agree before the first call. -/
theorem agrees_start (b : MachineBehaviour) : Agrees start (.start b) := by
  refine ⟨rfl, rfl, fun o ho => ?_⟩
  by_cases hb : b.hasOptions = true
  · refine ⟨hb, fun hm => ?_⟩
    have hs : (AxiDraw.start b).machine.options = some ⟨none, []⟩ := by
      rw [AxiDraw.start, Machine.start, if_pos hb]
    obtain rfl := Option.some.inj (hs.symm.trans ho)
    cases hm
  · have hs : (AxiDraw.start b).machine.options = none := by
      rw [AxiDraw.start, Machine.start, if_neg hb]
    cases hs.symm.trans ho

variable {a : AxiDraw}

/-- Giving the machine the remembered options changes neither mode nor connection. -/
theorem Agrees.applyOptions (h : Agrees p a) : Agrees p a.applyOptions := by
  refine ⟨h.mode, h.connected, fun o ho => ?_⟩
  obtain ⟨u, hu, rfl⟩ := Option.map_eq_some_iff.1 ho
  exact h.told u hu

/-- A preview in a mode agrees with an AxiDraw whose machine is put into this mode. -/
theorem Agrees.reset (h : Agrees p a) (m : Mode) (hq : q.mode = some m)
    (hc : q.connected = p.connected) : Agrees q (a.reset m) := by
  refine ⟨hq, hc.trans h.connected, fun o ho => ?_⟩
  by_cases hb : a.machine.behaviour.hasOptions = true
  · have hr : (a.reset m).machine = { a.machine with
        options := some ⟨if a.machine.behaviour.tellsMode then some m else none, []⟩ } := by
      rw [AxiDraw.reset, Machine.reset, if_pos hb]
    rw [hr] at ho ⊢
    obtain rfl := Option.some.inj ho
    refine ⟨hb, fun hm => ?_⟩
    show some m = _
    split at hm
    · exact hm
    · cases hm
  · have hr : (a.reset m).machine = a.machine := by
      rw [AxiDraw.reset, Machine.reset, if_neg hb]
    rw [hr] at ho
    exact absurd (h.told o ho).1 hb

/-- **A call that an AxiDraw answers leaves both in the same mode**, with the same connection. -/
theorem Agrees.perform (h : Agrees p a) {c : Call}
    (hok : (AxiDraw.perform c a).result.isOk = true) :
    Agrees (Preview.perform c p).state (AxiDraw.perform c a).state := by
  have hl : Agrees (p.afterCall c) (a.afterCall c true) := by
    cases c with
    | enterInteractive => exact Agrees.applyOptions (h.reset .interactive rfl rfl)
    | setupPlot => exact Agrees.applyOptions (h.reset .plot rfl rfl)
    | commitOptions => exact ⟨h.mode, h.connected, h.applyOptions.told⟩
    | connect | disconnect => exact ⟨h.mode, rfl, h.told⟩
    | set => exact ⟨h.mode, h.connected, h.told⟩
    | _ => exact h
  have hp := like_perform c p
  obtain ⟨past, hs⟩ := AxiDraw.like_perform c a
  rw [hok] at hs
  rw [hs]
  exact ⟨hp.mode.trans hl.mode, hp.connected.trans hl.connected, hl.told⟩

/-- **Both stay in the same mode**, as long as the AxiDraw answers. -/
theorem Agrees.afterAll (h : Agrees p a) {cs : List Call}
    (hok : Device.answersAll a cs = true) :
    Agrees (Device.afterAll p cs) (Device.afterAll a cs) := by
  induction cs generalizing p a with
  | nil => exact h
  | cons c cs ih =>
    obtain ⟨hc, hcs⟩ := Bool.and_eq_true_iff.1 hok
    exact ih (h.perform hc) hcs

/-- A preview and an AxiDraw that agree report the same mode, whether the machine tells it or
not. -/
theorem Agrees.currentMode (h : Agrees p a) :
    (Preview.perform .currentMode p).result = (AxiDraw.perform .currentMode a).result := by
  show Except.ok p.mode = .ok (ite (a.machine.options.bind MachineOptions.mode = some .interactive)
    (some .interactive) a.mode)
  rw [h.mode]
  split
  · next ht =>
    obtain ⟨o, ho, hm⟩ := Option.bind_eq_some_iff.1 ht
    rw [(h.told o ho).2 hm]
  · rfl

/-- **A preview agrees with an AxiDraw** that answers the same calls, whatever machine is behind it.
Outside the runs of settings both report the same mode, are connected or not alike, and have the
same options, but for the units of a preview that became interactive, if they were never given.  The
port `auto` is none in both. -/
theorem agrees_with_axiDraw (b : MachineBehaviour) {cs front : List Call}
    (hruns : Call.RunsCommitted cs) (hok : Device.answersAll (AxiDraw.start b) cs = true)
    (hfront : front <+: cs) (hlast : ∀ c ∈ front.getLast?, c.isSet = false) :
    let p := Device.afterAll start front
    let a := Device.afterAll (AxiDraw.start b) front
    (perform .currentMode p).result = (AxiDraw.perform .currentMode a).result ∧
    p.connected = a.connected ∧
    (∀ s, p.options.get? s = a.options.get? s ∨ s = .units ∧ .enterInteractive ∈ front ∧
      (∀ v, .set .units v ∉ front) ∧ p.options.get? s = some (.num (.int 0)) ∧
      a.options.get? s = none) ∧
    (Call.lastValue? .port front = some (.text "auto") →
      p.options.get? .port = some .none ∧ a.options.get? .port = some .none) := by
  obtain ⟨rest, rfl⟩ := hfront
  intro p a
  rw [Device.answersAll_append, Bool.and_eq_true_iff] at hok
  have hpa : Agrees p a := (agrees_start b).afterAll hok.1
  have ha (s : Setting) : a.options.get? s = (Call.lastValue? s front).map s.kept :=
    (AxiDraw.options_afterAll _ front s).trans Option.or_none
  have hp (s : Setting) : p.options.get? s = (a.options.get? s).or
      (if s = .units ∧ .enterInteractive ∈ front then some defaultUnits else none) := by
    have hv := value?_afterAll front s
    rw [value?, pending_afterAll (List.isChain_append.1 hruns).1 hlast] at hv
    rw [ha]
    exact hv
  refine ⟨hpa.currentMode, hpa.connected, fun s => ?_, fun hauto => ?_⟩
  · rcases hs : a.options.get? s with _ | v
    · rw [hp, hs]
      -- Only the units that a preview takes up by itself are no option of the AxiDraw.
      by_cases hu : s = .units ∧ .enterInteractive ∈ front
      · obtain ⟨rfl, he⟩ := hu
        rw [ha, Option.map_eq_none_iff] at hs
        rw [if_pos ⟨rfl, he⟩]
        exact .inr ⟨rfl, he, Call.lastValue?_eq_none.1 hs, rfl, rfl⟩
      · rw [if_neg hu]
        exact .inl rfl
    · rw [hp, hs]
      exact .inl rfl
  · have hport : a.options.get? .port = some .none := by
      rw [ha, hauto]
      rfl
    exact ⟨by rw [hp, hport]; rfl, hport⟩

/-- The units are given to neither, and a run of settings ends with a commit. -/
theorem agrees_with_axiDraw_autoPort :
    let cs : List Call := [.enterInteractive, .set .model (.num (.int 2)),
      .set .port (.text "auto"), .commitOptions, .connect, .setupPlot "a.svg"]
    let b : MachineBehaviour := ⟨fun _ c => .ok c.done, true, true⟩
    let p := Device.afterAll start cs
    let a := Device.afterAll (AxiDraw.start b) cs
    Call.RunsCommitted cs ∧ Device.answersAll (AxiDraw.start b) cs = true ∧
    (perform .currentMode p).result = (AxiDraw.perform .currentMode a).result ∧
    p.options.get? .units = some (.num (.int 0)) ∧ a.options.get? .units = none ∧
    p.options.get? .port = some .none ∧ a.options.get? .port = some .none := by
  intro cs b p a
  have hruns : Call.RunsCommitted cs := by
    simp [cs, Call.RunsCommitted, Call.isSet]
  have hok : Device.answersAll (AxiDraw.start b) cs = true := by decide +kernel
  obtain ⟨hmode, -, hoptions, hport⟩ := agrees_with_axiDraw b hruns hok List.prefix_rfl
    (fun c hc => by obtain rfl := Option.some.inj hc; rfl)
  obtain ⟨hp, ha⟩ := hport rfl
  refine ⟨hruns, hok, hmode, ?_, ?_, hp, ha⟩
  all_goals decide +kernel

end Preview
end PlotScript
