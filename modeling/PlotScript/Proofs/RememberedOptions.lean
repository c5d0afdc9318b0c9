/-
# Options that outlast resets

The machine behind an AxiDraw forgets its options when it becomes interactive and when a drawing is
loaded.  The adapter remembers the last value that each setting was given:

| call | remembered | options of the machine |
| --- | --- | --- |
| that gives a setting a value | that value, too | as before |
| commit, even if the update fails | as before | those remembered |
| enter interactive mode, load a drawing, if it returns | as before | those remembered |
| any other | as before | as before |

`AxiDraw.afterCall` says what all calls leave.  So the machine has the options that were remembered
when it was last brought in step, whatever fails in between (`AxiDraw.options_outlast_resets`).

The language specification, §14, has the options kept and applied again after both resets.
-/

import PlotScript.Proofs.MachineFaults
import PlotScript.Proofs.Willing

namespace PlotScript

namespace Options

variable {o p : Options} {s t : Setting} {v : Value}

/-- A table with one value for each of its settings. -/
def Single (o : Options) : Prop := (o.map Prod.fst).Nodup

/-- A value that is put into a table adds its setting to those of the table, and no other. -/
theorem mem_settings_put : t ∈ (o.put s v).map Prod.fst ↔ t = s ∨ t ∈ o.map Prod.fst := by
  induction o with
  | nil => simp [put]
  | cons x r ih =>
    obtain ⟨u, w⟩ := x
    by_cases h : u = s
    · subst h
      simp [put]
    · rw [put, if_neg h, List.map_cons, List.map_cons, List.mem_cons, List.mem_cons, ih,
        or_left_comm]

/-- A table with one value for each setting still has one when a value is put into it. -/
theorem single_put (h : o.Single) (s : Setting) (v : Value) : (o.put s v).Single := by
  induction o with
  | nil => simp [Single, put]
  | cons x r ih =>
    obtain ⟨u, w⟩ := x
    obtain ⟨hu, hr⟩ := List.nodup_cons.1 h
    by_cases hus : u = s
    · subst hus
      rw [put, if_pos rfl]
      exact h
    · rw [put, if_neg hus]
      refine List.nodup_cons.2 ⟨fun hm => ?_, ih hr⟩
      exact (mem_settings_put.1 hm).elim hus hu

/-- A setting that is not in a table has no value there. -/
theorem get?_eq_none (h : s ∉ o.map Prod.fst) : o.get? s = none := by
  induction o with
  | nil => rfl
  | cons x r ih =>
    rw [List.map_cons, List.mem_cons, not_or] at h
    rw [get?_cons, if_neg (Ne.symm h.1), ih h.2]

/-- **A merged table has the values of the second, and else those of the first.** -/
theorem get?_merge (hp : p.Single) (o : Options) (s : Setting) :
    (o.merge p).get? s = (p.get? s).or (o.get? s) := by
  induction p generalizing o with
  | nil => rfl
  | cons x r ih =>
    obtain ⟨t, w⟩ := x
    obtain ⟨ht, hr⟩ := List.nodup_cons.1 hp
    rw [get?_merge_cons, ih hr, get?_put, get?_cons]
    by_cases h : t = s
    · subst h
      rw [if_pos rfl, if_pos rfl, get?_eq_none ht]
      rfl
    · rw [if_neg h, if_neg h]

end Options

namespace Call

/-- The value that a call gives a setting. -/
def valueFor? (s : Setting) : Call → Option Value
  | set t v => if t = s then some v else none
  | _ => none

/-- The last value that calls give a setting. -/
def lastValue? (s : Setting) (cs : List Call) : Option Value := cs.reverse.findSome? (valueFor? s)

/-- The last value that calls give a setting is the one from the later calls, if they give one. -/
@[simp] theorem lastValue?_append (s : Setting) (cs ds : List Call) :
    lastValue? s (cs ++ ds) = (lastValue? s ds).or (lastValue? s cs) := by
  rw [lastValue?, List.reverse_append, List.findSome?_append]
  rfl

/-- A single call gives a setting its last value if it gives it one at all. -/
@[simp]
theorem lastValue?_singleton (s : Setting) (c : Call) : lastValue? s [c] = c.valueFor? s := by
  rw [lastValue?, List.reverse_singleton, List.findSome?_singleton]

/-- The calls after which a machine has forgotten its options. -/
def resets : Call → Bool
  | enterInteractive | setupPlot _ => true
  | _ => false

end Call

/-- A plotter after some calls and one more is the plotter after the one more. -/
@[simp] theorem Device.afterAll_concat {σ : Type} [Device σ] (d : σ) (cs : List Call) (c : Call) :
    Device.afterAll d (cs ++ [c]) = (Device.perform c (Device.afterAll d cs)).state :=
  List.foldl_concat ..

namespace AxiDraw

variable {α : Type} {a d : AxiDraw} {b : MachineBehaviour}

/-- An AxiDraw whose machine was put into a mode and has forgotten its options. -/
def reset (a : AxiDraw) (m : Mode) : AxiDraw :=
  { a with machine := a.machine.reset m, mode := some m }

/-- What a call leaves, but for the past of the machine.  It may depend on whether the call
returned. -/
def afterCall (a : AxiDraw) : Call → Bool → AxiDraw
  | .set s v, _ => { a with options := a.options.put s (s.kept v) }
  | .commitOptions, _ => a.applyOptions
  | .enterInteractive, true => (a.reset .interactive).applyOptions
  | .setupPlot _, true => (a.reset .plot).applyOptions
  | .connect, true => { a with connected := true }
  | .disconnect, true => { a with connected := false }
  | _, _ => a

/-- The other AxiDraw is the same, but for the past of its machine. -/
def Like (a d : AxiDraw) : Prop := ∃ past, d = a.withPast past

/-- What begins with a machine call ends with its failure, or goes on after it.  The cases are the
two answers of the machine. -/
theorem bind_call {β : Type} (c : MachineCall) (f : c.Answer → Act Refusal AxiDraw β)
    (a : AxiDraw) :
    (∃ r, (call c >>= f) a =
      ⟨.error r, [.machine c], a.withPast (a.machine.past ++ [c])⟩) ∨
    ∃ x, (call c >>= f) a =
      let d := { a with
        machine := (a.withPast (a.machine.past ++ [c])).machine.afterCall c }
      ⟨(f x d).result, [.machine c] ++ (f x d).events, (f x d).state⟩ := by
  rcases h : a.machine.behaviour.answer a.machine.past c with r | x
  · refine .inl ⟨r, ?_⟩
    rw [Act.bind_of_error (e := r) (by rw [call_of_error h]), call_of_error h]
  · refine .inr ⟨x, ?_⟩
    rw [Act.bind_of_ok (a := x) (by rw [call_of_ok h]), call_of_ok h]
    rfl

/-- A machine call that does not reset leaves the machine as it was, but for its past. -/
theorem keeps_call {c : MachineCall} (hc : ∀ m : Machine, m.afterCall c = m) :
    Act.Keeps a.Like (call c) := by
  rintro _ ⟨past, rfl⟩
  rcases h : (a.withPast past).machine.behaviour.answer (a.withPast past).machine.past c with r | x
  · rw [call_of_error h]
    exact ⟨past ++ [c], rfl⟩
  · rw [call_of_ok h, hc]
    exact ⟨past ++ [c], rfl⟩

/-- A record changes nothing about the AxiDraw. -/
theorem keeps_note (text : String) : Act.Keeps a.Like (note text) := Act.keeps_tell _

/-- Raising the pen changes nothing but the past of the machine, whether it fails or not. -/
theorem keeps_raise : Act.Keeps a.Like raise :=
  Act.Keeps.mapError ((keeps_call (c := .penUp) fun _ => rfl).bind fun _ => keeps_note _)

/-- Lowering the pen changes nothing but the past of the machine, whether it fails or not. -/
theorem keeps_lower : Act.Keeps a.Like lower :=
  Act.Keeps.mapError ((keeps_call (c := .penDown) fun _ => rfl).bind fun _ => keeps_note _)

/-- Moving to a point changes nothing but the past of the machine. -/
theorem keeps_moveTo (p : Point) : Act.Keeps a.Like (moveTo p) :=
  (keeps_call (c := .moveTo p.1 p.2) fun _ => rfl).bind fun _ => keeps_note _

/-- Drawing to a point changes nothing but the past of the machine. -/
theorem keeps_lineTo (p : Point) : Act.Keeps a.Like (lineTo p) :=
  (keeps_call (c := .lineTo p.1 p.2) fun _ => rfl).bind fun _ => keeps_note _

/-- The machine is reset by a call of its own, and then has its options again, or it fails.  The
history of the machine grows by the call either way, and that is all that differs. -/
theorem like_of_reset {c : MachineCall} {m : Mode} (hm : ∀ x : Machine, x.afterCall c = x.reset m)
    (text : String) :
    let o := (call c >>= fun _ => Act.modify (fun d => { d with mode := some m }) >>= fun _ =>
      Act.modify applyOptions >>= fun _ => note text) a
    (bif o.result.isOk then (a.reset m).applyOptions else a).Like o.state := by
  intro o
  rcases bind_call c (fun _ => Act.modify (fun d => { d with mode := some m }) >>= fun _ =>
      Act.modify applyOptions >>= fun _ => note text) a with ⟨r, ho⟩ | ⟨x, ho⟩
  · have ho : o = _ := ho
    rw [ho]
    exact ⟨_, rfl⟩
  · have ho : o = _ := ho
    rw [ho, hm]
    refine ⟨a.machine.past ++ [c], ?_⟩
    show applyOptions { a with machine := Machine.reset _ m, mode := some m } = _
    unfold applyOptions reset withPast Machine.reset
    split <;> rfl

/-- **What a call leaves**, but for the past of the machine.  Entering interactive mode and loading
a drawing reset the machine, and then the options are applied; a commit applies them first; no other
call touches an option. -/
theorem like_perform (c : Call) (a : AxiDraw) :
    (a.afterCall c (perform c a).result.isOk).Like (perform c a).state := by
  have hself : a.Like a := ⟨a.machine.past, rfl⟩
  cases c with
  | enterInteractive =>
    -- The reset takes place only if the machine answers.
    have hl (r : Bool) : a.afterCall .enterInteractive r =
        bif r then (a.reset .interactive).applyOptions else a := by cases r <;> rfl
    rw [hl]
    exact like_of_reset (c := .interactive) (fun _ => rfl) "Mode is set to interactive."
  | set s v => exact ⟨a.machine.past, rfl⟩
  | commitOptions =>
    refine (Act.Keeps.mapError (x := Act.get >>= fun d : AxiDraw => ite _ _ _) ?_) a.applyOptions
      ⟨a.machine.past, rfl⟩
    refine Act.keeps_get.bind fun d => ?_
    split
    · exact (keeps_call (c := .update) fun _ => rfl).bind fun _ => keeps_note _
    · exact keeps_note _
  | connect =>
    rcases bind_call .connect _ a with ⟨r, ho⟩ | ⟨found, ho⟩
    · rw [perform, ho]
      exact ⟨_, rfl⟩
    · rw [perform, ho]
      cases found <;> exact ⟨_, rfl⟩
  | disconnect =>
    rcases bind_call .disconnect _ a with ⟨r, ho⟩ | ⟨x, ho⟩
    · rw [perform, ho]
      exact ⟨_, rfl⟩
    · rw [perform, ho]
      exact ⟨_, rfl⟩
  | setupPlot path =>
    have hl (r : Bool) : a.afterCall (.setupPlot path) r =
        bif r then (a.reset .plot).applyOptions else a := by cases r <;> rfl
    have hg {α : Type} (x : Act Refusal AxiDraw α) :
        (guarded x a).result.isOk = (x a).result.isOk := by
      show ((x a).result.mapError asRefusal).isOk = _
      cases (x a).result <;> rfl
    rw [hl, perform, hg]
    exact like_of_reset (c := .plotSetup path) (fun _ => rfl) _
  | penUp => exact keeps_raise _ hself
  | penDown => exact keeps_lower _ hself
  | penToggle =>
    refine ((keeps_call (c := .currentPen) fun _ => rfl).bind fun up => ?_) _ hself
    split
    · exact keeps_lower
    · exact keeps_raise
  | home =>
    exact (Act.Keeps.mapError ((keeps_call (c := .moveTo _ _) fun _ => rfl).bind
      fun _ => keeps_note _)) _ hself
  | goTo x y => exact (Act.Keeps.mapError (keeps_moveTo (x, y))) _ hself
  | goToRelative x y =>
    exact (Act.Keeps.mapError ((keeps_call (c := .move x y) fun _ => rfl).bind
      fun _ => keeps_note _)) _ hself
  | drawPath points =>
    cases points with
    | nil => exact hself
    | cons first rest =>
      exact (Act.Keeps.mapError ((keeps_moveTo first).bind fun _ =>
        Act.Keeps.forEach keeps_lineTo)) _ hself
  | wait time =>
    exact (Act.Keeps.mapError ((keeps_call (c := .delay time) fun _ => rfl).bind
      fun _ => keeps_note _)) _ hself
  | getPosition =>
    exact (Act.Keeps.mapError (keeps_call (c := .currentPosition) fun _ => rfl)) _ hself
  | getPenDown =>
    exact ((keeps_call (c := .currentPen) fun _ => rfl).bind fun _ => Act.keeps_pure _) _ hself
  | currentMode => exact hself
  | runPlot =>
    exact (Act.Keeps.mapError ((keeps_note _).bind fun _ =>
      (keeps_call (c := .plotRun) fun _ => rfl).bind fun _ =>
        Act.Keeps.forEach fun _ => Act.keeps_tell _)) _ hself

/-- An adapter with a machine that has options. -/
structure Sound (a : AxiDraw) : Prop where
  hasOptions : a.machine.behaviour.hasOptions = true
  single : a.options.Single
  /-- The machine has no option that is not remembered. -/
  known : ∃ o, a.machine.options = some o ∧
    ∀ s, (o.settings.get? s).isSome = true → (a.options.get? s).isSome = true

/-- The options of the machine are those that are remembered. -/
def InStep (a : AxiDraw) : Prop :=
  ∃ o, a.machine.options = some o ∧ ∀ s, o.settings.get? s = a.options.get? s

/-- A reset leaves a sound adapter sound: a machine without options has none that is not
remembered. -/
theorem Sound.reset (h : a.Sound) (m : Mode) : (a.reset m).Sound := by
  have hr : a.reset m = { a with
      machine := { a.machine with
        options := some ⟨if a.machine.behaviour.tellsMode then some m else none, []⟩ }
      mode := some m } := by
    rw [AxiDraw.reset, Machine.reset, if_pos h.hasOptions]
  rw [hr]
  exact ⟨h.hasOptions, h.single, _, rfl, by rintro s ⟨⟩⟩

/-- **All remembered options are given to the machine**, and it has no others.  The options that it
had are among those that are remembered, so all of them are replaced. -/
theorem Sound.applyOptions (h : a.Sound) : a.applyOptions.Sound ∧ a.applyOptions.InStep := by
  obtain ⟨o, ho, hk⟩ := h.known
  have happly : a.applyOptions.machine.options =
      some { o with settings := o.settings.merge a.options } := by
    rw [AxiDraw.applyOptions, ho]
    rfl
  have hsame (s : Setting) : (o.settings.merge a.options).get? s = a.options.get? s := by
    rw [Options.get?_merge h.single]
    rcases hr : a.options.get? s with _ | v
    · rcases hm : o.settings.get? s with _ | w
      · rfl
      · have := hk s (by rw [hm]; rfl)
        rw [hr] at this
        cases this
    · rfl
  refine ⟨⟨h.hasOptions, h.single, _, happly, fun s hs => ?_⟩, _, happly, hsame⟩
  rw [hsame] at hs
  exact hs

/-- What a call leaves is sound, whether the call returned or not.  The cases are the calls: most of
them leave the options alone. -/
theorem Sound.afterCall (h : a.Sound) (c : Call) (returned : Bool) :
    (a.afterCall c returned).Sound := by
  cases c with
  | set s v =>
    obtain ⟨o, ho, hk⟩ := h.known
    refine ⟨h.hasOptions, Options.single_put h.single s _, o, ho, fun t ht => ?_⟩
    show ((a.options.put s (s.kept v)).get? t).isSome = true
    rw [Options.get?_put]
    split
    · rfl
    · exact hk t ht
  | commitOptions => exact h.applyOptions.1
  | enterInteractive =>
    cases returned
    · exact h
    · exact (h.reset .interactive).applyOptions.1
  | setupPlot =>
    cases returned
    · exact h
    · exact (h.reset .plot).applyOptions.1
  | connect | disconnect =>
    cases returned
    · exact h
    · exact ⟨h.hasOptions, h.single, h.known⟩
  | _ => exact h

/-- A sound adapter that is asked something is sound after it: soundness does not depend on the past
of the machine. -/
theorem Sound.perform (h : a.Sound) (c : Call) : (perform c a).state.Sound := by
  obtain ⟨past, hs⟩ := like_perform c a
  have hl := h.afterCall c (AxiDraw.perform c a).result.isOk
  rw [hs]
  exact ⟨hl.hasOptions, hl.single, hl.known⟩

/-- An adapter is sound before the first call, if its machine has options at all. -/
theorem sound_start (hb : b.hasOptions = true) : (start b).Sound := by
  have hs : start b = ⟨⟨b, some ⟨none, []⟩, []⟩, [], none, false⟩ := by
    rw [start, Machine.start, if_pos hb]
  rw [hs]
  exact ⟨hb, List.nodup_nil, _, rfl, by rintro s ⟨⟩⟩

/-- **An adapter stays sound**, whatever it is asked. -/
theorem sound_afterAll (hb : b.hasOptions = true) (cs : List Call) :
    (Device.afterAll (start b) cs).Sound := by
  induction cs using List.reverseRecOn with
  | nil => exact sound_start hb
  | append_singleton cs c ih =>
    rw [Device.afterAll_concat]
    exact ih.perform c

/-- A call remembers the value that it gives a setting.  The cases are the calls, of which only one
kind sets an option. -/
theorem options_perform (c : Call) (a : AxiDraw) (s : Setting) :
    (perform c a).state.options.get? s = ((c.valueFor? s).map s.kept).or (a.options.get? s) := by
  obtain ⟨past, hs⟩ := like_perform c a
  rw [hs]
  show (a.afterCall c _).options.get? s = _
  cases c with
  | set t v =>
    show (a.options.put t (t.kept v)).get? s = _
    rw [Options.get?_put, Call.valueFor?]
    by_cases h : t = s
    · subst h
      rw [if_pos rfl, if_pos rfl]
      rfl
    · rw [if_neg h, if_neg h]
      rfl
  | enterInteractive | setupPlot | connect | disconnect =>
    cases (perform _ a).result.isOk <;> rfl
  | _ => rfl

/-- **The last value of each setting is remembered.** -/
theorem options_afterAll (a : AxiDraw) (cs : List Call) (s : Setting) :
    (Device.afterAll a cs).options.get? s =
      ((Call.lastValue? s cs).map s.kept).or (a.options.get? s) := by
  induction cs using List.reverseRecOn with
  | nil => rfl
  | append_singleton cs c ih =>
    rw [Device.afterAll_concat, Call.lastValue?_append, Call.lastValue?_singleton]
    refine (options_perform c _ s).trans ?_
    rw [ih]
    rcases c.valueFor? s with _ | v <;> rfl

/-- A call after which the machine has the options that are remembered: a commit, or one that resets
the machine, if it returns. -/
def Syncs (a : AxiDraw) (c : Call) : Prop :=
  c = .commitOptions ∨ c.resets = true ∧ (perform c a).result.isOk = true

/-- After a call that syncs the machine has the options that are remembered. -/
theorem Sound.inStep (h : a.Sound) {c : Call} (hc : a.Syncs c) :
    (AxiDraw.perform c a).state.InStep := by
  obtain ⟨past, hs⟩ := like_perform c a
  have hl : (a.afterCall c (AxiDraw.perform c a).result.isOk).InStep := by
    rcases hc with rfl | ⟨hr, hok⟩
    · exact h.applyOptions.2
    · rw [hok]
      cases c with
      | enterInteractive => exact (h.reset .interactive).applyOptions.2
      | setupPlot => exact (h.reset .plot).applyOptions.2
      | _ => cases hr
  rw [hs]
  exact hl

/-- Between those calls the options of the machine stay as they are.  The cases are the calls, but
for those that hand the options over or reset them. -/
theorem options_machine_perform {c : Call} (hc : ¬a.Syncs c) :
    (perform c a).state.machine.options = a.machine.options := by
  obtain ⟨past, hs⟩ := like_perform c a
  rw [hs]
  show (a.afterCall c _).machine.options = _
  rw [Syncs, not_or, not_and] at hc
  cases c with
  | commitOptions => exact absurd rfl hc.1
  | enterInteractive =>
    rcases hr : (perform .enterInteractive a).result.isOk with _ | _
    · rfl
    · exact absurd hr (hc.2 rfl)
  | setupPlot path =>
    rcases hr : (perform (.setupPlot path) a).result.isOk with _ | _
    · rfl
    · exact absurd hr (hc.2 rfl)
  | connect => cases (perform .connect a).result.isOk <;> rfl
  | disconnect => cases (perform .disconnect a).result.isOk <;> rfl
  | _ => rfl

/-- An event that is no update of the machine. -/
abbrev NoUpdate (ev : Event) : Prop := ev ≠ .machine .update

/-- A machine call that is no update leaves no update. -/
theorem within_call {c : MachineCall} (h : c ≠ .update) :
    Act.Within (fun _ => True) NoUpdate (call c) := by
  refine ⟨fun _ _ _ => trivial, fun d ev hev => ?_⟩
  have hc : (call c d).events = [.machine c] := by
    rcases hr : d.machine.behaviour.answer d.machine.past c with r | x
    · rw [call_of_error hr]
    · rw [call_of_ok hr]
  rw [hc] at hev
  rintro rfl
  exact h (Event.machine.inj (List.mem_singleton.1 hev)).symm

/-- A record in the log is no update. -/
theorem within_log (severity : Severity) (text : String) :
    Act.Within (fun _ : Refusal => True) NoUpdate
      (Act.log severity text : Act Refusal AxiDraw Unit) :=
  Act.within_tell fun _ h => by rw [List.mem_singleton.1 h]; rintro ⟨⟩

/-- A guard adds no update to what an act leaves. -/
theorem within_guarded {x : Act Refusal AxiDraw α} (h : Act.Within (fun _ => True) NoUpdate x) :
    Act.Within (fun _ => True) NoUpdate (guarded x) :=
  ⟨fun _ _ _ => trivial, h.events⟩

/-- A machine call that is no update, and a record after it, leave no update. -/
theorem within_then {c : MachineCall} (h : c ≠ .update) (text : String) :
    Act.Within (fun _ => True) NoUpdate (call c >>= fun _ => note text) :=
  (within_call h).bind fun _ => within_log .debug text

/-- **Only a commit updates the machine**, in interactive mode and with a connection.  All other
calls are within bounds that leave the update out. -/
theorem update_mem_iff (c : Call) (a : AxiDraw) :
    .machine .update ∈ (perform c a).events ↔
      c = .commitOptions ∧ a.mode = some .interactive ∧ a.connected = true := by
  have hother {x : Act Refusal AxiDraw c.Answer} (hx : Act.Within (fun _ => True) NoUpdate x)
      (hc : c ≠ .commitOptions) : .machine .update ∈ (x a).events ↔
        c = .commitOptions ∧ a.mode = some .interactive ∧ a.connected = true :=
    iff_of_false (fun h => hx.events a _ h rfl) fun h => hc h.1
  have hmode (m : Mode) : Act.Within (fun _ : Refusal => True) NoUpdate
      (Act.modify (fun a : AxiDraw => { a with mode := some m }) : Act Refusal AxiDraw Unit) :=
    Act.within_modify _
  -- Any call but the commit has a bound that an update does not meet.
  cases c with
  | commitOptions =>
    have ho : (perform .commitOptions a).events =
        (ite (a.mode = some .interactive ∧ a.connected = true)
          (call .update >>= fun _ => note "Updated options.") (note "Updated options.")
          a.applyOptions).events := rfl
    rw [ho]
    by_cases h : a.mode = some .interactive ∧ a.connected = true
    · rw [if_pos h]
      refine iff_of_true ?_ ⟨rfl, h⟩
      rcases bind_call .update (fun _ => note "Updated options.") a.applyOptions with
        ⟨r, hb⟩ | ⟨x, hb⟩
      · rw [hb]
        exact List.mem_singleton_self _
      · rw [hb]
        exact List.mem_cons_self
    · rw [if_neg h]
      exact iff_of_false (fun hm => by cases List.mem_singleton.1 hm) fun hm => h hm.2
  | enterInteractive =>
    exact hother ((within_call (by decide)).bind fun _ => (hmode _).bind fun _ =>
      (Act.within_modify _).bind fun _ => within_log _ _) (by decide)
  | set s v =>
    exact hother ((Act.within_modify _).bind fun _ => within_log _ _) (by rintro ⟨⟩)
  | connect =>
    refine hother ((within_call (by decide)).bind fun found => ?_) (by decide)
    split
    · exact (Act.within_modify _).bind fun _ => within_log _ _
    · exact Act.within_throw trivial
  | disconnect =>
    exact hother ((within_call (by decide)).bind fun _ => (Act.within_modify _).bind
      fun _ => within_log _ _) (by decide)
  | penUp => exact hother (within_guarded (within_then (by decide) _)) (by decide)
  | penDown => exact hother (within_guarded (within_then (by decide) _)) (by decide)
  | penToggle =>
    refine hother ((within_call (by decide)).bind fun up => ?_) (by decide)
    split
    · exact within_guarded (within_then (by decide) _)
    · exact within_guarded (within_then (by decide) _)
  | home => exact hother (within_guarded (within_then (by rintro ⟨⟩) _)) (by decide)
  | goTo x y => exact hother (within_guarded (within_then (by rintro ⟨⟩) _)) (by rintro ⟨⟩)
  | goToRelative x y =>
    exact hother (within_guarded (within_then (by rintro ⟨⟩) _)) (by rintro ⟨⟩)
  | drawPath points =>
    cases points with
    | nil => exact hother (Act.within_throw trivial) (by rintro ⟨⟩)
    | cons first rest =>
      exact hother (within_guarded ((within_then (by rintro ⟨⟩) _).bind fun _ =>
        Act.Within.forEach fun _ => within_then (by rintro ⟨⟩) _)) (by rintro ⟨⟩)
  | wait time => exact hother (within_guarded (within_then (by rintro ⟨⟩) _)) (by rintro ⟨⟩)
  | getPosition => exact hother (within_guarded (within_call (by decide))) (by decide)
  | getPenDown =>
    exact hother ((within_call (by decide)).bind fun _ => Act.within_pure _) (by decide)
  | currentMode => exact hother (Act.within_get.bind fun _ => Act.within_pure _) (by decide)
  | setupPlot path =>
    exact hother (within_guarded ((within_call (by rintro ⟨⟩)).bind fun _ => (hmode _).bind
      fun _ => (Act.within_modify _).bind fun _ => within_log _ _)) (by rintro ⟨⟩)
  | runPlot =>
    exact hother (within_guarded ((within_log _ _).bind fun _ => (within_call (by decide)).bind
      fun _ => Act.Within.forEach fun _ => within_log _ _)) (by decide)

/-- **Options outlast resets.**  Whatever an AxiDraw is asked, and whichever machine calls fail, it
remembers for each setting the last value that it was given, and loses none.  After every commit,
and after every call that resets the machine and returns, the machine has the options that are
remembered; in between they stay as they are.  The machine is updated by a commit alone, and if and
only if it is in interactive mode and connected. -/
theorem options_outlast_resets (hb : b.hasOptions = true) (cs : List Call) :
    let a := Device.afterAll (start b) cs
    (∀ s, a.options.get? s = (Call.lastValue? s cs).map s.kept) ∧
    (∀ ds s, (a.options.get? s).isSome = true →
      ((Device.afterAll a ds).options.get? s).isSome = true) ∧
    (∀ c, a.Syncs c → (perform c a).state.InStep) ∧
    (∀ c, ¬a.Syncs c → (perform c a).state.machine.options = a.machine.options) ∧
    ∀ c, .machine .update ∈ (perform c a).events ↔
      c = .commitOptions ∧ a.mode = some .interactive ∧ a.connected = true := by
  intro a
  refine ⟨fun s => ?_, fun ds s hs => ?_, fun c => (sound_afterAll hb cs).inStep,
    fun c => options_machine_perform, fun c => update_mem_iff c a⟩
  · rw [options_afterAll]
    exact Option.or_none
  · rw [options_afterAll]
    rcases Call.lastValue? s ds with _ | v
    · exact hs
    · rfl

/-- A machine that fails to update.  Its options are those that are remembered all the same. -/
theorem options_outlast_resets_noUpdate :
    let b := MachineBehaviour.failing .update "busy"
    let a := Device.afterAll (start b) [.set .acceleration (.num (.int 40)), .enterInteractive,
      .connect, .set .port (.text "auto"), .set .acceleration (.num (.int 50))]
    b.hasOptions = true ∧ (perform .commitOptions a).result.isOk = false ∧
    (perform .commitOptions a).state.InStep ∧
    a.options.get? .port = some .none ∧ a.options.get? .acceleration = some (.num (.int 50)) ∧
    a.machine.options = some ⟨some .interactive, [(.acceleration, .num (.int 40))]⟩ := by
  intro b a
  obtain ⟨hget, -, hsync, -⟩ := options_outlast_resets (b := b) rfl
    [.set .acceleration (.num (.int 40)), .enterInteractive, .connect,
      .set .port (.text "auto"), .set .acceleration (.num (.int 50))]
  exact ⟨rfl, by decide +kernel, hsync _ (.inl rfl), hget .port, hget .acceleration,
    by decide +kernel⟩

end AxiDraw
end PlotScript
