/-
# Failures of the machine

The machine behind an AxiDraw may fail at any call.  Whether the adapter makes a refusal of the
failure depends on the call alone:

| machine call | a failure is |
| --- | --- |
| interactive, connect, disconnect, the state of the pen | passed on |
| any other | a refusal of the plotter |

A refusal is reported at the command that was carried out, and a run that is not strict goes on; a
failure that is passed on ends every run.  So no failure escapes exactly if none of the four calls
fails (`Executor.machine_failures`).

The language specification, §14, has a `RuntimeError` of the machine become a `DriverError`.
-/

import PlotScript.Plotter.AxiDraw
import PlotScript.Proofs.Origins
import PlotScript.Proofs.Progress
import PlotScript.Proofs.Recovery

namespace PlotScript

namespace MachineCall

/-- The calls whose failures are passed on. -/
def exposed : MachineCall → Bool
  | interactive | connect | disconnect | currentPen => true
  | penUp | penDown | moveTo _ _ | move _ _ | lineTo _ _ | delay _ | currentPosition | update
  | plotSetup _ | plotRun => false

/-- What an AxiDraw makes of a failure of a call. -/
def refusal (c : MachineCall) (text : String) : Refusal :=
  if c.exposed then .failure (.runtime text) else .complaint .device (.said text) none

end MachineCall

namespace MachineBehaviour

variable {b : MachineBehaviour} {past l m : List MachineCall} {c : MachineCall}

/-- The calls that fail when calls are made one after the other, with what is said of each. -/
def raised (b : MachineBehaviour) (past : List MachineCall) :
    List MachineCall → List (MachineCall × String)
  | [] => []
  | c :: l =>
    match b.answer past c with
    | .error (.failure (.runtime text)) => (c, text) :: b.raised (past ++ [c]) l
    | _ => b.raised (past ++ [c]) l

/-- The failures among calls are those among the first of them, and those among the others after
them. -/
theorem raised_append (b : MachineBehaviour) (past l m : List MachineCall) :
    b.raised past (l ++ m) = b.raised past l ++ b.raised (past ++ l) m := by
  induction l generalizing past with
  | nil => simp [raised]
  | cons c l ih =>
    simp only [List.cons_append, raised]
    split
    · rw [ih, List.append_assoc]
      rfl
    · rw [ih, List.append_assoc]
      rfl

/-- A call that fails is the only failure if it is the only call. -/
theorem raised_of_failure {text : String} (h : b.answer past c = .error (.failure (.runtime text))) :
    b.raised past [c] = [(c, text)] := by
  rw [raised, h]
  rfl

/-- A call that does not fail at run time is no failure, whatever else it may be answered. -/
theorem raised_of_not (h : ∀ text, b.answer past c ≠ .error (.failure (.runtime text))) :
    b.raised past [c] = [] := by
  unfold raised
  split
  · rename_i text ht
    exact absurd ht (h text)
  · rfl

/-- A machine whose calls fail in no other way. -/
def Plain (b : MachineBehaviour) : Prop := ∀ past c r, b.answer past c = .error r →
  ∃ text, r = .failure (.runtime text)

end MachineBehaviour

namespace AxiDraw

variable {α β : Type}

/-- Refusals of a kind that failures of the machine are not, but all that the adapter itself makes
are. -/
structure Other (Q : Refusal → Prop) : Prop where
  ne_runtime : ∀ text, ¬Q (.failure (.runtime text))
  notFound : Q (.complaint .fatal .plotterNotFound none)
  value : ∀ text, Q (.failure (.value text))

/-- An act makes machine calls up to the first that fails, and tells its failure as `W` says.  If
the machine does not fail, or fails otherwise, a refusal is one of `Q`. -/
def Tells (W : MachineCall → String → Refusal → Prop) (Q : Refusal → Prop)
    (x : Act Refusal AxiDraw α) : Prop := ∀ d : AxiDraw,
  (∀ past c r, d.machine.behaviour.answer past c = .error r →
    (∃ text, r = .failure (.runtime text)) ∨ Q r) →
  ∃ made, (x d).state.machine.behaviour = d.machine.behaviour ∧
    (x d).state.machine.past = d.machine.past ++ made ∧
    ((d.machine.behaviour.raised d.machine.past made = [] ∧
      ∀ r, (x d).result = .error r → Q r) ∨
    ∃ c text r, W c text r ∧ d.machine.behaviour.raised d.machine.past made = [(c, text)] ∧
      (x d).result = .error r)

variable {W V : MachineCall → String → Refusal → Prop} {Q : Refusal → Prop}

/-- An act without machine calls. -/
theorem tells_of_quiet {x : Act Refusal AxiDraw α} (hb : ∀ d, (x d).state.machine.behaviour =
      d.machine.behaviour) (hp : ∀ d, (x d).state.machine.past = d.machine.past)
    (hr : ∀ d r, (x d).result = .error r → Q r) : Tells W Q x := fun d _ =>
  ⟨[], hb d, (hp d).trans (List.append_nil _).symm, .inl ⟨rfl, hr d⟩⟩

/-- A record is left without a machine call. -/
theorem tells_note (text : String) : Tells W Q (note text) :=
  tells_of_quiet (fun _ => rfl) (fun _ => rfl) (by rintro _ _ ⟨⟩)

/-- A result is given without a machine call. -/
theorem tells_pure (a : α) : Tells W Q (Act.pure a) :=
  tells_of_quiet (fun _ => rfl) (fun _ => rfl) (by rintro _ _ ⟨⟩)

/-- The state is looked at without a machine call. -/
theorem tells_get : Tells W Q Act.get :=
  tells_of_quiet (fun _ => rfl) (fun _ => rfl) (by rintro _ _ ⟨⟩)

/-- An act that ends with a refusal of `Q` tells no failure, and needs to tell none. -/
theorem tells_throw {r : Refusal} (h : Q r) : Tells W Q (.throw r : Act Refusal AxiDraw α) :=
  tells_of_quiet (fun _ => rfl) (fun _ => rfl) fun _ _ hr => Except.error.inj hr ▸ h

/-- A change that does not touch the machine makes no call of it. -/
theorem tells_modify {f : AxiDraw → AxiDraw} (hf : ∀ d, (f d).machine = d.machine) :
    Tells W Q (Act.modify f) :=
  tells_of_quiet (fun d => congrArg Machine.behaviour (hf d))
    (fun d => congrArg Machine.past (hf d)) (by rintro _ _ ⟨⟩)

/-- The remembered options are put into those of the machine without a call, and its past and
behaviour stay. -/
theorem tells_applyOptions : Tells W Q (Act.modify applyOptions) :=
  tells_of_quiet (fun _ => rfl) (fun _ => rfl) (by rintro _ _ ⟨⟩)

/-- Two acts that tell failures, one after the other, tell them as a whole.  If the first one tells
a failure, the other is not done; else the machine calls of both are made. -/
theorem Tells.bind {x : Act Refusal AxiDraw α} {f : α → Act Refusal AxiDraw β}
    (hx : Tells W Q x) (hf : ∀ a, Tells W Q (f a)) : Tells W Q (x >>= f) := by
  intro d hd
  obtain ⟨made, hb, hp, h⟩ := hx d hd
  rcases hr : (x d).result with e | a
  · rw [Act.bind_of_error hr]
    refine ⟨made, hb, hp, ?_⟩
    rcases h with ⟨hn, hq⟩ | ⟨c, text, r, hw, hm, h⟩
    · exact .inl ⟨hn, fun r h => Except.error.inj h ▸ hq e hr⟩
    · obtain rfl : e = r := Except.error.inj (hr.symm.trans h)
      exact .inr ⟨c, text, e, hw, hm, rfl⟩
  · rw [Act.bind_of_ok hr]
    obtain ⟨more, hb', hp', h'⟩ := hf a (x d).state (hb ▸ hd)
    have hm : d.machine.behaviour.raised d.machine.past made = [] := by
      rcases h with ⟨hm, -⟩ | ⟨c, text, r, -, -, h⟩
      · exact hm
      · rw [hr] at h
        cases h
    have hraised : d.machine.behaviour.raised d.machine.past (made ++ more) =
        (x d).state.machine.behaviour.raised (x d).state.machine.past more := by
      rw [MachineBehaviour.raised_append, hm, hb, hp]
      rfl
    refine ⟨made ++ more, hb'.trans hb, ?_, ?_⟩
    · rw [hp', hp, List.append_assoc]
    · rw [hraised]
      exact h'

/-- An act for each element tells failures as the single acts do: it stops at the first one. -/
theorem Tells.forEach {l : List α} {f : α → Act Refusal AxiDraw Unit} (h : ∀ a, Tells W Q (f a)) :
    Tells W Q (Act.forEach l f) := by
  induction l with
  | nil => exact tells_pure ()
  | cons a l ih => exact (h a).bind fun _ => ih

/-- What a call changes when it succeeds are the options of the machine, neither its behaviour nor
its past. -/
theorem past_afterCall (m : Machine) (c : MachineCall) :
    (m.afterCall c).behaviour = m.behaviour ∧ (m.afterCall c).past = m.past := by
  unfold Machine.afterCall Machine.reset
  split
  · split <;> exact ⟨rfl, rfl⟩
  · split <;> exact ⟨rfl, rfl⟩
  · exact ⟨rfl, rfl⟩

/-- The same AxiDraw, with another past of its machine. -/
def withPast (a : AxiDraw) (past : List MachineCall) : AxiDraw :=
  { a with machine := { a.machine with past := past } }

/-- A machine call that succeeds is added to the past, and changes what this call changes. -/
theorem call_of_ok {a : AxiDraw} {c : MachineCall} {x : c.Answer}
    (h : a.machine.behaviour.answer a.machine.past c = .ok x) :
    call c a = ⟨.ok x, [.machine c], { a with
      machine := ({ a.machine with past := a.machine.past ++ [c] } : Machine).afterCall c }⟩ := by
  unfold call Act.on Machine.call
  simp only [h]

/-- A machine call that fails is added to the past and changes nothing else. -/
theorem call_of_error {a : AxiDraw} {c : MachineCall} {r : Refusal}
    (h : a.machine.behaviour.answer a.machine.past c = .error r) :
    call c a = ⟨.error r, [.machine c], a.withPast (a.machine.past ++ [c])⟩ := by
  unfold call Act.on Machine.call
  simp only [h]
  rfl

/-- A machine call tells its own failure.  A failure that is no error at run time is refused in
other words than the machine's, so it is not told. -/
theorem tells_call {c : MachineCall} (h : ∀ text, W c text (.failure (.runtime text))) :
    Tells W Q (call c) := by
  intro d hd
  refine ⟨[c], ?_⟩
  rcases hr : d.machine.behaviour.answer d.machine.past c with r | a
  · rw [call_of_error hr]
    refine ⟨rfl, rfl, ?_⟩
    by_cases ht : ∃ text, r = .failure (.runtime text)
    · obtain ⟨text, rfl⟩ := ht
      exact .inr ⟨c, text, _, h text, MachineBehaviour.raised_of_failure hr, rfl⟩
    · refine .inl ⟨MachineBehaviour.raised_of_not fun text he => ?_, fun r' hr' => ?_⟩
      · rw [hr] at he
        exact ht ⟨text, Except.error.inj he⟩
      · exact Except.error.inj hr' ▸ (hd _ _ _ hr).resolve_left ht
  · rw [call_of_ok hr]
    obtain ⟨hb, hp⟩ := past_afterCall { d.machine with past := d.machine.past ++ [c] } c
    refine ⟨hb, hp, .inl ⟨MachineBehaviour.raised_of_not fun text he => ?_, by rintro _ ⟨⟩⟩⟩
    rw [hr] at he
    cases he

/-- Within a guard a failure is told as the guard words it; the adapter's own refusals stay as they
are.  What is told without the guard is told by it, in the words that it gives to the failure. -/
theorem tells_guarded {x : Act Refusal AxiDraw α} (h : Tells V Q x) (hQ : Other Q)
    (hW : ∀ c text r, V c text r → W c text (asRefusal r)) : Tells W Q (guarded x) := by
  intro d hd
  obtain ⟨made, hb, hp, h⟩ := h d hd
  refine ⟨made, hb, hp, ?_⟩
  have hg : (guarded x d).result = (x d).result.mapError asRefusal := rfl
  rw [hg]
  rcases h with ⟨hn, hq⟩ | ⟨c, text, r, hv, hm, hr⟩
  · refine .inl ⟨hn, fun r hr => ?_⟩
    rcases hx : (x d).result with e | a
    · rw [hx] at hr
      obtain rfl : asRefusal e = r := Except.error.inj hr
      have hqe := hq e hx
      unfold asRefusal
      split
      · exact absurd hqe (hQ.ne_runtime _)
      · exact hqe
    · rw [hx] at hr
      cases hr
  · exact .inr ⟨c, text, asRefusal r, hW c text r hv, hm, by rw [hr]; rfl⟩

/-- A failure of a call that is not exposed. -/
def Guardable (c : MachineCall) (text : String) (r : Refusal) : Prop :=
  c.exposed = false ∧ r = .failure (.runtime text)

/-- A failure as the adapter tells it. -/
def Told (c : MachineCall) (text : String) (r : Refusal) : Prop := r = c.refusal text

/-- Within a guard a failure becomes what the adapter makes of it. -/
theorem told_guarded (hQ : Other Q) {x : Act Refusal AxiDraw α} (h : Tells Guardable Q x) :
    Tells Told Q (guarded x) := by
  refine tells_guarded h hQ fun c text r hr => ?_
  obtain ⟨hc, rfl⟩ := hr
  rw [Told, MachineCall.refusal, hc]
  rfl

/-- A call that is not exposed can be put within a guard. -/
theorem tells_raw {c : MachineCall} (hc : c.exposed = false) : Tells Guardable Q (call c) :=
  tells_call fun _ => ⟨hc, rfl⟩

/-- The failure of an exposed call is told as it is. -/
theorem tells_exposed {c : MachineCall} (hc : c.exposed = true) : Tells Told Q (call c) := by
  refine tells_call fun text => ?_
  rw [Told, MachineCall.refusal, hc]
  rfl

/-- Raising the pen tells a failure of the machine as a refusal. -/
theorem tells_raise (hQ : Other Q) : Tells Told Q raise :=
  told_guarded hQ ((tells_raw (c := .penUp) rfl).bind fun _ => tells_note _)

/-- Lowering the pen tells a failure of the machine as a refusal. -/
theorem tells_lower (hQ : Other Q) : Tells Told Q lower :=
  told_guarded hQ ((tells_raw (c := .penDown) rfl).bind fun _ => tells_note _)

/-- Drawing to a point can be put within a guard. -/
theorem tells_lineTo (p : Point) : Tells Guardable Q (lineTo p) :=
  (tells_raw (c := .lineTo p.1 p.2) rfl).bind fun _ => tells_note _

/-- Moving to a point can be put within a guard. -/
theorem tells_moveTo (p : Point) : Tells Guardable Q (moveTo p) :=
  (tells_raw (c := .moveTo p.1 p.2) rfl).bind fun _ => tells_note _

/-- **Every call of an AxiDraw tells a failure of the machine by the machine call that failed.**
Four of the calls make their machine call exposed, and pass its failure on as it is; the others are
guarded as a whole, so that any failure inside of them is a refusal. -/
theorem tells_perform (hQ : Other Q) (c : Call) : Tells Told Q (perform c) := by
  have hmode (m : Mode) : ∀ W, Tells W Q (Act.modify fun a => { a with mode := some m }) :=
    fun W => tells_modify fun _ => rfl
  have hlink (x : Bool) : Tells Told Q (Act.modify fun a => { a with connected := x }) :=
    tells_modify fun _ => rfl
  cases c with
  | enterInteractive =>
    exact (tells_exposed (c := .interactive) rfl).bind fun _ => (hmode _ _).bind fun _ =>
      tells_applyOptions.bind fun _ => tells_note _
  | set s v =>
    refine Tells.bind (f := fun _ => note (s.record v)) ?_ fun _ => tells_note _
    exact tells_modify fun _ => rfl
  | commitOptions =>
    refine told_guarded hQ (tells_applyOptions.bind fun _ => tells_get.bind fun a => ?_)
    split
    · exact (tells_raw (c := .update) rfl).bind fun _ => tells_note _
    · exact tells_note _
  | connect =>
    refine (tells_exposed (c := .connect) rfl).bind fun found => ?_
    split
    · exact (hlink true).bind fun _ => tells_note _
    · exact tells_throw hQ.notFound
  | disconnect =>
    exact (tells_exposed (c := .disconnect) rfl).bind fun _ => (hlink false).bind
      fun _ => tells_note _
  | penUp => exact tells_raise hQ
  | penDown => exact tells_lower hQ
  | penToggle =>
    refine (tells_exposed (c := .currentPen) rfl).bind fun up => ?_
    split
    · exact tells_lower hQ
    · exact tells_raise hQ
  | home =>
    exact told_guarded hQ ((tells_raw (c := .moveTo _ _) rfl).bind fun _ => tells_note _)
  | goToRelative x y =>
    exact told_guarded hQ ((tells_raw (c := .move x y) rfl).bind fun _ => tells_note _)
  | wait time =>
    exact told_guarded hQ ((tells_raw (c := .delay time) rfl).bind fun _ => tells_note _)
  | goTo x y => exact told_guarded hQ (tells_moveTo (x, y))
  | drawPath points =>
    cases points with
    | nil => exact tells_throw (hQ.value _)
    | cons first rest =>
      exact told_guarded hQ ((tells_moveTo first).bind fun _ => Tells.forEach tells_lineTo)
  | getPosition => exact told_guarded hQ (tells_raw (c := .currentPosition) rfl)
  | getPenDown =>
    exact (tells_exposed (c := .currentPen) rfl).bind fun up => tells_pure (!up)
  | currentMode => exact tells_get.bind fun a => tells_pure _
  | setupPlot path =>
    exact told_guarded hQ ((tells_raw (c := .plotSetup path) rfl).bind fun _ =>
      (hmode _ _).bind fun _ => tells_applyOptions.bind fun _ => tells_note _)
  | runPlot =>
    refine told_guarded hQ ((tells_note _).bind fun _ =>
      (tells_raw (c := .plotRun) rfl).bind fun warnings => Tells.forEach fun text => ?_)
    exact tells_of_quiet (fun _ => rfl) (fun _ => rfl) (by rintro _ _ ⟨⟩)

end AxiDraw
namespace Deed

/-- The calls that the plotter refused, each with the command that was begun last and with what was
wrong.  At first that is `last`. -/
def refusals (last : Option Nat) : List Deed → List (Option Nat × Cause)
  | [] => []
  | begun n _ :: l => refusals (some n) l
  | asked _ _ (.error (.complaint .device cause _)) :: l => (last, cause) :: refusals last l
  | asked _ _ _ :: l | modeSet _ :: l | reported _ _ :: l => refusals last l

/-- A complaint in words from elsewhere, with the command it is about. -/
def quote? : Deed → Option (Nat × Complaint)
  | reported n c =>
    match c.cause with
    | .said _ => some (n, c)
    | _ => none
  | begun _ _ | modeSet _ | asked _ _ _ => none

/-- The complaints in words from elsewhere, in order. -/
def quotes (l : List Deed) : List (Nat × Complaint) := l.filterMap quote?

variable {l m : List Deed} {last : Option Nat}

/-- The complaints among notes are those among the first of them, and those among the others after
them. -/
@[simp] theorem quotes_append (l m : List Deed) : quotes (l ++ m) = quotes l ++ quotes m :=
  List.filterMap_append

/-- A complaint in words of this program quotes nothing. -/
theorem quote?_of_own {n : Nat} {c : Complaint} (h : c.cause.Own) : quote? (reported n c) = none := by
  unfold quote?
  simp only
  split
  · rename_i text ht
    rw [ht] at h
    exact h.elim
  · rfl

/-- Notes that are about no command of the stream quote nothing. -/
theorem quotes_of_number? (h : ∀ d ∈ l, d.number? = none) : quotes l = [] := by
  refine List.filterMap_eq_nil_iff.2 fun d hd => ?_
  cases d with
  | reported => exact absurd (h _ hd) (Option.some_ne_none _)
  | begun | modeSet | asked => rfl

/-- Where no command is begun, the one that was begun last stays.  Only the note that a command is
begun changes which one that is. -/
theorem refusals_append (h : ∀ d ∈ l, d.number? = none) (last : Option Nat) (m : List Deed) :
    refusals last (l ++ m) = refusals last l ++ refusals last m := by
  induction l with
  | nil => rfl
  | cons d l ih =>
    have ih := ih fun d hd => h d (List.mem_cons_of_mem _ hd)
    cases d with
    | begun => exact absurd (h _ List.mem_cons_self) (Option.some_ne_none _)
    | modeSet | reported => exact ih
    | asked mode c answer =>
      rcases answer with (⟨grade, cause⟩ | _ | _) | _
      · cases grade with
        | device => exact congrArg _ ih
        | general | command | fatal => exact ih
      · exact ih
      · exact ih
      · exact ih

/-- After whatever happened, what is said of refusals is about commands begun since.  This is for
notes that begin a command before they refuse one. -/
theorem refusals_append_of_forall {r : List (Option Nat × Cause)}
    (h : ∀ last, refusals last m = r) (last : Option Nat) :
    refusals last (l ++ m) = refusals last l ++ r := by
  induction l generalizing last with
  | nil => exact h last
  | cons d l ih =>
    cases d with
    | begun | modeSet | reported => exact ih _
    | asked mode c answer =>
      rcases answer with (⟨grade, cause⟩ | _ | _) | _
      · cases grade with
        | device => exact congrArg _ (ih last)
        | general | command | fatal => exact ih last
      · exact ih last
      · exact ih last
      · exact ih last

end Deed

namespace MachineCall

/-- What is noted of a failure of a call, as a refusal of a call for the command begun last. -/
def noted (c : MachineCall) (text : String) (last : Option Nat) : List (Option Nat × Cause) :=
  if c.exposed then [] else [(last, .said text)]

end MachineCall

namespace Bench

variable {α β : Type}

/-- An act of a bench ends with the failure of the machine, if there is one, and notes it as the
refusal of a call, if it is one; else it ends with a fault of its own, if any. -/
def Relays (x : Act Fault (Bench AxiDraw) α) : Prop := ∀ b : Bench AxiDraw,
  b.device.machine.behaviour.Plain → ∃ made new,
    (x b).state.device.machine.behaviour = b.device.machine.behaviour ∧
    (x b).state.device.machine.past = b.device.machine.past ++ made ∧
    (x b).state.deeds = b.deeds ++ new ∧ (∀ d ∈ new, d.number? = none) ∧
    ((b.device.machine.behaviour.raised b.device.machine.past made = [] ∧
      (∀ last, Deed.refusals last new = []) ∧ ∀ f, (x b).result = .error f → f.Own) ∨
    ∃ c text, b.device.machine.behaviour.raised b.device.machine.past made = [(c, text)] ∧
      (∀ last, Deed.refusals last new = c.noted text last) ∧
      (x b).result = .error (c.refusal text).toFault)

/-- A failure of the machine is not one that a command comes to by itself, but whatever else the
adapter refuses is. -/
theorem other_own : AxiDraw.Other fun r => r.toFault.Own where
  ne_runtime _ h := h
  notFound := ⟨trivial, rfl⟩
  value _ := trivial

/-- A call is noted with its refusal.  The note quotes the machine if the failure was told, and
otherwise what the adapter itself says. -/
theorem relays_ask (c : Call) : Relays (ask c : Act Fault (Bench AxiDraw) c.Answer) := by
  intro b hb
  obtain ⟨made, hbe, hp, h⟩ := AxiDraw.tells_perform other_own c b.device
    fun past c r hr => .inl (hb past c r hr)
  refine ⟨made, [.asked b.mode c (Device.perform c b.device).result], hbe, hp, deeds_ask c b,
    fun d hd => List.mem_singleton.1 hd ▸ rfl, ?_⟩
  rw [result_ask]
  rcases h with ⟨hn, hq⟩ | ⟨mc, text, r, hr, hm, he⟩
  · refine .inl ⟨hn, fun last => ?_, fun f hf => ?_⟩
    · rcases hres : (Device.perform c b.device).result with r | a
      · have hown : r.toFault.Own := hq r hres
        rcases r with ⟨grade, cause⟩ | _ | _
        · cases grade with
          | device => exact hown.elim
          | general | command | fatal => rfl
        · rfl
        · rfl
      · rfl
    · rcases hres : (Device.perform c b.device).result with r | a
      · rw [hres] at hf
        exact Except.error.inj hf ▸ hq r hres
      · rw [hres] at hf
        cases hf
  · have he : (Device.perform c b.device).result = .error r := he
    obtain rfl : r = mc.refusal text := hr
    refine .inr ⟨mc, text, hm, fun last => ?_, by rw [he]; rfl⟩
    rw [he, MachineCall.refusal, MachineCall.noted]
    split <;> rfl

/-- An act without calls. -/
theorem relays_of_quiet {x : Act Fault (Bench AxiDraw) α} (hd : ∀ b, (x b).state.device = b.device)
    (hn : ∀ b, (x b).state.deeds = b.deeds) (hf : ∀ b f, (x b).result = .error f → f.Own) :
    Relays x := fun b _ =>
  ⟨[], [], by rw [hd], by rw [hd, List.append_nil], by rw [hn, List.append_nil],
    fun _ h => absurd h List.not_mem_nil, .inl ⟨rfl, fun _ => rfl, hf b⟩⟩

/-- A result is given without a call of the plotter. -/
theorem relays_pure (a : α) : Relays (Act.pure a) :=
  relays_of_quiet (fun _ => rfl) (fun _ => rfl) (by rintro _ _ ⟨⟩)

/-- Events are left without a call of the plotter. -/
theorem relays_tell (es : List Event) : Relays (Act.tell es) :=
  relays_of_quiet (fun _ => rfl) (fun _ => rfl) (by rintro _ _ ⟨⟩)

/-- The bench is looked at without a call of the plotter. -/
theorem relays_get : Relays Act.get :=
  relays_of_quiet (fun _ => rfl) (fun _ => rfl) (by rintro _ _ ⟨⟩)

/-- A fault of a command's own is no failure of the machine. -/
theorem relays_throw {f : Fault} (h : f.Own) :
    Relays (.throw f : Act Fault (Bench AxiDraw) α) :=
  relays_of_quiet (fun _ => rfl) (fun _ => rfl) fun _ _ hr => Except.error.inj hr ▸ h

/-- The mode is set without a call of the plotter; that it was set is noted, and this is no
refusal. -/
theorem relays_setMode (m : Mode) : Relays (Act.modify (setMode m)) := fun _ _ =>
  ⟨[], [.modeSet m], rfl, (List.append_nil _).symm, rfl,
    fun _ hd => List.mem_singleton.1 hd ▸ rfl,
    .inl ⟨rfl, fun _ => rfl, by rintro _ ⟨⟩⟩⟩

/-- Two acts that relay failures, one after the other, relay them as a whole.  After a failure the
other one is not done, so there is one failure at most. -/
theorem Relays.bind {x : Act Fault (Bench AxiDraw) α} {f : α → Act Fault (Bench AxiDraw) β}
    (hx : Relays x) (hf : ∀ a, Relays (f a)) : Relays (x >>= f) := by
  intro b hb
  obtain ⟨made, new, hbe, hp, hd, hn, h⟩ := hx b hb
  rcases hr : (x b).result with e | a
  · rw [Act.bind_of_error hr]
    refine ⟨made, new, hbe, hp, hd, hn, ?_⟩
    rcases h with ⟨hm, hq, hown⟩ | ⟨c, text, hm, hq, h⟩
    · exact .inl ⟨hm, hq, fun f h => Except.error.inj h ▸ hown e hr⟩
    · obtain rfl := Except.error.inj (hr.symm.trans h)
      exact .inr ⟨c, text, hm, hq, rfl⟩
  · rw [Act.bind_of_ok hr]
    obtain ⟨more, after, hbe', hp', hd', hn', h'⟩ := hf a (x b).state (hbe ▸ hb)
    obtain ⟨hm, hq⟩ : b.device.machine.behaviour.raised b.device.machine.past made = [] ∧
        ∀ last, Deed.refusals last new = [] := by
      rcases h with ⟨hm, hq, -⟩ | ⟨c, text, -, -, h⟩
      · exact ⟨hm, hq⟩
      · rw [hr] at h
        cases h
    -- What the machine raised in the second act depends on the calls of the first one.
    have hraised : b.device.machine.behaviour.raised b.device.machine.past (made ++ more) =
        (x b).state.device.machine.behaviour.raised (x b).state.device.machine.past more := by
      rw [MachineBehaviour.raised_append, hm, hbe, hp]
      rfl
    have hrefusals (last : Option Nat) :
        Deed.refusals last (new ++ after) = Deed.refusals last after := by
      rw [Deed.refusals_append hn, hq]
      rfl
    refine ⟨made ++ more, new ++ after, hbe'.trans hbe, ?_, ?_, ?_, ?_⟩
    · rw [hp', hp, List.append_assoc]
    · rw [hd', hd, List.append_assoc]
    · exact fun d hd => (List.mem_append.1 hd).elim (hn d) (hn' d)
    · simp only [hraised, hrefusals]
      exact h'

/-- An act for each element relays failures as the single acts do. -/
theorem Relays.forEach {l : List α} {f : α → Act Fault (Bench AxiDraw) Unit}
    (h : ∀ a, Relays (f a)) : Relays (Act.forEach l f) := by
  induction l with
  | nil => exact relays_pure ()
  | cons a l ih => exact (h a).bind fun _ => ih

/-- A drawing is obtained without a call of the plotter, and a fault in this is of its own. -/
theorem relays_obtain (p : Params) (source : String) :
    Relays (obtain p source : Act Fault (Bench AxiDraw) String) := by
  unfold obtain
  split
  · refine Relays.bind ?_ fun path => ?_
    · exact relays_of_quiet (fun _ => rfl) (fun _ => rfl) fun b => Web.own_fetch.faults b.site
    · exact Relays.bind (relays_of_quiet (fun _ => rfl) (fun _ => rfl) (by rintro _ _ ⟨⟩))
        fun _ => relays_pure path
  · exact relays_pure source

/-- A drawing is looked into without a call of the plotter, and a fault in this is of its own. -/
theorem relays_inspect (path : String) (anchor : Lexeme) :
    Relays (inspect path anchor : Act Fault (Bench AxiDraw) Unit) := by
  refine relays_get.bind fun b => ?_
  split
  · exact relays_throw ⟨trivial, rfl⟩
  · refine relays_of_quiet (fun _ => Act.state_ofExcept _ _ ▸ rfl)
      (fun _ => Act.state_ofExcept _ _ ▸ rfl) fun _ f h => ?_
    rw [Act.result_ofExcept] at h
    exact Site.own_checkDrawing f h

/-- **Carrying out a command relays a failure of the machine.**  A command is made of calls and of
messages, each of which relays by itself. -/
theorem relays_enact (p : Params) (anchor : Lexeme) (a : Action) :
    Relays (enact p anchor a : Act Fault (Bench AxiDraw) Unit) := by
  cases a with
  | setMode m =>
    refine (relays_setMode m).bind fun _ => ?_
    cases m with
    | plot => exact relays_tell _
    | interactive =>
      refine (relays_ask .enterInteractive).bind fun _ => (relays_ask .currentMode).bind
        fun entered => ?_
      split
      · exact relays_throw ⟨trivial, rfl⟩
      · exact relays_tell _
  | setOptions b settings =>
    refine Relays.bind ?_ fun _ => relays_ask .commitOptions
    exact Relays.forEach fun x : Setting × Value => relays_ask (.set x.1 x.2)
  | getPosition => exact (relays_ask .getPosition).bind fun _ => relays_tell _
  | getPen => exact (relays_ask .getPenDown).bind fun _ => relays_tell _
  | setPlot source =>
    refine (relays_obtain p source).bind fun path => (relays_inspect path anchor).bind fun _ => ?_
    refine (relays_ask (.setupPlot path)).bind fun _ => ?_
    exact relays_of_quiet (fun _ => rfl) (fun _ => rfl) (by rintro _ _ ⟨⟩)
  | plot =>
    refine relays_get.bind fun b => ?_
    split
    · exact relays_ask .runPlot
    · exact relays_throw ⟨trivial, rfl⟩
  | connect | disconnect | penUp | penDown | penToggle | home | goTo | goToRelative | draw | wait =>
    exact relays_ask _

end Bench

namespace Executor

variable {α β : Type} {e : Executor AxiDraw} {word : Lexeme} {rest : List Lexeme} {a : Action}
  {n : Nat} {made more : List MachineCall} {new next : List Deed}
  {told later : List (MachineCall × String)}

/-- What comes of the failures of the machine, where machine calls are made and deeds are noted.
Some failures are told: for each of these, in order, a call of the plotter is refused, and there is
one complaint about the command that made the call.  Then either nothing else fails and no refusal
ends the run, or one more call fails, is passed on and ends it. -/
structure Relayed (e : Executor AxiDraw) (o : Turn AxiDraw α) (made : List MachineCall)
    (new : List Deed) (told : List (MachineCall × String)) : Prop where
  behaviour : o.state.bench.device.machine.behaviour = e.bench.device.machine.behaviour
  past : o.state.bench.device.machine.past = e.bench.device.machine.past ++ made
  deeds : o.state.bench.deeds = e.bench.deeds ++ new
  guarded : ∀ x ∈ told, x.1.exposed = false
  refused : ∀ last, Deed.refusals last new =
    (Deed.quotes new).map fun r => (some r.1, r.2.cause)
  quoted : (Deed.quotes new).map (fun r => r.2.cause) = told.map fun x => .said x.2
  anchored : ∀ r ∈ Deed.quotes new, ∃ x, e.stream.entries[r.1]? = some x ∧ r.2.lexeme = some x
  ending :
    (e.bench.device.machine.behaviour.raised e.bench.device.machine.past made = told ∧
      ∀ f, o.result = .error f → f.Own ∧ ∀ c, f ≠ .command c) ∨
    ∃ c text, c.exposed = true ∧
      e.bench.device.machine.behaviour.raised e.bench.device.machine.past made =
        told ++ [(c, text)] ∧
      o.result = .error (.failure (.runtime text))

/-- Nothing comes of nothing. -/
theorem relayed_of_quiet {o : Turn AxiDraw α} (h : o.state.past = e.past)
    (hf : ∀ f, o.result = .error f → f.Own ∧ ∀ c, f ≠ .command c) : Relayed e o [] [] [] where
  behaviour := congrArg (fun p => p.device.machine.behaviour) h
  past := (congrArg (fun p => p.device.machine.past) h).trans (List.append_nil _).symm
  deeds := (congrArg Past.deeds h).trans (List.append_nil _).symm
  guarded _ hx := absurd hx List.not_mem_nil
  refused _ := rfl
  quoted := rfl
  anchored _ hr := absurd hr List.not_mem_nil
  ending := .inl ⟨rfl, hf⟩

/-- What comes of failures shows in how a run ends and in the state that it leaves. -/
theorem Relayed.congr {o : Turn AxiDraw α} {o' : Turn AxiDraw β} (h : Relayed e o made new told)
    (hs : o'.state = o.state) (hr : ∀ f, o'.result = .error f ↔ o.result = .error f) :
    Relayed e o' made new told := by
  refine ⟨hs ▸ h.behaviour, hs ▸ h.past, hs ▸ h.deeds, h.guarded, h.refused, h.quoted, h.anchored,
    ?_⟩
  simp only [hr]
  exact h.ending

/-- What comes of one part of a run and of the next.  The calls, the notes and the failures of both
parts are joined in order, and only the second part may end with a fault. -/
theorem Relayed.append {o : Turn AxiDraw α} {o' : Turn AxiDraw β}
    (h : Relayed e o made new told) {a : α} (hok : o.result = .ok a)
    (hs : o.state.stream = e.stream) (h' : Relayed o.state o' more next later) :
    Relayed e o' (made ++ more) (new ++ next) (told ++ later) := by
  have hraised : e.bench.device.machine.behaviour.raised e.bench.device.machine.past made = told := by
    rcases h.ending with ⟨hr, -⟩ | ⟨_, _, -, -, hr⟩
    · exact hr
    · rw [hok] at hr
      cases hr
  have hboth : e.bench.device.machine.behaviour.raised e.bench.device.machine.past (made ++ more) =
      told ++ o.state.bench.device.machine.behaviour.raised o.state.bench.device.machine.past
        more := by
    rw [MachineBehaviour.raised_append, hraised, h.behaviour, h.past]
  refine ⟨?_, ?_, ?_, ?_, fun last => ?_, ?_, fun r hr => ?_, ?_⟩
  · rw [h'.behaviour, h.behaviour]
  · rw [h'.past, h.past, List.append_assoc]
  · rw [h'.deeds, h.deeds, List.append_assoc]
  · exact fun x hx => (List.mem_append.1 hx).elim (h.guarded x) (h'.guarded x)
  · simp [Deed.refusals_append_of_forall h'.refused, h.refused]
  · simp [h.quoted, h'.quoted]
  · rw [Deed.quotes_append] at hr
    exact (List.mem_append.1 hr).elim (h.anchored r) fun hr => hs ▸ h'.anchored r hr
  · rw [hboth]
    rcases h'.ending with ⟨hr, hf⟩ | ⟨c, text, hc, hr, hf⟩
    · exact .inl ⟨by rw [hr], hf⟩
    · exact .inr ⟨c, text, hc, by rw [hr, List.append_assoc], hf⟩

/-- A command that a lenient executor does not read.  Its complaint is one of reading, so it quotes
no failure. -/
theorem relayed_recover (hs : e.strict = false) {c : Complaint} (hc : c.cause.Own)
    (ha : e.astray e.index word c = false) :
    Relayed e (e.recover e.index word c) [] [.reported e.index c] [] := by
  have hquotes : Deed.quotes [.reported e.index c] = [] :=
    List.filterMap_cons_none (Deed.quote?_of_own hc)
  have hp := past_recover e e.index word c
  refine ⟨congrArg (fun p => p.device.machine.behaviour) hp,
    (congrArg (fun p => p.device.machine.past) hp).trans (List.append_nil _).symm,
    congrArg Past.deeds hp, fun x hx => absurd hx List.not_mem_nil, fun last => ?_,
    by rw [hquotes]; rfl, fun r hr => ?_, .inl ⟨rfl, fun f h => ?_⟩⟩
  · rw [hquotes]
    rfl
  · rw [hquotes] at hr
    exact absurd hr List.not_mem_nil
  · rw [recover_of_lenient hs ha] at h
    cases h

section Carried

variable {o : Turn AxiDraw α} {b : Bench AxiDraw} {c : MachineCall} {text : String}
  (hbe : b.device.machine.behaviour = e.bench.device.machine.behaviour)
  (hp : b.device.machine.past = e.bench.device.machine.past ++ made)
  (hn : ∀ d ∈ new, d.number? = none)

include hbe hp hn

/-- A command during which no call of the machine fails; it may be complained about. -/
theorem relayed_of_none {m : List Deed}
    (hm : e.bench.device.machine.behaviour.raised e.bench.device.machine.past made = [])
    (hq : ∀ last, Deed.refusals last new = [])
    (ho : o.state.past = ⟨o.state.mode, e.bench.deeds ++ .begun e.index a :: (new ++ m), b.device⟩)
    (ht : m = [] ∨ ∃ c : Complaint, c.cause.Own ∧ m = [.reported e.index c])
    (hf : ∀ f, o.result = .error f → f.Own ∧ ∀ c, f ≠ .command c) :
    Relayed e o made (.begun e.index a :: (new ++ m)) [] := by
  have hdevice : o.state.bench.device = b.device := congrArg Past.device ho
  have hreport : Deed.quotes m = [] ∧ ∀ last, Deed.refusals last m = [] := by
    rcases ht with rfl | ⟨c, hc, rfl⟩
    · exact ⟨rfl, fun _ => rfl⟩
    · exact ⟨List.filterMap_cons_none (Deed.quote?_of_own hc), fun _ => rfl⟩
  have hquotes : Deed.quotes (.begun e.index a :: (new ++ m)) = [] := by
    show Deed.quotes (new ++ m) = []
    rw [Deed.quotes_append, Deed.quotes_of_number? hn, hreport.1]
    rfl
  refine ⟨by rw [hdevice, hbe], by rw [hdevice, hp], congrArg Past.deeds ho,
    fun x hx => absurd hx List.not_mem_nil, fun last => ?_, by rw [hquotes]; rfl, fun r hr => ?_,
    .inl ⟨hm, hf⟩⟩
  · rw [hquotes]
    show Deed.refusals (some e.index) (new ++ m) = []
    rw [Deed.refusals_append hn, hq, hreport.2]
    rfl
  · rw [hquotes] at hr
    exact absurd hr List.not_mem_nil

/-- A command during which a call fails that is passed on. -/
theorem relayed_of_exposed
    (hm : e.bench.device.machine.behaviour.raised e.bench.device.machine.past made = [(c, text)])
    (hq : ∀ last, Deed.refusals last new = []) (hc : c.exposed = true)
    (ho : o.state.past = ⟨o.state.mode, e.bench.deeds ++ .begun e.index a :: new, b.device⟩)
    (hf : o.result = .error (.failure (.runtime text))) :
    Relayed e o made (.begun e.index a :: new) [] := by
  have hdevice : o.state.bench.device = b.device := congrArg Past.device ho
  have hquotes : Deed.quotes (.begun e.index a :: new) = [] := by
    show Deed.quotes new = []
    exact Deed.quotes_of_number? hn
  refine ⟨by rw [hdevice, hbe], by rw [hdevice, hp], congrArg Past.deeds ho,
    fun x hx => absurd hx List.not_mem_nil, fun last => ?_, by rw [hquotes]; rfl, fun r hr => ?_,
    .inr ⟨c, text, hc, hm, hf⟩⟩
  · rw [hquotes]
    exact hq _
  · rw [hquotes] at hr
    exact absurd hr List.not_mem_nil

/-- A command during which a call fails that is guarded: the failure is reported.  It is reported
about the command itself, in the words of the machine. -/
theorem relayed_of_guarded {k : Nat} (hw : e.waiting = word :: rest)
    (hm : e.bench.device.machine.behaviour.raised e.bench.device.machine.past made = [(c, text)])
    (hq : ∀ last, Deed.refusals last new = [(last, .said text)]) (hc : c.exposed = false)
    (ho : o.state.past = ⟨o.state.mode, e.bench.deeds ++ .begun e.index a ::
      (new ++ [.reported e.index ⟨.said text, some word, some k⟩]), b.device⟩)
    (hf : ∀ f, o.result ≠ .error f) :
    Relayed e o made (.begun e.index a ::
      (new ++ [.reported e.index ⟨.said text, some word, some k⟩])) [(c, text)] := by
  have hdevice : o.state.bench.device = b.device := congrArg Past.device ho
  have hword : e.stream.entries[e.index]? = some word := by
    have hdrop : e.stream.entries.drop e.index = word :: rest := hw
    rw [← List.head?_drop, hdrop]
    rfl
  have hquotes : Deed.quotes (.begun e.index a ::
      (new ++ [.reported e.index ⟨.said text, some word, some k⟩])) =
        [(e.index, ⟨.said text, some word, some k⟩)] := by
    show Deed.quotes (new ++ _) = _
    rw [Deed.quotes_append, Deed.quotes_of_number? hn]
    rfl
  refine ⟨by rw [hdevice, hbe], by rw [hdevice, hp], congrArg Past.deeds ho, fun x hx => ?_,
    fun last => ?_, by rw [hquotes]; rfl, fun r hr => ?_, .inl ⟨hm, fun f h => absurd h (hf f)⟩⟩
  · obtain rfl := List.mem_singleton.1 hx
    exact hc
  · rw [hquotes]
    show Deed.refusals (some e.index) (new ++ _) = _
    rw [Deed.refusals_append hn, hq]
    rfl
  · rw [hquotes] at hr
    obtain rfl := List.mem_singleton.1 hr
    exact ⟨word, hword, rfl⟩

end Carried

/-- What is reported of a command that was carried out. -/
theorem past_after_recover (t : Executor AxiDraw) (es : List Event) (n : Nat) (word : Lexeme)
    (c : Complaint) : (Executor.after es (t.recover n word c)).state.past =
      ⟨(t.recover n word c).state.mode, t.bench.deeds ++ [.reported n c], t.bench.device⟩ := by
  have h := past_recover t n word c
  exact h.trans (congrArg (Past.mk · _ _) (congrArg Past.mode h).symm)

/-- **A command relays the failures of the machine.**  A guarded failure is reported at the
command, with the words of the machine, and the run goes on; an exposed one ends the run and is
not reported. -/
theorem relayed_carryOut (hs : e.strict = false) (hb : e.bench.device.machine.behaviour.Plain)
    (hw : e.waiting = word :: rest) (a : Action) (hpos : 0 < n) (hle : n ≤ rest.length + 1) :
    ∃ made new told, Relayed e (e.carryOut word a n) made new told := by
  obtain ⟨es, he⟩ := carryOut_eq e word a n
  obtain ⟨made, new, hbe, hp, hd, hn, h⟩ := Bench.relays_enact e.params word a (e.begun a) hb
  rw [he]
  generalize Bench.enact e.params word a (e.begun a) = o at hbe hp hd h ⊢
  have hd (m : List Deed) :
      o.state.deeds ++ m = e.bench.deeds ++ .begun e.index a :: (new ++ m) := by
    rw [hd]
    show (e.bench.deeds ++ [.begun e.index a] ++ new) ++ m = _
    rw [List.append_assoc, List.append_assoc]
    rfl
  have hend : o.state.deeds = e.bench.deeds ++ .begun e.index a :: (new ++ []) := by
    rw [← hd, List.append_nil]
  -- A complaint that names no lexeme, or the last one of the command, is never a fault here.
  have hrecover {c : Complaint} (f : Fault)
      (hc : c.index = none ∨ c.index = some ((e.index + n - 1 : Nat) : Int)) :
      (Executor.after es ((e.passed n o.state).recover e.index word c)).result ≠ .error f := by
    have hlen := length_waiting hw
    have hlt : blamed e.index c < (e.passed n o.state).stream.size :=
      (blamed_lt hpos hc).trans_le (by show e.index + n ≤ e.stream.size; omega)
    rw [recover_of_lenient (e := e.passed n o.state) hs (astray_of_lt hlt word)]
    rintro ⟨⟩
  have hpast (c : Complaint) := (past_after_recover (e.passed n o.state) es e.index word c).trans
    (congrArg (Past.mk _ · _) (hd [.reported e.index c]))
  -- No machine call failed, or exactly one did.
  rcases h with ⟨hm, hq, hown⟩ | ⟨c, text, hm, hq, hr⟩
  · have hfault (f : Fault) (hf : f.Own ∧ ∀ c, f ≠ .command c) : Relayed e
        (⟨.error f, es, e.passed n o.state⟩ : Turn AxiDraw Step) made
        (.begun e.index a :: (new ++ [])) [] :=
      relayed_of_none (b := o.state) hbe hp hn hm hq (congrArg (Past.mk _ · _) hend) (.inl rfl)
        fun f' h => Except.error.inj h ▸ hf
    rcases hr : o.result with f | u
    · have hf := hown f hr
      rcases f with ⟨grade, c⟩ | _ | f
      · cases grade with
        | device => exact hf.elim
        | command =>
          exact ⟨made, _, [], relayed_of_none (b := o.state) hbe hp hn hm hq (hpast c)
            (.inr ⟨c, hf.1, rfl⟩) fun f h => absurd h (hrecover f (.inl hf.2))⟩
        | general | fatal => exact ⟨made, _, [], hfault _ ⟨hf, by rintro _ ⟨⟩⟩⟩
      · exact hf.elim
      · exact ⟨made, _, [], hfault _ ⟨hf, by rintro _ ⟨⟩⟩⟩
    · exact ⟨made, _, [], relayed_of_none (b := o.state) hbe hp hn hm hq
        (congrArg (Past.mk _ · _) hend) (.inl rfl) (by rintro _ ⟨⟩)⟩
  · rw [hr]
    rcases hc : c.exposed with _ | _
    · have hrefusal : c.refusal text = .complaint .device (.said text) none := by
        rw [MachineCall.refusal, hc]
        rfl
      rw [hrefusal]
      refine ⟨made, _, _, relayed_of_guarded (b := o.state) (k := e.index + n - 1) hbe hp hn hw hm
        (fun last => ?_) hc (hpast _) fun f => hrecover f (.inr rfl)⟩
      rw [hq, MachineCall.noted, hc]
      rfl
    · have hrefusal : c.refusal text = .failure (.runtime text) := by
        rw [MachineCall.refusal, hc]
        rfl
      rw [hrefusal]
      refine ⟨made, _, [], relayed_of_exposed (b := o.state) hbe hp hn hm (fun last => ?_) hc
        (congrArg (Past.mk _ · _) (hend.trans (by rw [List.append_nil]))) rfl⟩
      rw [hq, MachineCall.noted, hc]
      rfl

/-- **A step relays the failures of the machine.**  What is not read asks nothing of the machine,
and what is read is carried out. -/
theorem relayed_step (hs : e.strict = false) (hb : e.bench.device.machine.behaviour.Plain)
    (hw : e.waiting = word :: rest) : ∃ made new told,
      Relayed e (e.step word rest) made new told := by
  unfold step
  split
  · exact ⟨[], [], [], relayed_of_quiet (past_skip e _) (by rintro _ ⟨⟩)⟩
  · unfold command
    have hread := @Reader.own_read e.mode word rest e.mayGrow
    generalize hr : Reader.read e.mode e.mayGrow word rest = r at hread ⊢
    obtain ⟨warnings, result⟩ := r
    rcases result with (⟨cause, x, offset⟩ | f | _) | ⟨a, n⟩
    · exact ⟨[], _, [], (relayed_recover (c := ⟨cause, some x, some (e.index + offset)⟩) hs
        (hread _ rfl) (astray_of_wrong hw (congrArg _ hr))).congr rfl fun _ => .rfl⟩
    · exact ⟨[], [], [], relayed_of_quiet rfl fun f' h =>
        Except.error.inj h ▸ ⟨hread _ rfl, by rintro _ ⟨⟩⟩⟩
    · exact ⟨[], [], [], relayed_of_quiet rfl (by rintro _ ⟨⟩)⟩
    · obtain ⟨hpos, hle⟩ := Reader.taken_read (congrArg Reader.Reading.result hr)
      obtain ⟨made, new, told, h⟩ := relayed_carryOut hs hb hw a hpos hle
      exact ⟨made, new, told, h.congr rfl fun _ => .rfl⟩

/-- **A run relays the failures of the machine.**  The induction is on the run: the first step
relays, and so does the rest. -/
theorem relayed_run (hs : e.strict = false) (hb : e.bench.device.machine.behaviour.Plain) :
    ∃ made new told, Relayed e e.run made new told := by
  fun_induction run e with
  | case1 e hw => exact ⟨[], [], [], relayed_of_quiet rfl (by rintro _ ⟨⟩)⟩
  | case2 e word rest hw f es t hr =>
    obtain ⟨made, new, told, h⟩ := relayed_step hs hb hw
    rw [hr] at h
    exact ⟨made, new, told, h.congr rfl fun f' => by simp⟩
  | case3 e word rest hw es t hr =>
    obtain ⟨made, new, told, h⟩ := relayed_step hs hb hw
    rw [hr] at h
    exact ⟨made, new, told, h.congr rfl fun f => by simp⟩
  | case4 e word rest hw l es t hr _ o ih =>
    obtain ⟨made, new, told, h⟩ := relayed_step hs hb hw
    have hf := frame_step e word rest
    rw [hr] at h hf
    obtain ⟨more, next, later, h'⟩ := ih (hf.strict.trans hs) (h.behaviour ▸ hb)
    refine ⟨made ++ more, new ++ next, told ++ later,
      (h.append rfl hf.stream h').congr rfl fun f => ?_⟩
    rcases ho : o.result with g | k
    · simp [Except.map]
    · simp [Except.map]

/-- **A text that is parsed relays the failures of the machine.** -/
theorem relayed_parse (hs : e.strict = false) (hb : e.bench.device.machine.behaviour.Plain)
    (l : List Lexeme) : ∃ made new told, Relayed { e with stream := (e.stream.extend l).2 }
      (e.parse l) made new told := by
  have hown := @Stream.own_extend e.stream l
  unfold parse
  rcases hx : e.stream.extend l with ⟨r, stream⟩
  rw [hx] at hown
  rcases r with f | u
  · refine ⟨[], [], [], relayed_of_quiet rfl fun f' h => Except.error.inj h ▸ ⟨hown _ rfl, ?_⟩⟩
    rintro _ ⟨⟩
  · exact relayed_run (e := { e with stream := stream }) hs hb

/-- **Which failures of the machine are refusals.**  In every call of an AxiDraw at most one machine
call fails; then the AxiDraw refuses the call, with the words of the machine, if the machine call is
guarded, and passes the failure on if it is exposed.  So whatever a lenient executor is given, all
failures but one that is exposed are reported at the commands during which they came, one complaint
for each, and no refusal ends the run; and a failure escapes exactly if an exposed call fails. -/
theorem machine_failures (d : AxiDraw) (c : Call) (hs : e.strict = false)
    (hb : e.bench.device.machine.behaviour.Plain) (l : List Lexeme) :
    (∃ made, (Device.perform c d).state.machine.past = d.machine.past ++ made ∧
      ((d.machine.behaviour.raised d.machine.past made = [] ∧
        ∀ text, (Device.perform c d).result ≠ .error (.failure (.runtime text))) ∨
      ∃ mc text, d.machine.behaviour.raised d.machine.past made = [(mc, text)] ∧
        (Device.perform c d).result = .error (mc.refusal text))) ∧
    ∃ made new told, Relayed { e with stream := (e.stream.extend l).2 } (e.parse l) made new told ∧
      ((∃ text, (e.parse l).result = .error (.failure (.runtime text))) ↔
        ∃ x ∈ e.bench.device.machine.behaviour.raised e.bench.device.machine.past made,
          x.1.exposed = true) := by
  constructor
  · have hother : AxiDraw.Other fun r => ∀ text, r ≠ .failure (.runtime text) :=
      ⟨fun text h => h text rfl, by rintro _ ⟨⟩, by rintro _ _ ⟨⟩⟩
    obtain ⟨made, -, hp, h⟩ := AxiDraw.tells_perform hother c d fun past c r _ =>
      (em (∃ text, r = .failure (.runtime text))).imp_right not_exists.1
    refine ⟨made, hp, h.imp (fun ⟨hm, hr⟩ => ⟨hm, fun text h => hr _ h text rfl⟩) ?_⟩
    rintro ⟨mc, text, r, rfl, hm, hr⟩
    exact ⟨mc, text, hm, hr⟩
  · obtain ⟨made, new, told, h⟩ := relayed_parse hs hb l
    refine ⟨made, new, told, h, ?_⟩
    rcases h.ending with ⟨hm, hf⟩ | ⟨mc, text, hc, hm, hr⟩
    · constructor
      · rintro ⟨text, hr⟩
        exact (hf _ hr).1.elim
      · rintro ⟨x, hx, hc⟩
        have hm : e.bench.device.machine.behaviour.raised e.bench.device.machine.past made = told :=
          hm
        rw [hm] at hx
        rw [h.guarded x hx] at hc
        cases hc
    · refine ⟨fun _ => ⟨(mc, text), ?_, hc⟩, fun _ => ⟨text, hr⟩⟩
      have hm : e.bench.device.machine.behaviour.raised e.bench.device.machine.past made =
        told ++ [(mc, text)] := hm
      rw [hm]
      exact List.mem_append_right _ (List.mem_singleton_self _)

end Executor

/-- What a call that succeeds is answered by, if nothing moves and the pen is up. -/
def MachineCall.done : (c : MachineCall) → c.Answer
  | connect | currentPen => true
  | currentPosition => (.int 0, .int 0)
  | plotRun => []
  | interactive | disconnect | penUp | penDown | moveTo _ _ | move _ _ | lineTo _ _ | delay _
  | update | plotSetup _ => ()

/-- A machine of which one call fails whenever it is made. -/
def MachineBehaviour.failing (bad : MachineCall) (text : String) : MachineBehaviour where
  answer _ c := if c = bad then .error (.failure (.runtime text)) else .ok c.done
  hasOptions := true
  tellsMode := true

/-- A machine of which one call fails fails in no other way than at run time. -/
theorem MachineBehaviour.plain_failing (bad : MachineCall) (text : String) :
    (failing bad text).Plain := by
  intro past c r h
  unfold failing at h
  simp only at h
  split at h
  · exact ⟨text, (Except.error.inj h).symm⟩
  · cases h

namespace Executor

/-- A lenient executor before the first run, with a machine of which one call fails. -/
def withFailing (bad : MachineCall) (text : String) : Executor AxiDraw :=
  start false .standard (.start (.failing bad text)) .bare

/-- Where the pen cannot be lowered, the command that toggles it is complained about, and the next
line is carried out: the failure is told, and none escapes. -/
theorem machine_failures_penDown :
    ((withFailing .penDown "stalled").parse
      (Lexer.reading ["MODE I", "PENTOGGLE", "PENUP"] none).tokens.1).result.toOption.map
        (List.map Complaint.cause) = some [.said "stalled"] ∧
    ∃ made new told, Relayed { withFailing .penDown "stalled" with
        stream := ((withFailing .penDown "stalled").stream.extend
          (Lexer.reading ["MODE I", "PENTOGGLE", "PENUP"] none).tokens.1).2 }
      ((withFailing .penDown "stalled").parse
        (Lexer.reading ["MODE I", "PENTOGGLE", "PENUP"] none).tokens.1) made new told :=
  ⟨by decide +kernel,
    have ⟨made, new, told, h, _⟩ := (machine_failures (withFailing .penDown "stalled").bench.device
      .penToggle rfl (MachineBehaviour.plain_failing .penDown "stalled") _).2
    ⟨made, new, told, h⟩⟩

/-- Where the machine fails to connect, no command is blamed, and the next line is lost. -/
theorem machine_failures_connect :
    ((withFailing .connect "no usb").parse
      (Lexer.reading ["MODE I", "CONNECT", "PENUP"] none).tokens.1).result =
        .error (.failure (.runtime "no usb")) ∧
    Deed.calls ((withFailing .connect "no usb").parse
      (Lexer.reading ["MODE I", "CONNECT", "PENUP"] none).tokens.1).state.bench.deeds =
        [.enterInteractive, .currentMode, .connect] :=
  ⟨by decide +kernel, by decide +kernel⟩

end Executor
end PlotScript
