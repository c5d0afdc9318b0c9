/-
# What carrying out a command leaves

Every command is a fixed list of calls (`Action.calls`), made one after the other in one mode until
one of them is refused (`askAll`).  `enacted_enact` says so for all commands at once: only the
command that sets the mode changes it, before its first call, and what is noted is that change and
then the calls.  Getting hold of a drawing comes before its calls and makes none; what it may come
to is listed by `Obtained`.
-/

import PlotScript.Bench
import PlotScript.Proofs.Act

namespace PlotScript
namespace Action

/-- The calls that a command stands for, if its drawing is at hand. -/
def calls : Action → List Call
  | setMode .interactive => [.enterInteractive, .currentMode]
  | setMode .plot => []
  | setOptions _ settings => settings.map (fun x => .set x.1 x.2) ++ [.commitOptions]
  | connect => [.connect]
  | disconnect => [.disconnect]
  | penUp => [.penUp]
  | penDown => [.penDown]
  | penToggle => [.penToggle]
  | home => [.home]
  | goTo x y => [.goTo x y]
  | goToRelative x y => [.goToRelative x y]
  | draw path => [.drawPath path]
  | wait time => [.wait time]
  | getPosition => [.getPosition]
  | getPen => [.getPenDown]
  | setPlot source => [.setupPlot source]
  | plot => [.runPlot]

/-- The lists of calls that a command can lead to.  A drawing from the web is set up from the path
where it was stored, and without a drawing there is no call. -/
inductive MayCall : Action → List Call → Prop
  | all (a : Action) : MayCall a a.calls
  | stored (source path : String) : MayCall (setPlot source) [.setupPlot path]
  | noDrawing (source : String) : MayCall (setPlot source) []
  | notLoaded : MayCall plot []

/-- The mode after a command. -/
def modeAfter (mode : Option Mode) : Action → Option Mode
  | setMode m => some m
  | _ => mode

/-- The change of the mode that a command makes, as it is noted. -/
def modeDeeds : Action → List Deed
  | setMode m => [.modeSet m]
  | _ => []

/-- Setting the mode is no call. -/
@[simp] theorem calls_modeDeeds (a : Action) : Deed.calls a.modeDeeds = [] := by cases a <;> rfl

/-- Setting the mode is no complaint. -/
@[simp]
theorem complaints_modeDeeds (a : Action) : Deed.complaints a.modeDeeds = [] := by cases a <;> rfl

/-- What a command notes of the mode is that it is set. -/
theorem exists_of_mem_modeDeeds {a : Action} {d : Deed} (h : d ∈ a.modeDeeds) :
    ∃ m, d = .modeSet m := by
  cases a with
  | setMode m => exact ⟨m, List.mem_singleton.1 h⟩
  | _ => cases h

end Action

section Device

variable {σ : Type} [Device σ]

/-- Calls made one after the other in a mode, up to the first that is refused: what is noted, and
the plotter after them. -/
def askAll (mode : Option Mode) : List Call → σ → List Deed × σ
  | [], d => ([], d)
  | c :: cs, d =>
    match (Device.perform c d).result with
    | .error r => ([.asked mode c (.error r)], (Device.perform c d).state)
    | .ok a =>
      let o := askAll mode cs (Device.perform c d).state
      (.asked mode c (.ok a) :: o.1, o.2)

variable {mode : Option Mode}

/-- A call that is refused is the last one that is made. -/
theorem askAll_of_error {c : Call} {d : σ} {r : Refusal}
    (h : (Device.perform c d).result = .error r) (cs : List Call) :
    askAll mode (c :: cs) d = ([.asked mode c (.error r)], (Device.perform c d).state) := by
  rw [askAll, h]

/-- After a call that is answered, the others are made. -/
theorem askAll_of_ok {c : Call} {d : σ} {a : c.Answer}
    (h : (Device.perform c d).result = .ok a) (cs : List Call) :
    askAll mode (c :: cs) d =
      (.asked mode c (.ok a) :: (askAll mode cs (Device.perform c d).state).1,
        (askAll mode cs (Device.perform c d).state).2) := by
  rw [askAll, h]

/-- A single call is noted with its answer, be it a refusal or not. -/
@[simp] theorem askAll_singleton (c : Call) (d : σ) :
    (askAll mode [c] d).1 = [.asked mode c (Device.perform c d).result] := by
  rcases h : (Device.perform c d).result with r | a
  · rw [askAll_of_error h]
  · rw [askAll_of_ok h]
    rfl

/-- All that is noted is that calls were made in the mode. -/
theorem asked_of_mem_askAll {cs : List Call} {d : σ} {x : Deed} (h : x ∈ (askAll mode cs d).1) :
    ∃ c r, x = .asked mode c r ∧ c ∈ cs := by
  induction cs generalizing d with
  | nil => cases h
  | cons c cs ih =>
    rcases hr : (Device.perform c d).result with r | a
    · rw [askAll_of_error hr] at h
      obtain rfl := List.mem_singleton.1 h
      exact ⟨c, _, rfl, List.mem_cons_self⟩
    · rw [askAll_of_ok hr] at h
      rcases List.mem_cons.1 h with rfl | h
      · exact ⟨c, _, rfl, List.mem_cons_self⟩
      · obtain ⟨c', r, rfl, hc⟩ := ih h
        exact ⟨c', r, rfl, List.mem_cons_of_mem _ hc⟩

/-- The calls made are the first of the list. -/
theorem calls_askAll_isPrefix (cs : List Call) (d : σ) :
    Deed.calls (askAll mode cs d).1 <+: cs := by
  induction cs generalizing d with
  | nil => exact List.nil_prefix
  | cons c cs ih =>
    rcases hr : (Device.perform c d).result with r | a
    · rw [askAll_of_error hr]
      exact ⟨cs, rfl⟩
    · rw [askAll_of_ok hr]
      exact List.cons_prefix_cons.2 ⟨rfl, ih _⟩

/-- Calls set no mode, as far as the notes say. -/
@[simp] theorem modes_askAll (cs : List Call) (d : σ) : Deed.modes (askAll mode cs d).1 = [] := by
  refine List.filterMap_eq_nil_iff.2 fun x hx => ?_
  obtain ⟨c, r, rfl, -⟩ := asked_of_mem_askAll hx
  rfl

/-- Calls that are refused are not yet complained about. -/
@[simp] theorem complaints_askAll (cs : List Call) (d : σ) :
    Deed.complaints (askAll mode cs d).1 = [] := by
  refine List.filterMap_eq_nil_iff.2 fun x hx => ?_
  obtain ⟨c, r, rfl, -⟩ := asked_of_mem_askAll hx
  rfl

end Device

namespace Bench

variable {σ : Type}

variable [Device σ]

/-- From one bench to another, calls are made one after the other in one mode. -/
structure Asks (cs : List Call) (b t : Bench σ) : Prop where
  mode : t.mode = b.mode
  deeds : t.deeds = b.deeds ++ (askAll b.mode cs b.device).1
  device : t.device = (askAll b.mode cs b.device).2

/-- Where neither the mode nor the notes nor the plotter change, no call is made. -/
theorem asks_nil {b t : Bench σ} (hm : t.mode = b.mode) (hd : t.deeds = b.deeds)
    (hp : t.device = b.device) : Asks [] b t := ⟨hm, hd.trans (List.append_nil _).symm, hp⟩

/-- What is done before the calls may be left out if it is not noted. -/
theorem Asks.of_quiet {b t u : Bench σ} {cs : List Call} (h : Asks [] b t) (hu : Asks cs t u) :
    Asks cs b u := by
  have hm : t.mode = b.mode := h.mode
  have hd : t.deeds = b.deeds := h.deeds.trans (List.append_nil _)
  have hp : t.device = b.device := h.device
  exact ⟨hu.mode.trans hm, by rw [hu.deeds, hd, hm, hp], by rw [hu.device, hm, hp]⟩

/-- What carrying out a command makes of a bench. -/
structure Enacted (a : Action) (cs : List Call) (b t : Bench σ) : Prop where
  mode : t.mode = a.modeAfter b.mode
  deeds : t.deeds = b.deeds ++ a.modeDeeds ++ (askAll t.mode cs b.device).1
  device : t.device = (askAll t.mode cs b.device).2

/-- A command that leaves the mode is a list of calls. -/
theorem Enacted.of_asks {a : Action} {b t : Bench σ} (ha : a.modeAfter b.mode = b.mode)
    (hd : a.modeDeeds = []) {cs : List Call} (h : Asks cs b t) : Enacted a cs b t :=
  ⟨h.mode.trans ha.symm, by rw [hd, List.append_nil, h.mode, h.deeds], by rw [h.mode, h.device]⟩

/-- What getting hold of a drawing comes to: it is at hand, or it is fetched, and kept in mind as
a download if the fetch succeeds.  The files, the pages and the downloads are all that changes. -/
inductive Obtained (p : Params) (source : String) (b : Bench σ) :
    Outcome Fault (Bench σ) String → Prop
  | atHand : Web.isUrl source = false → Obtained p source b ⟨.ok source, [], b⟩
  | fetched {path : String} {es : List Event} {s : Site} : Web.isUrl source = true →
    Web.fetch p source b.site = ⟨.ok path, es, s⟩ →
    Obtained p source b ⟨.ok path, es, { b with site := s, downloads := b.downloads ++ [path] }⟩
  | failed {f : Fault} {es : List Event} {s : Site} : Web.isUrl source = true →
    Web.fetch p source b.site = ⟨.error f, es, s⟩ →
    Obtained p source b ⟨.error f, es, { b with site := s }⟩

omit [Device σ] in
/-- What is done on the site leaves the rest of the bench. -/
theorem onSite_eq {α : Type} {x : Act Fault Site α} {b : Bench σ} {r : Except Fault α}
    {es : List Event} {s : Site} (h : x b.site = ⟨r, es, s⟩) :
    onSite x b = ⟨r, es, { b with site := s }⟩ := by
  unfold onSite Act.on
  simp only [h]

omit [Device σ] in
/-- **Getting hold of a drawing comes to one of these.** -/
theorem obtained (p : Params) (source : String) (b : Bench σ) :
    Obtained p source b (obtain p source b) := by
  unfold obtain
  split
  · rename_i hu
    rcases ho : Web.fetch p source b.site with ⟨f | path, es, s⟩
    · have hsite := onSite_eq (b := b) ho
      rw [Act.bind_of_error (congrArg Outcome.result hsite), hsite]
      exact .failed hu ho
    · have hsite := onSite_eq (b := b) ho
      rw [Act.bind_of_ok (congrArg Outcome.result hsite), hsite]
      have hfetched := Obtained.fetched hu ho
      rwa [← List.append_nil es] at hfetched
  · rename_i hu
    exact .atHand (Bool.eq_false_iff.2 hu)

/-- Getting hold of a drawing makes no call. -/
theorem asks_obtain (p : Params) (source : String) (b : Bench σ) :
    Asks [] b (obtain p source b).state := by
  have ho := obtained p source b
  generalize obtain p source b = o at ho ⊢
  cases ho <;> exact asks_nil rfl rfl rfl

omit [Device σ] in
/-- Looking into a drawing changes nothing. -/
theorem state_inspect (path : String) (anchor : Lexeme) (b : Bench σ) :
    (inspect path anchor b).state = b := by
  show ((if _ then _ else _ : Act Fault (Bench σ) Unit) b).state = b
  split
  · rfl
  · exact Act.state_ofExcept _ _

/-- A call is noted with the mode and the answer. -/
@[simp] theorem deeds_ask (c : Call) (b : Bench σ) : (ask c b).state.deeds =
    b.deeds ++ [.asked b.mode c (Device.perform c b.device).result] := rfl

/-- A call leaves the plotter as the plotter itself says. -/
@[simp] theorem device_ask (c : Call) (b : Bench σ) :
    (ask c b).state.device = (Device.perform c b.device).state := rfl

/-- A call comes to what the plotter answers, with its refusal as a fault. -/
@[simp] theorem result_ask (c : Call) (b : Bench σ) :
    (ask c b).result = (Device.perform c b.device).result.mapError Refusal.toFault := rfl

/-- A call, and then an act that makes some calls, make them in this order. -/
theorem asks_ask_bind {α : Type} (c : Call) (f : c.Answer → Act Fault (Bench σ) α) (b : Bench σ)
    {cs : List Call} (h : ∀ a t, Asks cs t (f a t).state) :
    Asks (c :: cs) b ((ask c >>= f) b).state := by
  have hd := deeds_ask c b
  have hr := result_ask c b
  rcases hp : (Device.perform c b.device).result with r | a
  · rw [hp] at hd hr
    rw [Act.bind_of_error hr]
    refine ⟨rfl, ?_, ?_⟩
    · rw [hd, askAll_of_error hp]
    · simp [askAll_of_error hp]
  · rw [hp] at hd hr
    rw [Act.bind_of_ok hr]
    obtain ⟨hm, he, hv⟩ := h a (ask c b).state
    refine ⟨hm, ?_, ?_⟩
    · rw [he, hd, List.append_assoc, askAll_of_ok hp]
      rfl
    · rw [hv, askAll_of_ok hp]
      rfl

/-- A call and then nothing that is noted. -/
theorem asks_ask (c : Call) (b : Bench σ) : Asks [c] b (ask c b).state := by
  have h := asks_ask_bind c (fun _ => (pure () : Act Fault (Bench σ) Unit)) b
    fun a t => asks_nil (b := t) rfl rfl rfl
  rcases hr : (ask c b).result with r | a
  · rwa [Act.bind_of_error hr] at h
  · rwa [Act.bind_of_ok hr] at h

/-- A block asks for its settings one by one and then for the commit, up to the first call that is
refused. -/
theorem asks_forEach (settings : List (Setting × Value)) (b : Bench σ) :
    Asks (settings.map (fun x => .set x.1 x.2) ++ [.commitOptions]) b
      (((Act.forEach settings fun x => ask (.set x.1 x.2)) >>= fun _ => ask .commitOptions)
        b).state := by
  induction settings generalizing b with
  | nil => exact asks_ask .commitOptions b
  | cons x r ih =>
    rw [Act.forEach_cons, Act.bind_assoc]
    exact asks_ask_bind (.set x.1 x.2) _ b fun _ t => ih t

/-- Setting a mode is noted before the plotter is called, so the mode stays set if the plotter
refuses. -/
theorem enacted_setMode (p : Params) (anchor : Lexeme) (m : Mode) (b : Bench σ) :
    Enacted (.setMode m) (Action.setMode m).calls b (enact p anchor (.setMode m) b).state := by
  suffices h : Asks (Action.setMode m).calls (b.setMode m)
      (enact p anchor (.setMode m) b).state by
    have hm : (enact p anchor (.setMode m) b).state.mode = some m := h.mode
    exact ⟨hm, by rw [hm, h.deeds]; rfl, by rw [hm, h.device]; rfl⟩
  rw [enact, Act.modify_bind]
  cases m with
  | plot => exact asks_nil rfl rfl rfl
  | interactive =>
    refine asks_ask_bind _ _ _ fun _ t => asks_ask_bind _ _ t fun entered u => ?_
    split
    · exact asks_nil rfl rfl rfl
    · exact asks_nil rfl rfl rfl

/-- A command for a drawing sets it up from where it is found or stored, or makes no call. -/
theorem enacted_setPlot (p : Params) (anchor : Lexeme) (source : String) (b : Bench σ) :
    ∃ cs, (Action.setPlot source).MayCall cs ∧
      Enacted (.setPlot source) cs b (enact p anchor (.setPlot source) b).state := by
  have ho := asks_obtain p source b
  rw [enact]
  rcases hr : (obtain p source b).result with f | path
  · rw [Act.bind_of_error hr]
    exact ⟨_, .noDrawing source, .of_asks rfl rfl ho⟩
  · rw [Act.bind_of_ok hr]
    have hi := state_inspect path anchor (obtain p source b).state
    rcases hc : (inspect path anchor (obtain p source b).state).result with f | u
    · rw [Act.bind_of_error hc, hi]
      exact ⟨_, .noDrawing source, .of_asks rfl rfl ho⟩
    · rw [Act.bind_of_ok hc, hi]
      have hs := asks_ask_bind (.setupPlot path)
        (fun _ => (Act.modify fun b => { b with plotLoaded := true } : Act Fault (Bench σ) Unit))
        (obtain p source b).state fun _ t => asks_nil (b := t) rfl rfl rfl
      exact ⟨_, .stored source path, .of_asks rfl rfl (ho.of_quiet hs)⟩

/-- Plotting asks the plotter if a drawing was set up, and else is complained about. -/
theorem enact_plot (p : Params) (anchor : Lexeme) (b : Bench σ) : enact p anchor .plot b =
    (if b.plotLoaded then ask .runPlot
      else .throw (.command (.about .plotNotLoaded anchor)) : Act Fault (Bench σ) Unit) b := rfl

/-- **What carrying out a command makes of a bench.** -/
theorem enacted_enact (p : Params) (anchor : Lexeme) (a : Action) (b : Bench σ) :
    ∃ cs, a.MayCall cs ∧ Enacted a cs b (enact p anchor a b).state := by
  cases a with
  | setMode m => exact ⟨_, .all _, enacted_setMode p anchor m b⟩
  | setOptions k settings => exact ⟨_, .all _, .of_asks rfl rfl (asks_forEach settings b)⟩
  | setPlot source => exact enacted_setPlot p anchor source b
  | getPosition | getPen =>
    exact ⟨_, .all _, .of_asks rfl rfl (asks_ask_bind _ _ b fun _ _ => asks_nil rfl rfl rfl)⟩
  | plot =>
    by_cases h : b.plotLoaded = true
    · rw [enact_plot, if_pos h]
      exact ⟨_, .all _, .of_asks rfl rfl (asks_ask _ b)⟩
    · rw [enact_plot, if_neg h]
      exact ⟨_, .notLoaded, .of_asks rfl rfl (asks_nil rfl rfl rfl)⟩
  | connect | disconnect | penUp | penDown | penToggle | home | goTo | goToRelative | draw | wait =>
    exact ⟨_, .all _, .of_asks rfl rfl (asks_ask _ b)⟩

end Bench
end PlotScript
