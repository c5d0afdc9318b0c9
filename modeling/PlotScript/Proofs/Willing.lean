/-
# Commands with a willing plotter

A willing plotter answers every call and shakes hands.  With such a plotter a valid command makes
all the calls that it stands for (`done_enact`); a command that is permitted but lacks its drawing
makes none (`enact_setPlot_of_not_isDrawing`).
-/

import PlotScript.Proofs.Conduct
import PlotScript.Proofs.Handshake
import PlotScript.Proofs.Reference

namespace PlotScript

section Device

variable {σ : Type} [Device σ]

/-- A plotter after some calls. -/
def Device.afterAll (d : σ) (cs : List Call) : σ :=
  cs.foldl (fun d c => (Device.perform c d).state) d

/-- A plotter that refuses what it is asked only in ways of one sort, whatever it was asked
before. -/
def Device.Refuses (R : Refusal → Prop) (d : σ) : Prop :=
  ∀ cs c r, (Device.perform c (Device.afterAll d cs)).result = .error r → R r

namespace Device.Refuses

variable {R : Refusal → Prop} {d : σ}

/-- A plotter goes on to refuse only in these ways after one more call. -/
theorem next (h : Refuses R d) (c : Call) : Refuses R (Device.perform c d).state :=
  fun cs => h (c :: cs)

/-- A plotter goes on to refuse only in these ways after a row of calls, which ends at the first
refusal. -/
theorem askAll (h : Refuses R d) (mode : Option Mode) (cs : List Call) :
    Refuses R (askAll mode cs d).2 := by
  induction cs generalizing d with
  | nil => exact h
  | cons c cs ih =>
    rcases hr : (Device.perform c d).result with r | a
    · rw [askAll_of_error hr]
      exact h.next c
    · rw [askAll_of_ok hr]
      exact ih (h.next c)

/-- A plotter goes on to refuse only in these ways. -/
theorem of_leads {p q : Past σ} (h : Refuses R p.device) (hl : Past.Leads p q) :
    Refuses R q.device := by
  induction hl with
  | refl => exact h
  | tail _ hs ih =>
    cases hs with
    | reported => exact ih
    | enacted => exact ih.askAll _ _

end Device.Refuses

/-- A plotter refuses some call in this way, at some time. -/
def Device.Gives (d : σ) (r : Refusal) : Prop :=
  ∃ cs c, (Device.perform c (Device.afterAll d cs)).result = .error r

/-- A plotter refuses only in the ways in which it does refuse some call at some time. -/
theorem Device.refuses_gives (d : σ) : Device.Refuses (Device.Gives d) d :=
  fun cs c _ h => ⟨cs, c, h⟩

/-- A call ends with no other faults than the plotter's refusals. -/
theorem Bench.confined_ask {R : Refusal → Prop} {F : Fault → Prop} (h : ∀ r, R r → F r.toFault)
    (c : Call) : Act.Confined (fun b : Bench σ => Device.Refuses R b.device) F (ask c) := by
  intro b hb
  refine ⟨fun f hf => ?_, ?_⟩
  · rw [result_ask] at hf
    rcases hr : (Device.perform c b.device).result with r | a
    · rw [hr] at hf
      exact Except.error.inj hf ▸ h r (hb [] c r hr)
    · rw [hr] at hf
      cases hf
  · show Device.Refuses R (ask c b).state.device
    rw [device_ask]
    exact Device.Refuses.next hb c

/-- A plotter that answers every call, and shakes hands, whatever it was asked before. -/
structure Willing (d : σ) : Prop where
  answers : ∀ cs c, ∃ a, (Device.perform c (Device.afterAll d cs)).result = .ok a
  shakesHands : ∀ cs, ShakesHands (Device.afterAll d cs)

/-- A willing plotter stays willing, whatever it was asked. -/
theorem Willing.afterAll {d : σ} (h : Willing d) (cs : List Call) :
    Willing (Device.afterAll d cs) := by
  have hf : ∀ ds, Device.afterAll (Device.afterAll d cs) ds = Device.afterAll d (cs ++ ds) :=
    fun ds => List.foldl_append.symm
  exact ⟨fun ds c => hf ds ▸ h.answers (cs ++ ds) c, fun ds => hf ds ▸ h.shakesHands (cs ++ ds)⟩

namespace Bench

/-- From one bench to another, calls were made and answered, and nothing else was done. -/
structure Granted (cs : List Call) (b t : Bench σ) : Prop where
  mode : t.mode = b.mode
  site : t.site = b.site
  plotLoaded : t.plotLoaded = b.plotLoaded
  device : t.device = Device.afterAll b.device cs
  calls : Deed.calls t.deeds = Deed.calls b.deeds ++ cs
  complaints : Deed.complaints t.deeds = Deed.complaints b.deeds

/-- Where no call is made, none is granted. -/
theorem Granted.refl (b : Bench σ) : Granted [] b b :=
  ⟨rfl, rfl, rfl, rfl, (List.append_nil _).symm, rfl⟩

/-- Calls that are granted one after the other are granted together, in their order. -/
theorem Granted.trans {b t u : Bench σ} {cs ds : List Call} (h : Granted cs b t)
    (k : Granted ds t u) : Granted (cs ++ ds) b u where
  mode := k.mode.trans h.mode
  site := k.site.trans h.site
  plotLoaded := k.plotLoaded.trans h.plotLoaded
  device := by rw [k.device, h.device]; exact List.foldl_append.symm
  calls := by rw [k.calls, h.calls, List.append_assoc]
  complaints := k.complaints.trans h.complaints

/-- An act that makes calls which are answered. -/
def Grants {α : Type} (cs : List Call) (x : Act Fault (Bench σ) α) (b : Bench σ) : Prop :=
  (∃ a, (x b).result = .ok a) ∧ Granted cs b (x b).state

variable {α β : Type} {b : Bench σ} {cs ds : List Call}

/-- Giving a result makes no call. -/
theorem grants_pure (a : α) : Grants [] (pure a) b := ⟨⟨a, rfl⟩, .refl b⟩

/-- Leaving events makes no call of the plotter. -/
theorem grants_tell (es : List Event) : Grants [] (Act.tell es) b := ⟨⟨(), rfl⟩, .refl b⟩

/-- Two acts whose calls are answered, one after the other, make the calls of both. -/
theorem Grants.bind {x : Act Fault (Bench σ) α} {f : α → Act Fault (Bench σ) β}
    (hx : Grants cs x b)
    (hf : ∀ a, (x b).result = .ok a → Grants ds (f a) (x b).state) :
    Grants (cs ++ ds) (x >>= f) b := by
  obtain ⟨⟨a, ha⟩, hx⟩ := hx
  obtain ⟨⟨v, hv⟩, hf⟩ := hf a ha
  rw [Grants, Act.bind_of_ok ha]
  exact ⟨⟨v, hv⟩, hx.trans hf⟩

/-- A call that is answered. -/
theorem grants_ask {c : Call} {a : c.Answer} (h : (Device.perform c b.device).result = .ok a) :
    (ask c b).result = .ok a ∧ Granted [c] b (ask c b).state := by
  refine ⟨by rw [result_ask, h]; rfl, rfl, rfl, rfl, rfl, ?_, ?_⟩
  · rw [deeds_ask, Deed.calls_append]
    rfl
  · rw [deeds_ask, Deed.complaints_append]
    exact List.append_nil _

/-- A willing plotter grants whatever it is asked. -/
theorem grants_ask_of_willing (hw : Willing b.device) (c : Call) : Grants [c] (ask c) b := by
  obtain ⟨a, ha⟩ := hw.answers [] c
  obtain ⟨hr, hg⟩ := grants_ask ha
  exact ⟨⟨a, hr⟩, hg⟩

/-- A willing plotter is willing after the calls that it granted. -/
theorem Granted.willing {t : Bench σ} (h : Granted cs b t) (hw : Willing b.device) :
    Willing t.device := h.device ▸ hw.afterAll cs

/-- A willing plotter grants the calls that set options, one for each setting, in the order of the
block. -/
theorem grants_forEach (settings : List (Setting × Value)) (hw : Willing b.device) :
    Grants (settings.map fun x => .set x.1 x.2)
      (Act.forEach settings fun x => ask (.set x.1 x.2)) b := by
  induction settings generalizing b with
  | nil => exact grants_pure ()
  | cons x r ih =>
    have hx := grants_ask_of_willing hw (.set x.1 x.2)
    exact hx.bind fun _ _ => ih (hx.2.willing hw)

/-- What a valid command makes of a bench. -/
structure Done (a : Action) (b t : Bench σ) : Prop where
  mode : t.mode = a.modeAfter b.mode
  site : t.site = b.site
  plotLoaded : t.plotLoaded = (b.plotLoaded || a.loads)
  willing : Willing t.device
  calls : Deed.calls t.deeds = Deed.calls b.deeds ++ a.calls
  complaints : Deed.complaints t.deeds = Deed.complaints b.deeds

/-- A command that only makes calls. -/
theorem Grants.done {p : Params} {anchor : Lexeme} {a : Action}
    (h : Grants a.calls (enact p anchor a) b) (hw : Willing b.device)
    (hm : a.modeAfter b.mode = b.mode) (hl : a.loads = false) :
    (enact p anchor a b).result = .ok () ∧ Done a b (enact p anchor a b).state := by
  obtain ⟨⟨u, hr⟩, hg⟩ := h
  exact ⟨hr, hg.mode.trans hm.symm, hg.site, by rw [hg.plotLoaded, hl, Bool.or_false],
    hg.willing hw, hg.calls, hg.complaints⟩

/-- The calls of the command that sets the mode come after the change. -/
theorem Granted.done_setMode {m : Mode} {t : Bench σ} (hw : Willing b.device)
    (h : Granted (Action.setMode m).calls (b.setMode m) t) : Done (.setMode m) b t := by
  refine ⟨h.mode, h.site, h.plotLoaded.trans (Bool.or_false _).symm, h.willing hw, ?_, ?_⟩
  · rw [h.calls, setMode, note, Deed.calls_append]
    exact congrArg (· ++ _) (List.append_nil _)
  · rw [h.complaints, setMode, note, Deed.complaints_append]
    exact List.append_nil _

/-- Setting a mode makes the calls that it stands for.  For the interactive mode the plotter is then
asked for its mode, and as it shakes hands the command goes on. -/
theorem done_setMode (p : Params) (anchor : Lexeme) (m : Mode) (hw : Willing b.device) :
    (enact p anchor (.setMode m) b).result = .ok () ∧
      Done (.setMode m) b (enact p anchor (.setMode m) b).state := by
  rw [enact, Act.modify_bind]
  cases m with
  | plot => exact ⟨rfl, Granted.done_setMode hw (.refl (b.setMode .plot))⟩
  | interactive =>
    obtain ⟨he, hm⟩ := hw.shakesHands []
    obtain ⟨hr, hg⟩ := grants_ask (b := b.setMode .interactive) he
    obtain ⟨hr', hg'⟩ := grants_ask (b := (ask .enterInteractive (b.setMode .interactive)).state) hm
    rw [if_pos rfl, Act.bind_of_ok hr, Act.bind_of_ok hr', if_neg (not_not.2 rfl)]
    exact ⟨rfl, Granted.done_setMode hw (hg.trans hg')⟩

omit [Device σ] in
/-- A path that is no URL is the drawing itself, and nothing is fetched. -/
theorem obtain_of_local (p : Params) {path : String} (hu : Web.isUrl path = false) (b : Bench σ) :
    obtain p path b = ⟨.ok path, [], b⟩ := by
  rw [obtain, hu]
  rfl

omit [Device σ] in
/-- A drawing is looked into if a regular file is there; a missing one is complained about at the
word of the command. -/
theorem inspect_eq (path : String) (anchor : Lexeme) (b : Bench σ) :
    inspect path anchor b = (if !b.site.isFile path then
        .throw (.command (.about (.fileUnreadable path) anchor))
      else .ofExcept (b.site.checkDrawing path (some anchor)) : Act Fault (Bench σ) Unit) b := rfl

omit [Device σ] in
/-- A drawing that is one passes when it is looked into. -/
theorem result_inspect_of_isDrawing {path : String} (anchor : Lexeme)
    (hd : b.site.IsDrawing path) : (inspect path anchor b).result = .ok () := by
  rw [inspect_eq, hd.isFile, Bool.not_true, if_neg Bool.false_ne_true, Act.result_ofExcept]
  exact hd.checkDrawing_eq (some anchor)

/-- A drawing that is at hand is set up. -/
theorem done_setPlot (p : Params) (anchor : Lexeme) {path : String} (hw : Willing b.device)
    (hu : Web.isUrl path = false) (hd : b.site.IsDrawing path) :
    (enact p anchor (.setPlot path) b).result = .ok () ∧
      Done (.setPlot path) b (enact p anchor (.setPlot path) b).state := by
  have ho := obtain_of_local p hu b
  have hi := result_inspect_of_isDrawing anchor hd
  obtain ⟨⟨u, hr⟩, hg⟩ := grants_ask_of_willing hw (.setupPlot path)
  rw [enact, Act.bind_of_ok (by rw [ho]), ho]
  simp only
  rw [Act.bind_of_ok hi, state_inspect, Act.bind_of_ok hr]
  exact ⟨rfl, hg.mode, hg.site, (Bool.or_true _).symm, hg.willing hw, hg.calls, hg.complaints⟩

/-- A drawing that cannot be set up leaves the bench as it is, with a complaint unless the check of
it breaks down. -/
theorem enact_setPlot_of_not_isDrawing (p : Params) (anchor : Lexeme) {path : String}
    (hu : Web.isUrl path = false) (hd : ¬b.site.IsDrawing path) :
    (enact p anchor (.setPlot path) b).state = b ∧
      (b.site.Breaks path ∧
        (∃ f, (enact p anchor (.setPlot path) b).result = .error (.failure f) ∧ f.Own) ∨
      ¬b.site.Breaks path ∧
        ∃ c, (enact p anchor (.setPlot path) b).result = .error (.command c) ∧ c.index = none) := by
  have ho := obtain_of_local p hu b
  rw [enact, Act.bind_of_ok (by rw [ho]), ho]
  simp only
  by_cases hf : b.site.isFile path = true
  · have hi : (inspect path anchor b).result = b.site.checkDrawing path (some anchor) := by
      rw [inspect_eq, hf, Bool.not_true, if_neg Bool.false_ne_true, Act.result_ofExcept]
    rcases Site.checkDrawing_of_not hd hf (some anchor) with ⟨hb, f, hc⟩ | ⟨hb, c, hc⟩
    · rw [hc] at hi
      rw [Act.bind_of_error hi]
      exact ⟨state_inspect path anchor b, .inl ⟨hb, f, rfl, Site.own_checkDrawing _ hc⟩⟩
    · rw [hc] at hi
      rw [Act.bind_of_error hi]
      exact ⟨state_inspect path anchor b, .inr ⟨hb, c, rfl, (Site.own_checkDrawing _ hc).2⟩⟩
  · have hi : (inspect path anchor b).result =
        .error (.command (.about (.fileUnreadable path) anchor)) := by
      rw [inspect_eq, if_pos (by simpa using hf)]
      rfl
    rw [Act.bind_of_error hi]
    exact ⟨state_inspect path anchor b, .inr ⟨fun hb => hf hb.1, _, rfl, rfl⟩⟩

/-- **With a willing plotter, a valid command makes all its calls.** -/
theorem done_enact (p : Params) (anchor : Lexeme) {a : Action} (hw : Willing b.device)
    (hu : ∀ path, a = .setPlot path → Web.isUrl path = false)
    (ha : a.Achievable b.site b.plotLoaded) :
    (enact p anchor a b).result = .ok () ∧ Done a b (enact p anchor a b).state := by
  cases a with
  | setMode m => exact done_setMode p anchor m hw
  | setOptions k settings =>
    refine Grants.done ?_ hw rfl rfl
    have hs := grants_forEach settings hw
    exact hs.bind fun _ _ => grants_ask_of_willing (hs.2.willing hw) .commitOptions
  | setPlot path => exact done_setPlot p anchor hw (hu path rfl) ha
  | getPosition =>
    refine Grants.done ?_ hw rfl rfl
    exact (grants_ask_of_willing hw .getPosition).bind fun at' _ =>
      grants_tell [.out (positionText at')]
  | getPen =>
    refine Grants.done ?_ hw rfl rfl
    exact (grants_ask_of_willing hw .getPenDown).bind fun down _ =>
      grants_tell [.out (penText down)]
  | plot =>
    have hl : b.plotLoaded = true := ha
    refine Grants.done ?_ hw rfl rfl
    rw [Grants, enact_plot, if_pos hl]
    exact grants_ask_of_willing hw .runPlot
  | connect | disconnect | penUp | penDown | penToggle | home | goTo | goToRelative | draw | wait =>
    exact Grants.done (grants_ask_of_willing hw _) hw rfl rfl

end Bench
end Device

namespace Recorder

variable {r : Recorder}

/-- What a recorder is made to refuse does not depend on the calls before. -/
theorem refusal_afterAll (cs : List Call) (r : Recorder) :
    (Device.afterAll r cs).refusal = r.refusal := by
  induction cs generalizing r with
  | nil => rfl
  | cons c cs ih =>
    refine (ih (Device.perform c r).state).trans ?_
    show (perform c r).state.refusal = _
    simp only [perform]
    split <;> rfl

/-- A recorder refuses calls as it was made to. -/
theorem refuses_of_refusal {R : Refusal → Prop}
    (h : ∀ past c f, r.refusal past c = some f → R f) : Device.Refuses R r := by
  intro cs c f hf
  have hf : (perform c (Device.afterAll r cs)).result = .error f := hf
  simp only [perform, refusal_afterAll] at hf
  split at hf <;> rename_i hr
  · exact h _ c f (hr.trans (congrArg some (Except.error.inj hf)))
  · cases hf

/-- A recorder that refuses nothing, and enters interactive mode when it is told to. -/
structure Obliging (r : Recorder) : Prop where
  refusal : ∀ past c, r.refusal past c = none
  obedient : r.obedient = true

/-- An obliging recorder remembers a call, answers it, and is in the interactive mode once it was
told to enter it. -/
theorem Obliging.perform_eq (h : r.Obliging) (c : Call) : Device.perform c r =
    ⟨.ok (r.answer c), [], { r with
      past := r.past ++ [c]
      mode := if c = .enterInteractive then some .interactive else r.mode }⟩ := by
  show perform c r = _
  rw [perform, h.refusal]
  simp only [h.obedient, and_true]

/-- An obliging recorder stays obliging. -/
theorem Obliging.afterAll (h : r.Obliging) (cs : List Call) : (Device.afterAll r cs).Obliging := by
  induction cs generalizing r with
  | nil => exact h
  | cons c cs ih =>
    refine ih (r := (Device.perform c r).state) ?_
    rw [h.perform_eq]
    exact ⟨h.refusal, h.obedient⟩

/-- An obliging recorder is a willing plotter: it refuses nothing, and it is in the mode that it was
told to enter. -/
theorem Obliging.willing (h : r.Obliging) : Willing r := by
  refine ⟨fun cs c => ⟨_, by rw [(h.afterAll cs).perform_eq]⟩, fun cs => ⟨?_, ?_⟩⟩
  · rw [(h.afterAll cs).perform_eq]
  · have hn := (h.afterAll cs).afterAll [.enterInteractive]
    show (Device.perform .currentMode (Device.afterAll (Device.afterAll r cs)
      [.enterInteractive])).result = _
    rw [hn.perform_eq]
    show Except.ok (Device.perform .enterInteractive (Device.afterAll r cs)).state.mode = _
    rw [(h.afterAll cs).perform_eq]
    rfl

/-- A recorder that answers every call. -/
def obliging : Recorder := ⟨fun _ _ => none, (.int 0, .int 0), false, true, none, []⟩

/-- There is a willing plotter. -/
theorem willing_obliging : Willing obliging := Obliging.willing ⟨fun _ _ => rfl, rfl⟩

end Recorder
end PlotScript
