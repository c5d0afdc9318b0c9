/-
# Plotters that refuse mildly

A mild plotter refuses what a script can ask it only with complaints of its own (`Mild`), and a
preview is mild (`Preview.mild`).  Numbers of a script are in the range of a preview, and a path to
be drawn is never empty, so nothing else can go wrong in a call (`Action.fits_of_mem_calls`).

A command that is carried out with a mild plotter, and whose drawing is not on the web, is done or
complained about, unless the check of its drawing breaks down (`Bench.enact_of_mild`).
-/

import PlotScript.Plotter.Preview
import PlotScript.Proofs.Willing

namespace PlotScript

/-- A number that has a binary64 number next to it. -/
def Number.InRange (n : Number) : Prop := n.toFloat?.isSome = true

/-- What a plotter is asked can be done at all. -/
def Call.Fits : Call → Prop
  | goTo x y | goToRelative x y => x.InRange ∧ y.InRange
  | drawPath l => l ≠ [] ∧ ∀ q ∈ l, q.1.InRange ∧ q.2.InRange
  | enterInteractive | set _ _ | commitOptions | connect | disconnect | penUp | penDown
  | penToggle | home | wait _ | getPosition | getPenDown | currentMode | setupPlot _ | runPlot =>
    True

/-- Plotters that refuse what fits only with complaints of their own, and always shake hands. -/
structure Mild (σ : Type) [Device σ] : Prop where
  refusals : ∀ {c : Call}, c.Fits → ∀ (d : σ) r, (Device.perform c d).result = .error r →
    ∃ cause i, r = .complaint .device cause i
  shakesHands : ∀ d : σ, ShakesHands d

namespace Preview

variable {α : Type}

/-- An act of a preview that ends with no fault but a complaint. -/
abbrev Gentle (x : Act Refusal Preview α) : Prop :=
  x.Within (fun r => ∃ cause i, r = .complaint .device cause i) fun _ => True

/-- A preview refuses with a complaint of its own. -/
theorem gentle_refuse (cause : Cause) : Gentle (refuse cause : Act Refusal Preview α) :=
  Act.within_throw ⟨cause, none, rfl⟩

/-- A record is left without a fault. -/
theorem gentle_say (text : String) : Gentle (say text) := Act.within_tell fun _ _ => trivial

/-- That there is no connection is a complaint, and nothing else can go wrong with it. -/
theorem gentle_needConnection : Gentle needConnection := by
  refine Act.within_get.bind fun p => ?_
  split
  · exact Act.within_pure ()
  · exact gentle_refuse _

/-- A number that is in range is a coordinate. -/
theorem gentle_coordinate {n : Number} (h : n.InRange) : Gentle (coordinate n) := by
  obtain ⟨x, hx⟩ := Option.isSome_iff_exists.1 h
  unfold coordinate
  rw [hx]
  exact Act.within_pure x

/-- Two numbers that are in range are a point. -/
theorem gentle_point {q : Point} (h : q.1.InRange ∧ q.2.InRange) : Gentle (point q) :=
  (gentle_coordinate h.1).bind fun _ => (gentle_coordinate h.2).bind fun _ => Act.within_pure _

/-- Raising the pen may lack the connection, and nothing else. -/
theorem gentle_raise : Gentle raise :=
  gentle_needConnection.bind fun _ => (Act.within_modify _).bind fun _ => gentle_say _

/-- Lowering the pen may lack the connection, and nothing else. -/
theorem gentle_lower : Gentle lower :=
  gentle_needConnection.bind fun _ => (Act.within_modify _).bind fun _ => gentle_say _

/-- Moving to a point in range may lack the connection, and nothing else. -/
theorem gentle_moveTo {q : Point} (h : q.1.InRange ∧ q.2.InRange) : Gentle (moveTo q) :=
  gentle_raise.bind fun _ => (gentle_point h).bind fun _ => (Act.within_modify _).bind fun _ =>
    gentle_say _

/-- Drawing to a point in range may lack the connection, and nothing else. -/
theorem gentle_lineTo {q : Point} (h : q.1.InRange ∧ q.2.InRange) : Gentle (lineTo q) :=
  (Act.within_modify _).bind fun _ => (gentle_point h).bind fun _ =>
    (Act.within_modify _).bind fun _ => gentle_say _

/-- Drawing to points in range, one after the other, may lack the connection, and nothing else. -/
theorem gentle_lines {l : List Point} (h : ∀ q ∈ l, q.1.InRange ∧ q.2.InRange) :
    Gentle (Act.forEach l lineTo) := by
  induction l with
  | nil => exact Act.within_pure ()
  | cons q l ih =>
    have hl := ih fun q' hq => h q' (List.mem_cons_of_mem q hq)
    exact (gentle_lineTo (h q List.mem_cons_self)).bind fun _ => hl

/-- A call that fits ends with no fault but a complaint.  What could break a preview down is a
coordinate out of the range of floating-point numbers, or a path without points, and neither
fits. -/
theorem gentle_perform {c : Call} (h : c.Fits) : Gentle (perform c) := by
  cases c with
  | enterInteractive => exact (Act.within_modify _).bind fun _ => gentle_say _
  | set s v => exact (Act.within_modify _).bind fun _ => Act.within_tell fun _ _ => trivial
  | commitOptions =>
    exact Act.within_get.bind fun _ => (Act.within_modify _).bind fun _ => (gentle_say _).bind
      fun _ => Act.within_modify _
  | connect => exact (Act.within_modify _).bind fun _ => gentle_say _
  | disconnect => exact (Act.within_modify _).bind fun _ => gentle_say _
  | penUp => exact gentle_raise
  | penDown => exact gentle_lower
  | penToggle =>
    refine Act.within_get.bind fun p => ?_
    split
    · exact gentle_raise
    · exact gentle_lower
  | home =>
    have h0 : (Number.int 0).InRange := by
      show (Number.int 0).toFloat?.isSome = true
      decide +kernel
    exact gentle_moveTo ⟨h0, h0⟩
  | goTo x y => exact gentle_moveTo h
  | goToRelative x y =>
    refine (gentle_point (q := (x, y)) h).bind fun d => Act.within_get.bind fun p => ?_
    exact gentle_moveTo ⟨rfl, rfl⟩
  | drawPath l =>
    cases l with
    | nil => exact absurd rfl h.1
    | cons q l =>
      have hl := gentle_lines fun q' hq => h.2 q' (List.mem_cons_of_mem q hq)
      exact (gentle_moveTo (h.2 q List.mem_cons_self)).bind fun _ => hl
  | wait time => exact gentle_needConnection.bind fun _ => gentle_say _
  | getPosition | getPenDown | currentMode => exact Act.within_get.bind fun _ => Act.within_pure _
  | setupPlot path => exact (Act.within_modify _).bind fun _ => gentle_say _
  | runPlot =>
    refine Act.within_get.bind fun p => ?_
    split
    · exact gentle_refuse _
    · exact (Act.within_modify _).bind fun _ => gentle_say _

/-- **A preview refuses nothing that fits but with a complaint**, and it shakes hands. -/
theorem mild : Mild Preview :=
  ⟨fun h d r hr => (gentle_perform h).faults d r hr, fun _ => ⟨rfl, rfl⟩⟩

end Preview

open Grammar

/-- A number of a script is in range: it is rounded when it is read. -/
theorem Number.inRange_of_coordinate {x : Lexeme} {v : Number} (h : Coordinate x v) :
    v.InRange := by
  obtain ⟨-, n, -, rfl⟩ := h
  rfl

/-- All numbers of a path in a script are in range. -/
theorem Number.inRange_of_path {l : List Lexeme} {ps : List Point} (h : Path l ps) :
    ∀ q ∈ ps, q.1.InRange ∧ q.2.InRange := by
  induction h with
  | nil => exact fun q hq => absurd hq List.not_mem_nil
  | cons hv hw _ ih =>
    intro q hq
    rcases List.mem_cons.1 hq with rfl | hq
    · exact ⟨inRange_of_coordinate hv, inRange_of_coordinate hw⟩
    · exact ih q hq

/-- **Whatever a command of the grammar asks for can be done.**  Coordinates are numbers that were
read, and a path has two points at least. -/
theorem Action.fits_of_mem_calls {ws : List Lexeme} {a : Action} (h : Spells ws a) {c : Call}
    (hc : c ∈ a.calls) : c.Fits := by
  cases h with
  | @mode _ _ m =>
    cases m with
    | plot => cases hc
    | interactive =>
      rcases List.mem_cons.1 hc with rfl | hc
      · trivial
      · obtain rfl := List.mem_singleton.1 hc
        trivial
  | options =>
    rcases List.mem_append.1 hc with hc | hc
    · obtain ⟨x, -, rfl⟩ := List.mem_map.1 hc
      trivial
    · obtain rfl := List.mem_singleton.1 hc
      trivial
  | word hw =>
    unfold Action.ofWord? at hw
    split at hw <;> simp at hw <;> subst hw <;> obtain rfl := List.mem_singleton.1 hc <;> trivial
  | goTo _ hx hy | goToRelative _ hx hy =>
    obtain rfl := List.mem_singleton.1 hc
    exact ⟨Number.inRange_of_coordinate hx, Number.inRange_of_coordinate hy⟩
  | draw _ hp hl =>
    obtain rfl := List.mem_singleton.1 hc
    refine ⟨?_, Number.inRange_of_path hp⟩
    rintro rfl
    cases hl
  | wait | setPlot | plot =>
    obtain rfl := List.mem_singleton.1 hc
    trivial

namespace Bench

variable {σ : Type} {a : Action} {ws : List Lexeme}

/-- A complaint of the plotter, or one about the command and about no number of the stream. -/
inductive Regular : Fault → Prop
  | command {c : Complaint} : c.index = none → Regular (.command c)
  | device (c : Complaint) : Regular (.complaint .device c)

/-- An act that ends with no fault but a complaint of the plotter or about the command, and leaves
the site as it is. -/
structure Quiet {α : Type} (x : Act Fault (Bench σ) α) : Prop where
  result : ∀ b, (∃ a, (x b).result = .ok a) ∨ ∃ f, (x b).result = .error f ∧ Regular f
  site : ∀ b, (x b).state.site = b.site

section Quiet

variable {α β : Type}

/-- An act that always gives a result and leaves the site as it is ends with no fault. -/
theorem quiet_of_ok {x : Act Fault (Bench σ) α} (hr : ∀ b, ∃ a, (x b).result = .ok a)
    (hs : ∀ b, (x b).state.site = b.site) : Quiet x := ⟨fun b => .inl (hr b), hs⟩

/-- An act that ends with no fault but a complaint is done, or there is the complaint. -/
theorem Quiet.result_eq {x : Act Fault (Bench σ) Unit} (h : Quiet x) (b : Bench σ) :
    (x b).result = .ok () ∨ ∃ f, (x b).result = .error f ∧ Regular f := by
  rcases h.result b with ⟨a, hr⟩ | hr
  · exact .inl hr
  · exact .inr hr

/-- Two acts that end with no fault but a complaint, one after the other, do so as a whole. -/
theorem Quiet.bind {x : Act Fault (Bench σ) α} {f : α → Act Fault (Bench σ) β} (hx : Quiet x)
    (hf : ∀ a, Quiet (f a)) : Quiet (x >>= f) := by
  refine ⟨fun b => ?_, fun b => ?_⟩
  · rcases hx.result b with ⟨v, hv⟩ | ⟨g, hr, hg⟩
    · rw [Act.bind_of_ok hv]
      exact (hf v).result _
    · rw [Act.bind_of_error hr]
      exact .inr ⟨g, rfl, hg⟩
  · rcases hx.result b with ⟨v, hv⟩ | ⟨g, hr, hg⟩
    · rw [Act.bind_of_ok hv]
      exact ((hf v).site _).trans (hx.site b)
    · rw [Act.bind_of_error hr]
      exact hx.site b

/-- Leaving events is done without a fault. -/
theorem quiet_tell (es : List Event) : Quiet (Act.tell es : Act Fault (Bench σ) Unit) :=
  quiet_of_ok (fun _ => ⟨(), rfl⟩) fun _ => rfl

end Quiet

/-- The check of the drawing that a command sets breaks down. -/
def Breaks (site : Site) (a : Action) : Prop := ∃ path, a = .setPlot path ∧ site.Breaks path

variable [Device σ]

/-- A mild plotter that is asked what fits answers, or complains. -/
theorem quiet_ask (hM : Mild σ) (c : Call) (hc : c.Fits) :
    Quiet (ask c : Act Fault (Bench σ) c.Answer) := by
  refine ⟨fun b => ?_, fun b => rfl⟩
  rw [result_ask]
  rcases hr : (Device.perform c b.device).result with r | v
  · obtain ⟨cause, i, rfl⟩ := hM.refusals hc b.device r hr
    exact .inr ⟨_, rfl, .device ⟨cause, none, i⟩⟩
  · exact .inl ⟨v, rfl⟩

/-- The calls that set options fit whatever the values are. -/
theorem quiet_settings (hM : Mild σ) (settings : List (Setting × Value)) :
    Quiet (Act.forEach settings fun x => ask (.set x.1 x.2) : Act Fault (Bench σ) Unit) := by
  induction settings with
  | nil => exact quiet_of_ok (fun _ => ⟨(), rfl⟩) fun _ => rfl
  | cons x r ih => exact (quiet_ask hM (.set x.1 x.2) trivial).bind fun _ => ih

/-- Setting a mode is done or complained about: a mild plotter shakes hands. -/
theorem quiet_setMode (hM : Mild σ) (p : Params) (anchor : Lexeme) (m : Mode) :
    Quiet (enact p anchor (.setMode m) : Act Fault (Bench σ) Unit) := by
  cases m with
  | plot => exact quiet_of_ok (fun _ => ⟨(), rfl⟩) fun _ => rfl
  | interactive =>
    refine quiet_of_ok (fun b => ?_) fun b => ?_
    all_goals
      obtain ⟨he, hm⟩ := hM.shakesHands b.device
      obtain ⟨hr, hg⟩ := grants_ask (b := b.setMode .interactive) he
      obtain ⟨hr', hg'⟩ := grants_ask (b := (ask .enterInteractive (b.setMode .interactive)).state)
        hm
      rw [enact, Act.modify_bind, if_pos rfl, Act.bind_of_ok hr, Act.bind_of_ok hr',
        if_neg (not_not.2 rfl)]
    · exact ⟨(), rfl⟩
    · exact hg'.site.trans hg.site

/-- A drawing at hand is set up, or complained about, unless its check breaks down.  That it is at
hand and that its check breaks down exclude each other. -/
theorem enact_setPlot_of_mild (hM : Mild σ) (p : Params) (anchor : Lexeme) {path : String}
    (hu : Web.isUrl path = false) (b : Bench σ) :
    (enact p anchor (.setPlot path) b).state.site = b.site ∧
    (b.site.Breaks path ∧
        (∃ f, (enact p anchor (.setPlot path) b).result = .error (.failure f) ∧ f.Own) ∨
      ¬b.site.Breaks path ∧ ((enact p anchor (.setPlot path) b).result = .ok () ∨
        ∃ f, (enact p anchor (.setPlot path) b).result = .error f ∧ Regular f)) := by
  by_cases hd : b.site.IsDrawing path
  · -- A root named `svg` has a plain name.
    have hb : ¬b.site.Breaks path := by
      rintro ⟨-, hb⟩
      obtain ⟨hc, bytes, hl, hn⟩ := hd
      rcases hb with hb | ⟨bytes', name, hl', hn', hp⟩
      · rw [hc] at hb
        cases hb
      · rw [hl] at hl'
        obtain rfl := Option.some.inj hl'
        rw [hn] at hn'
        obtain rfl := Except.ok.inj hn'
        rw [show Markup.isPlainName "svg".toList = true by decide +kernel] at hp
        cases hp
    have ho := obtain_of_local p hu b
    have hi := result_inspect_of_isDrawing anchor hd
    rw [enact, Act.bind_of_ok (by rw [ho]), ho]
    simp only
    rw [Act.bind_of_ok hi, state_inspect]
    have hq : Quiet (ask (.setupPlot path) >>= fun _ =>
        (Act.modify fun b => { b with plotLoaded := true } : Act Fault (Bench σ) Unit)) :=
      (quiet_ask hM (.setupPlot path) trivial).bind fun _ =>
        quiet_of_ok (fun _ => ⟨(), rfl⟩) fun _ => rfl
    exact ⟨hq.site b, .inr ⟨hb, hq.result_eq b⟩⟩
  · obtain ⟨hs, h⟩ := enact_setPlot_of_not_isDrawing p anchor hu hd
    refine ⟨congrArg Bench.site hs, h.imp_right ?_⟩
    rintro ⟨hb, c, hc, hi⟩
    exact ⟨hb, .inr ⟨_, hc, .command hi⟩⟩

/-- **With a mild plotter, a command is done or complained about**, unless the check of its drawing
breaks down.  All other commands are made of calls that fit, and of messages. -/
theorem enact_of_mild (hM : Mild σ) (p : Params) (anchor : Lexeme) (hs : Spells ws a)
    (hu : ∀ path, a = .setPlot path → Web.isUrl path = false) (b : Bench σ) :
    (enact p anchor a b).state.site = b.site ∧
    (Breaks b.site a ∧ (∃ f, (enact p anchor a b).result = .error (.failure f) ∧ f.Own) ∨
      ¬Breaks b.site a ∧ ((enact p anchor a b).result = .ok () ∨
        ∃ f, (enact p anchor a b).result = .error f ∧ Regular f)) := by
  have hfit : ∀ c ∈ a.calls, c.Fits := fun c hc => Action.fits_of_mem_calls hs hc
  by_cases hp : ∃ path, a = .setPlot path
  · obtain ⟨path, rfl⟩ := hp
    have hb : Breaks b.site (.setPlot path) ↔ b.site.Breaks path := by simp [Breaks]
    rw [hb]
    exact enact_setPlot_of_mild hM p anchor (hu path rfl) b
  · have hb : ¬Breaks b.site a := fun ⟨path, h, _⟩ => hp ⟨path, h⟩
    suffices hq : Quiet (enact p anchor a : Act Fault (Bench σ) Unit) from
      ⟨hq.site b, .inr ⟨hb, hq.result_eq b⟩⟩
    cases a with
    | setMode m => exact quiet_setMode hM p anchor m
    | setOptions k settings =>
      exact (quiet_settings hM settings).bind fun _ => quiet_ask hM .commitOptions trivial
    | setPlot path => exact absurd ⟨path, rfl⟩ hp
    | getPosition => exact (quiet_ask hM .getPosition trivial).bind fun _ => quiet_tell _
    | getPen => exact (quiet_ask hM .getPenDown trivial).bind fun _ => quiet_tell _
    | plot =>
      refine ⟨fun b => ?_, fun b => ?_⟩
      · rw [enact_plot]
        split
        · exact (quiet_ask hM .runPlot trivial).result b
        · exact .inr ⟨_, rfl, .command rfl⟩
      · rw [enact_plot]
        split <;> rfl
    | connect | disconnect | penUp | penDown | penToggle | home | goTo | goToRelative | draw
    | wait =>
      exact quiet_ask hM _ (hfit _ List.mem_cons_self)

/-- What is reported of a command that was carried out with a mild plotter is about the command, and
about no lexeme behind it. -/
theorem execute_of_mild (hM : Mild σ) (p : Params) (last : Nat) (anchor : Lexeme)
    (hs : Spells ws a) (hu : ∀ path, a = .setPlot path → Web.isUrl path = false) (b : Bench σ) :
    (execute p last ⟨anchor, a⟩ b).state.site = b.site ∧
    (Breaks b.site a ∧ (∃ f, (execute p last ⟨anchor, a⟩ b).result = .error (.failure f) ∧ f.Own) ∨
      ¬Breaks b.site a ∧ ((execute p last ⟨anchor, a⟩ b).result = .ok () ∨
        ∃ c, (execute p last ⟨anchor, a⟩ b).result = .error (.command c) ∧
          (c.index = none ∨ c.index = some (last : Int)))) := by
  have hr : (execute p last ⟨anchor, a⟩ b).result =
      (enact p anchor a b).result.mapError (blame anchor last) := rfl
  obtain ⟨hsite, h⟩ := enact_of_mild hM p anchor hs hu b
  refine ⟨hsite, ?_⟩
  rw [hr]
  rcases h with ⟨hb, f, h, hf⟩ | ⟨hb, h | ⟨f, h, hf⟩⟩
  · rw [h]
    exact .inl ⟨hb, f, rfl, hf⟩
  · rw [h]
    exact .inr ⟨hb, .inl rfl⟩
  · rw [h]
    cases hf with
    | command hi => exact .inr ⟨hb, .inr ⟨_, rfl, .inl hi⟩⟩
    | device c => exact .inr ⟨hb, .inr ⟨_, rfl, .inr rfl⟩⟩

end Bench
end PlotScript
