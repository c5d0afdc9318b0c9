/-
# The handshake with the plotter

Interactive mode begins with a handshake: the plotter is told to enter it, and asked whether it
did.  The calls that only make sense in interactive mode should be made only after a handshake,
and where the plotter refuses to enter, the mode should stay unset (`Past.KeepsHandshake`).

But the mode is set first, and stays set whatever the handshake comes to.  The handshake is the
first thing a plotter is ever asked, so how it ends depends on the plotter alone, and all scripts
keep the rule exactly with the plotters that shake hands (`keepsHandshake_live_iff`).

The rule is that of the language specification, §14: after `MODE I` the driver is asked for its
mode, and anything but interactive is Fatal.
-/

import PlotScript.Plotter.Recorder
import PlotScript.Token.Lexer
import PlotScript.Proofs.ModeSafety

namespace PlotScript

/-- The plotter entered interactive mode and, asked next, said so. -/
def Deed.Handshaken (l : List Deed) : Prop :=
  ∃ before m k after, l = before ++ asked m .enterInteractive (.ok ()) ::
    asked k .currentMode (.ok (some .interactive)) :: after

/-- A handshake that was made is made for good, whatever is noted behind it. -/
theorem Deed.Handshaken.append {l : List Deed} (h : Handshaken l) (r : List Deed) :
    Handshaken (l ++ r) := by
  obtain ⟨before, m, k, after, rfl⟩ := h
  exact ⟨before, m, k, after ++ r, by simp⟩

/-- No call for interactive mode without a handshake before it, and no mode after a handshake that
the plotter refused, unless it was set again. -/
structure Past.KeepsHandshake {σ : Type} (p : Past σ) : Prop where
  shaken : ∀ before m c r after, p.deeds = before ++ .asked m c r :: after →
    c.OnlyInteractive → Deed.Handshaken before
  unset : ∀ before m r after, p.deeds = before ++ .asked m .enterInteractive (.error r) :: after →
    Deed.modes after = [] → p.mode = none

section Device

variable {σ : Type} [Device σ]

/-- A plotter that enters interactive mode when it is told to, and then says so. -/
def ShakesHands (d : σ) : Prop :=
  (Device.perform .enterInteractive d).result = .ok () ∧
  (Device.perform .currentMode (Device.perform .enterInteractive d).state).result =
    .ok (some .interactive)

/-- The calls of the handshake, as they are noted for a plotter. -/
abbrev handshake (d : σ) : List Deed :=
  (askAll (some .interactive) [.enterInteractive, .currentMode] d).1

/-- With a device that answers as it should, the handshake is two calls: entering the mode, and
asking for it. -/
theorem handshake_of_shakesHands {d : σ} (h : ShakesHands d) : handshake d =
    [.asked (some .interactive) .enterInteractive (.ok ()),
      .asked (some .interactive) .currentMode (.ok (some .interactive))] := by
  rw [handshake, askAll_of_ok h.1, askAll_of_ok h.2]
  rfl

/-- The answer to being told to enter is the first that is noted. -/
theorem handshake_eq_cons (d : σ) : ∃ l, handshake d =
    .asked (some .interactive) .enterInteractive (Device.perform .enterInteractive d).result :: l ∧
      .enterInteractive ∉ Deed.calls l := by
  rcases h : (Device.perform .enterInteractive d).result with r | ⟨⟩
  · exact ⟨[], by rw [handshake, askAll_of_error h], List.not_mem_nil⟩
  · refine ⟨_, by rw [handshake, askAll_of_ok h], ?_⟩
    rw [askAll_singleton]
    exact List.not_mem_cons_of_ne_of_not_mem (by decide) List.not_mem_nil

namespace Past

/-- How the notes of a script begin, with a plotter that was `d` at first: nothing is asked until
the mode is set, and then the handshake comes first. -/
structure Opened (d : σ) (p : Past σ) : Prop where
  unset : p.mode = none → p.device = d
  interactive : p.mode = some .interactive → ∃ before after,
    p.deeds = before ++ (handshake d ++ after) ∧ Deed.calls before = [] ∧
      Deed.modes after = [] ∧ .enterInteractive ∉ Deed.calls after

variable {d : σ} {p q : Past σ}

/-- An executor that has done nothing needs no handshake so far. -/
theorem opened_start (d : σ) : Opened d (start d) := ⟨fun _ => rfl, fun h => by cases h⟩

/-- The mode stays, and what is noted now sets no mode and does not enter interactive mode. -/
theorem Opened.extend (h : Opened d p) {new : List Deed} (hq : q.deeds = p.deeds ++ new)
    (hm : q.mode = p.mode) (hd : p.mode = none → q.device = p.device)
    (hn : Deed.modes new = []) (hc : .enterInteractive ∉ Deed.calls new) : Opened d q := by
  refine ⟨fun hu => ?_, fun hi => ?_⟩
  · rw [hm] at hu
    exact (hd hu).trans (h.unset hu)
  · rw [hm] at hi
    obtain ⟨before, after, he, hb, hma, hca⟩ := h.interactive hi
    refine ⟨before, after ++ new, ?_, hb, ?_, ?_⟩
    · rw [hq, he]
      simp only [List.append_assoc]
    · rw [Deed.modes_append, hma, hn]
      rfl
    · rw [Deed.calls_append]
      exact fun hx => (List.mem_append.1 hx).elim hca hc

/-- The handshake is the first that a plotter is asked. -/
theorem Opened.enact_setMode (h : Opened d p) (hp : Safe p) (hu : p.mode = none) (n : Nat)
    {m : Mode} {cs : List Call} (hc : (Action.setMode m).MayCall cs) :
    Opened d (p.enact n (.setMode m) cs) := by
  refine ⟨fun hq => absurd hq (Option.some_ne_none m), fun hq => ?_⟩
  obtain rfl : m = .interactive := Option.some.inj hq
  cases hc
  refine ⟨p.deeds ++ [.begun n (.setMode .interactive), .modeSet .interactive], [], ?_, ?_, rfl,
    List.not_mem_nil⟩
  · rw [List.append_nil, handshake, ← h.unset hu, List.append_assoc]
    rfl
  · rw [Deed.calls_append, hp.calls_eq_nil hu]
    rfl

/-- **Every step keeps how the notes began.** -/
theorem Opened.of_step (h : Opened d p) (hp : Safe p) (hs : Step p q) : Opened d q := by
  cases hs with
  | reported n c => exact h.extend rfl rfl (fun _ => rfl) rfl List.not_mem_nil
  | @enacted n a cs ha hc =>
    rcases hm : p.mode with _ | m
    · obtain ⟨m, rfl⟩ := eq_setMode_of_permittedIn (hm ▸ ha)
      exact h.enact_setMode hp hm n hc
    · obtain ⟨hmode, hdeeds⟩ := modeAfter_of_permittedIn (hm ▸ ha)
      refine h.extend rfl ?_ (fun hu => ?_) ?_ ?_
      · show a.modeAfter p.mode = _
        rw [hm, hmode]
      · rw [hm] at hu
        cases hu
      · simp [hdeeds, modes_askAll]
      · rw [hdeeds, Deed.calls_begun, List.nil_append]
        have hn := count_enterInteractive hc
        rw [hdeeds] at hn
        exact fun hx =>
          List.count_eq_zero.1 (Nat.le_zero.1 hn) ((calls_askAll_isPrefix _ _).subset hx)

/-- What is done behind the opening keeps it: the mode is entered once, and its handshake comes
first. -/
theorem Opened.of_leads (h : Opened d p) (hp : Safe p) (hl : Leads p q) : Opened d q := by
  induction hl with
  | refl => exact h
  | tail hl hs ih => exact ih.of_step (hp.of_leads hl) hs

/-- The plotter is told to enter interactive mode once, and answers as it did at first. -/
theorem Opened.answer_eq (h : Opened d p) (hm : p.mode = some .interactive) {k : Option Mode}
    {r : Except Refusal Unit} (hr : Deed.asked k .enterInteractive r ∈ p.deeds) :
    r = (Device.perform .enterInteractive d).result := by
  obtain ⟨before, after, he, hb, -, ha⟩ := h.interactive hm
  obtain ⟨l, hl, hn⟩ := handshake_eq_cons d
  rw [he, hl] at hr
  rcases List.mem_append.1 hr with hr | hr
  · exact absurd (Deed.mem_calls_of_mem hr) (hb ▸ List.not_mem_nil)
  · rcases List.mem_cons.1 hr with hr | hr
    · cases hr
      rfl
    · rcases List.mem_append.1 hr with hr | hr
      · exact absurd (Deed.mem_calls_of_mem hr) hn
      · exact absurd (Deed.mem_calls_of_mem hr) ha

/-- A handshake in the notes is the one with which they began. -/
theorem Opened.shakesHands (h : Opened d p) (hm : p.mode = some .interactive)
    (hs : Deed.Handshaken p.deeds) : ShakesHands d := by
  obtain ⟨before, m, k, after, he⟩ := hs
  obtain ⟨before', after', he', hb, -, ha⟩ := h.interactive hm
  have hr : (Device.perform .enterInteractive d).result = .ok () :=
    (h.answer_eq hm (by rw [he]; exact List.mem_append_right _ List.mem_cons_self)).symm
  rw [he, handshake, askAll_of_ok hr, askAll_singleton] at he'
  have hx : Deed.asked m .enterInteractive (.ok ()) ∉ before' := by
    intro hx
    have hx := Deed.mem_calls_of_mem hx
    rw [hb] at hx
    cases hx
  obtain ⟨-, -, he'⟩ := (List.append_cons_inj_of_notMem hx fun hz => by
    rcases List.mem_cons.1 hz with hz | hz
    · cases hz
    · exact ha (Deed.mem_calls_of_mem hz)).1 he'.symm
  exact ⟨hr, eq_of_heq (Deed.asked.inj (List.cons.inj he').1).2.2⟩

/-- With a plotter that shakes hands, the handshake comes before all calls that need it. -/
theorem Opened.handshaken (h : Opened d p) (hd : ShakesHands d) (hm : p.mode = some .interactive)
    {before after : List Deed} {k : Option Mode} {c : Call} {r : Except Refusal c.Answer}
    (he : p.deeds = before ++ .asked k c r :: after) (hc : c.OnlyInteractive) :
    Deed.Handshaken before := by
  obtain ⟨before', after', he', hb, -, -⟩ := h.interactive hm
  rw [handshake_of_shakesHands hd, he] at he'
  rcases List.append_eq_append_iff.1 he' with ⟨t, rfl, ht⟩ | ⟨t, rfl, ht⟩
  · -- the call would stand before the handshake, where nothing was asked, or be part of it
    cases t with
    | nil =>
      cases ht
      exact hc.elim
    | cons x t =>
      obtain ⟨rfl, -⟩ := List.cons.inj ht
      have hx : c ∈ Deed.calls (before ++ .asked k c r :: t) :=
        Deed.mem_calls_of_mem (List.mem_append_right _ List.mem_cons_self)
      rw [hb] at hx
      cases hx
  · match t, ht with
    | [], ht => cases ht; exact hc.elim
    | [_], ht => cases ht; exact hc.elim
    | x :: y :: t, ht =>
      cases ht
      exact ⟨before', _, _, t, rfl⟩

/-- A script that keeps the rule in interactive mode has a plotter that shakes hands, or one that at
least does not refuse and is asked for nothing. -/
theorem Opened.of_keepsHandshake (h : Opened d p) (hk : p.KeepsHandshake)
    (hm : p.mode = some .interactive) : ShakesHands d ∨
      (Device.perform .enterInteractive d).result = .ok () ∧
        ∀ c ∈ Deed.calls p.deeds, ¬c.OnlyInteractive := by
  by_cases hd : ShakesHands d
  · exact .inl hd
  refine .inr ⟨?_, fun c hc ho => ?_⟩
  · obtain ⟨before, after, he, -, ha, -⟩ := h.interactive hm
    rcases hr : (Device.perform .enterInteractive d).result with r | ⟨⟩
    · rw [handshake, askAll_of_error hr] at he
      have hu := hk.unset before (some .interactive) r after he ha
      rw [hm] at hu
      cases hu
    · rfl
  · obtain ⟨k, r, hc⟩ := Deed.mem_calls.1 hc
    obtain ⟨before, after, he⟩ := List.append_of_mem hc
    have hs := (hk.shaken before k c r after he ho).append (.asked k c r :: after)
    rw [← he] at hs
    exact hd (h.shakesHands hm hs)

/-- **When a script keeps the rule.**  In interactive mode, its plotter shakes hands, or at least
does not refuse and is asked for nothing. -/
theorem Opened.keepsHandshake_iff (h : Opened d p) (hp : Safe p) : p.KeepsHandshake ↔
    (p.mode = some .interactive → ShakesHands d ∨
      (Device.perform .enterInteractive d).result = .ok () ∧
        ∀ c ∈ Deed.calls p.deeds, ¬c.OnlyInteractive) := by
  constructor
  · exact h.of_keepsHandshake
  · intro hk
    refine ⟨fun before k c r after he ho => ?_, fun before k r after he _ => ?_⟩
    · have hc : Deed.asked k c r ∈ p.deeds := he ▸ List.mem_append_right _ List.mem_cons_self
      have hm : p.mode = some .interactive := by
        obtain ⟨rfl, hf⟩ := hp.fits k c r hc
        exact hf.onlyInteractive ho
      rcases hk hm with hd | ⟨-, hn⟩
      · exact h.handshaken hd hm he ho
      · exact absurd ho (hn c (Deed.mem_calls_of_mem hc))
    · have hr : Deed.asked k .enterInteractive (.error r) ∈ p.deeds :=
        he ▸ List.mem_append_right _ List.mem_cons_self
      obtain ⟨rfl, hm⟩ := hp.fits _ _ _ hr
      have ha := h.answer_eq hm hr
      rcases hk hm with hd | ⟨hd, -⟩
      · rw [hd.1] at ha
        cases ha
      · rw [hd] at ha
        cases ha

end Past

namespace Executor

/-- Whatever an executor is used for, the notes of its script begin with the handshake. -/
theorem opened_live (strict : Bool) (p : Params) (device : σ) (site : Site) (l : List Use) :
    ((start strict p device site).live l).past.Opened device :=
  (Past.opened_start device).of_leads (Past.safe_start device)
    (past_live (start strict p device site) l)

/-- Interactive mode is set, what waits is discarded, and then a connection is made: whatever the
plotter answers, the mode is set, and the call that connects is made. -/
theorem connect_of_live (strict : Bool) (p : Params) (device : σ) (site : Site) {m i c : Lexeme}
    (hm : m.kind = .mode) (hi : i.kind = .modeName .interactive) (hc : c.kind = .connect) :
    let q := ((start strict p device site).live [.parse [m, i], .discard, .parse [c]]).past
    q.mode = some .interactive ∧ .connect ∈ Deed.calls q.deeds := by
  set e := start strict p device site
  set t := (e.parse [m, i]).state
  have hp : e.past.Safe := Past.safe_start device
  have ht : t.mode = some .interactive := by
    have hr more : (Reader.read e.mode more m [i]).result = .ok (.setMode .interactive, 2) := by
      simp only [Reader.read, hm, Reader.readSimple, Reader.readMode, hi]
      rfl
    obtain ⟨cs, hcs, hl⟩ := enacts_parse_of_read (t := []) rfl rfl rfl (by simp [hm, hi]) (.inl rfl) hr
    have hm : (Action.setMode .interactive).PermittedIn e.past.mode := rfl
    exact (hp.of_step (.enacted e.past e.index hm hcs)).mode_of_leads hl rfl
  have hts : t.stream.ended = false := by
    show (e.parse [m, i]).state.stream.ended = _
    rw [parse_of_forall rfl (by simp [hm, hi]), (frame_run _).stream]
  have hr more : (Reader.read t.discard.mode more c []).result = .ok (.connect, 1) := by
    show (Reader.read t.mode _ c []).result = _
    rw [ht]
    simp only [Reader.read, hc, Reader.readSimple]
    rfl
  obtain ⟨cs, hcs, hl⟩ :=
    enacts_parse_of_read (e := t.discard) (t := []) rfl rfl hts (by simp [hc]) (.inl rfl) hr
  refine ⟨?_, ?_⟩
  · exact (hp.of_leads (past_live e [.parse [m, i]])).mode_of_leads
      (past_live t [.discard, .parse [c]]) ht
  · cases hcs
    refine (hl.deeds_isPrefix.filterMap _).subset ?_
    show _ ∈ Deed.calls _
    rw [Past.calls_enact, Action.calls, askAll_singleton]
    exact List.mem_append_right _ List.mem_cons_self

/-- **When the handshake rule is kept.**  A script keeps the rule if it never sets interactive
mode, if its plotter shakes hands, or if the plotter at least does not refuse and is then asked for
nothing; otherwise it breaks it.  So all scripts keep it with a plotter exactly if the plotter
shakes hands. -/
theorem keepsHandshake_live_iff (strict : Bool) (p : Params) (device : σ) (site : Site) :
    (∀ l, let q := ((start strict p device site).live l).past
      q.KeepsHandshake ↔ (q.mode = some .interactive → ShakesHands device ∨
        (Device.perform .enterInteractive device).result = .ok () ∧
          ∀ c ∈ Deed.calls q.deeds, ¬c.OnlyInteractive)) ∧
    ((∀ l, ((start strict p device site).live l).past.KeepsHandshake) ↔ ShakesHands device) := by
  have hiff l := (opened_live strict p device site l).keepsHandshake_iff
    (safe_live strict p device site l)
  refine ⟨hiff, fun h => ?_, fun h l => (hiff l).2 fun _ => .inl h⟩
  obtain ⟨hm, hc⟩ := connect_of_live strict p device site (m := .alone .mode "MODE")
    (i := .alone (.modeName .interactive) "I") (c := .alone .connect "CONNECT") rfl rfl rfl
  rcases (hiff _).1 (h _) hm with hd | ⟨-, hn⟩
  · exact hd
  · exact absurd trivial (hn _ hc)

end Executor
end Device

namespace Executor

/-- A plotter that refuses to enter interactive mode. -/
def unwilling : Recorder where
  refusal _ c :=
    if c = .enterInteractive then some (.complaint .device (.said "no interactive mode") none)
    else none
  position := (.int 0, .int 0)
  penDown := false
  obedient := true
  mode := none
  past := []

/-- A script of two lines, run leniently with a plotter that refuses to enter interactive mode. -/
def refusedScript : Executor Recorder :=
  (start false .standard unwilling .bare).live
    [.parse (Lexer.reading ["MODE I", "CONNECT"] none).tokens.1]

/-- The refused mode is set all the same, and the next line makes a connection. -/
theorem not_keepsHandshake_refusedScript :
    Deed.calls refusedScript.past.deeds = [.enterInteractive, .connect] ∧
      ¬refusedScript.past.KeepsHandshake := by
  refine ⟨by decide +kernel, fun h => ?_⟩
  have hm : refusedScript.past.mode = some .interactive := by decide +kernel
  have hk := ((opened_live false .standard unwilling .bare _).keepsHandshake_iff
    (safe_live false .standard unwilling .bare _)).1 h hm
  rcases hk with hd | ⟨hd, -⟩
  · cases hd.1
  · cases hd

end Executor
end PlotScript
