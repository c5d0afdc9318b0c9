/-
# Actions that a preview refuses

A preview looks at what it needs before it changes anything, and records what it did after the
change.  The check stands in the raising and the lowering of the pen and in waiting alone, and every
other action of the pen begins with one of these:

| action | needs | begins with |
| --- | --- | --- |
| raise, lower, wait | a connection | the check |
| toggle | a connection | a raise or a lowering, whichever way the pen is |
| move, home, draw | a connection | a raise |
| move by a distance | a connection | reading the distance, which changes nothing |
| plot | a drawing | the check |

So an action is refused exactly if it lacks what it needs, in whatever state the preview is, also
with a pen that a disconnection left down, and then nothing has happened
(`Preview.refused_unchanged`).  In a history of calls those that were refused can be left out.

The preview is that of the language specification, §14.
-/

import PlotScript.Proofs.Drawings

namespace PlotScript

/-- A call that a preview answers only with a connection. -/
def Call.needsConnection : Call → Bool
  | penUp | penDown | penToggle | home | goTo _ _ | goToRelative _ _ | drawPath _ | wait _ => true
  | enterInteractive | set _ _ | commitOptions | connect | disconnect | getPosition | getPenDown
  | currentMode | setupPlot _ | runPlot => false

/-- The calls, of some that are made one after the other, that are not refused. -/
def Device.answered {σ : Type} [Device σ] (d : σ) : List Call → List Call
  | [] => []
  | c :: cs =>
    let later := answered (Device.perform c d).state cs
    if (Device.perform c d).result.isOk then c :: later else later

namespace Preview

variable {p : Preview} {cause : Cause} {α β : Type}

/-- What a preview lacks for a call. -/
def lacks (p : Preview) (c : Call) : Option Cause :=
  if c.needsConnection = true ∧ p.connected = false then some .plotterNotConnected
  else if c = .runPlot ∧ p.plotFile = none then some .plotterWithoutDrawing
  else none

/-- What a preview lacks is the connection for a call that needs it, or the drawing for plotting. -/
theorem lacks_eq_some_iff {c : Call} : p.lacks c = some cause ↔
    c.needsConnection = true ∧ p.connected = false ∧ cause = .plotterNotConnected ∨
      c = .runPlot ∧ p.plotFile = none ∧ cause = .plotterWithoutDrawing := by
  unfold lacks
  split
  · rename_i hc
    refine ⟨fun h => .inl ⟨hc.1, hc.2, (Option.some.inj h).symm⟩, ?_⟩
    rintro (⟨-, -, rfl⟩ | ⟨rfl, -⟩)
    · rfl
    · cases hc.1
  rename_i hc
  split
  · rename_i hr
    refine ⟨fun h => .inr ⟨hr.1, hr.2, (Option.some.inj h).symm⟩, ?_⟩
    rintro (⟨hn, hp, -⟩ | ⟨-, -, rfl⟩)
    · exact absurd ⟨hn, hp⟩ hc
    · rfl
  · rename_i hr
    refine ⟨nofun, ?_⟩
    rintro (⟨hn, hp, -⟩ | ⟨hplot, hp, -⟩)
    · exact absurd ⟨hn, hp⟩ hc
    · exact absurd ⟨hplot, hp⟩ hr

/-- An act that is refused with a cause, and has done nothing. -/
def RefusedAt (p : Preview) (cause : Cause) (x : Act Refusal Preview α) : Prop :=
  x p = ⟨.error (.complaint .device cause none), [], p⟩

/-- What begins with a refused act is refused. -/
theorem RefusedAt.bind {x : Act Refusal Preview α} (h : RefusedAt p cause x)
    (f : α → Act Refusal Preview β) : RefusedAt p cause (x >>= f) := by
  have hx : x p = _ := h
  have hr : (x p).result = .error (.complaint .device cause none) := by rw [hx]
  exact (Act.bind_of_error hr f).trans (by rw [hx])

/-- An act that has done nothing can be left out in front of a refused one. -/
theorem RefusedAt.of_bind {x : Act Refusal Preview α} {a : α} (h : x p = ⟨.ok a, [], p⟩)
    {f : α → Act Refusal Preview β} (hf : RefusedAt p cause (f a)) :
    RefusedAt p cause (x >>= f) :=
  Act.bind_eq h hf

/-- Looking for a connection that is not there is refused, and changes nothing. -/
theorem refusedAt_needConnection (h : p.connected = false) :
    RefusedAt p .plotterNotConnected needConnection :=
  RefusedAt.of_bind (x := Act.get) rfl (by rw [h]; rfl)

/-- Raising the pen begins with looking for the connection, so without it nothing has happened. -/
theorem refusedAt_raise (h : p.connected = false) : RefusedAt p .plotterNotConnected raise :=
  (refusedAt_needConnection h).bind _

/-- Lowering the pen begins with looking for the connection, so without it nothing has happened. -/
theorem refusedAt_lower (h : p.connected = false) : RefusedAt p .plotterNotConnected lower :=
  (refusedAt_needConnection h).bind _

/-- Moving begins with raising the pen, so without a connection nothing has happened. -/
theorem refusedAt_moveTo (h : p.connected = false) (q : Point) :
    RefusedAt p .plotterNotConnected (moveTo q) :=
  (refusedAt_raise h).bind _

/-- Numbers in range are a point, wherever the preview is. -/
theorem exists_point_eq {q : Point} (h : q.1.InRange ∧ q.2.InRange)
    (p : Preview) : ∃ xy, point q p = ⟨.ok xy, [], p⟩ := by
  obtain ⟨x, hx⟩ := Option.isSome_iff_exists.1 h.1
  obtain ⟨y, hy⟩ := Option.isSome_iff_exists.1 h.2
  refine ⟨(x, y), ?_⟩
  have hc {n : Number} {z : Float} (hn : n.toFloat? = some z) :
      coordinate n p = ⟨.ok z, [], p⟩ := by
    rw [coordinate, hn]
    rfl
  exact Act.bind_eq (hc hx) (Act.bind_eq (hc hy) rfl)

/-- **Without what it needs, a call is refused and nothing happens.** -/
theorem refusedAt_perform {c : Call} (hc : c.Fits) (h : p.lacks c = some cause) :
    RefusedAt p cause (perform c) := by
  rcases lacks_eq_some_iff.1 h with ⟨hneeds, hp, rfl⟩ | ⟨rfl, hp, rfl⟩
  · cases c with
    | penUp => exact refusedAt_raise hp
    | penDown => exact refusedAt_lower hp
    | penToggle =>
      refine RefusedAt.of_bind (x := Act.get) rfl ?_
      split
      · exact refusedAt_raise hp
      · exact refusedAt_lower hp
    | home | goTo => exact refusedAt_moveTo hp _
    | goToRelative x y =>
      obtain ⟨d, hd⟩ := exists_point_eq (q := (x, y)) hc p
      exact RefusedAt.of_bind hd (RefusedAt.of_bind (x := Act.get) rfl (refusedAt_moveTo hp _))
    | drawPath points =>
      cases points with
      | nil => exact absurd rfl hc.1
      | cons first rest => exact (refusedAt_moveTo hp first).bind _
    | wait => exact (refusedAt_needConnection hp).bind _
    | enterInteractive | set | commitOptions | connect | disconnect | getPosition | getPenDown
    | currentMode | setupPlot | runPlot => cases hneeds
  · exact RefusedAt.of_bind (x := Act.get) rfl (by rw [hp]; rfl)

/-- An act that a connected preview does, and stays connected. -/
def Done (x : Act Refusal Preview α) : Prop :=
  ∀ p : Preview, p.connected = true → (∃ a, (x p).result = .ok a) ∧ (x p).state.connected = true

/-- Giving a result is done, and leaves the connection. -/
theorem done_pure (a : α) : Done (Act.pure a) := fun _ h => ⟨⟨a, rfl⟩, h⟩

/-- Looking at the preview is done, and leaves the connection. -/
theorem done_get : Done Act.get := fun p h => ⟨⟨p, rfl⟩, h⟩

/-- Leaving a record is done, and leaves the connection. -/
theorem done_say (text : String) : Done (say text) := fun _ h => ⟨⟨(), rfl⟩, h⟩

/-- A change that leaves the connection is done. -/
theorem done_modify {g : Preview → Preview} (h : ∀ p, (g p).connected = p.connected) :
    Done (Act.modify g) := fun p hp => ⟨⟨(), rfl⟩, (h p).trans hp⟩

/-- Two acts that a connected preview does, one after the other, are done: the connection is there
for the second one. -/
theorem Done.bind {x : Act Refusal Preview α} {f : α → Act Refusal Preview β} (hx : Done x)
    (hf : ∀ a, Done (f a)) : Done (x >>= f) := by
  intro p hp
  obtain ⟨⟨a, ha⟩, hs⟩ := hx p hp
  rw [Act.bind_of_ok ha]
  exact hf a _ hs

/-- A connected preview finds its connection. -/
theorem done_needConnection : Done needConnection := by
  intro p hp
  have h : needConnection p = ⟨.ok (), [], p⟩ :=
    Act.bind_eq (x := Act.get) rfl (by rw [if_pos hp]; rfl)
  rw [h]
  exact ⟨⟨(), rfl⟩, hp⟩

/-- Numbers in range are a point. -/
theorem done_point {q : Point} (h : q.1.InRange ∧ q.2.InRange) :
    Done (point q) := by
  intro p hp
  obtain ⟨xy, hxy⟩ := exists_point_eq h p
  rw [hxy]
  exact ⟨⟨xy, rfl⟩, hp⟩

/-- A connected preview raises the pen. -/
theorem done_raise : Done raise :=
  done_needConnection.bind fun _ => (done_modify fun _ => by rfl).bind fun _ => done_say _

/-- A connected preview lowers the pen. -/
theorem done_lower : Done lower :=
  done_needConnection.bind fun _ => (done_modify fun _ => by rfl).bind fun _ => done_say _

/-- A connected preview moves to a point in range. -/
theorem done_moveTo {q : Point} (h : q.1.InRange ∧ q.2.InRange) :
    Done (moveTo q) :=
  done_raise.bind fun _ => (done_point h).bind fun _ => (done_modify fun _ => by rfl).bind fun _ =>
    done_say _

/-- A connected preview draws to a point in range. -/
theorem done_lineTo {q : Point} (h : q.1.InRange ∧ q.2.InRange) :
    Done (lineTo q) :=
  (done_modify fun _ => by rfl).bind fun _ => (done_point h).bind fun _ =>
    (done_modify fun _ => by rfl).bind fun _ => done_say _

/-- A connected preview draws to points in range, one after the other. -/
theorem done_lines {points : List Point} (h : ∀ q ∈ points, q.1.InRange ∧ q.2.InRange) :
    Done (Act.forEach points lineTo) := by
  induction points with
  | nil => exact done_pure ()
  | cons q points ih =>
    have hrest := ih fun q' hq => h q' (List.mem_cons_of_mem q hq)
    exact (done_lineTo (h q List.mem_cons_self)).bind fun _ => hrest

/-- A connected preview does what it is asked with the pen. -/
theorem done_perform {c : Call} (hc : c.Fits) (hneeds : c.needsConnection = true) :
    Done (perform c) := by
  cases c with
  | penUp => exact done_raise
  | penDown => exact done_lower
  | penToggle =>
    refine done_get.bind fun p => ?_
    split
    · exact done_raise
    · exact done_lower
  | home =>
    have hzero : (Number.int 0).InRange := by
      show (Number.int 0).toFloat?.isSome = true
      decide +kernel
    exact done_moveTo ⟨hzero, hzero⟩
  | goTo => exact done_moveTo hc
  | goToRelative x y =>
    exact (done_point (q := (x, y)) hc).bind fun _ => done_get.bind fun _ =>
      done_moveTo ⟨rfl, rfl⟩
  | drawPath points =>
    cases points with
    | nil => exact absurd rfl hc.1
    | cons first rest =>
      have hrest := done_lines fun q hq => hc.2 q (List.mem_cons_of_mem first hq)
      exact (done_moveTo (hc.2 first List.mem_cons_self)).bind fun _ => hrest
  | wait => exact done_needConnection.bind fun _ => done_say _
  | enterInteractive | set | commitOptions | connect | disconnect | getPosition | getPenDown
  | currentMode | setupPlot | runPlot => cases hneeds

/-- **With what it needs, a call is answered.** -/
theorem exists_answer {c : Call} (hc : c.Fits) (h : p.lacks c = none) :
    ∃ a, (perform c p).result = .ok a := by
  rcases hn : c.needsConnection with _ | _
  · cases c with
    | runPlot =>
      rcases hf : p.plotFile with _ | path
      · rw [lacks_eq_some_iff.2 (.inr ⟨rfl, hf, rfl⟩)] at h
        cases h
      · exact ⟨(), result_runPlot hf⟩
    | enterInteractive | set | commitOptions | connect | disconnect | setupPlot => exact ⟨(), rfl⟩
    | getPosition | getPenDown | currentMode => exact ⟨_, rfl⟩
    | penUp | penDown | penToggle | home | goTo | goToRelative | drawPath | wait => cases hn
  · rcases hp : p.connected with _ | _
    · rw [lacks_eq_some_iff.2 (.inl ⟨hn, hp, rfl⟩)] at h
      cases h
    · exact (done_perform hc hn p hp).1

/-- A call is refused with what it lacks, and with nothing else. -/
theorem refusal_iff {c : Call} (hc : c.Fits) {r : Refusal} :
    (perform c p).result = .error r ↔ ∃ cause, p.lacks c = some cause ∧
      r = .complaint .device cause none := by
  rcases hl : p.lacks c with _ | cause
  · obtain ⟨a, ha⟩ := exists_answer hc hl
    simp [ha]
  · have h : perform c p = _ := refusedAt_perform hc hl
    simp [h, eq_comm]

/-- **A preview has come to what the calls that it answered have made of it.** -/
theorem afterAll_answered {cs : List Call} (hcs : ∀ c ∈ cs, c.Fits) (p : Preview) :
    Device.afterAll p (Device.answered p cs) = Device.afterAll p cs := by
  induction cs generalizing p with
  | nil => rfl
  | cons c cs ih =>
    obtain ⟨hc, hcs⟩ := List.forall_mem_cons.1 hcs
    have hlater := ih hcs (perform c p).state
    rcases hl : p.lacks c with _ | cause
    · obtain ⟨a, ha⟩ := exists_answer hc hl
      have hok : (Device.perform c p).result.isOk = true := by
        show (perform c p).result.isOk = true
        rw [ha]
        rfl
      rw [Device.answered, if_pos hok]
      exact hlater
    · have h : Device.perform c p = ⟨.error (.complaint .device cause none), [], p⟩ :=
        refusedAt_perform hc hl
      have hsame : (perform c p).state = p := congrArg Outcome.state h
      rw [hsame] at hlater
      have hrefused : ¬(Device.perform c p).result.isOk = true := by
        rw [h]
        exact Bool.false_ne_true
      rw [Device.answered, if_neg hrefused]
      have hafter : Device.afterAll p (c :: cs) = Device.afterAll p cs :=
        congrArg (Device.afterAll · cs) hsame
      rw [hafter, h]
      exact hlater

/-- **A call that a preview refuses changes nothing.**  Whatever state the preview is in, a call that
can be done at all is refused exactly if it is one of the pen, of a motion, of drawing or of waiting
and there is no connection, or if it is to plot and there is no drawing.  Then the refusal is a
complaint that says which of the two is lacking, nothing is recorded, and the preview is as before,
its pen, its position and what is pending included.  In a history of calls all those that were
refused can be left out. -/
theorem refused_unchanged (p : Preview) {c : Call} (hc : c.Fits) :
    (∀ r, (perform c p).result = .error r →
      (∃ cause, r = .complaint .device cause none) ∧ (perform c p).events = [] ∧
        (perform c p).state = p) ∧
    (∀ cause, (perform c p).result = .error (.complaint .device cause none) ↔
      c.needsConnection = true ∧ p.connected = false ∧ cause = .plotterNotConnected ∨
        c = .runPlot ∧ p.plotFile = none ∧ cause = .plotterWithoutDrawing) ∧
    ∀ cs : List Call, (∀ c ∈ cs, c.Fits) →
      Device.afterAll p (Device.answered p cs) = Device.afterAll p cs := by
  refine ⟨fun r hr => ?_, fun cause => ?_, fun cs hcs => afterAll_answered hcs p⟩
  · obtain ⟨cause, hl, rfl⟩ := (refusal_iff hc).1 hr
    have h : perform c p = _ := refusedAt_perform hc hl
    rw [h]
    exact ⟨⟨cause, rfl⟩, rfl, rfl⟩
  · rw [refusal_iff hc, ← lacks_eq_some_iff]
    constructor
    · rintro ⟨cause', hl, he⟩
      cases he
      exact hl
    · exact fun hl => ⟨cause, hl, rfl⟩

/-- A preview that was disconnected with the pen down and has a value pending: it is asked to draw,
and the pen stays down. -/
theorem refused_unchanged_penLeftDown :
    let cs : List Call := [.penUp, .connect, .goTo (.float 1) (.float 2), .penDown,
      .set .units (.num (.int 2)), .disconnect]
    let p := Device.afterAll start cs
    let c : Call := .drawPath [(.float 3, .float 4), (.float 5, .float 6)]
    c.Fits ∧ (∀ c ∈ cs, c.Fits) ∧ p.penDown = true ∧ p.pending ≠ [] ∧
      (perform c p).result = .error (.complaint .device .plotterNotConnected none) ∧
      (perform c p).events = [] ∧ (perform c p).state = p ∧
      Device.afterAll start (Device.answered start cs) = p := by
  intro cs p c
  have hc : c.Fits := ⟨List.cons_ne_nil _ _, by simp [Number.InRange, Number.toFloat?]⟩
  have hcs : ∀ c ∈ cs, c.Fits := by
    simp [cs, Call.Fits, Number.InRange, Number.toFloat?]
  obtain ⟨hsame, hiff, -⟩ := refused_unchanged p hc
  obtain ⟨-, -, hhistory⟩ := refused_unchanged start (c := .connect) trivial
  have hr : (perform c p).result = .error (.complaint .device .plotterNotConnected none) :=
    (hiff _).2 (.inl ⟨rfl, by decide +kernel, rfl⟩)
  exact ⟨hc, hcs, by decide +kernel, by decide +kernel, hr, (hsame _ hr).2.1, (hsame _ hr).2.2,
    hhistory cs hcs⟩

end Preview
end PlotScript
