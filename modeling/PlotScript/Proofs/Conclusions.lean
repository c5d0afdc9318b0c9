/-
# How a strict run concludes

With a mild plotter, a strict run of a readable script concludes in one of three ways
(`Executor.concludes_run`):

| the run | records of errors | result |
| --- | --- | --- |
| comes to its end | none | no fault |
| has a complaint about a command | that complaint, at the end | the complaint |
| sets a drawing whose check breaks down | none | a failure |

A step concludes in the same ways (`Executor.Batch.concludes_step`), and only after the first does
the run go on.  A preview is such a plotter, and it records no error of its own (`Preview.leaves`).
-/

import PlotScript.Proofs.CalmRuns
import PlotScript.Proofs.Sourcing
import PlotScript.Proofs.Strict

namespace PlotScript

namespace Preview

variable {E : Event → Prop} {α : Type}

/-- What holds of all records that a preview makes. -/
structure Recorded (E : Event → Prop) : Prop where
  info : ∀ text, E (.log .info text)
  debug : ∀ text, E (.log .debug text)

/-- An act of a preview that leaves no other events. -/
abbrev Leaving (E : Event → Prop) (x : Act Refusal Preview α) : Prop := x.Within (fun _ => True) E

/-- What a preview says is recorded as information, whatever the text is. -/
theorem leaving_say (hE : Recorded E) (text : String) : Leaving E (say text) :=
  Act.within_tell fun _ h => List.mem_singleton.1 h ▸ hE.info _

/-- A preview needs a connection without telling anybody: nothing but its result follows. -/
theorem leaving_needConnection : Leaving E needConnection := by
  refine Act.within_get.bind fun p => ?_
  split
  · exact Act.within_pure ()
  · exact Act.within_throw trivial

/-- To check a coordinate is to look at it, so it leaves nothing behind. -/
theorem leaving_coordinate (n : Number) : Leaving E (coordinate n) := by
  unfold coordinate
  split
  · exact Act.within_pure _
  · exact Act.within_throw trivial

/-- Both coordinates of a point are checked, and neither leaves anything behind. -/
theorem leaving_point (q : Point) : Leaving E (point q) :=
  (leaving_coordinate q.1).bind fun _ => (leaving_coordinate q.2).bind fun _ => Act.within_pure _

/-- Raising the pen is refused without a record, or is said in one record of information. -/
theorem leaving_raise (hE : Recorded E) : Leaving E raise :=
  leaving_needConnection.bind fun _ => (Act.within_modify _).bind fun _ => leaving_say hE _

/-- Lowering the pen is refused without a record, or is said in one record of information. -/
theorem leaving_lower (hE : Recorded E) : Leaving E lower :=
  leaving_needConnection.bind fun _ => (Act.within_modify _).bind fun _ => leaving_say hE _

/-- A move raises the pen before the point is checked, so that a move that is refused for its point
has said this much already; both records are of information. -/
theorem leaving_moveTo (hE : Recorded E) (q : Point) : Leaving E (moveTo q) :=
  (leaving_raise hE).bind fun _ => (leaving_point q).bind fun _ => (Act.within_modify _).bind
    fun _ => leaving_say hE _

/-- A line says nothing before its point was checked. -/
theorem leaving_lineTo (hE : Recorded E) (q : Point) : Leaving E (lineTo q) :=
  (Act.within_modify _).bind fun _ => (leaving_point q).bind fun _ => (Act.within_modify _).bind
    fun _ => leaving_say hE _

/-- Every call of a preview leaves records of information and debugging only, also where it is
refused: a refusal is for the caller to report, and the preview itself records none. -/
theorem leaving_perform (hE : Recorded E) (c : Call) : Leaving E (perform c) := by
  cases c with
  | enterInteractive | connect | disconnect | setupPlot =>
    exact (Act.within_modify _).bind fun _ => leaving_say hE _
  | set s v =>
    exact (Act.within_modify _).bind fun _ =>
      Act.within_tell fun _ h => List.mem_singleton.1 h ▸ hE.debug _
  | commitOptions =>
    exact Act.within_get.bind fun _ => (Act.within_modify _).bind fun _ => (leaving_say hE _).bind
      fun _ => Act.within_modify _
  | penUp => exact leaving_raise hE
  | penDown => exact leaving_lower hE
  | penToggle =>
    refine Act.within_get.bind fun p => ?_
    split
    · exact leaving_raise hE
    · exact leaving_lower hE
  | home => exact leaving_moveTo hE _
  | goTo x y => exact leaving_moveTo hE _
  | goToRelative x y =>
    exact (leaving_point (x, y)).bind fun d => Act.within_get.bind fun p => leaving_moveTo hE _
  | drawPath l =>
    cases l with
    | nil => exact Act.within_throw trivial
    | cons q l => exact (leaving_moveTo hE q).bind fun _ => Act.Within.forEach (leaving_lineTo hE)
  | wait time => exact leaving_needConnection.bind fun _ => leaving_say hE _
  | getPosition | getPenDown | currentMode => exact Act.within_get.bind fun _ => Act.within_pure _
  | runPlot =>
    refine Act.within_get.bind fun p => ?_
    split
    · exact Act.within_throw trivial
    · exact (Act.within_modify _).bind fun _ => leaving_say hE _

/-- **A preview records no error.** -/
theorem leaves : Device.Leaves Preview fun ev => ev.isError = false :=
  fun c d => (leaving_perform ⟨fun _ => rfl, fun _ => rfl⟩ c).events d

end Preview

namespace Executor

open Grammar

variable {σ α : Type} [Device σ] {site : Site} {e t : Executor σ} {word : Lexeme}
  {rest : List Lexeme}

/-- How a strict run ends, with what it records: there is no error; or there is one complaint, with
which it ends; or the check of a drawing breaks down, and there is none. -/
inductive Concludes (site : Site) : Turn σ α → Prop
  | done (a : α) {es : List Event} {t : Executor σ} : Ordinary σ es → Checked site t →
    Concludes site ⟨.ok a, es, t⟩
  | reported (c : Complaint) {es : List Event} {t : Executor σ} : Ordinary σ es →
    Checked site t → Concludes site ⟨.error (.command c), es ++ [.report .command c], t⟩
  | broken (f : Failure) {es : List Event} {t : Executor σ} : Ordinary σ es → ¬Checked site t →
    Concludes site ⟨.error (.failure f), es, t⟩

/-- Ordinary events may come first, and the conclusion remains what it was. -/
theorem Concludes.after {o : Turn σ α} (h : Concludes site o) {es : List Event}
    (hes : Ordinary σ es) : Concludes site (after es o) := by
  cases h with
  | done a ho hc => exact .done a (hes.append ho) hc
  | reported c ho hc =>
    simp only [Executor.after, ← List.append_assoc]
    exact .reported c (hes.append ho) hc
  | broken f ho hc => exact .broken f (hes.append ho) hc

omit [Device σ] in
/-- A report among the notes does not touch what was checked about the executor. -/
theorem Checked.note (h : Checked site e) (n : Nat) (c : Complaint) :
    Checked site (e.note (.reported n c)) := by
  intro k path hk
  refine h k path ((List.mem_append.1 hk).resolve_right fun hc => ?_)
  cases List.mem_singleton.1 hc

/-- A run concludes as the run after its first step does. -/
theorem Concludes.next {o : Turn σ (List Complaint)} (h : Concludes site o) {es : List Event}
    (hes : Ordinary σ es) :
    Concludes site ⟨o.result.map ([] ++ ·), es ++ o.events, o.state⟩ := by
  rw [map_nil_append]
  exact h.after hes

end Executor
end PlotScript
