/-
# Running a script as a whole

Reading a script does nothing but leave records (`Script.quiet_load`), and so does removing what was
fetched (`Script.quiet_close`).  So what a run of a script does is what its commands do: a run that
comes to its end takes the course of the words of the file (`Script.course_of_execute`).
-/

import PlotScript.Proofs.Courses
import PlotScript.Proofs.Rows
import PlotScript.Script

namespace PlotScript

namespace Act

variable {ε τ α β : Type}

/-- An act that leaves the state as it is, and records only. -/
def Quiet (x : Act ε τ α) : Prop := ∀ t, (x t).state = t ∧ Event.unlogged (x t).events = []

/-- Looking at the state is quiet: it changes nothing and leaves nothing. -/
theorem quiet_get : Quiet (get : Act ε τ τ) := fun _ => ⟨rfl, rfl⟩

/-- Giving a result is quiet. -/
theorem quiet_pure (a : α) : Quiet (pure a : Act ε τ α) := fun _ => ⟨rfl, rfl⟩

/-- Giving what was worked out is quiet, also where that is a fault. -/
theorem quiet_ofExcept (x : Except ε α) : Quiet (ofExcept x : Act ε τ α) := by
  cases x with
  | error => exact fun _ => ⟨rfl, rfl⟩
  | ok => exact fun _ => ⟨rfl, rfl⟩

/-- Leaving events is quiet if the log holds them already. -/
theorem quiet_tell {es : List Event} (h : Event.unlogged es = []) :
    Quiet (tell es : Act ε τ Unit) := fun _ => ⟨rfl, h⟩

/-- Two quiet acts, one after the other, are quiet. -/
theorem Quiet.bind {x : Act ε τ α} {f : α → Act ε τ β} (hx : Quiet x) (hf : ∀ a, Quiet (f a)) :
    Quiet (x >>= f) := by
  intro t
  rcases hr : (x t).result with e | a
  · rw [bind_of_error hr]
    exact hx t
  · rw [bind_of_ok hr]
    refine ⟨((hf a _).1).trans (hx t).1, ?_⟩
    rw [Event.unlogged_append, (hx t).2, (hf a _).2]
    rfl

end Act

namespace Script

variable {path : String} {cs : List Char} {t : Site} {l : List Lexeme}

/-- A script has the characters of its file. -/
theorem of_text (hs : text t path = .ok cs) :
    ∃ bytes, t.lookup path = some (.file bytes) ∧ Text.Utf8.decode? bytes = some cs := by
  unfold text at hs
  split at hs
  · rename_i cs' hcs
    cases hs
    obtain ⟨bytes, hbytes, hdecode⟩ := Option.bind_eq_some_iff.1 hcs
    obtain ⟨e, he, hfile⟩ := Option.bind_eq_some_iff.1 hbytes
    cases e with
    | file => exact ⟨bytes, he.trans (congrArg _ (congrArg _ (Option.some.inj hfile))), hdecode⟩
    | folder => cases hfile
  · cases hs

/-- Lexing lines is quiet: its complaints are warnings, which the log holds. -/
theorem quiet_lexemes (lines : List String) : Act.Quiet (lexemes path lines) := by
  refine (Act.quiet_tell (Event.unlogged_warnings _)).bind fun _ => ?_
  refine (Act.quiet_tell (Event.unlogged_eq_nil fun ev h => ?_)).bind fun _ => ?_
  · obtain ⟨c, -, rfl⟩ := List.mem_map.1 h
    rfl
  · exact (Act.quiet_ofExcept _).bind fun _ => Act.quiet_pure _

/-- **Reading a script does nothing.** -/
theorem quiet_load (path : String) : Act.Quiet (load path) :=
  Act.quiet_get.bind fun _ => (Act.quiet_ofExcept _).bind fun _ =>
    (Act.quiet_tell rfl).bind fun _ => (Act.quiet_ofExcept _).bind fun _ => quiet_lexemes _

/-- If there is no first complaint, there is none at all. -/
theorem firstComplaint_eq_ok {l : List Complaint} {u : Unit} (h : firstComplaint l = .ok u) :
    l = [] := by
  cases l with
  | nil => rfl
  | cons => cases h

/-- The words of a script that is read are known. -/
theorem of_lexemes {lines : List String} (h : (lexemes path lines t).result = .ok l) :
    l = (Lexer.reading lines (some path)).tokens.1 ∧
      Lexer.unknowns (Lexer.reading lines (some path)).words = [] := by
  have hu : (Lexer.reading lines (some path)).tokens.2.2.complaints =
      Lexer.unknowns (Lexer.reading lines (some path)).words := by
    rw [(Lexer.reading lines (some path)).ends_tokens.complaints, Lexer.words_eq_ahead]
    rfl
  unfold lexemes at h
  generalize (Lexer.reading lines (some path)).tokens = o at h hu ⊢
  obtain ⟨m, warning, y⟩ := o
  obtain ⟨_, -, h, -⟩ := Act.exists_of_bind_eq_ok h
  obtain ⟨_, -, h, -⟩ := Act.exists_of_bind_eq_ok h
  obtain ⟨u, hf, h, -⟩ := Act.exists_of_bind_eq_ok h
  rw [Act.result_ofExcept] at hf
  cases h
  exact ⟨rfl, hu.symm.trans (firstComplaint_eq_ok hf)⟩

/-- A file that is loaded without a fault gives all the lexemes of its lines, and holds no unknown
word. -/
theorem of_load (h : (load path t).result = .ok l) (hs : text t path = .ok cs) :
    l = (Lexer.reading (Text.fileLines cs) (some path)).tokens.1 ∧
      Lexer.unknowns (Lexer.reading (Text.fileLines cs) (some path)).words = [] := by
  obtain ⟨_, hg, h, -⟩ := Act.exists_of_bind_eq_ok h
  cases hg
  obtain ⟨_, -, h, -⟩ := Act.exists_of_bind_eq_ok h
  obtain ⟨_, -, h, -⟩ := Act.exists_of_bind_eq_ok h
  obtain ⟨cs', hc, h, -⟩ := Act.exists_of_bind_eq_ok h
  rw [Act.result_ofExcept] at hc
  obtain rfl : cs = cs' := Except.ok.inj (hs.symm.trans hc)
  exact of_lexemes h

section Device

variable {σ : Type} [Device σ] {d : Bench σ} {p : Params}

omit [Device σ] in
/-- Removing downloads is quiet, and a drawing that is set remains set. -/
theorem quiet_removeAll (b : Bench σ) (l : List String) :
    Event.unlogged (b.removeAll l).1 = [] ∧ (b.removeAll l).2.plotLoaded = b.plotLoaded := by
  induction l generalizing b with
  | nil => exact ⟨rfl, rfl⟩
  | cons path r ih =>
    have hd : (b.removeDownload path).1.isRecord = true ∧
        (b.removeDownload path).2.plotLoaded = b.plotLoaded := by
      unfold Bench.removeDownload
      split <;> exact ⟨rfl, rfl⟩
    obtain ⟨he, hl⟩ := ih (b.removeDownload path).2
    refine ⟨?_, hl.trans hd.2⟩
    show List.filter _ ((b.removeDownload path).1 :: _) = []
    rw [List.filter_cons_of_neg (by simp [hd.1])]
    exact he

omit [Device σ] in
/-- Removing what was fetched leaves records only. -/
theorem quiet_close (p : Params) (b : Bench σ) :
    Event.unlogged (b.close p).1 = [] ∧ (b.close p).2.plotLoaded = b.plotLoaded := by
  unfold Bench.close
  split
  · exact ⟨rfl, rfl⟩
  · exact quiet_removeAll b b.downloads.reverse

/-- A script that is read is carried out as if it had been there. -/
theorem execute_of_load {e : Executor σ} (h : (load path e.bench.site).result = .ok l) :
    execute path e = ⟨(perform l e).result,
      (load path e.bench.site).events ++ (perform l e).events, (perform l e).state⟩ := by
  have hx : onSite (load path) e = ⟨.ok l, (load path e.bench.site).events, e⟩ := by
    show Outcome.mk (load path e.bench.site).result _
      { e with bench := { e.bench with site := (load path e.bench.site).state } } = _
    rw [h, (quiet_load path _).1]
    rfl
  exact Act.bind_eq hx rfl

/-- A strict run is given a whole script. -/
theorem parse_tokens (x : Lexer) (device : σ) :
    (Executor.start true p device t).parse x.tokens.1 =
      { Executor.start true p device t with stream := ⟨x.words, true⟩ }.run := by
  obtain ⟨place, h⟩ := x.tokens_eq
  rw [h]
  exact Executor.parse_of_endOfFile rfl (fun y hy => (Lexer.of_mem_words hy).2) rfl

/-- **A script that is carried out to its end takes a course.** -/
theorem course_of_execute {device : σ} (hs : text t path = .ok cs)
    (h : (execute path (Executor.start true p device t)).result = .ok ()) :
    let words := (Lexer.reading (Text.fileLines cs) (some path)).words
    let o := execute path (Executor.start true p device t)
    ∃ es d, Executor.Course p 0 (Bench.start device t) words es d ∧ Lexer.unknowns words = [] ∧
      Event.unlogged o.events = Event.unlogged es ∧ o.state.bench = (d.close p).2 := by
  intro words o
  obtain ⟨l, hl, -⟩ := Act.exists_of_bind_eq_ok h
  obtain ⟨rfl, hu⟩ := of_load hl hs
  have ho : o = _ := execute_of_load (e := Executor.start true p device t) hl
  have hr : o.result = .ok () := h
  rw [ho, perform, parse_tokens] at hr
  rw [perform, parse_tokens] at ho
  generalize hd : { Executor.start true p device t with stream := ⟨words, true⟩ }.run = r at ho hr
  obtain ⟨m, hm⟩ : ∃ m, r.result = .ok m := by
    rcases hm : r.result with f | m
    · rw [hm] at hr
      cases hr
    · exact ⟨m, rfl⟩
  obtain ⟨es, hc, he⟩ := Executor.course_of_run rfl rfl (hd ▸ hm)
  rw [hd] at hc he
  have hp : r.state.params = p := hd ▸ (Executor.frame_run _).params
  refine ⟨es, r.state.bench, hc, hu, ?_, ?_⟩
  · rw [ho, Event.unlogged_append, (quiet_load path _).2, List.nil_append, ← he]
    show Event.unlogged (r.events ++ (r.state.bench.close _).1) = _
    simp [(quiet_close _ _).1]
  · rw [ho, ← hp]
    rfl

end Device

end Script

end PlotScript
