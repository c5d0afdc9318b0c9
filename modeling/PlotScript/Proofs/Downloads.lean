/-
# What was fetched, until it is removed

A drawing from the web is listed right after it is fetched, before it is looked at, so it is listed
whether or not the command that fetched it succeeds.  `Executor.fetchedLive` tells what is fetched
in a life from what the commands on the way fetch, with no look at the list:

| use | the list |
| --- | --- |
| lexemes are parsed | what is fetched is added, however the run ends |
| what waits is discarded, or the site changes | as before |
| closing, if fetched drawings are kept | as before |
| closing otherwise | empty; there was one try to remove each that was listed |

What is listed is what was fetched since the list was emptied (`Executor.downloads_live`).

The list is what closing deletes in the language specification, §14.
-/

import PlotScript.Proofs.Aftermath

namespace PlotScript

namespace Bench

variable {σ : Type}

/-- The path that fetching gives when a command is carried out on a site, if it fetches and that
does not fail. -/
def fetched (p : Params) (site : Site) : Action → List String
  | .setPlot source =>
    if Web.isUrl source then ((Web.fetch p source site).result.toOption).toList else []
  | _ => []

/-- Fetched drawings are removed in order, one try for each, and each try is told. -/
inductive Removes : List String → Site → List Event → Site → Prop
  | nil (s : Site) : Removes [] s [] s
  | removed {path : String} {r : List String} {s t : Site} {f : Files} {es : List Event} :
    s.files.remove? path = some f → Removes r { s with files := f } es t →
      Removes (path :: r) s (.log .debug ("Removed temporary file " ++ path) :: es) t
  | failed {path : String} {r : List String} {s t : Site} {es : List Event} :
    s.files.remove? path = none → Removes r s es t →
      Removes (path :: r) s
        (.warn (.plain (.removalFailed path (s.files.removalError path))) :: es) t

/-- **One try for each, also after one that fails.**  The induction is on the list, with the files
that the tries before leave. -/
theorem removes_removeAll (b : Bench σ) (l : List String) :
    Removes l b.site (b.removeAll l).1 (b.removeAll l).2.site := by
  induction l generalizing b with
  | nil => exact .nil _
  | cons path r ih =>
    have htail := ih (b.removeDownload path).2
    show Removes (path :: r) b.site
      ((b.removeDownload path).1 :: ((b.removeDownload path).2.removeAll r).1)
      ((b.removeDownload path).2.removeAll r).2.site
    revert htail
    unfold removeDownload
    split
    · rename_i f hf
      exact .removed hf
    · rename_i hf
      exact .failed hf

/-- Closing a bench whose drawings are not kept. -/
theorem close_eq {p : Params} (hp : p.keepDownloads = false) (b : Bench σ) :
    ∃ es s, Removes b.downloads.reverse b.site es s ∧
      b.close p = (es, { b with site := s, downloads := [] }) := by
  obtain ⟨s, hs⟩ := Executor.exists_removeAll_eq b b.downloads.reverse
  have hr := removes_removeAll b b.downloads.reverse
  rw [hs] at hr
  refine ⟨_, s, hr, ?_⟩
  rw [close, if_neg (by simp [hp])]
  show (_, { (b.removeAll b.downloads.reverse).2 with downloads := [] }) = _
  rw [hs]

variable [Device σ]

omit [Device σ] in
/-- Setting a drawing fetches a file if the drawing is given by a URL and the fetch succeeds. -/
theorem fetched_setPlot (p : Params) (site : Site) (source : String) :
    fetched p site (.setPlot source) =
      if Web.isUrl source then ((Web.fetch p source site).result.toOption).toList else [] := rfl

omit [Device σ] in
/-- Obtaining a drawing adds the file that was fetched for it to the downloads, and takes none away.
The cases are those of obtaining it: it is at hand, or it is fetched, or the fetch fails. -/
theorem downloads_obtain (p : Params) (source : String) (b : Bench σ) :
    (obtain p source b).state.downloads = b.downloads ++ fetched p b.site (.setPlot source) := by
  rw [fetched_setPlot]
  have ho := obtained p source b
  generalize obtain p source b = o at ho ⊢
  cases ho with
  | atHand hu =>
    rw [if_neg (Bool.eq_false_iff.1 hu)]
    exact (List.append_nil _).symm
  | fetched hu hf =>
    rw [if_pos hu, hf]
    rfl
  | failed hu hf =>
    rw [if_pos hu, hf]
    exact (List.append_nil _).symm

/-- A command for a drawing fetches it, and then leaves the list.  To inspect the file and to hand
it to the plotter change nothing in the list. -/
theorem downloads_enact_setPlot (p : Params) (anchor : Lexeme) (source : String) (b : Bench σ) :
    (enact p anchor (.setPlot source) b).state.downloads =
      (obtain p source b).state.downloads := by
  rw [enact]
  rcases hr : (obtain p source b).result with f | path
  · rw [Act.bind_of_error hr]
  rw [Act.bind_of_ok hr]
  have hi := state_inspect path anchor (obtain p source b).state
  rcases hc : (inspect path anchor (obtain p source b).state).result with f | u
  · rw [Act.bind_of_error hc, hi]
  rw [Act.bind_of_ok hc, hi]
  rcases hs : (ask (.setupPlot path) (obtain p source b).state).result with f | u
  · rw [Act.bind_of_error hs]
    rfl
  · rw [Act.bind_of_ok hs]
    rfl

/-- **What a command fetches is listed**, however the command ends, and nothing else.  Only the
command for a drawing fetches; the others ask the plotter or print. -/
theorem downloads_enact (p : Params) (anchor : Lexeme) (a : Action) (b : Bench σ) :
    (enact p anchor a b).state.downloads = b.downloads ++ fetched p b.site a := by
  have hask (c : Call) : Act.Keeps (fun t : Bench σ => t.downloads = b.downloads ++ []) (ask c) :=
    fun _ h => h
  have hself : b.downloads = b.downloads ++ [] := (List.append_nil _).symm
  cases a with
  | setPlot source => rw [downloads_enact_setPlot, downloads_obtain]
  | setMode m =>
    rw [enact, Act.modify_bind]
    cases m with
    | plot => exact hself
    | interactive =>
      refine ((hask .enterInteractive).bind fun _ => (hask .currentMode).bind fun entered => ?_)
        (b.setMode .interactive) hself
      split
      · exact Act.keeps_throw _
      · exact Act.keeps_tell _
  | setOptions k settings =>
    exact ((Act.Keeps.forEach fun x : Setting × Value => hask (.set x.1 x.2)).bind fun _ =>
      hask .commitOptions) b hself
  | getPosition => exact ((hask .getPosition).bind fun _ => Act.keeps_tell _) b hself
  | getPen => exact ((hask .getPenDown).bind fun _ => Act.keeps_tell _) b hself
  | plot =>
    rw [enact_plot]
    split <;> exact hself
  | connect | disconnect | penUp | penDown | penToggle | home | goTo | goToRelative | draw | wait =>
    exact hself

end Bench

namespace Executor

variable {σ : Type} [Device σ] {e t : Executor σ} {word : Lexeme} {rest : List Lexeme}

/-- What is fetched in a step. -/
def fetchedStep (e : Executor σ) (word : Lexeme) (rest : List Lexeme) : List String :=
  match e.skipping, (Reader.read e.mode e.mayGrow word rest).result with
  | none, .ok (a, _) => Bench.fetched e.params e.bench.site a
  | _, _ => []

omit [Device σ] in
/-- What a step fetches is what the action that it reads fetches. -/
theorem fetchedStep_of_read {a : Action} {n : Nat} (hk : e.skipping = none)
    (hr : (Reader.read e.mode e.mayGrow word rest).result = .ok (a, n)) :
    e.fetchedStep word rest = Bench.fetched e.params e.bench.site a := by
  simp only [fetchedStep, hk, hr]

omit [Device σ] in
/-- Nothing is fetched where no command is read. -/
theorem fetchedStep_of_not_read
    (h : e.skipping ≠ none ∨ ∀ x, (Reader.read e.mode e.mayGrow word rest).result ≠ .ok x) :
    e.fetchedStep word rest = [] := by
  unfold fetchedStep
  split
  · rename_i hk hr
    exact (h.resolve_left (absurd hk) _ hr).elim
  · rfl

/-- **What a step fetches is listed**, however the step ends, and nothing else.  Only a command that
is read is carried out, and recovering from a complaint leaves the list as it is. -/
theorem downloads_step (e : Executor σ) (word : Lexeme) (rest : List Lexeme) :
    (e.step word rest).state.bench.downloads = e.bench.downloads ++ e.fetchedStep word rest := by
  unfold step
  split
  · rename_i b hb
    rw [bench_skip, fetchedStep_of_not_read (.inl (by simp [hb])), List.append_nil]
  · rename_i hk
    unfold command
    simp only [after]
    split
    · rename_i hr
      rw [fetchedStep_of_not_read (.inr (by simp [hr])), List.append_nil]
    · rename_i hr
      rw [fetchedStep_of_not_read (.inr (by simp [hr])), List.append_nil]
    · rename_i hr
      rw [bench_recover, fetchedStep_of_not_read (.inr (by simp [hr])), List.append_nil]
      rfl
    · rename_i a n hr
      have henact := Bench.downloads_enact e.params word a (e.begun a)
      rw [fetchedStep_of_read hk hr]
      obtain ⟨es, hcarry⟩ := carryOut_eq e word a n
      rw [hcarry]
      split
      · exact henact
      · show (recover _ _ _ _).state.bench.downloads = _
        rw [bench_recover]
        exact henact
      · exact henact

/-- What is fetched in a run. -/
def fetchedRun (e : Executor σ) : List String :=
  match hw : e.waiting with
  | [] => []
  | word :: rest =>
    match hr : e.step word rest with
    | ⟨.error _, _, _⟩ => e.fetchedStep word rest
    | ⟨.ok .waits, _, _⟩ => e.fetchedStep word rest
    | ⟨.ok (.reported _), _, t⟩ =>
      have := work_step (index_lt_of_waiting hw) hr
      e.fetchedStep word rest ++ t.fetchedRun
termination_by e.work

/-- **What a run fetches is listed**, however the run ends, and nothing else.  The induction is on
the run: what the first step fetches comes first. -/
theorem downloads_run (e : Executor σ) :
    e.run.state.bench.downloads = e.bench.downloads ++ e.fetchedRun := by
  fun_induction fetchedRun e with
  | case1 e hw => rw [run_of_nil hw, List.append_nil]
  | case2 e word rest hw f es t hr | case3 e word rest hw es t hr =>
    have hstep := downloads_step e word rest
    rw [hr] at hstep
    rw [run_of_cons hw, hr]
    exact hstep
  | case4 e word rest hw l es t hr _ ih =>
    have hstep := downloads_step e word rest
    rw [hr] at hstep
    rw [run_of_cons hw, hr]
    simp only
    rw [ih, ← List.append_assoc]
    exact congrArg (· ++ _) hstep

/-- What is fetched in a use. -/
def fetchedUse (e : Executor σ) : Use → List String
  | .parse l =>
    match (e.stream.extend l).1 with
    | .ok () => (e.fed l).fetchedRun
    | .error _ => []
  | .discard | .close | .meanwhile _ => []

/-- What is fetched in a life. -/
def fetchedLive (e : Executor σ) : List Use → List String
  | [] => []
  | u :: us => e.fetchedUse u ++ (e.use u).fetchedLive us

/-- Uses that do not empty the list. -/
def Retains (keep : Bool) (us : List Use) : Prop := keep = true ∨ Use.close ∉ us

omit [Device σ] in
/-- Nothing is removed if fetched drawings are kept. -/
theorem close_of_keep (h : e.params.keepDownloads = true) : e.close = ([], e) := by
  unfold close Bench.close
  rw [if_pos h]

/-- **What a use fetches is listed**, however it ends, and nothing else.  Only a parse fetches, and
only closing empties the list. -/
theorem downloads_use (e : Executor σ) {u : Use} (h : Retains e.params.keepDownloads [u]) :
    (e.use u).bench.downloads = e.bench.downloads ++ e.fetchedUse u := by
  cases u with
  | parse l =>
    rcases hl : (e.stream.extend l).1 with f | ⟨⟩
    · simp only [use, parse, fetchedUse, hl, List.append_nil]
    · simp only [use, parse, fetchedUse, hl]
      exact downloads_run (e.fed l)
  | discard | meanwhile => exact (List.append_nil _).symm
  | close =>
    rcases h with hkeep | hno
    · rw [use, close_of_keep hkeep]
      exact (List.append_nil _).symm
    · exact absurd (List.mem_singleton_self _) hno

/-- **What a life fetches is listed**, as long as the list is not emptied.  The induction is on the
uses, of which each adds what it fetches. -/
theorem downloads_live_of_retains (e : Executor σ) {us : List Use}
    (h : Retains e.params.keepDownloads us) :
    (e.live us).bench.downloads = e.bench.downloads ++ e.fetchedLive us := by
  induction us generalizing e with
  | nil => exact (List.append_nil _).symm
  | cons u us ih =>
    have hfirst : Retains e.params.keepDownloads [u] :=
      h.imp_right fun hno hu => hno (List.mem_singleton.1 hu ▸ List.mem_cons_self)
    have hlater : Retains (e.use u).params.keepDownloads us := by
      have hp : (e.use u).params = e.params := params_live e [u]
      rw [hp]
      exact h.imp_right fun hno hus => hno (List.mem_cons_of_mem u hus)
    show ((e.use u).live us).bench.downloads = _
    rw [ih (e.use u) hlater, downloads_use e hfirst, List.append_assoc]
    rfl

/-- Closing empties the list unless fetched drawings are kept. -/
theorem downloads_use_close {e : Executor σ} (h : e.params.keepDownloads = false) :
    (e.use .close).bench.downloads = [] := by
  obtain ⟨es, s, -, hclose⟩ := Bench.close_eq h e.bench
  show (e.bench.close e.params).2.downloads = []
  rw [hclose]

/-- What is listed after a use was listed before and is retained, or is fetched in it. -/
theorem mem_downloads_use {u : Use} {path : String} :
    path ∈ (e.use u).bench.downloads ↔
      (path ∈ e.bench.downloads ∧ Retains e.params.keepDownloads [u]) ∨ path ∈ e.fetchedUse u := by
  by_cases hu : Retains e.params.keepDownloads [u]
  · rw [downloads_use e hu, List.mem_append, and_iff_left hu]
  · have hkeep : e.params.keepDownloads = false := by
      simpa using fun h => hu (.inl h)
    obtain rfl : u = .close := by
      by_contra hne
      exact hu (.inr fun hc => hne (List.mem_singleton.1 hc).symm)
    rw [downloads_use_close hkeep]
    simp [hu, fetchedUse]

omit [Device σ] in
/-- A use of a life is its first one or one of the others. -/
theorem exists_split_cons {v : Use} {us : List Use} {P : List Use → Use → List Use → Prop} :
    (∃ early u late, v :: us = early ++ u :: late ∧ P early u late) ↔
      P [] v us ∨ ∃ early u late, us = early ++ u :: late ∧ P (v :: early) u late := by
  constructor
  · rintro ⟨_ | ⟨w, early⟩, u, late, heq, h⟩
    · obtain ⟨rfl, rfl⟩ := List.cons.inj heq
      exact .inl h
    · obtain ⟨rfl, rfl⟩ := List.cons.inj heq
      exact .inr ⟨early, u, late, rfl, h⟩
  · rintro (h | ⟨early, u, late, rfl, h⟩)
    · exact ⟨[], v, us, rfl, h⟩
    · exact ⟨v :: early, u, late, rfl, h⟩

/-- **What is listed was listed before or fetched since**, and the list was not emptied since.  The
induction is on the uses: what the first one fetches must be kept by all that follow. -/
theorem mem_downloads_live {us : List Use} {path : String} :
    path ∈ (e.live us).bench.downloads ↔
      (path ∈ e.bench.downloads ∧ Retains e.params.keepDownloads us) ∨
      ∃ early u late, us = early ++ u :: late ∧ path ∈ (e.live early).fetchedUse u ∧
        Retains e.params.keepDownloads late := by
  induction us generalizing e with
  | nil => simp [live, Retains]
  | cons v us ih =>
    have hp : (e.use v).params = e.params := params_live e [v]
    have hretains : Retains e.params.keepDownloads (v :: us) ↔
        Retains e.params.keepDownloads [v] ∧ Retains e.params.keepDownloads us := by
      simp only [Retains, List.mem_cons, List.not_mem_nil, or_false, not_or, or_and_left]
    rw [exists_split_cons, hretains]
    show path ∈ ((e.use v).live us).bench.downloads ↔ _ ∨ (path ∈ e.fetchedUse v ∧ _) ∨
      ∃ early u late, us = early ++ u :: late ∧ path ∈ ((e.use v).live early).fetchedUse u ∧ _
    rw [ih, hp, mem_downloads_use, or_and_right, and_assoc, or_assoc]

/-- **What was fetched is listed until it is removed.**  An executor, strict or not, is used in any
way, with any plotter, and fetched drawings are kept or not.

- A step of any executor lists what is fetched in it, however it ends, and nothing else.
- A path is listed exactly if it was fetched in some use, and the list was not emptied since.
- As long as the list is not emptied, what is fetched is added at its end, in order.
- If fetched drawings are kept, closing does nothing.
- Otherwise closing tries to remove each that is listed once, the last one first, and goes on after
  a try that fails, with a warning; then nothing is listed, and closing once more does nothing. -/
theorem downloads_live (strict : Bool) (p : Params) (device : σ) (site : Site)
    (uses : List Use) :
    let e := start strict p device site
    let t := e.live uses
    (∀ (u : Executor σ) word rest,
      (u.step word rest).state.bench.downloads = u.bench.downloads ++ u.fetchedStep word rest) ∧
    (∀ path, path ∈ t.bench.downloads ↔ ∃ early u late, uses = early ++ u :: late ∧
      path ∈ (e.live early).fetchedUse u ∧ Retains p.keepDownloads late) ∧
    (∀ early late, uses = early ++ late → Retains p.keepDownloads late →
      t.bench.downloads = (e.live early).bench.downloads ++ (e.live early).fetchedLive late) ∧
    (p.keepDownloads = true → t.close = ([], t)) ∧
    (p.keepDownloads = false →
      (∃ es s, Bench.Removes t.bench.downloads.reverse t.bench.site es s ∧
        t.close = (es, { t with bench := { t.bench with site := s, downloads := [] } })) ∧
      t.close.2.close = ([], t.close.2)) := by
  intro e t
  have hp (us : List Use) : (e.live us).params = p := params_live e us
  refine ⟨downloads_step, fun path => ?_, ?_, fun hkeep => close_of_keep (hp uses ▸ hkeep),
    fun hkeep => ?_⟩
  · refine mem_downloads_live.trans (or_iff_right ?_)
    rintro ⟨h, -⟩
    cases h
  · rintro early late heq hlate
    have ht : t = (e.live early).live late := by
      show e.live uses = _
      rw [heq]
      exact List.foldl_append
    rw [ht]
    exact downloads_live_of_retains _ (hp early ▸ hlate)
  · have ht : t.params = p := hp uses
    obtain ⟨es, s, hremoves, hclose⟩ := Bench.close_eq hkeep t.bench
    have hclose' : t.close =
        (es, { t with bench := { t.bench with site := s, downloads := [] } }) := by
      unfold close
      rw [ht, hclose]
    refine ⟨⟨es, s, hremoves, hclose'⟩, ?_⟩
    rw [hclose']
    unfold close Bench.close
    simp only [ht, hkeep]
    rfl

/-- A site with two drawings on the web, of which the second is none. -/
def webSite : Site :=
  ⟨.ofList [] [("/tmp", .folder)], .fresh "/tmp",
    [("http://a/x.svg", [.answered 200 none "<svg/>".toUTF8.toList]),
      ("http://a/y.svg", [.answered 200 none "<p/>".toUTF8.toList])], [], .plain⟩

/-- Both drawings are listed, though the second is complained about, and closing removes them.  The
second one is fetched first, and then refused for the name of its root. -/
theorem downloads_live_twice :
    let l := (Lexer.reading ["MODE P", "SETPLOT \"http://a/x.svg\"",
      "SETPLOT \"http://a/y.svg\""] none).tokens.1
    let t := (start false .standard Recorder.obliging webSite).live [.parse l]
    t.bench.downloads = ["/tmp/axilang-1.svg", "/tmp/axilang-2.svg"] ∧
      Deed.reports t.bench.deeds = [4] ∧
      t.close.1.length = 2 ∧ t.close.2.bench.site.files.entries = [(["tmp"], .folder)] ∧
      t.close.2.close = ([], t.close.2) := by
  intro l t
  have hlisted : t.bench.downloads = ["/tmp/axilang-1.svg", "/tmp/axilang-2.svg"] ∧
      Deed.reports t.bench.deeds = [4] ∧ t.close.1.length = 2 ∧
      t.close.2.bench.site.files.entries = [(["tmp"], .folder)] := by decide +kernel
  have hall := downloads_live false .standard Recorder.obliging webSite [.parse l]
  have hclose : t.close.2.close = ([], t.close.2) := (hall.2.2.2.2 rfl).2
  exact ⟨hlisted.1, hlisted.2.1, hlisted.2.2.1, hlisted.2.2.2, hclose⟩

end Executor
end PlotScript
