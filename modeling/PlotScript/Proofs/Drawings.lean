/-
# Drawings that are set

A drawing is set in steps: it is fetched if it is on the web, it must be a file that can be read,
and a document with an `svg` root, and only then the plotter is called.  A preview never refuses
that call.  So a command that sets a drawing does all of it or, whatever fails, nothing that is left
behind but what was fetched (`Executor.setPlot_cases`):

| `SETPLOT` | calls | preview, mode | flag of a drawing |
| --- | --- | --- | --- |
| succeeds | one, with the path at which the drawing is | the drawing is set | set |
| fails | none | as before | as before |

What is set is what was set last (`Bench.Loaded`), so a preview is never asked to plot without a
drawing (`Executor.drawings_live`).

The order of the checks is that of the language specification, §4.2 and §14.
-/

import PlotScript.Proofs.Aftermath
import PlotScript.Proofs.TwoPlotters

namespace PlotScript

open Grammar

namespace Preview

/-- What a call leaves of the drawing, whether or not it is refused. -/
theorem plotFile_perform {c : Call} (hc : ∀ path, c ≠ .setupPlot path) (p : Preview) :
    (perform c p).state.plotFile = p.plotFile := by
  have hunmoved : Unmoved fun q => q.plotFile = p.plotFile := ⟨fun _ _ h => h, fun _ _ h => h⟩
  cases c with
  | enterInteractive | set | commitOptions | connect | disconnect => rfl
  | setupPlot path => exact absurd rfl (hc path)
  | runPlot =>
    have hkeeps : Act.Keeps (fun q => q.plotFile = p.plotFile) (perform .runPlot) := by
      refine Act.keeps_get.bind fun q => ?_
      split
      · exact Act.keeps_throw _
      · refine Act.Keeps.bind ?_ fun _ => Act.keeps_tell _
        exact Act.keeps_modify fun _ h => h
    exact hkeeps p rfl
  | _ => exact hunmoved.keeps_perform rfl p rfl

/-- A preview plots the drawing that is set. -/
theorem result_runPlot {p : Preview} {path : String} (h : p.plotFile = some path) :
    (perform .runPlot p).result = .ok () := by
  rw [perform, Act.bind_of_ok (a := p) rfl]
  simp only [h]
  rfl

end Preview

namespace Deed

/-- The drawing that a call sets up, if it is answered. -/
def drawing? : Deed → Option String
  | asked _ (.setupPlot path) (.ok _) => some path
  | _ => none

/-- The drawing that was set last. -/
def drawing (l : List Deed) : Option String := (l.filterMap drawing?).getLast?

variable {l : List Deed} {d : Deed}

/-- The drawing in force after one more deed is the one of this deed, if it sets one, and the one
from before otherwise. -/
@[simp] theorem drawing_concat (l : List Deed) (d : Deed) :
    drawing (l ++ [d]) = d.drawing?.or (drawing l) := by
  unfold drawing
  rw [List.filterMap_append]
  rcases hd : d.drawing? with _ | path
  · rw [List.filterMap_cons_none hd, List.filterMap_nil, List.append_nil, Option.none_or]
  · rw [List.filterMap_cons_some hd, List.filterMap_nil, List.getLast?_concat, Option.some_or]

/-- A call that is not for setting a drawing sets none. -/
theorem drawing?_asked {mode : Option Mode} {c : Call} (hc : ∀ path, c ≠ .setupPlot path)
    (r : Except Refusal c.Answer) : (asked mode c r).drawing? = none := by
  cases c with
  | setupPlot path => exact absurd rfl (hc path)
  | _ => rfl

/-- A call to plot is answered, and there is a drawing. -/
def Plots (before : List Deed) : Deed → Prop
  | asked _ .runPlot r => r = .ok () ∧ ∃ path, drawing before = some path
  | _ => True

/-- All calls to plot are answered, and each comes after a drawing was set. -/
def AllPlot (l : List Deed) : Prop := ∀ before d, before ++ [d] <+: l → Plots before d

/-- If every plot was of the drawing in force so far, and the next deed is as well, then so are
all. -/
theorem AllPlot.concat (h : AllPlot l) (hd : Plots l d) : AllPlot (l ++ [d]) := by
  intro before d' hp
  rcases List.prefix_concat_iff.1 hp with heq | hp
  · obtain ⟨rfl, hdd⟩ := List.append_inj' heq rfl
    obtain rfl := List.singleton_inj.1 hdd
    exact hd
  · exact h before d' hp

end Deed

namespace Bench

/-- The flag of a drawing is set if the preview has one, which is the one that was set last. -/
structure Loaded (b : Bench Preview) : Prop where
  flag : b.plotLoaded = b.device.plotFile.isSome
  last : b.device.plotFile = Deed.drawing b.deeds
  plots : Deed.AllPlot b.deeds

/-- A drawing is set up, and nothing else is done. -/
structure SetsUp (path : String) (b t : Bench Preview) : Prop where
  mode : t.mode = b.mode
  plotLoaded : t.plotLoaded = true
  plotFile : t.device.plotFile = some path
  deeds : t.deeds = b.deeds ++ [.asked b.mode (.setupPlot path) (.ok ())]

/-- No call is made, and neither the preview nor what is known of it changes. -/
structure Untouched (b t : Bench Preview) : Prop where
  mode : t.mode = b.mode
  plotLoaded : t.plotLoaded = b.plotLoaded
  device : t.device = b.device
  calls : Deed.calls t.deeds = Deed.calls b.deeds

variable {p : Params} {anchor : Lexeme} {source path : String} {b t : Bench Preview}

/-- A report leaves the drawing untouched. -/
theorem Untouched.report (h : Untouched b t) (n : Nat) (c : Complaint) :
    Untouched b (t.note (.reported n c)) :=
  ⟨h.mode, h.plotLoaded, h.device,
    (Deed.calls_append _ _).trans ((List.append_nil _).trans h.calls)⟩

/-- Getting hold of a drawing leaves all but the files. -/
theorem obtain_leaves (p : Params) (source : String) (b : Bench Preview) :
    let t := (obtain p source b).state
    t.mode = b.mode ∧ t.plotLoaded = b.plotLoaded ∧ t.device = b.device ∧ t.deeds = b.deeds := by
  have ho := obtained p source b
  generalize obtain p source b = o at ho ⊢
  cases ho <;> exact ⟨rfl, rfl, rfl, rfl⟩

/-- **A command for a drawing does all of it or nothing.** -/
theorem enact_setPlot_cases (p : Params) (anchor : Lexeme) (source : String) (b : Bench Preview) :
    let o := enact p anchor (.setPlot source) b
    (∃ path, (obtain p source b).result = .ok path ∧ o.result = .ok () ∧ SetsUp path b o.state) ∨
      (∃ f, o.result = .error f) ∧ o.state.deeds = b.deeds ∧ Untouched b o.state := by
  intro o
  obtain ⟨hm, hl, hv, hd⟩ := obtain_leaves p source b
  have hno {t : Bench Preview} (ht : t = (obtain p source b).state) :
      t.deeds = b.deeds ∧ Untouched b t := by
    subst ht
    exact ⟨hd, hm, hl, hv, by rw [hd]⟩
  show (∃ path, _ ∧ (enact p anchor (.setPlot source) b).result = _ ∧
    SetsUp path b (enact p anchor (.setPlot source) b).state) ∨
    (∃ f, (enact p anchor (.setPlot source) b).result = .error f) ∧
      (enact p anchor (.setPlot source) b).state.deeds = b.deeds ∧
      Untouched b (enact p anchor (.setPlot source) b).state
  rw [enact]
  rcases hr : (obtain p source b).result with f | path
  · rw [Act.bind_of_error hr]
    exact .inr ⟨⟨f, rfl⟩, hno rfl⟩
  rw [Act.bind_of_ok hr]
  have hi := state_inspect path anchor (obtain p source b).state
  rcases hc : (inspect path anchor (obtain p source b).state).result with f | u
  · rw [Act.bind_of_error hc, hi]
    exact .inr ⟨⟨f, rfl⟩, hno rfl⟩
  · rw [Act.bind_of_ok hc, hi]
    refine .inl ⟨path, rfl, rfl, hm, rfl, rfl, ?_⟩
    show (obtain p source b).state.deeds ++ [.asked (obtain p source b).state.mode _ _] = _
    rw [hd, hm]
    rfl

/-- A preview that is loaded with its drawing is loaded with the next one once this is set up. -/
theorem Loaded.setsUp (h : Loaded b) (ht : SetsUp path b t) : Loaded t := by
  refine ⟨by rw [ht.plotLoaded, ht.plotFile]; rfl, ?_, ?_⟩
  · rw [ht.plotFile, ht.deeds, Deed.drawing_concat]
    rfl
  · rw [ht.deeds]
    exact h.plots.concat trivial

/-- Something is noted that is no call for a drawing. -/
theorem Loaded.note (h : Loaded b) {d : Deed} (hd : d.drawing? = none)
    (hp : Deed.Plots b.deeds d) : Loaded (b.note d) := by
  refine ⟨h.flag, ?_, h.plots.concat hp⟩
  show b.device.plotFile = Deed.drawing (b.deeds ++ [d])
  simp [hd, h.last]

/-- A call that sets up no drawing, and plots only if there is one. -/
theorem Loaded.ask (h : Loaded b) {c : Call} (hc : ∀ path, c ≠ .setupPlot path)
    (hr : c = .runPlot → b.plotLoaded = true) : Loaded (ask c b).state := by
  have hfile : (Device.perform c b.device).state.plotFile = b.device.plotFile :=
    Preview.plotFile_perform hc b.device
  have hb : Loaded { b with device := (Device.perform c b.device).state } :=
    ⟨h.flag.trans (by rw [hfile]), hfile.trans h.last, h.plots⟩
  refine hb.note (Deed.drawing?_asked hc _) ?_
  cases c with
  | runPlot =>
    obtain ⟨path, hpath⟩ := Option.isSome_iff_exists.1 (h.flag.symm.trans (hr rfl))
    exact ⟨Preview.result_runPlot hpath, path, h.last.symm.trans hpath⟩
  | _ => trivial

/-- Whatever a command does, the flag tells whether there is a drawing, and the last one that was
set.  Only setting a drawing changes any of them, and it changes them together. -/
theorem loaded_enact (p : Params) (anchor : Lexeme) (a : Action) :
    Act.Keeps Loaded (enact p anchor a : Act Fault (Bench Preview) Unit) := by
  have hask (c : Call) (hc : ∀ path, c ≠ .setupPlot path) (hr : c ≠ .runPlot) :
      Act.Keeps Loaded (Bench.ask c : Act Fault (Bench Preview) c.Answer) :=
    fun b h => h.ask hc fun he => absurd he hr
  cases a with
  | setMode m =>
    have hmode (b : Bench Preview) (h : Loaded b) : Loaded (b.setMode m) :=
      Loaded.note (b := { b with mode := some m }) ⟨h.flag, h.last, h.plots⟩ rfl trivial
    refine (Act.keeps_modify hmode).bind fun _ => ?_
    cases m with
    | plot => exact Act.keeps_tell _
    | interactive =>
      refine (hask .enterInteractive nofun nofun).bind fun _ => (hask .currentMode nofun nofun).bind
        fun entered => ?_
      split
      · exact Act.keeps_throw _
      · exact Act.keeps_tell _
  | setOptions k settings =>
    exact (Act.Keeps.forEach fun x : Setting × Value => hask (.set x.1 x.2) nofun nofun).bind
      fun _ => hask .commitOptions nofun nofun
  | getPosition => exact (hask .getPosition nofun nofun).bind fun _ => Act.keeps_tell _
  | getPen => exact (hask .getPenDown nofun nofun).bind fun _ => Act.keeps_tell _
  | setPlot source =>
    intro b h
    rcases enact_setPlot_cases p anchor source b with ⟨path, -, -, ht⟩ | ⟨-, hd, ht⟩
    · exact h.setsUp ht
    · exact ⟨by rw [ht.plotLoaded, ht.device, h.flag], by rw [ht.device, hd, h.last],
        hd.symm ▸ h.plots⟩
  | plot =>
    intro b h
    rw [enact_plot]
    split
    · rename_i hl
      exact h.ask nofun fun _ => hl
    · exact h
  | connect | disconnect | penUp | penDown | penToggle | home | goTo | goToRelative | draw | wait =>
    exact hask _ nofun nofun

end Bench

namespace Executor

section Device

variable {σ : Type}

/-- What is reported is not done. -/
theorem result_recover_ne_done (e : Executor σ) (n : Nat) (word : Lexeme) (c : Complaint) :
    (e.recover n word c).result ≠ .ok (.reported []) := by
  intro h
  cases (of_recover_eq_ok h).2.2

/-- A command that fails leaves what it has done, and perhaps a complaint is noted. -/
theorem carryOut_of_error [Device σ] {e : Executor σ} {word : Lexeme} {a : Action} {k : Nat}
    {f : Fault} (h : (Bench.enact e.params word a (e.begun a)).result = .error f) :
    (e.carryOut word a k).result ≠ .ok (.reported []) ∧
      ((e.carryOut word a k).state.bench = (Bench.enact e.params word a (e.begun a)).state ∨
      ∃ c, (e.carryOut word a k).state.bench =
        (Bench.enact e.params word a (e.begun a)).state.note (.reported e.index c)) := by
  obtain ⟨es, hcarry⟩ := carryOut_eq e word a k
  rw [hcarry, h]
  simp only [Except.mapError]
  split
  · rename_i heq
    cases heq
  · rename_i c _
    exact ⟨result_recover_ne_done _ _ _ c, .inr ⟨c, bench_recover ..⟩⟩
  · exact ⟨by simp, .inl rfl⟩

end Device

variable {e t u : Executor Preview} {word : Lexeme} {rest : List Lexeme} {path : String}

/-- All uses of an executor keep its preview loaded with the drawing in force. -/
theorem kept_loaded : Kept (fun _ => True) fun e : Executor Preview => e.bench.Loaded :=
  kept_bench (fun p anchor a _ _ h => Bench.loaded_enact p anchor a _ (h.note rfl trivial))
    (fun _ _ _ h => h.note rfl trivial) fun _ _ _ h => ⟨h.flag, h.last, h.plots⟩

/-- A step sets a drawing: the command at the word is read and succeeds, and the drawing is set up
from the path that its source comes to. -/
structure SetsDrawing (e : Executor Preview) (word : Lexeme) (rest : List Lexeme)
    (source path : String) : Prop where
  read : ∃ k, (Reader.read e.mode e.mayGrow word rest).result = .ok (.setPlot source, k)
  found : (Bench.obtain e.params source (e.begun (.setPlot source))).result = .ok path
  result : (e.step word rest).result = .ok (.reported [])
  setsUp : Bench.SetsUp path (e.begun (.setPlot source)) (e.step word rest).state.bench

/-- The word `SETPLOT` begins no other command. -/
theorem exists_source {a : Action} {k : Nat} {more : Bool} {mode : Option Mode}
    (hword : word.kind = .setPlot) (h : (Reader.read mode more word rest).result = .ok (a, k)) :
    ∃ source, a = .setPlot source := by
  obtain ⟨ws, tail, hl, -, hws, -, -⟩ := Reader.begins_of_read h
  cases hws with
  | @setPlot w x => exact ⟨x.text, rfl⟩
  | word hw =>
    obtain ⟨rfl, -⟩ := List.cons.inj hl
    rw [hword] at hw
    cases hw
  | mode hw | options hw | goTo hw | goToRelative hw | draw hw | wait hw | plot hw =>
    obtain ⟨rfl, -⟩ := List.cons.inj hl
    rw [hword] at hw
    cases hw

/-- **A step at the word `SETPLOT` sets a drawing or leaves all as it is.** -/
theorem setPlot_cases (hk : e.skipping = none) (hword : word.kind = .setPlot) :
    (∃ source path, e.SetsDrawing word rest source path) ∨
      (e.step word rest).result ≠ .ok (.reported []) ∧
        Bench.Untouched e.bench (e.step word rest).state.bench := by
  have hsame : Bench.Untouched e.bench e.bench := ⟨rfl, rfl, rfl, rfl⟩
  have hs := stepped e word rest
  generalize ho : e.step word rest = o at hs
  cases hs with
  | skipped hb =>
    rw [hk] at hb
    cases hb
  | waits | failed => exact .inr ⟨by simp, hsame⟩
  | wrong =>
    refine .inr ⟨result_recover_ne_done _ _ _ _, ?_⟩
    show Bench.Untouched e.bench (e.recover _ _ _).state.bench
    rw [bench_recover]
    exact hsame.report _ _
  | @read a k es _ hr =>
    obtain ⟨source, rfl⟩ := exists_source hword hr
    rcases Bench.enact_setPlot_cases e.params word source (e.begun (.setPlot source)) with
      ⟨path, hpath, hok, ht⟩ | ⟨⟨f, hf⟩, -, ht⟩
    · obtain ⟨fs, hcarry⟩ := carryOut_eq e word (.setPlot source) k
      rw [hok] at hcarry
      refine .inl ⟨source, path, ⟨k, hr⟩, hpath, ?_, ?_⟩
      · rw [ho, hcarry]
        rfl
      · rw [ho, hcarry]
        exact ht
    · have ht : Bench.Untouched e.bench
          (Bench.enact e.params word (.setPlot source) (e.begun (.setPlot source))).state :=
        ⟨ht.mode, ht.plotLoaded, ht.device, ht.calls.trans (calls_begun e _)⟩
      obtain ⟨hresult, hbench⟩ := carryOut_of_error (k := k) hf
      refine .inr ⟨hresult, ?_⟩
      show Bench.Untouched e.bench (e.carryOut word (.setPlot source) k).state.bench
      rcases hbench with hb | ⟨c, hb⟩
      · exact hb ▸ ht
      · exact hb ▸ ht.report _ _

/-- A step that makes a call makes one more than before. -/
theorem Makes.calls_ne {before : List Deed} {mode : Option Mode} {c : Call}
    {answer : Except Refusal c.Answer} (h : e.Makes word rest before (.asked mode c answer)) :
    Deed.calls (e.step word rest).state.bench.deeds ≠ Deed.calls e.bench.deeds := by
  obtain ⟨mid, rfl⟩ := h.start
  obtain ⟨tail, htail⟩ := h.stop
  have hcall : c ∈ Deed.calls (mid ++ [.asked mode c answer]) :=
    Deed.mem_calls_of_mem (List.mem_append_right mid (List.mem_singleton_self _))
  intro heq
  rw [← htail, List.append_assoc, List.append_assoc, Deed.calls_append,
    ← List.append_assoc mid, Deed.calls_append] at heq
  have hnil := List.append_eq_nil_iff.1 (List.self_eq_append_right.1 heq.symm)
  rw [hnil.1] at hcall
  cases hcall

/-- Nothing is passed over where a call is made. -/
theorem Makes.skipping_eq {before : List Deed} {mode : Option Mode} {c : Call}
    {answer : Except Refusal c.Answer} (h : e.Makes word rest before (.asked mode c answer)) :
    e.skipping = none := by
  rcases hb : e.skipping with _ | b
  · rfl
  · refine absurd ?_ h.calls_ne
    rw [step, hb]
    exact congrArg (fun b => Deed.calls b.deeds) (bench_skip e b)

/-- Only the word `SETPLOT` has a drawing set up. -/
theorem Makes.kind_eq_setPlot {before : List Deed} {mode : Option Mode}
    {answer : Except Refusal (Call.setupPlot path).Answer}
    (h : e.Makes word rest before (.asked mode (.setupPlot path) answer)) :
    word.kind = .setPlot := by
  obtain ⟨mid, rfl⟩ := h.start
  obtain ⟨new, hnew, hall⟩ := warranted_step h.waiting
  have hstop := h.stop
  rw [hnew, List.append_assoc, List.prefix_append_right_inj] at hstop
  obtain ⟨ws, tail, a, hw, -, w, x, rfl, hkind, -⟩ :=
    hall mode _ answer (hstop.subset (List.mem_append_right mid (List.mem_singleton_self _)))
  obtain ⟨rfl, -⟩ := List.cons.inj (h.waiting.symm.trans hw)
  exact hkind

/-- **A drawing is set up only by a command that succeeds.** -/
theorem Makes.setsDrawing {before : List Deed} {mode : Option Mode}
    {answer : Except Refusal (Call.setupPlot path).Answer}
    (h : e.Makes word rest before (.asked mode (.setupPlot path) answer)) :
    ∃ source, e.SetsDrawing word rest source path := by
  rcases setPlot_cases h.skipping_eq h.kind_eq_setPlot with ⟨source, path', hsets⟩ | ⟨-, hno⟩
  · refine ⟨source, ?_⟩
    suffices hpath : path = path' from hpath ▸ hsets
    have hdeeds : (e.step word rest).state.bench.deeds = e.bench.deeds ++
        [.begun e.index (.setPlot source), .asked _ (.setupPlot path') (.ok ())] :=
      hsets.setsUp.deeds.trans (List.append_assoc ..)
    obtain ⟨mid, rfl⟩ := h.start
    have hstop := h.stop
    rw [hdeeds, List.append_assoc, List.prefix_append_right_inj] at hstop
    have hmem := hstop.subset (List.mem_append_right mid (List.mem_singleton_self _))
    simp only [List.mem_cons, List.not_mem_nil, or_false] at hmem
    rcases hmem with hmem | hmem
    · cases hmem
    · cases hmem
      rfl
  · exact absurd hno.calls h.calls_ne

/-- **Drawings are set atomically, and plotting is guarded.**  An executor, strict or not, is used
in any way with a preview that is fresh, on any site, which may change at any time.

- At the word `SETPLOT`, with any executor, a step sets the drawing and does nothing else, or it
  does not succeed, and no call is made, and the mode, the flag and the preview stay as they are.
- Always the flag is set exactly if the preview has a drawing, and that is the one that was set
  last.
- A drawing is set up only where a command for one succeeds, from the path that its source comes to.
- A call to plot is answered, and comes after a drawing was set. -/
theorem drawings_live (strict : Bool) (p : Params) (site : Site) (uses : List Use) :
    let e := start strict p Preview.start site
    (∀ (u : Executor Preview) word rest, u.skipping = none → word.kind = .setPlot →
      (∃ source path, u.SetsDrawing word rest source path) ∨
        (u.step word rest).result ≠ .ok (.reported []) ∧
          Bench.Untouched u.bench (u.step word rest).state.bench) ∧
    (∀ u, u = e.live uses ∨ ComesTo e uses u →
      (u.bench.plotLoaded = true ↔ u.bench.device.plotFile ≠ none) ∧
        u.bench.device.plotFile = Deed.drawing u.bench.deeds) ∧
    (∀ before mode path answer,
      before ++ [.asked mode (.setupPlot path) answer] <+: (e.live uses).bench.deeds →
        ∃ u word rest source, ComesTo e uses u ∧
          u.Makes word rest before (.asked mode (.setupPlot path) answer) ∧
          u.SetsDrawing word rest source path) ∧
    ∀ before mode answer,
      before ++ [.asked mode .runPlot answer] <+: (e.live uses).bench.deeds →
        answer = .ok () ∧ ∃ path, Deed.drawing before = some path := by
  intro e
  have hstart : e.bench.Loaded := by
    refine ⟨rfl, rfl, fun before d hp => ?_⟩
    have hlen := hp.length_le
    simp [e, start, Bench.start] at hlen
  have hlive : (e.live uses).bench.Loaded := kept_loaded.live (fun _ _ => trivial) hstart
  refine ⟨fun u word rest hk hw => setPlot_cases hk hw, fun u hu => ?_, ?_,
    fun before mode answer hp => hlive.plots before _ hp⟩
  · have hloaded : u.bench.Loaded := by
      rcases hu with rfl | hu
      · exact hlive
      · exact kept_loaded.comesTo (fun _ _ => trivial) hu hstart
    refine ⟨?_, hloaded.last⟩
    rw [hloaded.flag, Option.isSome_iff_ne_none]
  · intro before mode path answer hp
    obtain ⟨u, word, rest, hu, hm⟩ := exists_made (Nat.zero_le _) hp
    obtain ⟨source, hsets⟩ := hm.setsDrawing
    exact ⟨u, word, rest, source, hu, hm, hsets⟩

/-- A site with one drawing. -/
def drawingSite : Site :=
  ⟨⟨[(["n.svg"], .file "<svg/>".toUTF8.toList)], []⟩, .fresh "/tmp", [], [], .plain⟩

/-- A script that plots before a drawing is set, sets one that is not there, sets one that is, and
fails to set another, before it plots at last. -/
theorem drawings_live_missing :
    let l := (Lexer.reading ["MODE P", "PLOT", "SETPLOT \"m.svg\"", "SETPLOT \"n.svg\"",
      "SETPLOT \"m.svg\"", "PLOT"] none).tokens.1
    let e := (start false .standard Preview.start drawingSite).live [.parse l]
    Deed.calls e.bench.deeds = [.setupPlot "n.svg", .runPlot] ∧
      e.bench.device.plotFile = some "n.svg" ∧ e.bench.plotLoaded = true := by
  intro l e
  have hfile : e.bench.device.plotFile = some "n.svg" := by decide +kernel
  have hflag := ((drawings_live false .standard drawingSite [.parse l]).2.1 e (.inl rfl)).1
  exact ⟨by decide +kernel, hfile, hflag.2 (by rw [hfile]; nofun)⟩

end Executor
end PlotScript
