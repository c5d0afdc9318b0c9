/-
# What was fetched is removed

The files that a run fetches are new ones, made one on top of the other (`Files.Stacked`), and the
bench knows the paths of all of them (`Bench.Holds`).  This stays so whatever the result of a
command, a line or a script is.  Removing them, the last one first, gives the files as they were
before the run (`Bench.files_close`).

They are removed when a run of a script ends and when a session ends, in whatever way.  But a
session that begins with a script sees to its end only when the script is done.  A fault that ends
the script leaves what was fetched for it, and that is all that a run ever leaves
(`Program.files_execute_eq_iff`).

In the language specification, §14, closing deletes what was fetched, and it is promised for the end
of a batch run and of a session.
-/

import PlotScript.Proofs.Batch
import PlotScript.Proofs.NewFiles
import PlotScript.Program

namespace PlotScript
namespace Bench

open Act

variable {σ : Type} {f : Files} {b : Bench σ}

/-- The files of a bench are those of a tree, and on top of them those that it fetched. -/
def Holds (f : Files) (b : Bench σ) : Prop := f.Stacked b.downloads b.site.files

/-- Before the first command, nothing was fetched on top of the files. -/
theorem holds_start (device : σ) (site : Site) : (start device site).Holds site.files := .nil

/-- **Removing what was fetched gives the files as they were.** -/
theorem files_removeAll {paths : List String} (h : f.Stacked paths b.site.files) :
    (b.removeAll paths.reverse).2.site.files = f := by
  generalize hg : b.site.files = g at h
  -- the last file that was made is the first that is removed
  induction h generalizing b with
  | nil => exact hg
  | @snoc paths g h path bytes _ hc ih =>
    subst hg
    have hr := Files.remove?_of_create? hc
    rw [List.reverse_append]
    show ((b.removeDownload path).2.removeAll paths.reverse).2.site.files = f
    unfold removeDownload
    rw [hr]
    exact ih rfl

/-- Closing removes what was fetched, unless it is to be kept. -/
theorem files_close {p : Params} (hk : p.keepDownloads = false) (h : b.Holds f) :
    (b.close p).2.site.files = f := by
  unfold close
  rw [hk, if_neg Bool.false_ne_true]
  exact files_removeAll h

/-- What is fetched is kept in mind. -/
theorem keeps_obtain (p : Params) (source : String) :
    Keeps (@Holds σ f) (obtain p source) := by
  intro b hb
  have hcreates := Web.creates_fetch p source b.site
  have ho := obtained p source b
  generalize obtain p source b = o at ho ⊢
  cases ho with
  | atHand => exact hb
  | fetched _ hf =>
    rw [hf] at hcreates
    rcases hcreates with ⟨path, bytes, hr, hc⟩ | ⟨e, hr, -⟩
    · cases hr
      exact .snoc hb hc
    · cases hr
  | failed _ hf =>
    rw [hf] at hcreates
    rcases hcreates with ⟨path, bytes, hr, -⟩ | ⟨e, -, hs⟩
    · cases hr
    · exact (congrArg (f.Stacked b.downloads) hs).mpr hb

/-- Looking into a drawing changes no file and forgets none. -/
theorem keeps_inspect (path : String) (anchor : Lexeme) :
    Keeps (@Holds σ f) (inspect path anchor) := by
  refine keeps_get.bind fun b => ?_
  split
  · exact keeps_throw _
  · exact keeps_ofExcept _

variable [Device σ]

/-- A call of the plotter changes no file and forgets none. -/
theorem keeps_ask (c : Call) : Keeps (@Holds σ f) (ask c) := fun _ h => h

/-- **However a command ends, all that was fetched is kept in mind.** -/
theorem keeps_enact (p : Params) (anchor : Lexeme) (a : Action) :
    Keeps (@Holds σ f) (enact p anchor a) := by
  cases a with
  | setMode m =>
    refine Keeps.bind (keeps_modify fun _ h => h) fun _ => ?_
    cases m with
    | plot => exact keeps_tell _
    | interactive =>
      refine (keeps_ask _).bind fun _ => (keeps_ask _).bind fun entered => ?_
      split
      · exact keeps_throw _
      · exact keeps_tell _
  | setOptions b settings =>
    exact (Keeps.forEach fun x => keeps_ask _).bind fun _ => keeps_ask _
  | getPosition | getPen => exact (keeps_ask _).bind fun _ => keeps_tell _
  | setPlot source =>
    exact (keeps_obtain p source).bind fun path => (keeps_inspect path anchor).bind fun _ =>
      (keeps_ask _).bind fun _ => keeps_modify fun _ h => h
  | plot =>
    refine keeps_get.bind fun b => ?_
    split
    · exact keeps_ask _
    · exact keeps_throw _
  | _ => exact keeps_ask _

/-- A command that is carried out on behalf of its word keeps in mind what was fetched, however its
faults are told. -/
theorem keeps_execute (p : Params) (last : Nat) (c : Command) :
    Keeps (@Holds σ f) (execute p last c) :=
  (keeps_tell _).bind fun _ => (keeps_enact p c.anchor c.action).mapError

end Bench

namespace Executor

open Act

variable {σ : Type} {f : Files} {p : Params} {e : Executor σ} {word : Lexeme} {rest : List Lexeme}

/-- An executor with these parameters, whose bench holds a tree and what it fetched. -/
def Holds (f : Files) (p : Params) (e : Executor σ) : Prop := e.params = p ∧ e.bench.Holds f

/-- Recovering from a complaint is noted at the bench, but it changes no file and forgets none. -/
theorem Holds.recover (h : e.bench.Holds f) (start : Nat) (c : Complaint) :
    (e.recover start word c).state.bench.Holds f := by
  rw [bench_recover]
  exact h

/-- Closing an executor gives the files as they were, unless what was fetched is to be kept. -/
theorem files_close (hk : p.keepDownloads = false) (h : e.Holds f p) :
    e.close.2.bench.site.files = f := Bench.files_close (h.1 ▸ hk) h.2

variable [Device σ]

/-- A command that is carried out keeps in mind what was fetched for it and before. -/
theorem holds_carryOut (h : e.bench.Holds f) (a : Action) (n : Nat) :
    (e.carryOut word a n).state.bench.Holds f := by
  have hx : (Bench.execute e.params (e.index + n - 1) ⟨word, a⟩
      (e.bench.note (.begun e.index a))).state.Holds f := Bench.keeps_execute _ _ _ _ h
  unfold carryOut
  simp only
  split
  · exact hx
  · exact Holds.recover hx _ _
  · exact hx

/-- A step keeps in mind what was fetched, whichever way it goes. -/
theorem holds_step (h : e.bench.Holds f) : (e.step word rest).state.bench.Holds f := by
  have hs := stepped e word rest
  generalize e.step word rest = o at hs ⊢
  cases hs with
  | @skipped b _ =>
    show (e.skip b).bench.Holds f
    rwa [bench_skip]
  | waits | failed => exact h
  | wrong => exact Holds.recover h _ _
  | read => exact holds_carryOut h _ _

/-- A run keeps in mind what was fetched in each of its steps. -/
theorem holds_run (h : e.bench.Holds f) : e.run.state.bench.Holds f :=
  rel_run (r := fun e t => e.bench.Holds f → t.bench.Holds f) (fun _ h => h)
    (fun hr hs h => hs (hr h)) (fun _ h => holds_step h) e h

/-- Parsing keeps in mind what was fetched, whether lexemes can be added to the stream or not. -/
theorem keeps_parse (l : List Lexeme) : Keeps (@Holds σ f p) (parse · l) := by
  intro e h
  simp only [parse]
  split
  · exact h
  · exact ⟨(frame_run _).params.trans h.1, holds_run h.2⟩

end Executor

namespace Session

open Act

variable {σ : Type} {f : Files} {p : Params}

/-- A session whose executor holds a tree and what it fetched. -/
def Holds (f : Files) (p : Params) (s : Session σ) : Prop := s.executor.Holds f p

/-- A command of the session itself fetches nothing and forgets nothing. -/
theorem keeps_obey (c : SessionCommand) : Keeps (@Holds σ f p) (obey c) := by
  cases c with
  | help => exact keeps_tell _
  | history | ports => exact keeps_get.bind fun _ => keeps_tell _
  | clear | exit => exact keeps_modify fun _ h => h

/-- Dropping a line that was interrupted does not drop what was fetched for it. -/
theorem keeps_dropLine : Keeps (@Holds σ f p) dropLine := fun _ h => h

/-- **When a session is finished, the files are as they were.** -/
theorem files_finish {s : Session σ} (hk : p.keepDownloads = false) (h : s.Holds f p) :
    s.finish.2.executor.bench.site.files = f := Executor.files_close hk h

variable [Device σ]

/-- Running words keeps in mind what was fetched. -/
theorem keeps_feed (words : List Lexeme) (unknown : List Complaint) :
    Keeps (@Executor.Holds σ f p) (feed words unknown) := by
  unfold feed
  split
  · exact keeps_tell _
  · exact (Executor.keeps_parse words).bind fun _ => keeps_pure ()

/-- Carrying out a line keeps in mind what was fetched, be there a fault in it or not. -/
theorem keeps_runLine (line : String) (number : Nat) :
    Keeps (fun x : Lexer × Executor σ => x.2.Holds f p) (runLine line number) := by
  intro x h
  simp only [runLine]
  split
  · exact h
  · exact keeps_feed _ _ _ h

/-- Carrying out a line of a script keeps in mind what was fetched. -/
theorem keeps_runSourced (x : String × Nat) :
    Keeps (fun x : Lexer × Executor σ => x.2.Holds f p) (runSourced x) := by
  simp only [runSourced]
  split
  · exact keeps_pure ()
  · exact keeps_runLine _ _

/-- Carrying out the lines of a script keeps in mind what was fetched, up to the line that ends with
a fault. -/
theorem keeps_runLines (path : String) (bytes : List UInt8) :
    Keeps (@Holds σ f p) (runLines path bytes) := by
  have hlines (l : List (String × Nat)) : Keeps (@Holds σ f p)
      ((forEach l runSourced).on (fun s => (.handed (some path), s.executor))
        fun x s => { s with executor := x.2 }) :=
    (Keeps.forEach keeps_runSourced).on (fun _ h => h) fun _ _ h _ => h
  unfold runLines
  generalize Text.Utf8.linesBeforeFault bytes = read
  obtain ⟨lines, faulty⟩ := read
  refine (hlines _).bind fun _ => ?_
  split
  · exact keeps_tell _
  · exact keeps_pure ()

/-- Carrying out a script keeps in mind what was fetched, also if it is broken off. -/
theorem keeps_runFile (path : String) (bytes : List UInt8) :
    Keeps (@Holds σ f p) (runFile path bytes) := by
  refine (keeps_tell _).bind fun _ => (keeps_runLines path bytes).rescue fun f y hy => ?_
  split at hy
  · exact Option.some.inj hy ▸ keeps_tell _
  · cases hy

/-- Sourcing a path keeps in mind what was fetched. -/
theorem keeps_source (path : String) : Keeps (@Holds σ f p) (source path) := by
  refine keeps_get.bind fun s => ?_
  split
  · exact keeps_tell _
  split
  · exact keeps_tell _
  · exact keeps_tell _
  · exact keeps_runFile path _

/-- Carrying out a typed line keeps in mind what was fetched. -/
theorem keeps_handle (text : String) : Keeps (@Holds σ f p) (handle text) := by
  unfold handle
  -- the line is given a name, or splitting computes with it
  generalize Text.sanitize text = line
  show Keeps _ (if line.isEmpty then _ else _)
  split
  · exact keeps_pure ()
  split
  · exact keeps_obey _
  refine Keeps.bind (fun _ h => h) fun _ => ?_
  split
  · exact keeps_source _
  · exact keeps_get.bind fun s => (keeps_runLine _ _).on (fun _ h => h) fun _ _ h _ => h

/-- **However an input is answered, all that was fetched is kept in mind.** -/
theorem keeps_respond (i : Input) : Keeps (@Holds σ f p) (respond i) := by
  cases i with
  | typed text =>
    intro s h
    have ho := keeps_handle text s h
    simp only [respond]
    generalize handle text s = o at ho ⊢
    split
    · exact keeps_dropLine _ ho
    · exact ho
  | interrupt => exact keeps_tell _
  | endOfInput => exact (keeps_tell _).bind fun _ _ h => h

/-- The last exchange of a session leaves the files as they were before the session. -/
theorem files_run {s : Session σ} (hk : p.keepDownloads = false) (h : s.Holds f p)
    (inputs : List Input) : ∃ x, (s.run inputs).exchanges.getLast? = some x ∧
      x.after.executor.bench.site.files = f := by
  induction inputs generalizing s with
  | nil => exact ⟨_, rfl, files_finish hk (keeps_respond .endOfInput s h)⟩
  | cons i inputs ih =>
    have hi := keeps_respond i s h
    rw [run]
    simp only
    split
    · exact ⟨_, rfl, files_finish hk hi⟩
    split
    · obtain ⟨x, hx, hf⟩ := ih hi
      refine ⟨x, ?_, hf⟩
      rw [List.getLast?_cons, hx]
      rfl
    · exact ⟨_, rfl, files_finish hk hi⟩

end Session

namespace Program

/-- The ending when these inputs come from the keyboard. -/
def Start.ending (inputs : List Input) : Start → Ending
  | .ended e => e
  | .waiting w => w.ending (w.session.run inputs)

/-- What the program does with its arguments and with all that comes from the keyboard. -/
def attend (arguments : List String) (inputs : List Input) (site : Site) : Ending :=
  (start arguments site).ending inputs

/-- What is fetched is to be kept. -/
def keepsDownloads (arguments : List String) (site : Site) : Bool :=
  match Arguments.parse arguments with
  | .error _ => false
  | .ok a =>
    match configuration a site with
    | .error _ => false
    | .ok c => (Params.ofConfig c).keepDownloads

/-- What comes of the script with which a session begins, if there is one. -/
def beginning? (a : Arguments) (site : Site) : Option (Outcome Fault (Session Preview) Unit) :=
  match configuration a site, checkedScript site a.scriptPath with
  | .ok c, .ok (some path) =>
    if a.preview && a.interactive then
      some (Session.source path (.start (Params.ofConfig c) Preview.start site))
    else none
  | _, _ => none

/-- What was fetched for a script that ended with a fault. -/
def leftBehind (o : Outcome Fault (Session Preview) Unit) : List String :=
  match o.result with
  | .ok () => []
  | .error _ => o.state.executor.bench.downloads

/-- What was fetched for a script with which a session begins, if that ends with a fault. -/
def leftDownloads (arguments : List String) (site : Site) : List String :=
  match Arguments.parse arguments with
  | .error _ => []
  | .ok a => if a.version then [] else ((beginning? a site).map leftBehind).getD []

variable {c : Config Constant} {site : Site} {path : String}

/-- How a run is told to the user does not change the site that it leaves. -/
theorem site_after (r : Except Fault (Runner × Config Constant)) (output errors : String) :
    (Ending.after r output errors site).site = site := by
  unfold Ending.after
  split <;> rfl

/-- A run of a script leaves no file. -/
theorem files_runScript (hk : (Params.ofConfig c).keepDownloads = false) (debug : Bool) :
    (runScript debug c path site).site.files = site.files := by
  have hl : (Script.load path site).state = site := (Script.quiet_load path site).1
  unfold runScript
  simp only
  split
  · rw [site_after, hl]
  · rename_i l _
    rw [site_after, hl]
    exact Executor.files_close hk (Executor.keeps_parse l _ ⟨rfl, Bench.holds_start _ site⟩)

/-- Nor does a session, once it waits for what is typed. -/
theorem files_ending {w : Waiting} {f : Files} {p : Params} (hk : p.keepDownloads = false)
    (h : w.session.Holds f p) (inputs : List Input) :
    (w.ending (w.session.run inputs)).site.files = f := by
  obtain ⟨x, hx, hf⟩ := Session.files_run hk h inputs
  unfold Waiting.ending
  rw [site_after, hx]
  exact hf

/-- A session that begins without a script leaves no file, whatever comes from the keyboard. -/
theorem files_openSession_none (hk : (Params.ofConfig c).keepDownloads = false)
    (inputs : List Input) :
    ((openSession c none site).ending inputs).site.files = site.files :=
  files_ending hk (w := ⟨.start _ _ site, c, _⟩) ⟨rfl, Bench.holds_start _ site⟩ inputs

/-- A session that begins with a script leaves what was fetched for it, if it ends with a fault. -/
theorem stacked_openSession (hk : (Params.ofConfig c).keepDownloads = false)
    (inputs : List Input) :
    site.files.Stacked
      (leftBehind (Session.source path (.start (Params.ofConfig c) Preview.start site)))
      ((openSession c (some path) site).ending inputs).site.files := by
  have ho : (Session.source path (.start (Params.ofConfig c) Preview.start site)).state.Holds
      site.files (Params.ofConfig c) := Session.keeps_source path _ ⟨rfl, Bench.holds_start _ site⟩
  simp only [openSession, leftBehind]
  generalize Session.source path (.start (Params.ofConfig c) Preview.start site) = o at ho ⊢
  split
  · rename_i h
    rw [h]
    show site.files.Stacked [] (Waiting.ending _ _).site.files
    rw [files_ending hk ho]
    exact .nil
  · rename_i f h
    rw [h]
    show site.files.Stacked _ (Ending.after _ _ _ _).site.files
    rw [site_after]
    exact ho.2

/-- Without a session, there is no script with which one begins. -/
theorem beginning?_of_not_interactive {a : Arguments} (h : a.interactive = false) :
    beginning? a site = none := by
  unfold beginning?
  split
  · rw [h, Bool.and_false, if_neg Bool.false_ne_true]
  · rfl

/-- With any arguments, what is left was fetched for the script with which a session begins, one
file on top of the other.  Every way to end before the session leaves nothing, and so does a script
that is run without one. -/
theorem stacked_run {a : Arguments} (hk : ∀ c, configuration a site = .ok c →
    (Params.ofConfig c).keepDownloads = false) (inputs : List Input) :
    site.files.Stacked (((beginning? a site).map leftBehind).getD [])
      ((run a site).ending inputs).site.files := by
  have hearly (f : Fault) :
      site.files.Stacked [] (Ending.after (.error f) "" "" site).site.files := by
    rw [site_after]
    exact .nil
  unfold beginning?
  cases hc : configuration a site with
  | error f =>
    simp only [run, hc, bind, Except.bind]
    exact hearly f
  | ok c =>
    cases hs : checkedScript site a.scriptPath with
    | error f =>
      simp only [run, hc, hs, bind, Except.bind]
      exact hearly f
    | ok path =>
      simp only [run, hc, hs, bind, Except.bind, pure, Except.pure]
      cases a.preview with
      | false =>
        cases path <;> exact hearly _
      | true =>
        cases path with
        | none =>
          show site.files.Stacked [] ((openSession c none site).ending inputs).site.files
          rw [files_openSession_none (hk c hc)]
          exact .nil
        | some path =>
          cases a.interactive with
          | false =>
            show site.files.Stacked [] (runScript a.debug c path site).site.files
            rw [files_runScript (hk c hc)]
            exact .nil
          | true => exact stacked_openSession (hk c hc) inputs

/-- **What is left is what was fetched for a script with which a session begins**, if that script
ends with a fault. -/
theorem stacked_attend {arguments : List String} (hk : keepsDownloads arguments site = false)
    (inputs : List Input) : site.files.Stacked (leftDownloads arguments site)
      (attend arguments inputs site).site.files := by
  unfold attend start leftDownloads
  unfold keepsDownloads at hk
  cases hp : Arguments.parse arguments with
  | error u => cases u <;> exact .nil
  | ok a =>
    rw [hp] at hk
    simp only at hk ⊢
    split_ifs
    · exact .nil
    · rename_i h
      rw [beginning?_of_not_interactive (by simpa using (Bool.and_eq_true_iff.1 h).2)]
      exact .nil
    · refine stacked_run (fun c hc => ?_) inputs
      rw [hc] at hk
      exact hk

/-- **What was fetched is removed.**  The program runs with any arguments, anything typed and any
site, and what it fetches is not to be kept.

However it ends, its files are then as they were, so no file that it fetched is left: unless it
began a session with a script, and that script ended with a fault after something was fetched for
it.  Then that is left, and nothing else.  The same holds if the keyboard interrupts. -/
theorem files_execute_eq_iff {arguments : List String} {site : Site}
    (hk : keepsDownloads arguments site = false) (typed : String) (inputs : List Input) :
    let left := leftDownloads arguments site
    site.files.Stacked left (execute arguments typed site).site.files ∧
    ((execute arguments typed site).site.files = site.files ↔ left = []) ∧
    ((attend arguments inputs site).site.files = site.files ↔ left = []) := by
  intro left
  have hs : site.files.Stacked left (execute arguments typed site).site.files :=
    stacked_attend hk ((typedLines typed).map .typed)
  exact ⟨hs, hs.eq_iff, (stacked_attend hk inputs).eq_iff⟩

/-- A script with two drawings from the web, of which the second cannot be fetched. -/
def twoDrawings : Site :=
  let script := "MODE P\nSETPLOT \"http://a/x.svg\"\nSETPLOT \"http://a/y.svg\"\n"
  ⟨.ofList ["w"] [("s.axi", .file script.toUTF8.toList), ("/tmp", .folder)], .fresh "/tmp",
    [("http://a/x.svg", [.answered 200 none "<svg/>".toUTF8.toList])], [], .plain⟩

/-- A run of the script makes a temporary file, and removes it when the second drawing fails. -/
theorem files_execute_eq_iff_twoDrawings :
    keepsDownloads ["-p", "s.axi"] twoDrawings = false ∧
    (execute ["-p", "s.axi"] "" twoDrawings).site.temp.made = 1 ∧
    (execute ["-p", "s.axi"] "" twoDrawings).site.files = twoDrawings.files := by
  have hk : keepsDownloads ["-p", "s.axi"] twoDrawings = false := by decide +kernel
  obtain ⟨-, h, -⟩ := files_execute_eq_iff hk "" []
  exact ⟨hk, by decide +kernel, h.2 (by decide +kernel)⟩

/-- A session that begins with the script leaves the first drawing, and its status is that of any
fault. -/
theorem files_execute_ne_twoDrawings :
    keepsDownloads ["-i", "-p", "s.axi"] twoDrawings = false ∧
    (execute ["-i", "-p", "s.axi"] "" twoDrawings).status.toOption = some 1 ∧
    (execute ["-i", "-p", "s.axi"] "" twoDrawings).site.files ≠ twoDrawings.files := by
  have h : (execute ["-i", "-p", "s.axi"] "" twoDrawings).status.toOption = some 1 ∧
      (execute ["-i", "-p", "s.axi"] "" twoDrawings).site.files.entries.length ≠
        twoDrawings.files.entries.length := by
    decide +kernel
  exact ⟨by decide +kernel, h.1, fun he => h.2 (congrArg (fun f => f.entries.length) he)⟩

end Program
end PlotScript
