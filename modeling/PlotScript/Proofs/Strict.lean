/-
# Strict runs

A strict executor that is given a whole script at once carries out the longest split of it, with
all the calls of each command and no other (`strict_parse`).  Then it ends with no complaint if
nothing is left.  Otherwise it reports one complaint and ends with it, with one exception: where
the check of a drawing breaks down, nothing is reported.

A step carries out a valid command, or ends the run (`strictly_step`), and a run follows the split
(`run_strict`).

The language specification, §7, has a strict run end at the first error, and §8 lists what the calls
of some scripts are.
-/

import PlotScript.Proofs.Stopping
import PlotScript.Proofs.Willing

namespace PlotScript

/-- Lexemes as they come from a lexer, with values of settings that can be read and drawings that
are not on the web. -/
structure Readable (l : List Lexeme) : Prop where
  numbers : ∀ x ∈ l, x.WellFormed
  values : Reader.ShortValues l
  sources : l.IsChain fun x y => x.kind = .setPlot → y.kind = .string → Web.isUrl y.text = false

/-- The words of a lexer are readable if the values of settings are short and no drawing is on the
web: their numbers are in order anyway. -/
theorem Readable.of_words {x : Lexer} (hv : Reader.ShortValues x.words)
    (hs : x.words.IsChain fun x y =>
      x.kind = .setPlot → y.kind = .string → Web.isUrl y.text = false) : Readable x.words :=
  ⟨fun _ h => (Lexer.of_mem_words h).1, hv, hs⟩

/-- The rest of readable lexemes is readable. -/
theorem Readable.of_append {l r : List Lexeme} (h : Readable (l ++ r)) : Readable r :=
  ⟨fun x hx => h.numbers x (List.mem_append_right l hx), h.values.right_of_append,
    h.sources.right_of_append⟩

namespace Grammar

/-- The check of the drawing that is to be set breaks down. -/
def BreaksDown (site : Site) (s : Phase) (l : List Lexeme) : Prop :=
  ∃ path n, Begins s.mode l (.setPlot path) n ∧ site.Breaks path

/-- No command begins where nothing is left. -/
theorem begins_nil {mode : Option Mode} {a : Action} {n : Nat} : ¬Begins mode [] a n := by
  rintro ⟨ws, tail, hl, -, hws, -, -⟩
  have hpos := hws.length_pos
  rw [(List.append_eq_nil_iff.1 hl.symm).1] at hpos
  exact Nat.lt_irrefl 0 hpos

/-- The source of a drawing is not on the web. -/
theorem Begins.isUrl_eq_false {mode : Option Mode} {l : List Lexeme} {path : String} {n : Nat}
    (h : Begins mode l (.setPlot path) n) (hl : Readable l) : Web.isUrl path = false := by
  obtain ⟨ws, tail, rfl, -, hws, -, -⟩ := h
  cases hws with
  | setPlot hw hx _ => exact (List.isChain_cons_cons.1 hl.sources).1 hw hx
  | word hw =>
    exfalso
    unfold Action.ofWord? at hw
    split at hw <;> simp at hw

/-- Where another command is, or a drawing that can be checked, no check breaks down. -/
theorem Begins.not_breaksDown {site : Site} {s : Phase} {l : List Lexeme} {a : Action} {n : Nat}
    (h : Begins s.mode l a n) (hl : Readable l)
    (ha : ∀ path, a = .setPlot path → ¬site.Breaks path) : ¬BreaksDown site s l := by
  rintro ⟨path, n', h', hx⟩
  obtain ⟨rfl, -⟩ := begins_unique hl.values h h'
  exact ha path rfl hx

/-- How a strict run ends, by what is left: with nothing reported, with a complaint, or with a
failure. -/
inductive Ends (site : Site) (s : Phase) (before : List Complaint) :
    List Lexeme → Except Fault (List Complaint) → List Complaint → Prop
  | done : Ends site s before [] (.ok []) before
  | reported {l : List Lexeme} (c : Complaint) : l ≠ [] → Stuck site s l → ¬BreaksDown site s l →
    Ends site s before l (.error (.command c)) (before ++ [c])
  | broken {l : List Lexeme} (f : Failure) : l ≠ [] → Stuck site s l → BreaksDown site s l →
    Ends site s before l (.error (.failure f)) before

/-- However a run ends, it is stuck at what is left. -/
theorem Ends.stuck {site : Site} {s : Phase} {before after : List Complaint} {l : List Lexeme}
    {r : Except Fault (List Complaint)} (h : Ends site s before l r after) : Stuck site s l := by
  cases h with
  | done => exact fun _ _ hb => absurd hb begins_nil
  | reported c _ hs _ => exact hs
  | broken f _ hs _ => exact hs

/-- A run ends with no complaint exactly if nothing is left. -/
theorem Ends.result_eq_ok_iff {site : Site} {s : Phase} {before after : List Complaint}
    {l : List Lexeme} {r : Except Fault (List Complaint)} (h : Ends site s before l r after) :
    r = .ok [] ↔ l = [] := by
  cases h with
  | done => exact ⟨fun _ => rfl, fun _ => rfl⟩
  | reported c hl => exact iff_of_false (by rintro ⟨⟩) hl
  | broken f hl => exact iff_of_false (by rintro ⟨⟩) hl

/-- Where something is left, one complaint is reported, unless the check of a drawing breaks
down. -/
theorem Ends.reported_iff {site : Site} {s : Phase} {after : List Complaint} {l : List Lexeme}
    {r : Except Fault (List Complaint)} (h : Ends site s [] l r after) (hl : l ≠ []) :
    (∃ c, r = .error (.command c) ∧ after = [c]) ↔ ¬BreaksDown site s l := by
  cases h with
  | done => exact absurd rfl hl
  | reported c _ _ hb => exact ⟨fun _ => hb, fun _ => ⟨c, rfl, rfl⟩⟩
  | broken f _ _ hb =>
    constructor
    · rintro ⟨c, hr, -⟩
      cases hr
    · exact fun h => absurd hb h

end Grammar

namespace Executor

open Grammar

variable {σ : Type}

/-- What the commands carried out so far have established. -/
def phase (e : Executor σ) : Phase := ⟨e.mode, e.bench.plotLoaded⟩

/-- The bench when a command is about to be carried out. -/
def begun (e : Executor σ) (a : Action) : Bench σ := e.bench.note (.begun e.index a)

/-- An executor after a command whose lexemes it passes over. -/
def passed (e : Executor σ) (n : Nat) (b : Bench σ) : Executor σ :=
  { e with index := e.index + n, bench := b }

variable {e : Executor σ} {word : Lexeme} {rest : List Lexeme} {a : Action} {n : Nat}

/-- A complaint ends a strict run. -/
theorem recover_of_strict (h : e.strict = true) (start : Nat) (c : Complaint) :
    e.recover start word c =
      ⟨.error (.command c), [.report .command c], e.note (.reported start c)⟩ := by
  have hn : (e.note (.reported start c)).strict = true := h
  rw [recover]
  simp only [hn, if_true]

/-- What is left after a command begins behind its lexemes. -/
theorem waiting_passed {l : List Lexeme} (hw : e.waiting = l) (n : Nat) (b : Bench σ) :
    (e.passed n b).waiting = l.drop n := by
  rw [← hw]
  exact List.drop_drop.symm

/-- That a command is begun is no call. -/
theorem calls_begun (e : Executor σ) (a : Action) :
    Deed.calls (e.begun a).deeds = Deed.calls e.bench.deeds :=
  (Deed.calls_append _ _).trans (List.append_nil _)

/-- That a command is begun is no complaint. -/
theorem complaints_begun (e : Executor σ) (a : Action) :
    Deed.complaints (e.begun a).deeds = Deed.complaints e.bench.deeds :=
  (Deed.complaints_append _ _).trans (List.append_nil _)

/-- What a command lacks if it cannot be carried out where it is permitted. -/
theorem exists_of_not_achievable {site : Site} {loaded : Bool} (h : ¬a.Achievable site loaded) :
    (∃ path, a = .setPlot path ∧ ¬site.IsDrawing path) ∨ (a = .plot ∧ loaded = false) := by
  cases a with
  | setPlot path => exact .inl ⟨path, rfl, h⟩
  | plot => exact .inr ⟨rfl, by simpa [Action.Achievable] using h⟩
  | _ => exact absurd trivial h

/-- Where a command is read that cannot be carried out, nothing is. -/
theorem stuck_of_not_achievable {l : List Lexeme} (hl : Readable l)
    (hb : Begins e.mode l a n) (ha : ¬a.Achievable e.bench.site e.bench.plotLoaded) :
    Stuck e.bench.site e.phase l := by
  intro a' n' hb'
  obtain ⟨rfl, -⟩ := begins_unique hl.values hb hb'
  exact ha

variable [Device σ]

/-- An executor in the middle of a strict run, with a willing plotter. -/
structure Ready (e : Executor σ) : Prop where
  strict : e.strict = true
  ended : e.stream.ended = true
  skipping : e.skipping = none
  willing : Willing e.bench.device

/-- Carrying out a command ends as the command does. -/
theorem carryOut_eq (e : Executor σ) (word : Lexeme) (a : Action) (n : Nat) :
    ∃ es, e.carryOut word a n =
      match (Bench.enact e.params word a (e.begun a)).result.mapError
        (Bench.blame word (e.index + n - 1)) with
      | .ok () =>
        ⟨.ok (.reported []), es, e.passed n (Bench.enact e.params word a (e.begun a)).state⟩
      | .error (.complaint .command c) => after es
        ((e.passed n (Bench.enact e.params word a (e.begun a)).state).recover e.index word c)
      | .error f => ⟨.error f, es, e.passed n (Bench.enact e.params word a (e.begun a)).state⟩ :=
  ⟨_, rfl⟩

/-- What one step of a strict run does: a valid command is carried out, or the run ends. -/
inductive Strictly (e : Executor σ) (l : List Lexeme) : Turn σ Step → Prop
  | passed {a : Action} {n : Nat} (es : List Event) {b : Bench σ} :
    Begins e.mode l a n → a.Achievable e.bench.site e.bench.plotLoaded →
      Bench.Done a (e.begun a) b → Strictly e l ⟨.ok (.reported []), es, e.passed n b⟩
  | ended (f : Fault) (es : List Event) {t : Executor σ} :
    Deed.calls t.bench.deeds = Deed.calls e.bench.deeds →
      Ends e.bench.site e.phase (Deed.complaints e.bench.deeds) l (.error f)
        (Deed.complaints t.bench.deeds) → Strictly e l ⟨.error f, es, t⟩

/-- A step of a strict run is one with any events before it, such as its warnings. -/
theorem Strictly.after {l : List Lexeme} {o : Turn σ Step} (h : Strictly e l o)
    (es : List Event) : Strictly e l (after es o) := by
  cases h with
  | passed es' hb ha hd => exact .passed (es ++ es') hb ha hd
  | ended f es' hc he => exact .ended f (es ++ es') hc he

/-- A complaint about a command that is not carried out. -/
theorem strictly_recover {l : List Lexeme} {t : Executor σ} (c : Complaint)
    (ht : t.strict = true) (hc : Deed.calls t.bench.deeds = Deed.calls e.bench.deeds)
    (hk : Deed.complaints t.bench.deeds = Deed.complaints e.bench.deeds) (hl : l ≠ [])
    (hs : Stuck e.bench.site e.phase l) (hb : ¬BreaksDown e.bench.site e.phase l) :
    Strictly e l (t.recover e.index word c) := by
  rw [recover_of_strict ht]
  refine .ended _ _ ?_ ?_
  · rw [note, Bench.note, Deed.calls_append, hc]
    exact List.append_nil _
  · rw [note, Bench.note, Deed.complaints_append, hk]
    exact .reported c hl hs hb

/-- A drawing that cannot be set up ends the run. -/
theorem strictly_setPlot {path : String} (h : Ready e) (hl : Readable (word :: rest))
    (hb : Begins e.mode (word :: rest) (.setPlot path) n) (hd : ¬e.bench.site.IsDrawing path)
    (hs : Stuck e.bench.site e.phase (word :: rest)) :
    Strictly e (word :: rest) (e.carryOut word (.setPlot path) n) := by
  obtain ⟨es, he⟩ := carryOut_eq e word (.setPlot path) n
  obtain ⟨ht, hr⟩ := Bench.enact_setPlot_of_not_isDrawing (b := e.begun (.setPlot path))
    e.params word (hb.isUrl_eq_false hl) hd
  rw [he, ht]
  rcases hr with ⟨hx, f, hr, -⟩ | ⟨hx, c, hr, -⟩
  · rw [hr]
    refine .ended _ es (calls_begun e _) ?_
    show Ends _ _ _ _ _ (Deed.complaints (e.begun (.setPlot path)).deeds)
    rw [complaints_begun]
    exact .broken f (List.cons_ne_nil _ _) hs ⟨path, n, hb, hx⟩
  · rw [hr]
    refine (strictly_recover (t := e.passed n (e.begun (.setPlot path))) c h.strict
      (calls_begun e _) (complaints_begun e _) (List.cons_ne_nil _ _) hs ?_).after es
    refine hb.not_breaksDown hl fun path' hp => ?_
    obtain rfl := Action.setPlot.inj hp
    exact hx

/-- Plotting without a drawing ends the run. -/
theorem strictly_plot (h : Ready e) (hl : Readable (word :: rest))
    (hb : Begins e.mode (word :: rest) .plot n) (hp : e.bench.plotLoaded = false)
    (hs : Stuck e.bench.site e.phase (word :: rest)) :
    Strictly e (word :: rest) (e.carryOut word .plot n) := by
  obtain ⟨es, he⟩ := carryOut_eq e word .plot n
  have hp : ¬(e.begun .plot).plotLoaded = true := by
    show ¬e.bench.plotLoaded = true
    rw [hp]
    exact Bool.false_ne_true
  rw [he, Bench.enact_plot, if_neg hp]
  refine (strictly_recover (t := e.passed n (e.begun .plot)) _ h.strict (calls_begun e _)
    (complaints_begun e _) (List.cons_ne_nil _ _) hs ?_).after es
  refine hb.not_breaksDown hl fun path hp => ?_
  cases hp

/-- A command that was read is carried out if it is valid, and ends the run if it is not. -/
theorem strictly_carryOut (h : Ready e) (hl : Readable (word :: rest))
    (hb : Begins e.mode (word :: rest) a n) :
    Strictly e (word :: rest) (e.carryOut word a n) := by
  by_cases ha : a.Achievable e.bench.site e.bench.plotLoaded
  · have hu : ∀ path, a = .setPlot path → Web.isUrl path = false := by
      rintro path rfl
      exact hb.isUrl_eq_false hl
    obtain ⟨hr, hd⟩ := Bench.done_enact (b := e.begun a) e.params word h.willing hu ha
    obtain ⟨es, he⟩ := carryOut_eq e word a n
    rw [he, hr]
    exact .passed es hb ha hd
  · have hs := stuck_of_not_achievable hl hb ha
    rcases exists_of_not_achievable ha with ⟨path, rfl, hd⟩ | ⟨rfl, hp⟩
    · exact strictly_setPlot h hl hb hd hs
    · exact strictly_plot h hl hb hp hs

/-- **A step of a strict run carries out a valid command, or ends the run.** -/
theorem strictly_step (h : Ready e) (hl : Readable (word :: rest)) :
    Strictly e (word :: rest) (e.step word rest) := by
  have hg : e.mayGrow = false := by rw [mayGrow, h.ended]; rfl
  rw [step, h.skipping]
  simp only [command, hg]
  refine Strictly.after ?_ _
  have hstop : Reader.Stops rest.length (Reader.Numbers rest)
      (Reader.read e.mode false word rest).result := Reader.stops_read hl.values.tail
  generalize hr : (Reader.read e.mode false word rest).result = r at hstop ⊢
  cases hstop with
  | ok x =>
    obtain ⟨a, n⟩ := x
    exact strictly_carryOut h hl (Reader.begins_of_read hr)
  | failed f hf => exact absurd (fun x hx => hl.numbers x (List.mem_cons_of_mem _ hx)) hf
  | @wrong cause x offset _ =>
    have hnot : ∀ a n, ¬Begins e.mode (word :: rest) a n := by
      intro a n hb
      rw [Reader.read_of_begins hb (hl.values.take n)] at hr
      cases hr
    refine strictly_recover _ h.strict rfl rfl (List.cons_ne_nil _ _)
      (fun a n hb => absurd hb (hnot a n)) ?_
    rintro ⟨path, n, hb, -⟩
    exact hnot _ _ hb

/-- A strict run is ready for the next command when the plotter stays willing. -/
theorem Ready.passed (h : Ready e) {b : Bench σ} (hd : Bench.Done a (e.begun a) b) :
    Ready (e.passed n b) := ⟨h.strict, h.ended, h.skipping, hd.willing⟩

/-- What a command establishes is there when it is passed. -/
theorem phase_passed {b : Bench σ} (hd : Bench.Done a (e.begun a) b) :
    (e.passed n b).phase = e.phase.after a := by
  show Phase.mk b.mode b.plotLoaded = _
  rw [hd.mode, hd.plotLoaded]
  rfl

/-- When a command is passed, its calls are made, and no others. -/
theorem calls_passed {b : Bench σ} (hd : Bench.Done a (e.begun a) b) :
    Deed.calls (e.passed n b).bench.deeds = Deed.calls e.bench.deeds ++ a.calls :=
  hd.calls.trans (congrArg (· ++ _) (calls_begun e a))

/-- When a command is passed, there is no complaint about it. -/
theorem complaints_passed {b : Bench σ} (hd : Bench.Done a (e.begun a) b) :
    Deed.complaints (e.passed n b).bench.deeds = Deed.complaints e.bench.deeds :=
  hd.complaints.trans (complaints_begun e a)

/-- **A strict run follows the split of what waits**, and ends where it is stuck.  The calls are
those of the commands in front, and how it ends depends on what is left behind them. -/
theorem run_strict (h : Ready e) (hl : Readable e.waiting) : ∃ cs rest,
    Splits e.bench.site e.phase e.waiting cs rest ∧
    Deed.calls e.run.state.bench.deeds = Deed.calls e.bench.deeds ++ cs.flatMap Action.calls ∧
    Ends e.bench.site (e.phase.afterAll cs) (Deed.complaints e.bench.deeds) rest e.run.result
      (Deed.complaints e.run.state.bench.deeds) := by
  fun_induction run e with
  | case1 e hw =>
    rw [hw]
    exact ⟨[], [], .nil e.phase [], (List.append_nil _).symm, .done⟩
  | case2 e word rest hw f es t hr =>
    rw [hw] at hl ⊢
    have hs := strictly_step h hl
    rw [hr] at hs
    cases hs with
    | ended _ _ hc he =>
      exact ⟨[], word :: rest, .nil e.phase _, hc.trans (List.append_nil _).symm, he⟩
  | case3 e word rest hw es t hr =>
    rw [hw] at hl
    have hs := strictly_step h hl
    rw [hr] at hs
    cases hs
  | case4 e word rest hw l es t hr _ o ih =>
    have hs := strictly_step h (hw ▸ hl)
    rw [hr] at hs
    cases hs with
    | @passed a n _ b hb ha hd =>
      obtain ⟨ws, tail, hws, rfl, hsp, ht, hm⟩ := hb
      have hwait : (e.passed ws.length b).waiting = tail := by
        rw [waiting_passed hw, hws, List.drop_left]
      have hsite : (e.passed ws.length b).bench.site = e.bench.site := hd.site
      rw [hw, hws] at hl ⊢
      obtain ⟨cs, rest', hsplit, hcalls, hends⟩ := ih (h.passed hd) (hwait ▸ hl.of_append)
      rw [phase_passed hd, hwait, hsite] at hsplit
      rw [phase_passed hd, hsite, complaints_passed hd] at hends
      rw [calls_passed hd, List.append_assoc] at hcalls
      refine ⟨a :: cs, rest', .cons hsp ht ⟨hm, ha⟩ hsplit, hcalls, ?_⟩
      rw [map_nil_append]
      exact hends

/-- **What a strict executor makes of a whole script.**  With a willing plotter, it makes the calls
of the longest split, in order, and no other.  It ends with nothing reported exactly if the split
is all of the script.  Otherwise it reports one complaint and ends with it, exactly if the check of
a drawing does not break down there. -/
theorem strict_parse (p : Params) {device : σ} (site : Site) {l : List Lexeme} {x : Lexeme}
    (hd : Willing device) (hl : Readable l) (hk : ∀ y ∈ l, y.kind ≠ .endOfFile)
    (hx : x.kind = .endOfFile) :
    let o := (start true p device site).parse (l ++ [x])
    (∃ cs rest, Longest site l cs rest) ∧ ∀ cs rest, Longest site l cs rest →
      Deed.calls o.state.bench.deeds = cs.flatMap Action.calls ∧
      (o.result = .ok [] ↔ rest = []) ∧
      (rest ≠ [] → ((∃ c, o.result = .error (.command c) ∧
        Deed.complaints o.state.bench.deeds = [c]) ↔
          ¬BreaksDown site (Phase.start.afterAll cs) rest)) := by
  intro o
  have ho : o = run { start true p device site with stream := ⟨l, true⟩ } :=
    parse_of_endOfFile rfl hk hx
  obtain ⟨cs, rest, hs, hc, he⟩ :=
    run_strict (e := { start true p device site with stream := ⟨l, true⟩ }) ⟨rfl, rfl, rfl, hd⟩ hl
  rw [← ho] at hc he
  obtain ⟨hlong, huniq⟩ := hs.longest hl.values he.stuck
  refine ⟨⟨cs, rest, hlong⟩, fun cs' rest' h' => ?_⟩
  obtain ⟨rfl, rfl⟩ := huniq cs' rest' h'
  exact ⟨hc, he.result_eq_ok_iff, he.reported_iff⟩

/-- A script of three commands of which the last cannot be carried out: the general statement holds
of it with a recorder that refuses nothing. -/
theorem strict_parse_obliging :
    let l := (Lexer.reading ["MODE I", "GOTO 1 2", "PLOT"] none).words
    let o := (start true .standard Recorder.obliging .bare).parse (l ++ [.alone .endOfFile ""])
    (∃ cs rest, Longest .bare l cs rest) ∧ ∀ cs rest, Longest .bare l cs rest →
      Deed.calls o.state.bench.deeds = cs.flatMap Action.calls ∧
      (o.result = .ok [] ↔ rest = []) ∧
      (rest ≠ [] → ((∃ c, o.result = .error (.command c) ∧
        Deed.complaints o.state.bench.deeds = [c]) ↔
          ¬BreaksDown .bare (Phase.start.afterAll cs) rest)) :=
  strict_parse .standard .bare Recorder.willing_obliging
    (Readable.of_words (by decide +kernel) (by decide +kernel))
    (fun _ h => (Lexer.of_mem_words h).2) rfl

/-- A site with one file, whose root has a name with a colon. -/
def colonSite : Site :=
  ⟨⟨[(["n.svg"], .file "<x:svg/><?xmlx y?>".toUTF8.toList)], []⟩, .fresh "/tmp", [], [], .plain⟩

/-- A drawing that is none ends the run, but nothing is reported. -/
theorem strict_parse_colonSite :
    let o := (start true .standard Recorder.obliging colonSite).parse
      (Lexer.reading ["MODE P", "SETPLOT \"n.svg\""] none).tokens.1
    o.result = .error (.failure (.badRootName "x:svg")) ∧
      Deed.complaints o.state.bench.deeds = [] ∧ o.state.index = 4 := by
  decide +kernel

end Executor
end PlotScript
