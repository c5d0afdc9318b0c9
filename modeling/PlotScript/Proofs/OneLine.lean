/-
# One line at a time

A lenient executor with nothing that waits is given the lexemes of one line, none of which opens a
block.  It carries out command after command (`Executor.CarriesOut`).  At the first that is
malformed or fails, it reports one complaint, and the rest of the line is lost: where reading goes
on is the end of the stream.  So at most one complaint comes of a line, and what was done are the
commands before it, with what the failing one did before it failed (`Executor.one_line`).

The exception is a command that ends the run.  A plotter that refuses calls only with complaints of
its own leaves few of them: mode *interactive* was not entered, a drawing could not be fetched, or
the check of a drawing breaks down.

The language specification, §13, has reading go on with the next source line.
-/

import PlotScript.Proofs.Ended
import PlotScript.Proofs.FailedCommands
import PlotScript.Proofs.Tidy

namespace PlotScript

open Grammar

namespace Bench

variable {σ : Type} [Device σ] {b t : Bench σ} {a : Action} {f : Fault}

/-- Carrying out a command that was read, which takes `k` lexemes from lexeme `n` on. -/
def attempt (p : Params) (n : Nat) (b : Bench σ) (word : Lexeme) (a : Action) (k : Nat) :
    Outcome Fault (Bench σ) Unit :=
  execute p (n + k - 1) ⟨word, a⟩ (b.note (.begun n a))

/-- No drawing was set, and none was fetched but for a command that sets one. -/
structure Spent (a : Action) (b t : Bench σ) : Prop where
  plotLoaded : t.plotLoaded = b.plotLoaded
  downloads : t.downloads = b.downloads ∨
    ∃ source path, a = .setPlot source ∧ t.downloads = b.downloads ++ [path]

omit [Device σ] in
/-- What leaves both the drawing and the downloads as they were is within what any action may
spend. -/
theorem Spent.of_eq (h : t.plotLoaded = b.plotLoaded ∧ t.downloads = b.downloads) :
    Spent a b t := ⟨h.1, .inl h.2⟩

omit [Device σ] in
/-- Obtaining a drawing spends at most one download, and sets no drawing. -/
theorem spent_obtain (p : Params) (source : String) (b : Bench σ) :
    Spent (.setPlot source) b (obtain p source b).state := by
  have ho := obtained p source b
  generalize obtain p source b = o at ho ⊢
  cases ho with
  | atHand | failed => exact .of_eq ⟨rfl, rfl⟩
  | fetched => exact ⟨rfl, .inr ⟨source, _, rfl, rfl⟩⟩

/-- **A command that fails sets no drawing.**  The call that sets up the plot is the last thing that
can fail, and the flag is set after it; before it, at most the drawing was fetched. -/
theorem spent_enact {p : Params} {anchor : Lexeme}
    (h : (enact p anchor a b).result = .error f) : Spent a b (enact p anchor a b).state := by
  have hask (c : Call) : Act.Keeps (fun t : Bench σ => t.plotLoaded = b.plotLoaded ∧
      t.downloads = b.downloads) (ask c) := fun _ ht => ht
  cases a with
  | setMode m =>
    refine .of_eq ?_
    rw [enact, Act.modify_bind]
    cases m with
    | plot => exact ⟨rfl, rfl⟩
    | interactive =>
      refine ((hask .enterInteractive).bind fun _ => (hask .currentMode).bind fun entered => ?_)
        (b.setMode .interactive) ⟨rfl, rfl⟩
      split
      · exact Act.keeps_throw _
      · exact Act.keeps_tell _
  | setOptions k settings =>
    exact .of_eq (((Act.Keeps.forEach fun x : Setting × Value => hask (.set x.1 x.2)).bind fun _ =>
      hask .commitOptions) b ⟨rfl, rfl⟩)
  | getPosition =>
    exact .of_eq (((hask .getPosition).bind fun _ => Act.keeps_tell _) b ⟨rfl, rfl⟩)
  | getPen => exact .of_eq (((hask .getPenDown).bind fun _ => Act.keeps_tell _) b ⟨rfl, rfl⟩)
  | setPlot source =>
    have ho := spent_obtain p source b
    rw [enact] at h ⊢
    rcases hr : (obtain p source b).result with g | path
    · rw [Act.bind_of_error hr]
      exact ho
    rw [Act.bind_of_ok hr] at h ⊢
    have hi := state_inspect path anchor (obtain p source b).state
    rcases hc : (inspect path anchor (obtain p source b).state).result with g | u
    · rw [Act.bind_of_error hc, hi]
      exact ho
    rw [Act.bind_of_ok hc, hi] at h ⊢
    rcases hs : (ask (.setupPlot path) (obtain p source b).state).result with g | u
    · rw [Act.bind_of_error hs]
      exact ⟨ho.plotLoaded, ho.downloads⟩
    · -- Once the drawing is set up, nothing can fail.
      rw [Act.bind_of_ok hs] at h
      cases h
  | plot =>
    refine .of_eq ?_
    rw [enact_plot]
    split
    · exact ⟨rfl, rfl⟩
    · exact ⟨rfl, rfl⟩
  | connect | disconnect | penUp | penDown | penToggle | home | goTo | goToRelative | draw | wait =>
    exact .of_eq ⟨rfl, rfl⟩

/-- An attempt that fails has spent no more than its action may spend: the drawing is not set, and
at most one file was downloaded. -/
theorem spent_attempt {p : Params} {n k : Nat} {word : Lexeme}
    (h : (attempt p n b word a k).result = .error f) :
    Spent a b (attempt p n b word a k).state := by
  have hl : (attempt p n b word a k).result =
      (enact p word a (b.note (.begun n a))).result.mapError (blame word (n + k - 1)) := rfl
  rw [hl] at h
  rcases hr : (enact p word a (b.note (.begun n a))).result with g | u
  · have hs := spent_enact hr
    exact ⟨hs.plotLoaded, hs.downloads⟩
  · rw [hr] at h
    cases h

end Bench

namespace Executor

variable {σ : Type} [Device σ] {R : Refusal → Prop} {e : Executor σ} {word : Lexeme}
  {rest : List Lexeme} {a : Action} {n k : Nat} {b c : Bench σ}

/-- Command after command of some lexemes is carried out with no fault, up to what is left of them.
Given are the number of the next lexeme and the bench, before and after. -/
inductive CarriesOut (p : Params) :
    Nat → Bench σ → List Lexeme → Nat → Bench σ → List Lexeme → Prop
  | refl (n : Nat) (b : Bench σ) (l : List Lexeme) : CarriesOut p n b l n b l
  | next {n m k : Nat} {b c d : Bench σ} {l r : List Lexeme} {a : Action} {es : List Event} :
    Begins b.mode l a k → (∀ x, Bench.enact p x a (b.note (.begun n a)) = ⟨.ok (), es, c⟩) →
      CarriesOut p (n + k) c (l.drop k) m d r → CarriesOut p n b l m d r

/-- How a line ends, by what is left of it: the result of the run, and the bench in the end. -/
inductive LineEnds (R : Refusal → Prop) (p : Params) (n : Nat) (b : Bench σ) :
    List Lexeme → Except Fault (List Complaint) → Bench σ → Prop
  /-- All of it was carried out. -/
  | done : LineEnds R p n b [] (.ok []) b
  /-- No command begins there. -/
  | malformed {word : Lexeme} {rest : List Lexeme} (c : Complaint) :
    (∀ a k, ¬Begins b.mode (word :: rest) a k) →
      LineEnds R p n b (word :: rest) (.ok [c]) (b.note (.reported n c))
  /-- A command is complained about when it is carried out. -/
  | failed {word : Lexeme} {rest : List Lexeme} {a : Action} {k : Nat} (c : Complaint) :
    Begins b.mode (word :: rest) a k →
      (Bench.attempt p n b word a k).result = .error (.command c) →
        LineEnds R p n b (word :: rest) (.ok [c])
          ((Bench.attempt p n b word a k).state.note (.reported n c))
  /-- A command ends the run when it is carried out. -/
  | broken {word : Lexeme} {rest : List Lexeme} {a : Action} {k : Nat} (f : Fault) :
    Begins b.mode (word :: rest) a k → (Bench.attempt p n b word a k).result = .error f →
      (∀ c, f ≠ .command c) →
        ((∃ r, R r ∧ (∀ cause i, r ≠ .complaint .device cause i) ∧ f = r.toFault) ∨
          a.OwnFault f) →
          LineEnds R p n b (word :: rest) (.error f) (Bench.attempt p n b word a k).state
  /-- The plotter complains itself, about a lexeme that it names but that is not there. -/
  | astray {word : Lexeme} {rest : List Lexeme} {a : Action} {k : Nat} (c : Complaint)
    (r : Refusal) : Begins b.mode (word :: rest) a k →
      (Bench.attempt p n b word a k).result = .error (.command c) →
        R r → (∀ cause i, r ≠ .complaint .device cause i) → r.toFault = .command c →
          LineEnds R p n b (word :: rest) (.error (.failure .outOfRange))
            ((Bench.attempt p n b word a k).state.note (.reported n c))

/-- What was done after the commands that were carried out: no drawing was set, and otherwise only
what the next command can have done. -/
structure DoneSince (b : Bench σ) (rest : List Lexeme) (t : Bench σ) : Prop where
  plotLoaded : t.plotLoaded = b.plotLoaded
  mode : t.mode = b.mode ∨ ∃ m k, Begins b.mode rest (.setMode m) k ∧ t.mode = some m
  downloads : t.downloads = b.downloads ∨ ∃ source path k,
    Begins b.mode rest (.setPlot source) k ∧ t.downloads = b.downloads ++ [path]
  calls : ∃ new, Deed.calls t.deeds = Deed.calls b.deeds ++ new ∧
    (new = [] ∨ ∃ a k cs, Begins b.mode rest a k ∧ a.MayCall cs ∧ new <+: cs)

/-- A command that fails on a line was begun on it, and its report is the one thing that is noted
after it. -/
theorem doneSince_attempt {p : Params} {f : Fault} {c : Complaint}
    (hb : Begins b.mode (word :: rest) a k)
    (h : (Bench.attempt p n b word a k).result = .error f) :
    DoneSince b (word :: rest) ((Bench.attempt p n b word a k).state.note (.reported n c)) := by
  have hs := Bench.spent_attempt h
  obtain ⟨cs, hcs, hen⟩ := Bench.enacted_enact p word a (b.note (.begun n a))
  have hstate : (Bench.attempt p n b word a k).state =
      (Bench.enact p word a (b.note (.begun n a))).state := rfl
  refine ⟨hs.plotLoaded, ?_, ?_, ?_⟩
  · have hmode : (Bench.attempt p n b word a k).state.mode = a.modeAfter b.mode := hen.mode
    show (Bench.attempt p n b word a k).state.mode = b.mode ∨ ∃ m i, _ ∧
      (Bench.attempt p n b word a k).state.mode = some m
    rw [hmode]
    cases a with
    | setMode m => exact .inr ⟨m, k, hb, rfl⟩
    | _ => exact .inl rfl
  · refine hs.downloads.imp_right ?_
    rintro ⟨source, path, rfl, hd⟩
    exact ⟨source, path, k, hb, hd⟩
  · set made := (askAll (Bench.attempt p n b word a k).state.mode cs b.device).1
    refine ⟨Deed.calls made, ?_, .inr ⟨a, k, cs, hb, hcs, calls_askAll_isPrefix ..⟩⟩
    have hdeeds : (Bench.attempt p n b word a k).state.deeds =
        b.deeds ++ [.begun n a] ++ a.modeDeeds ++ made := hen.deeds
    show Deed.calls ((Bench.attempt p n b word a k).state.deeds ++ [.reported n c]) = _
    rw [hdeeds]
    simp only [Deed.calls_append, a.calls_modeDeeds, List.append_nil]
    rw [show Deed.calls [Deed.begun n a] = [] from rfl,
      show Deed.calls [Deed.reported n c] = [] from rfl, List.append_nil, List.append_nil]

/-- If one complaint is the result of a line, what was done since its beginning is what was done up
to that complaint. -/
theorem LineEnds.doneSince {p : Params} {l : List Lexeme} {c : Complaint}
    {r : Except Fault (List Complaint)} {t : Bench σ} (h : LineEnds R p n b l r t)
    (hr : r = .ok [c]) : DoneSince b l t := by
  cases h with
  | done => cases hr
  | malformed c _ => exact ⟨rfl, .inl rfl, .inl rfl, [], Deed.calls_append _ _, .inl rfl⟩
  | failed c hb hx => exact doneSince_attempt hb hx
  | broken | astray => cases hr

/-- A lenient executor to which the rest of a line is left, with no block in it. -/
structure OnLine (R : Refusal → Prop) (e : Executor σ) : Prop where
  strict : e.strict = false
  skipping : e.skipping = none
  within : e.index ≤ e.stream.size
  line : Line e.waiting []
  simple : ∀ x ∈ e.waiting, ∀ b, x.kind ≠ .blockStart b
  numbers : Reader.Numbers e.waiting
  refusing : e.bench.Refusing R

namespace Fails

/-- If the lexeme that is blamed is not there, then the plotter named it. -/
theorem exists_refusal_of_not_lt {c : Complaint} (h : Fails e word rest a k (.command c))
    (hd : e.bench.Refusing R) (hlt : ¬blamed e.index c < e.stream.size) :
    ∃ r, R r ∧ (∀ cause i, r ≠ .complaint .device cause i) ∧ r.toFault = .command c := by
  have hpos := (Reader.taken_read h.read).1
  have hle := index_add_le h.waiting h.read
  have hfound (hi : c.index = none ∨ c.index = some ((e.index + k - 1 : Nat) : Int)) : False :=
    hlt ((blamed_lt hpos hi).trans_le hle)
  rcases Bench.execute_eq_error (b := e.begun a) hd h.fault with ⟨cause, i, -, hc⟩ |
    ⟨r, hR, hne, hc⟩ | hown
  · cases hc
    exact (hfound (.inr rfl)).elim
  · exact ⟨r, hR, hne, hc.symm⟩
  · exact (hfound (.inl hown.1)).elim

end Fails

namespace OnLine

/-- An executor on a line is on it still after a command of the line was passed over. -/
theorem passed (h : OnLine R e) (hk : e.index + k ≤ e.stream.size) (hb : b.Refusing R) :
    OnLine R (e.passed k b) := by
  have hw : (e.passed k b).waiting = e.waiting.drop k := waiting_passed rfl k b
  have hmem {x : Lexeme} (hx : x ∈ (e.passed k b).waiting) : x ∈ e.waiting :=
    List.mem_of_mem_drop (hw ▸ hx)
  exact ⟨h.strict, h.skipping, hk, hw ▸ h.line.drop k, fun x hx => h.simple x (hmem hx),
    fun x hx => h.numbers x (hmem hx), hb⟩

/-- After a complaint, reading goes on at the end of the line, which is the end of the stream. -/
theorem nextLine_eq (h : OnLine R e) {m : Nat} (hm : e.index ≤ m) (hlt : m < e.stream.size) :
    nextLine e.stream m = e.stream.size :=
  nextLine_eq_size (k := e.index) h.line hm hlt

/-- A command that is read is carried out, or complained about, or it ends the run.  A complaint of
the plotter may name a lexeme that is not there; that ends the run, too. -/
theorem step_of_read (h : OnLine R e) (hw : e.waiting = word :: rest)
    (hr : (Reader.read e.mode e.mayGrow word rest).result = .ok (a, k)) :
    (∃ es c fs, (∀ x, Bench.enact e.params x a (e.begun a) = ⟨.ok (), es, c⟩) ∧
      e.step word rest = ⟨.ok (.reported []), fs, e.passed k c⟩ ∧ OnLine R (e.passed k c)) ∨
    (∃ c, (e.step word rest).result = .ok (.reported [c]) ∧
      LineEnds R e.params e.index e.bench (word :: rest) (.ok [c]) (e.step word rest).state.bench ∧
      (e.step word rest).state.index = e.stream.size ∧ (e.step word rest).state.skipping = none) ∨
    ∃ f, (e.step word rest).result = .error f ∧
      LineEnds R e.params e.index e.bench (word :: rest) (.error f)
        (e.step word rest).state.bench := by
  have hb := Reader.begins_of_read hr
  have hle := index_add_le hw hr
  rcases hx : (Bench.attempt e.params e.index e.bench word a k).result with f | u
  · have hf : Fails e word rest a k f := ⟨h.skipping, hw, hr, hx⟩
    by_cases hc : ∃ c, f = .command c
    · obtain ⟨c, rfl⟩ := hc
      obtain ⟨es, hstep⟩ := hf.step_eq
      obtain ⟨fs, hcarry⟩ := hf.carryOut_eq_recover
      have hnb := h.simple word (hw ▸ List.mem_cons_self)
      rw [hstep, hcarry]
      -- Where the blamed lexeme is there, reading goes on behind it: that is behind the line.
      by_cases hlt : blamed e.index c < e.stream.size
      · rw [recover_of_lenient (e := e.passed k _) h.strict (astray_of_lt hlt word),
          resume_of_noBlock hnb]
        have hnext := h.nextLine_eq (le_blamed e.index c) hlt
        exact .inr (.inl ⟨c, rfl, .failed c hb hx, hnext, h.skipping⟩)
      · rw [recover_of_astray (e := e.passed k _) h.strict (astray_of_not_lt hnb hlt)]
        obtain ⟨r, hR, hne, hrc⟩ := hf.exists_refusal_of_not_lt h.refusing hlt
        exact .inr (.inr ⟨_, rfl, .astray c r hb hx hR hne hrc⟩)
    · have hne : ∀ c, f ≠ .command c := fun c hfc => hc ⟨c, hfc⟩
      obtain ⟨es, hstep⟩ := hf.step_eq
      obtain ⟨fs, hcarry⟩ := hf.carryOut_eq_error hne
      have hbreaks := (Bench.execute_eq_error (b := e.begun a) h.refusing hx).resolve_left
        fun ⟨_, _, _, hfc⟩ => hne _ hfc
      rw [hstep, hcarry]
      exact .inr (.inr ⟨f, rfl, .broken f hb hx hne hbreaks⟩)
  · -- An attempt is the carrying out of the command, but for where its faults are blamed.
    have hen : (Bench.enact e.params word a (e.begun a)).result = .ok () := by
      have hl : (Bench.attempt e.params e.index e.bench word a k).result =
          (Bench.enact e.params word a (e.begun a)).result.mapError
            (Bench.blame word (e.index + k - 1)) := rfl
      rw [hl] at hx
      rcases hr' : (Bench.enact e.params word a (e.begun a)).result with g | v
      · rw [hr'] at hx
        cases hx
      · rfl
    rcases ho : Bench.enact e.params word a (e.begun a) with ⟨r, es, c⟩
    rw [ho] at hen
    obtain rfl : r = .ok () := hen
    have hstep := Executor.step_of_read h.skipping hr ho
    refine .inl ⟨es, c, _, fun x => ?_, hstep, h.passed hle ?_⟩
    · exact (Bench.agrees_enact e.params a word x (e.begun a) () (by rw [ho])).trans ho
    · have hleads := past_step e word rest
      rw [hstep] at hleads
      exact Device.Refuses.of_leads (p := e.past) h.refusing hleads

/-- **A step on a line** carries a command out, or is the last one: a complaint leads behind the
line, for all that waits is on it, and any other fault ends the run. -/
theorem step (h : OnLine R e) (hw : e.waiting = word :: rest) :
    (∃ a k es c fs, Begins e.mode (word :: rest) a k ∧
      (∀ x, Bench.enact e.params x a (e.begun a) = ⟨.ok (), es, c⟩) ∧
      e.step word rest = ⟨.ok (.reported []), fs, e.passed k c⟩ ∧ OnLine R (e.passed k c)) ∨
    (∃ c, (e.step word rest).result = .ok (.reported [c]) ∧
      LineEnds R e.params e.index e.bench (word :: rest) (.ok [c]) (e.step word rest).state.bench ∧
      (e.step word rest).state.index = e.stream.size ∧ (e.step word rest).state.skipping = none) ∨
    ∃ f, (e.step word rest).result = .error f ∧
      LineEnds R e.params e.index e.bench (word :: rest) (.error f)
        (e.step word rest).state.bench := by
  have hnb : ∀ b, word.kind ≠ .blockStart b := h.simple word (hw ▸ List.mem_cons_self)
  have hsimple : (Reader.read e.mode e.mayGrow word rest).result =
      Reader.readSimple e.mode word rest := by
    rw [Reader.read_eq_of_noBlock hnb]
    rfl
  have hn : Reader.Numbers rest := fun x hx => h.numbers x (hw ▸ List.mem_cons_of_mem _ hx)
  rcases hr : (Reader.read e.mode e.mayGrow word rest).result with (⟨cause, x, offset⟩ | f | _) |
    ⟨a, k⟩
  · -- Nothing that could be read begins there, as reading is the grammar.
    have hnone : ∀ a k, ¬Begins e.mode (word :: rest) a k := by
      rintro a k ⟨ws, tail, hl, rfl, hws, ht, hm⟩
      have hread := Reader.readSimple_of_spells hws ht hm hl.symm hnb
      rw [← hsimple, hr] at hread
      cases hread
    have hlt := length_waiting hw
    have hoff := Reader.offset_le_of_read hr
    have hnext := h.nextLine_eq (Nat.le_add_right e.index offset) (by omega)
    have hstep : ∃ es, e.step word rest = after es
        (e.recover e.index word (e.fault cause x offset)) := by
      rw [Executor.step, h.skipping]
      simp only [command, hr]
      exact ⟨_, rfl⟩
    obtain ⟨es, hstep⟩ := hstep
    rw [hstep, recover_of_noBlock h.strict hnb (astray_of_wrong hw hr)]
    exact .inr (.inl ⟨_, rfl, .malformed _ hnone, hnext, h.skipping⟩)
  · exact absurd (hsimple ▸ hr) (Reader.readSimple_ne_failed hn f)
  · exact absurd (hsimple ▸ hr) Reader.readSimple_ne_waiting
  · rcases h.step_of_read hw hr with ⟨es, c, fs, hen, hstep, hon⟩ | hlast
    · exact .inl ⟨a, k, es, c, fs, Reader.begins_of_read hr, hen, hstep, hon⟩
    · exact .inr hlast

/-- **A run on a line** carries out commands up to the one that ends it.  The induction is on the
steps of the run; what is passed on is that the executor is on the line. -/
theorem run (h : OnLine R e) : ∃ n b rest,
    CarriesOut e.params e.index e.bench e.waiting n b rest ∧
    LineEnds R e.params n b rest e.run.result e.run.state.bench ∧
    ((∃ cs, e.run.result = .ok cs) →
      e.run.state.index = e.stream.size ∧ e.run.state.skipping = none) := by
  fun_induction Executor.run e with
  | case1 e hw =>
    have hsize : e.stream.size ≤ e.index := List.drop_eq_nil_iff.1 hw
    rw [hw]
    exact ⟨_, _, [], .refl .., .done, fun _ => ⟨h.within.antisymm hsize, h.skipping⟩⟩
  | case2 e word rest hw f es t hs =>
    rw [hw]
    rcases h.step hw with ⟨a, k, _, c, fs, -, -, hstep, -⟩ | ⟨c, hr, -⟩ | ⟨g, hr, hend⟩
    · rw [hs] at hstep
      cases hstep
    · rw [hs] at hr
      cases hr
    · rw [hs] at hr hend
      cases hr
      refine ⟨_, _, _, .refl .., hend, ?_⟩
      rintro ⟨_, hcs⟩
      cases hcs
  | case3 e word rest hw es t hs =>
    rcases h.step hw with ⟨a, k, _, c, fs, -, -, hstep, -⟩ | ⟨c, hr, -⟩ | ⟨g, hr, -⟩
    · rw [hs] at hstep
      cases hstep
    · rw [hs] at hr
      cases hr
    · rw [hs] at hr
      cases hr
  | case4 e word rest hw l es t hs _ o ih =>
    rcases h.step hw with ⟨a, k, _, c, fs, hb, hen, hstep, hon⟩ | ⟨c, hr, hend, hindex, hskip⟩ |
      ⟨g, hr, -⟩
    · rw [hs] at hstep
      cases hstep
      obtain ⟨n, b, r, hcarries, hend, hidle⟩ := ih hon
      rw [waiting_passed rfl k c] at hcarries
      simp only [map_nil_append]
      exact ⟨n, b, r, .next (hw ▸ hb) hen hcarries, hend, hidle⟩
    · have hstream := (frame_step e word rest).stream
      rw [hs] at hr hend hindex hskip hstream
      cases hr
      -- After a complaint nothing is left, so the rest of the run is empty.
      have hnil : t.waiting = [] := by
        refine List.drop_eq_nil_iff.2 ?_
        rw [hstream]
        exact hindex.ge
      have ho : o = ⟨.ok [], [], t⟩ := run_of_nil hnil
      rw [hw, ho]
      exact ⟨_, _, _, .refl .., hend, fun _ => ⟨hindex, hskip⟩⟩
    · rw [hs] at hr
      cases hr

end OnLine

/-- A line that is carried out to its end makes at most one complaint: after the first one the rest
of the line is passed over. -/
theorem LineEnds.length_le_one {p : Params} {l : List Lexeme} {cs : List Complaint}
    {r : Except Fault (List Complaint)} {t : Bench σ} (h : LineEnds R p n b l r t)
    (hr : r = .ok cs) : cs.length ≤ 1 := by
  cases h with
  | done =>
    cases hr
    exact Nat.zero_le 1
  | malformed | failed =>
    cases hr
    exact le_rfl
  | broken | astray => cases hr

/-- With a polite plotter, a run ends with a fatal complaint, or with a failure of a command for a
drawing. -/
theorem LineEnds.fault_cases {p : Params} {l : List Lexeme} {f : Fault} {d : σ}
    {r : Except Fault (List Complaint)} {t : Bench σ}
    (h : LineEnds (Device.Gives d) p n b l r t) (hd : Polite d) (hr : r = .error f) :
    (∃ c, f = .fatal c) ∨ ∃ g source k, f = .failure g ∧ Begins b.mode l (.setPlot source) k := by
  cases h with
  | done | malformed | failed => cases hr
  | @broken word rest a k g hb _ hne hown =>
    cases hr
    rcases hown with ⟨r, ⟨cs, c, hgives⟩, hnot, -⟩ | hown
    · obtain ⟨cause, i, hc⟩ := hd cs c r hgives
      exact absurd hc (hnot cause i)
    · rcases f with ⟨grade, c⟩ | text | g
      · cases grade with
        | device | general => exact hown.elim
        | command => exact absurd rfl (hne c)
        | fatal => exact .inl ⟨c, rfl⟩
      · exact hown.elim
      · obtain ⟨source, rfl⟩ := hown
        exact .inr ⟨g, source, k, rfl, hb⟩
  | astray c r _ _ hgives hnot _ =>
    obtain ⟨cs, c', hgives⟩ := hgives
    obtain ⟨cause, i, hc⟩ := hd cs c' r hgives
    exact absurd hc (hnot cause i)

/-- **What comes of one line.**  A lenient executor was used in any way, with any plotter; nothing
waits, and its stream has not ended.  It is given the lexemes of one line, and perhaps the end of
the file after them.  None of them opens a block, and their numbers have digits only, as those of
the lexer.

- Command after command is carried out.  If one is malformed or is complained about, the run ends
  there; and if one fails with another fault, or the plotter complains about a lexeme that is not
  there.
- If it does not end with such a fault, there is one complaint at most, the stream is read to its
  end, and nothing waits.
- If there is a complaint, only the command that is complained about can have done anything else
  than the commands before it: it made the first of its calls, it set the mode, or it fetched a
  drawing.  No drawing was set.
- If the plotter refuses calls only with complaints of its own, a fault that ends the run is fatal,
  or a command for a drawing failed. -/
theorem one_line (p : Params) (device : σ) (site : Site) (uses : List Use) {l : List Lexeme}
    (hp : ((start false p device site).live uses).pending = false)
    (he : ((start false p device site).live uses).stream.ended = false)
    (hx : (((start false p device site).live uses).stream.extend l).1 = .ok ())
    (hl : Line l []) (hb : ∀ x ∈ l, ∀ b, x.kind ≠ .blockStart b) (hn : Reader.Numbers l) :
    let e := (start false p device site).live uses
    let o := e.parse l
    ∃ n b rest,
      CarriesOut e.params e.index e.bench (l.filter fun x => x.kind ≠ .endOfFile) n b rest ∧
      LineEnds (Device.Gives device) e.params n b rest o.result o.state.bench ∧
      (∀ cs, o.result = .ok cs → cs.length ≤ 1 ∧ o.state.index = o.state.stream.size ∧
        o.state.pending = false) ∧
      (∀ c, o.result = .ok [c] → DoneSince b rest o.state.bench) ∧
      (Polite device → ∀ f, o.result = .error f → (∃ c, f = .fatal c) ∨
        ∃ g source k, f = .failure g ∧ Begins b.mode rest (.setPlot source) k) := by
  intro e o
  have hrest : Resting e := .of_pending (strict_live _ uses) hp he
    ((inReach_start false p device site).live uses)
  have ho : o = (e.fed l).run := by
    show e.parse l = _
    rw [parse, fed]
    simp only [show (e.stream.extend l).1 = .ok () from hx]
  have hw : (e.fed l).waiting = l.filter fun x => x.kind ≠ .endOfFile := by
    show (e.stream.extend l).2.entries.drop e.index = _
    rw [(Stream.extend_eq_ok hx).1, hrest.index]
    exact List.drop_left
  have hmem {x : Lexeme} (hm : x ∈ (e.fed l).waiting) : x ∈ l :=
    (List.mem_filter.1 (hw ▸ hm)).1
  -- With these lexemes the executor is on a line, whatever it was used for before.
  have hon : OnLine (Device.Gives device) (e.fed l) := by
    refine ⟨hrest.strict, hrest.skipping, ?_, ?_, fun x hm => hb x (hmem hm),
      fun x hm => hn x (hmem hm), ?_⟩
    · exact hrest.index.trans_le (Stream.entries_isPrefix_extend e.stream l).length_le
    · exact ⟨fun x hm y hm' => hl.together x (hmem hm) y (hmem hm'),
        fun _ _ _ hy => absurd hy (by simp)⟩
    · exact Device.Refuses.of_leads (p := Past.start device) (Device.refuses_gives device)
        (past_live (start false p device site) uses)
  obtain ⟨n, b, rest, hcarries, hend, hidle⟩ := hon.run
  rw [hw] at hcarries
  rw [ho]
  refine ⟨n, b, rest, hcarries, hend, fun cs hcs => ?_, fun c hc => hend.doneSince hc,
    fun hd f hf => hend.fault_cases hd hf⟩
  obtain ⟨hindex, hskip⟩ := hidle ⟨cs, hcs⟩
  have hstream : (e.fed l).run.state.stream = (e.fed l).stream := (frame_run _).stream
  refine ⟨hend.length_le_one hcs, hstream.symm ▸ hindex, ?_⟩
  rw [pending, hskip, hindex, hstream]
  simp

/-- A drawing to be set and plotted. -/
def drawingLine (path : String) : List Lexeme :=
  [onLine 2 .setPlot "SETPLOT", onLine 2 .string path, onLine 2 .plot "PLOT"]

/-- The drawing is not there, and the rest of the line is lost. -/
theorem one_line_missing :
    let o := plotting.parse (drawingLine "missing.svg")
    o.result = .ok [⟨.fileUnreadable "missing.svg", some (onLine 2 .setPlot "SETPLOT"), none⟩] ∧
      o.state.index = o.state.stream.size ∧ o.state.pending = false ∧
      o.state.bench.plotLoaded = false := by
  intro o
  have hr : o.result =
      .ok [⟨.fileUnreadable "missing.svg", some (onLine 2 .setPlot "SETPLOT"), none⟩] := by
    decide +kernel
  have hb : ∀ x ∈ drawingLine "missing.svg", ∀ b, x.kind ≠ .blockStart b := by
    intro x hx b
    simp only [drawingLine, List.mem_cons, List.not_mem_nil, or_false] at hx
    rcases hx with rfl | rfl | rfl <;> rintro ⟨⟩
  obtain ⟨n, b, rest, -, -, hok, -, -⟩ := one_line .standard Recorder.obliging .bare
    [.parse [.alone .mode "MODE", .alone (.modeName .plot) "P"]]
    (l := drawingLine "missing.svg") (by decide +kernel) (by decide +kernel) (by decide +kernel)
    ⟨by decide +kernel, fun _ _ _ hy => absurd hy (by simp)⟩ hb (by decide)
  obtain ⟨-, hindex, hpending⟩ := hok _ hr
  exact ⟨hr, hindex, hpending, by decide +kernel⟩

/-- The check of the drawing breaks down: nothing is reported, and the rest of the line waits. -/
theorem one_line_colonSite :
    let e := (start false .standard Recorder.obliging colonSite).live
      [.parse [.alone .mode "MODE", .alone (.modeName .plot) "P"]]
    let o := e.parse (drawingLine "n.svg")
    e.pending = false ∧ o.result = .error (.failure (.badRootName "x:svg")) ∧
      Deed.reports o.state.bench.deeds = [] ∧ o.state.index = 4 ∧ o.state.stream.size = 5 ∧
      o.state.pending = true := by
  decide +kernel

end Executor
end PlotScript
