/-
# Commands that fail

A command that was read is behind the executor before it is carried out.  If it fails, a lenient
executor goes on behind the line of the lexeme that is blamed:

| what fails | blamed |
| --- | --- |
| a call of the plotter | the last lexeme of the command |
| a drawing that is not there, or is none | the word `SETPLOT` |
| plotting without a drawing | the word `PLOT` |

So reading does not go back into the command, but in one case: if the path of a drawing that fails
is on another line than the word `SETPLOT`, reading goes on at the path.  That is no command, so
there is a second complaint (`Executor.failed_command`).

Going on after a command that fails is the same in the language specification, §13, as after a
malformed one.
-/

import PlotScript.Proofs.Aftermath

namespace PlotScript

open Grammar

/-- A refusal that is a complaint about what was asked, or a fatal one. -/
def Refusal.IsComplaint : Refusal → Prop
  | complaint .device _ _ | complaint .fatal _ _ => True
  | complaint .general _ _ | complaint .command _ _ | interrupt _ | failure _ => False

/-- The faults that a command comes to by itself, with any plotter: those of drawings, that there is
no drawing to plot, and that the mode was not entered. -/
def Action.OwnFault (a : Action) : Fault → Prop
  | .complaint .command c => c.index = none ∧ (a = .plot ∨ ∃ path, a = .setPlot path)
  | .complaint .fatal _ => a = .setMode .interactive ∨ ∃ path, a = .setPlot path
  | .failure _ => ∃ path, a = .setPlot path
  | .complaint .device _ | .complaint .general _ | .interrupt _ => False

/-- Setting options has no fault of its own: all that may go wrong is the device's. -/
theorem Action.not_ownFault_setOptions {k : Block} {settings : List (Setting × Value)} {f : Fault} :
    ¬(setOptions k settings).OwnFault f := by
  rcases f with ⟨_ | _ | _ | _, c⟩ | _ | _ <;> simp [OwnFault]

/-- The faults that a command comes to with a plotter that refuses calls in some ways only. -/
def Action.MayFail (R : Refusal → Prop) (a : Action) (f : Fault) : Prop :=
  (∃ r, R r ∧ f = r.toFault) ∨ a.OwnFault f

namespace Bench

variable {σ : Type} [Device σ] {R : Refusal → Prop} {a : Action}

/-- At the bench is a plotter that refuses calls in some ways only. -/
abbrev Refusing (R : Refusal → Prop) (b : Bench σ) : Prop := Device.Refuses R b.device

/-- A plotter that only complains, at the bench. -/
abbrev Complaining (b : Bench σ) : Prop := b.Refusing Refusal.IsComplaint

/-- What may go wrong in obtaining a drawing is something that may go wrong in setting it, and a
refusing bench remains one. -/
theorem confined_obtain (p : Params) (path : String) :
    Act.Confined (Refusing R) ((Action.setPlot path).MayFail R)
      (obtain p path : Act Fault (Bench σ) String) := by
  refine Act.Keeps.confined (fun b hb => ?_) fun b f hf => .inr ?_
  · have hd : (obtain p path b).state.device = b.device := (asks_obtain p path b).device
    show Device.Refuses _ (obtain p path b).state.device
    rw [hd]
    exact hb
  unfold obtain at hf
  split at hf
  · have hw : Act.Within (Action.setPlot path).OwnFault (fun _ => True) (Web.fetch p path) :=
      Web.within_fetch ⟨fun _ _ => .inr ⟨path, rfl⟩, fun _ _ => ⟨path, rfl⟩⟩
        ⟨fun _ => trivial, fun _ => trivial, fun _ => trivial, fun _ _ _ => trivial⟩ p path
    exact (hw.on.bind fun x => (Act.within_modify _).bind fun _ => Act.within_pure x).faults b f hf
  · cases hf

/-- What may go wrong in inspecting a drawing is something that may go wrong in setting it, and a
refusing bench remains one. -/
theorem confined_inspect (path source : String) (anchor : Lexeme) :
    Act.Confined (Refusing R) ((Action.setPlot source).MayFail R)
      (inspect path anchor : Act Fault (Bench σ) Unit) := by
  refine Act.Keeps.confined (fun b hb => (state_inspect path anchor b).symm ▸ hb)
    fun b f hf => .inr ?_
  rw [inspect_eq] at hf
  split at hf
  · cases hf
    exact ⟨rfl, .inr ⟨source, rfl⟩⟩
  · rename_i hfile
    rw [Act.result_ofExcept] at hf
    have hfile : b.site.isFile path = true := by simpa using hfile
    have hd : ¬b.site.IsDrawing path := fun hd => by
      rw [hd.checkDrawing_eq] at hf
      cases hf
    rcases Site.checkDrawing_of_not hd hfile (some anchor) with ⟨-, g, hg⟩ | ⟨-, c, hc⟩
    · obtain rfl : Fault.failure g = f := Except.error.inj (hg.symm.trans hf)
      exact ⟨source, rfl⟩
    · obtain rfl : Fault.command c = f := Except.error.inj (hc.symm.trans hf)
      exact ⟨(Site.own_checkDrawing _ hf).2, .inr ⟨source, rfl⟩⟩

/-- **The faults that a command comes to.** -/
theorem confined_enact (p : Params) (anchor : Lexeme) (a : Action) :
    Act.Confined (Refusing R) (a.MayFail R) (enact p anchor a : Act Fault (Bench σ) Unit) := by
  have hask (c : Call) : Act.Confined (Refusing R) (a.MayFail R)
      (ask c : Act Fault (Bench σ) c.Answer) := confined_ask (fun r hr => .inl ⟨r, hr, rfl⟩) c
  cases a with
  | setMode m =>
    refine (Act.confined_modify (g := setMode m) fun _ hb => hb).bind fun _ => ?_
    cases m with
    | plot => exact Act.confined_tell _
    | interactive =>
      refine (hask .enterInteractive).bind fun _ => (hask .currentMode).bind fun entered => ?_
      split
      · exact Act.confined_throw (.inr (.inl rfl))
      · exact Act.confined_tell _
  | setOptions b settings =>
    exact (Act.Confined.forEach fun x : Setting × Value => hask (.set x.1 x.2)).bind fun _ =>
      hask .commitOptions
  | getPosition => exact (hask .getPosition).bind fun _ => Act.confined_tell _
  | getPen => exact (hask .getPenDown).bind fun _ => Act.confined_tell _
  | setPlot source =>
    refine (confined_obtain p source).bind fun path =>
      (confined_inspect path source anchor).bind fun _ => (hask (.setupPlot path)).bind fun _ => ?_
    exact Act.confined_modify fun _ hb => hb
  | plot =>
    refine Act.confined_get.bind fun b => ?_
    split
    · exact hask .runPlot
    · exact Act.confined_throw (.inr ⟨rfl, .inl rfl⟩)
  | _ => exact hask _

variable {p : Params} {last : Nat} {anchor : Lexeme} {b : Bench σ} {f : Fault}

/-- **What the plotter complains about is blamed on the last lexeme of the command.**  All other
faults stay as they are. -/
theorem execute_eq_error (hb : b.Refusing R)
    (h : (execute p last ⟨anchor, a⟩ b).result = .error f) :
    (∃ cause i, R (.complaint .device cause i) ∧
        f = .command ⟨cause, some anchor, some (last : Int)⟩) ∨
      (∃ r, R r ∧ (∀ cause i, r ≠ .complaint .device cause i) ∧ f = r.toFault) ∨ a.OwnFault f := by
  have hl : (execute p last ⟨anchor, a⟩ b).result =
      (enact p anchor a b).result.mapError (blame anchor last) := rfl
  rw [hl] at h
  rcases hr : (enact p anchor a b).result with g | u
  · rw [hr] at h
    obtain rfl : blame anchor last g = f := Except.error.inj h
    rcases (confined_enact p anchor a b hb).1 g hr with ⟨r, hR, rfl⟩ | hown
    · rcases r with ⟨grade, cause, i⟩ | text | f
      · cases grade with
        | device => exact .inl ⟨cause, i, hR, rfl⟩
        | general | command | fatal => exact .inr (.inl ⟨_, hR, fun _ _ h => (by cases h), rfl⟩)
      · exact .inr (.inl ⟨_, hR, fun _ _ h => (by cases h), rfl⟩)
      · exact .inr (.inl ⟨_, hR, fun _ _ h => (by cases h), rfl⟩)
    · refine .inr (.inr ?_)
      rcases g with ⟨grade, c⟩ | text | f
      · cases grade with
        | device => exact hown.elim
        | general | command | fatal => exact hown
      · exact hown
      · exact hown
  · rw [hr] at h
    cases h

/-- With a plotter that only complains, a command is complained about, unless the fault is fatal, or
the check of a drawing breaks down. -/
theorem execute_eq_error_of_complaining (hb : b.Complaining)
    (h : (execute p last ⟨anchor, a⟩ b).result = .error f) :
    (∃ c, f = .command c ∧ c.index = some (last : Int)) ∨ (∃ c, f = .fatal c) ∨
      (∃ c, f = .command c ∧ c.index = none ∧ (a = .plot ∨ ∃ path, a = .setPlot path)) ∨
      ∃ g path, f = .failure g ∧ a = .setPlot path := by
  rcases execute_eq_error hb h with ⟨cause, i, -, rfl⟩ | ⟨r, hR, hne, rfl⟩ | hown
  · exact .inl ⟨_, rfl, rfl⟩
  · rcases r with ⟨grade, cause, i⟩ | text | f
    · cases grade with
      | device => exact absurd rfl (hne cause i)
      | fatal => exact .inr (.inl ⟨_, rfl⟩)
      | general | command => exact hR.elim
    · exact hR.elim
    · exact hR.elim
  · rcases f with ⟨grade, c⟩ | text | f
    · cases grade with
      | device | general => exact hown.elim
      | command => exact .inr (.inr (.inl ⟨c, rfl, hown⟩))
      | fatal => exact .inr (.inl ⟨c, rfl⟩)
    · exact hown.elim
    · obtain ⟨path, rfl⟩ := hown
      exact .inr (.inr (.inr ⟨f, path, rfl, rfl⟩))

end Bench

namespace Executor

variable {σ : Type} {e : Executor σ} {word y : Lexeme} {rest : List Lexeme}

/-- On the line of a lexeme, the next one is passed over, too. -/
theorem nextLine_of_sameLine {s : Stream} {n : Nat} (hs : s.drop n = word :: y :: rest)
    (hy : y.place.sameLine word.place = true) : n + 2 ≤ nextLine s n := by
  rw [nextLine, hs]
  simp only [List.takeWhile_cons, hy, if_true, List.length_cons]
  omega

/-- What is on another line comes next. -/
theorem nextLine_of_not_sameLine {s : Stream} {n : Nat} (hs : s.drop n = word :: y :: rest)
    (hy : y.place.sameLine word.place = false) : nextLine s n = n + 1 := by
  rw [nextLine, hs]
  simp [hy]

variable [Device σ] {a : Action} {k : Nat} {f : Fault} {c : Complaint}

/-- A command that was read fails with a fault when it is carried out. -/
structure Fails (e : Executor σ) (word : Lexeme) (rest : List Lexeme) (a : Action) (k : Nat)
    (f : Fault) : Prop where
  skipping : e.skipping = none
  waiting : e.waiting = word :: rest
  read : (Reader.read e.mode e.mayGrow word rest).result = .ok (a, k)
  fault : (Bench.execute e.params (e.index + k - 1) ⟨word, a⟩ (e.begun a)).result = .error f

/-- The path of a drawing that is complained about is on another line than the word of the
command. -/
def PathApart (word : Lexeme) (rest : List Lexeme) (a : Action) (f : Fault) : Prop :=
  ∃ path c y r, a = .setPlot path ∧ f = .command c ∧ c.index = none ∧ rest = y :: r ∧
    y.place.sameLine word.place = false

/-- The bench after a command that failed. -/
def wrecked (e : Executor σ) (word : Lexeme) (a : Action) (k : Nat) : Bench σ :=
  (Bench.execute e.params (e.index + k - 1) ⟨word, a⟩ (e.begun a)).state

namespace Fails

/-- A command that fails with a complaint about itself is recovered from: the executor has passed
over what was read, on the bench that the failure left. -/
theorem carryOut_eq_recover (h : Fails e word rest a k (.command c)) : ∃ es,
    e.carryOut word a k =
      after es ((e.passed k (e.wrecked word a k)).recover e.index word c) := by
  have hx : (Bench.execute e.params (e.index + k - 1) ⟨word, a⟩
    (e.bench.note (.begun e.index a))).result = .error (.command c) := h.fault
  unfold carryOut
  simp only [hx]
  exact ⟨_, rfl⟩

/-- A command that fails in any other way ends the run there, and nothing is recovered from. -/
theorem carryOut_eq_error (h : Fails e word rest a k f) (hf : ∀ c, f ≠ .command c) : ∃ es,
    e.carryOut word a k = ⟨.error f, es, e.passed k (e.wrecked word a k)⟩ := by
  have hx : (Bench.execute e.params (e.index + k - 1) ⟨word, a⟩
    (e.bench.note (.begun e.index a))).result = .error f := h.fault
  unfold carryOut
  simp only [hx]
  exact ⟨_, rfl⟩

/-- A step at a command that fails is the carrying out of the action that was read, with the
warnings of reading in front. -/
theorem step_eq (h : Fails e word rest a k f) : ∃ es,
    e.step word rest = after es (e.carryOut word a k) := by
  rw [step, h.skipping]
  simp only [command, h.read]
  exact ⟨_, rfl⟩

/-- With a plotter that only complains, what is blamed is the word of the command or its last
lexeme. -/
theorem index_eq (h : Fails e word rest a k (.command c)) (hd : e.bench.Complaining) :
    c.index = none ∨ c.index = some ((e.index + k - 1 : Nat) : Int) := by
  rcases Bench.execute_eq_error_of_complaining (b := e.begun _) hd h.fault with
    ⟨c', hc, hi⟩ | ⟨c', hc⟩ | ⟨c', hc, hi, -⟩ | ⟨g, path, hc, -⟩
  · cases hc
    exact .inr hi
  · cases hc
  · cases hc
    exact .inl hi
  · cases hc

/-- So the lexeme that is blamed is found. -/
theorem astray_eq (h : Fails e word rest a k (.command c))
    (hi : c.index = none ∨ c.index = some ((e.index + k - 1 : Nat) : Int)) (b : Bench σ) :
    (e.passed k b).astray e.index word c = false := by
  obtain ⟨hpos, hle⟩ := Reader.taken_read h.read
  have hlen := length_waiting h.waiting
  have hlt := blamed_lt hpos hi
  exact astray_of_lt (show blamed e.index c < e.stream.size by omega) word

/-- A command that is complained about is reported, once, and a lenient run goes on. -/
theorem result_step (h : Fails e word rest a k (.command c)) (hs : e.strict = false)
    (hi : c.index = none ∨ c.index = some ((e.index + k - 1 : Nat) : Int)) :
    (e.step word rest).result = .ok (.reported [c]) := by
  obtain ⟨es, hstep⟩ := h.step_eq
  obtain ⟨fs, hcarry⟩ := h.carryOut_eq_recover
  rw [hstep, hcarry, recover_of_lenient (e := e.passed k _) hs (h.astray_eq hi _)]
  rfl

/-- What a failed command leaves for good is its report, on top of what the failure left. -/
theorem past_step (h : Fails e word rest a k (.command c)) :
    (e.step word rest).state.past = (e.wrecked word a k).past.report e.index c := by
  obtain ⟨es, hstep⟩ := h.step_eq
  obtain ⟨fs, hcarry⟩ := h.carryOut_eq_recover
  rw [hstep, hcarry]
  exact past_recover ..

end Fails

/-- Nothing is reported until the command has failed. -/
theorem reports_wrecked (e : Executor σ) (word : Lexeme) (a : Action) (k : Nat) :
    Deed.reports (e.wrecked word a k).deeds = Deed.reports e.bench.deeds := by
  obtain ⟨cs, -, hp⟩ := past_execute e word a k
  have hd : (e.wrecked word a k).deeds = (e.past.enact e.index a cs).deeds :=
    congrArg Past.deeds hp
  rw [hd, Past.reports_enact]
  rfl

namespace Fails

/-- **A command that is complained about is reported once.** -/
theorem reports_step (h : Fails e word rest a k (.command c)) :
    Deed.reports (e.step word rest).state.bench.deeds =
      Deed.reports e.bench.deeds ++ [e.index] := by
  have hd := congrArg Past.deeds h.past_step
  rw [show (e.step word rest).state.bench.deeds = _ from hd, Past.report, Deed.reports_append,
    show (e.wrecked word a k).past.deeds = (e.wrecked word a k).deeds from rfl, reports_wrecked]
  rfl

/-- The last lexeme of a block closes it. -/
theorem closing_of_block (h : Fails e word rest a k f) {b : Block}
    (hb : word.kind = .blockStart b) :
    e.stream.closing b (e.index + k - 1) = some (e.index + k - 1) := by
  obtain ⟨r, z, tail, settings, hl, rfl, hz, rfl⟩ := Reader.exists_blockEnd_of_read hb h.read
  have hdrop : e.stream.drop (e.index + r.length) = z :: tail := by
    refine (waiting_passed h.waiting r.length e.bench).trans ?_
    rw [hl, List.drop_left]
  rw [show e.index + (r.length + 1) - 1 = e.index + r.length by omega, Stream.closing, hdrop,
    List.findIdx?_cons, hz]
  simp

/-- Where a lenient executor goes on after a complaint about a block. -/
theorem step_of_block (h : Fails e word rest a k (.command c)) (hs : e.strict = false) {b : Block}
    (hb : word.kind = .blockStart b) : (e.step word rest).state =
      { (e.passed k (e.wrecked word a k)).note (.reported e.index c) with
        skipping := some b, index := blamed e.index c } := by
  obtain ⟨es, hstep⟩ := h.step_eq
  obtain ⟨fs, hcarry⟩ := h.carryOut_eq_recover
  rw [hstep, hcarry, recover_of_blockStart (e := e.passed k _) hs hb]
  rfl

/-- Where the last lexeme is blamed. -/
theorem blamed_eq (h : Fails e word rest a k f)
    (hc : c.index = some ((e.index + k - 1 : Nat) : Int)) :
    blamed e.index c = e.index + k - 1 := by
  have hk := (Reader.taken_read h.read).1
  rw [blamed, hc]
  simp only
  omega

/-- Behind a block that is complained about, its last lexeme comes next, and closes it. -/
theorem clears_of_block (h : Fails e word rest a k (.command c)) (hs : e.strict = false)
    {b : Block} (hb : word.kind = .blockStart b)
    (hc : c.index = some ((e.index + k - 1 : Nat) : Int)) :
    Clears (e.index + k) (e.step word rest).state := by
  have hk := (Reader.taken_read h.read).1
  rw [h.step_of_block hs hb]
  refine ⟨index_add_le h.waiting h.read, .inr ⟨b, e.index + k - 1, rfl, ?_, by omega⟩⟩
  show e.stream.closing b (blamed e.index c) = _
  rw [h.blamed_eq hc]
  exact h.closing_of_block hb

/-- The lexemes of a command for a drawing are its word and the path. -/
theorem length_of_setPlot {path : String} (h : Fails e word rest (.setPlot path) k f) :
    ∃ y r, rest = y :: r ∧ k = 2 ∧ y.kind = .string := by
  obtain ⟨ws, tail, hl, rfl, hws, -, -⟩ := Reader.begins_of_read h.read
  cases hws with
  | word hw =>
    unfold Action.ofWord? at hw
    split at hw <;> cases hw
  | @setPlot w x _ hx _ =>
    obtain ⟨rfl, rfl⟩ := List.cons.inj hl
    exact ⟨x, tail, rfl, rfl, hx⟩

/-- A plot is one word, so it is alone in what it takes. -/
theorem length_of_plot (h : Fails e word rest .plot k f) : k = 1 := by
  obtain ⟨ws, tail, hl, rfl, hws, -, -⟩ := Reader.begins_of_read h.read
  cases hws <;> rfl

/-- Where a lenient executor goes on after a complaint about a command that is no block. -/
theorem step_of_noBlock (h : Fails e word rest a k (.command c)) (hs : e.strict = false)
    (hi : c.index = none ∨ c.index = some ((e.index + k - 1 : Nat) : Int))
    (hb : ∀ b, word.kind ≠ .blockStart b) : (e.step word rest).state =
      { (e.passed k (e.wrecked word a k)).note (.reported e.index c) with
        index := nextLine e.stream (blamed e.index c) } := by
  obtain ⟨es, hstep⟩ := h.step_eq
  obtain ⟨fs, hcarry⟩ := h.carryOut_eq_recover
  rw [hstep, hcarry, recover_of_lenient (e := e.passed k _) hs (h.astray_eq hi _)]
  exact resume_of_noBlock hb e.index c

/-- A command whose last lexeme is blamed is left behind. -/
theorem clears_of_last (h : Fails e word rest a k (.command c)) (hs : e.strict = false)
    (hc : c.index = some ((e.index + k - 1 : Nat) : Int)) :
    Clears (e.index + k) (e.step word rest).state := by
  by_cases hb : ∃ b, word.kind = .blockStart b
  · obtain ⟨b, hb⟩ := hb
    exact h.clears_of_block hs hb hc
  · rw [h.step_of_noBlock hs (.inr hc) fun b hw => hb ⟨b, hw⟩]
    refine ⟨index_add_le h.waiting h.read, .inl ?_⟩
    show e.index + k ≤ nextLine e.stream (blamed e.index c)
    have hnext := lt_nextLine e.stream (blamed e.index c)
    rw [h.blamed_eq hc] at hnext ⊢
    omega

/-- **A command that fails is left behind**, unless the path of a drawing is on another line. -/
theorem clears (h : Fails e word rest a k f) (hs : e.strict = false) (hd : e.bench.Complaining)
    (hp : ¬PathApart word rest a f) : Clears (e.index + k) (e.step word rest).state := by
  have hle := index_add_le h.waiting h.read
  by_cases hf : ∃ c, f = .command c
  · obtain ⟨c, rfl⟩ := hf
    rcases Bench.execute_eq_error_of_complaining (b := e.begun _) hd h.fault with
      ⟨c', hc, hi⟩ | ⟨c', hc⟩ | ⟨c', hc, hi, ha⟩ | ⟨g, path, hc, -⟩
    · cases hc
      exact h.clears_of_last hs hi
    · cases hc
    · cases hc
      have hb : ∀ b, word.kind ≠ .blockStart b := fun b hw => by
        obtain ⟨-, -, -, settings, -, -, -, rfl⟩ := Reader.exists_blockEnd_of_read hw h.read
        rcases ha with ha | ⟨path, ha⟩ <;> cases ha
      rw [h.step_of_noBlock hs (.inl hi) hb]
      refine ⟨hle, .inl ?_⟩
      show e.index + k ≤ nextLine e.stream (blamed e.index c)
      rcases ha with rfl | ⟨path, rfl⟩
      · obtain rfl := h.length_of_plot
        exact (le_blamed e.index c).trans_lt (lt_nextLine e.stream (blamed e.index c))
      · -- the word is blamed, and the path is on its line
        obtain ⟨y, r, rfl, rfl, -⟩ := h.length_of_setPlot
        rw [show blamed e.index c = e.index by rw [blamed, hi]]
        refine nextLine_of_sameLine h.waiting (Bool.not_eq_false _ ▸ fun hy => hp ?_)
        exact ⟨path, c, y, r, rfl, rfl, hi, rfl, hy⟩
    · cases hc
  · obtain ⟨es, hstep⟩ := h.step_eq
    obtain ⟨fs, hcarry⟩ := h.carryOut_eq_error fun c hc => hf ⟨c, hc⟩
    rw [hstep, hcarry]
    exact ⟨hle, .inl le_rfl⟩

/-- **A path on another line is read as a command.** -/
theorem waiting_of_pathApart (h : Fails e word rest a k f) (hs : e.strict = false)
    (hp : PathApart word rest a f) : ∃ y r, k = 2 ∧ y.kind = .string ∧
      (e.step word rest).state.skipping = none ∧ (e.step word rest).state.index = e.index + 1 ∧
      (e.step word rest).state.waiting = y :: r ∧
      (e.step word rest).state.strict = false := by
  obtain ⟨path, c, y, r, rfl, rfl, hi, rfl, hy⟩ := hp
  obtain ⟨y', r', hyr, rfl, hkind⟩ := h.length_of_setPlot
  obtain ⟨rfl, rfl⟩ := List.cons.inj hyr
  have hb (b : Block) : word.kind ≠ .blockStart b := fun hw => by
    obtain ⟨-, -, -, settings, -, -, -, ha⟩ := Reader.exists_blockEnd_of_read hw h.read
    cases ha
  have hindex : nextLine e.stream (blamed e.index c) = e.index + 1 := by
    rw [show blamed e.index c = e.index by rw [blamed, hi]]
    exact nextLine_of_not_sameLine h.waiting hy
  rw [h.step_of_noBlock hs (.inl hi) hb]
  refine ⟨y, r, rfl, hkind, h.skipping, hindex, ?_, hs⟩
  show e.stream.drop (nextLine e.stream (blamed e.index c)) = y :: r
  rw [hindex]
  exact waiting_passed h.waiting 1 e.bench

end Fails

/-- A text is no command, in any mode. -/
theorem read_of_string {mode : Option Mode} {more : Bool} (hy : y.kind = .string) :
    (Reader.read mode more y rest).result = .error (.wrong (.unexpectedToken y.text) y 0) := by
  simp only [Reader.read, hy, Reader.readSimple, Action.ofWord?]
  rfl

/-- **A text that is read as a command is complained about**, and then it is behind. -/
theorem step_of_string (hs : e.strict = false) (hk : e.skipping = none) (hw : e.waiting = y :: rest)
    (hy : y.kind = .string) :
    (e.step y rest).result =
        .ok (.reported [⟨.unexpectedToken y.text, some y, some (e.index : Int)⟩]) ∧
      Clears (e.index + 1) (e.step y rest).state := by
  have hb (b : Block) : y.kind ≠ .blockStart b := by
    rw [hy]
    rintro ⟨⟩
  have hstep : ∃ es, e.step y rest =
      after es (e.recover e.index y (e.fault (.unexpectedToken y.text) y 0)) := by
    rw [step, hk]
    simp only [command, read_of_string hy]
    exact ⟨_, rfl⟩
  obtain ⟨es, hstep⟩ := hstep
  have hlt : blamed e.index (e.fault (.unexpectedToken y.text) y 0) < e.stream.size := by
    rw [fault, blamed_add]
    exact index_lt_of_waiting hw
  rw [hstep, recover_of_noBlock hs hb (astray_of_lt hlt y)]
  refine ⟨?_, (index_lt_of_waiting hw : e.index < e.stream.size), .inl ?_⟩
  · show Except.ok (Step.reported [e.fault (.unexpectedToken y.text) y 0]) = _
    simp [fault]
  · exact lt_nextLine e.stream (e.index + 0)

/-- **Reading does not go back into a command that fails**, but for one case.  A lenient executor is
used in any way, with any plotter that refuses with complaints only, its own or fatal.  On any round
of a run it has come to a command that is read and then fails when it is carried out, with any
arguments on any lines.

- There is one complaint about the command, unless the fault is fatal or the check of a drawing
  breaks down: then the run ends with the fault, and nothing is reported.
- Later, whatever the executor is used for, no command is read that begins at a lexeme of the one
  that failed, and nothing more is noted about these lexemes.
- The exception is a drawing that is complained about, with its path on another line than the word
  `SETPLOT`.  Then the path is read as a command, with a second complaint, and only then are the
  lexemes of the command left behind. -/
theorem failed_command (p : Params) {device : σ} (site : Site) (uses : List Use)
    {u : Executor σ} (hd : Device.Refuses Refusal.IsComplaint device)
    (hu : ComesTo (start false p device site) uses u) (h : u.Fails word rest a k f) :
    let t := (u.step word rest).state
    ((∀ c, f = .command c → (u.step word rest).result = .ok (.reported [c]) ∧
        Deed.reports t.bench.deeds = Deed.reports u.bench.deeds ++ [u.index]) ∧
      ((∀ c, f ≠ .command c) → (u.step word rest).result = .error f ∧
        Deed.reports t.bench.deeds = Deed.reports u.bench.deeds ∧
        ((∃ c, f = .fatal c) ∨ ∃ g path, f = .failure g ∧ a = .setPlot path))) ∧
    (¬PathApart word rest a f → ∀ later v, Later u later v →
      (v.skipping = none → u.index + k ≤ v.index) ∧
        Deed.Beyond (u.index + k) t.bench.deeds v.bench.deeds) ∧
    (PathApart word rest a f → k = 2 ∧ ∃ y r, t.skipping = none ∧ t.index = u.index + 1 ∧
      t.waiting = y :: r ∧ (t.step y r).result =
        .ok (.reported [⟨.unexpectedToken y.text, some y, some ((u.index + 1 : Nat) : Int)⟩]) ∧
      ∀ later v, Later t later v → (v.skipping = none → u.index + 2 ≤ v.index) ∧
        Deed.Beyond (u.index + 2) (t.step y r).state.bench.deeds v.bench.deeds) := by
  intro t
  have hs : u.strict = false := hu.strict_eq
  have hb : u.bench.Complaining := Device.Refuses.of_leads (p := Past.start device) hd hu.leads
  refine ⟨⟨?_, fun hf => ?_⟩, fun hp later v hv => ?_, fun hp => ?_⟩
  · rintro c rfl
    exact ⟨h.result_step hs (h.index_eq hb), h.reports_step⟩
  · obtain ⟨es, hstep⟩ := h.step_eq
    obtain ⟨fs, hcarry⟩ := h.carryOut_eq_error hf
    have ht : t = u.passed k (u.wrecked word a k) := by
      show (u.step word rest).state = _
      rw [hstep, hcarry]
      rfl
    refine ⟨by rw [hstep, hcarry]; rfl, ht ▸ reports_wrecked u word a k, ?_⟩
    rcases Bench.execute_eq_error_of_complaining (b := u.begun a) hb h.fault with
      ⟨c, hc, -⟩ | hc | ⟨c, hc, -⟩ | hg
    · exact absurd hc (hf c)
    · exact .inl hc
    · exact absurd hc (hf c)
    · exact .inr hg
  · have hleaves : Leaves (u.index + k) t.past.deeds v :=
      (kept_leaves (u.index + k) t.past.deeds).later (fun _ _ => trivial) h.waiting
        ⟨h.clears hs hb hp, .refl ..⟩ hv
    exact ⟨hleaves.clears.le_index, hleaves.beyond⟩
  · obtain ⟨y, r, rfl, hy, hk, hi, hw, ht⟩ := h.waiting_of_pathApart hs hp
    obtain ⟨hresult, hclears⟩ := step_of_string ht hk hw hy
    rw [hi] at hresult hclears
    refine ⟨rfl, y, r, hk, hi, hw, hresult, fun later v hv => ?_⟩
    have hleaves : Leaves (u.index + 2) (t.step y r).state.past.deeds v :=
      (kept_leaves (u.index + 2) (t.step y r).state.past.deeds).later (fun _ _ => trivial) hw
        ⟨hclears, .refl ..⟩ hv
    exact ⟨hleaves.clears.le_index, hleaves.beyond⟩

/-- A plotter at which nothing can be set. -/
def rigid : Recorder :=
  { Recorder.obliging with refusal := fun _ c =>
      match c with
      | .set _ _ => some (.complaint .device (.said "Locked") none)
      | _ => none }

/-- A block over four lines. -/
def accelerating : List Lexeme :=
  [.alone (.blockStart .options) "OPTS", .alone (.setting .acceleration) "ACCEL",
    .alone .number "10", .alone (.blockEnd .options) "END_OPTS"]

/-- A lenient executor in plot mode that comes to the block. -/
def accelerated : Executor Recorder :=
  ((start false .standard rigid .bare).live
    [.parse [.alone .mode "MODE", .alone (.modeName .plot) "P"]]).fed accelerating

/-- There is one complaint, and what is read later is behind the block. -/
theorem failed_command_rigid :
    (∃ c, accelerated.Fails (.alone (.blockStart .options) "OPTS") accelerating.tail
      (.setOptions .options [(.acceleration, .num (.int 10))]) 4 (.command c)) ∧
      Deed.reports accelerated.run.state.bench.deeds = [2] ∧
      ∀ later v, Later accelerated later v → v.skipping = none → 6 ≤ v.index := by
  have hd : Device.Refuses Refusal.IsComplaint rigid :=
    Recorder.refuses_of_refusal fun _ c f h => by
      cases c <;> cases h
      trivial
  have h : accelerated.Fails (.alone (.blockStart .options) "OPTS") accelerating.tail
      (.setOptions .options [(.acceleration, .num (.int 10))]) 4
      (.command ⟨.said "Locked", some (.alone (.blockStart .options) "OPTS"), some 5⟩) :=
    ⟨by decide +kernel, by decide +kernel, by decide +kernel, by decide +kernel⟩
  obtain ⟨-, hleft, -⟩ := failed_command .standard .bare
    [.parse [.alone .mode "MODE", .alone (.modeName .plot) "P"], .parse accelerating] hd
    ⟨[_], _, [], 0, rfl, by decide +kernel, .none accelerated⟩ h
  have hindex : accelerated.index = 2 := by decide +kernel
  refine ⟨⟨_, h⟩, by decide +kernel, fun later v hv hk => ?_⟩
  have hle := (hleft (fun ⟨_, _, _, _, ha, _⟩ => by cases ha) later v hv).1 hk
  omega

/-- A path on the line after its word, of a drawing that is not there, is complained about
twice. -/
theorem failed_command_pathApart :
    Deed.reports ((start false .standard Recorder.obliging .bare).parse
      (Lexer.reading ["MODE P", "SETPLOT", "\"missing.svg\""] none).tokens.1).state.bench.deeds =
        [2, 3] := by
  decide +kernel

end Executor
end PlotScript
