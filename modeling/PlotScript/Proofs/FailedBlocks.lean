/-
# Blocks that fail

An option block fails if a fault is found in it, or if it is read and then the plotter refuses what
is set.  A lenient executor reports one complaint about it and passes over all that comes up to the
first closing word of the block, wherever the fault was found and whenever that word comes; the next
command begins right behind it (`Executor.failed_block`).

Only a value with too many digits is different: it is not complained about, but ends the run, and
the block is left where it is, to be read again by the next run.

The language specification, §13, has an error inside of a block pass over all up to its terminator.
-/

import PlotScript.Proofs.FailedCommands
import PlotScript.Proofs.Pending
import PlotScript.Proofs.Rereading
import PlotScript.Proofs.Steadiness

namespace PlotScript

open Grammar

namespace Executor

variable {σ : Type} {e t : Executor σ} {word : Lexeme} {rest : List Lexeme} {b : Block}
  {n : Nat} {c : Complaint} {ds : List Deed}

/-- The closing word that is waited for is the first one behind the complaint: none was passed over
so far. -/
theorem Heedful.closing_eq (h : Heedful e) (hb : e.skipping = some b) (hn : n ≤ e.index)
    (hd : e.bench.deeds.getLast? = some (.reported n c)) (hm : ¬Deed.Misleads e.bench.deeds) :
    e.stream.closing b n = e.stream.closing b e.index := by
  have hm : ¬e.Misled := fun h => hm h.2
  obtain ⟨n', ha⟩ := (h.abandons b hb).resolve_left hm
  obtain ⟨c', hc⟩ := ha.reported
  obtain ⟨rfl, -⟩ := Deed.reported.inj (Option.some.inj (hd.symm.trans hc))
  exact Stream.closing_eq hn (h.within.resolve_right hm) ha.unclosed

/-- Where no lexeme closes a block, all is passed over. -/
theorem skip_of_closing_eq_none (h : e.stream.closing b e.index = none) : e.skip b =
    { e with
      index := e.stream.size
      skipping := if e.stream.ended then none else some b } := by
  have h : (e.waiting.findIdx? fun x => x.kind = .blockEnd b) = none :=
    Option.map_eq_none_iff.1 h
  simp only [skip, h]

/-- Nothing is added to a stream that has ended. -/
theorem fed_of_ended (h : e.stream.ended = true) (l : List Lexeme) : e.fed l = e := by
  rw [fed, Stream.state_extend_of_ended h]

variable [Device σ]

/-- What became of a block that opens at lexeme `n`, when the notes were made that are given: it is
passed over still; or its closing word did not come and cannot come any more; or it is behind. -/
inductive Passage (b : Block) (n : Nat) (ds : List Deed) (e : Executor σ) : Prop
  | passing : n ≤ e.index → e.skipping = some b → e.bench.deeds = ds → Passage b n ds e
  | ended : e.stream.closing b n = none → e.stream.ended = true → e.index = e.stream.size →
      e.bench.deeds = ds → Passage b n ds e
  | behind {j : Nat} : e.stream.closing b n = some j → j < e.index → Leaves (j + 1) ds e →
      Passage b n ds e

/-- One step on the passage through a block leaves it on the passage, or ends it behind the closing
word. -/
theorem Passage.step (h : Passage b n ds e) (hh : Heedful e)
    (hd : ds.getLast? = some (.reported n c)) (hm : ¬Deed.Misleads ds)
    (hw : e.waiting = word :: rest) : Passage b n ds (e.step word rest).state := by
  have hlt := index_lt_of_waiting hw
  cases h with
  | passing hn hb hds =>
    have hclosing := hh.closing_eq hb hn (hds.symm ▸ hd) (hds.symm ▸ hm)
    rw [Executor.step, hb]
    show Passage b n ds (e.skip b)
    rcases hj : e.stream.closing b e.index with _ | j
    · rw [skip_of_closing_eq_none hj]
      by_cases he : e.stream.ended = true
      · exact .ended (hclosing.trans hj) he rfl hds
      · exact .passing (hn.trans hlt.le) (if_neg he) hds
    · rw [skip_of_closing hj]
      have hsize := (Stream.lt_size_of_closing hj).2
      exact .behind (hclosing.trans hj) j.lt_succ_self ⟨⟨hsize, .inl le_rfl⟩, hds ▸ .refl ..⟩
  | ended _ _ hi => exact absurd hi hlt.ne
  | behind hj hi hl =>
    refine .behind ?_ (hi.trans_le (onward_step hw).2) (hl.step hw)
    rw [(frame_step e word rest).stream]
    exact hj

/-- **A block that failed is passed over**, whatever an executor is used for, as long as the lexemes
that wait are not discarded.  A passage has three stages, and each use leads on or stays: the
closing word has not come, the stream ended without it, or the executor is behind it. -/
theorem kept_passage (b : Block) {ds : List Deed} (hd : ds.getLast? = some (.reported n c))
    (hm : ¬Deed.Misleads ds) :
    Kept (· ≠ .discard) fun e : Executor σ => Heedful e ∧ Passage b n ds e where
  step hw h := ⟨heedful_step h.1 hw, h.2.step h.1 hd hm hw⟩
  fed {e} l h := by
    have hp := Stream.entries_isPrefix_extend e.stream l
    refine ⟨h.1.extend (d := e.bench) hp rfl, ?_⟩
    cases h.2 with
    | passing hn hb hds => exact .passing hn hb hds
    | ended hj he hi hds =>
      rw [fed_of_ended he]
      exact .ended hj he hi hds
    | behind hj hi hl =>
      exact .behind (Stream.closing_of_isPrefix hp hj) hi ((kept_leaves _ ds).fed l hl)
  aside {e u} hu ha h := by
    -- Neither closing nor a change of the site notes anything.
    have hd : (e.use u).bench.deeds = e.bench.deeds := by
      cases u with
      | parse => cases ha
      | discard | meanwhile => rfl
      | close => exact congrArg Past.deeds (past_close e)
    refine ⟨h.1.use u, ?_⟩
    have hleaves {m : Nat} : Leaves m ds e → Leaves m ds (e.use u) :=
      (kept_leaves m ds).aside trivial ha
    cases u with
    | parse => cases ha
    | discard => exact absurd rfl hu
    | close | meanwhile =>
      cases h.2 with
      | passing hn hb hds => exact .passing hn hb (hd.trans hds)
      | ended hj he hi hds => exact .ended hj he hi (hd.trans hds)
      | behind hj hi hl => exact .behind hj hi (hleaves hl)

/-- A block that opens at lexeme `n` is passed over up to its closing word, from when the notes were
made that are given. -/
structure PassesOver (b : Block) (n : Nat) (ds : List Deed) (e : Executor σ) : Prop where
  /-- As long as no closing word has come, nothing is done, and a run does nothing. -/
  unclosed : e.stream.closing b n = none → e.bench.deeds = ds ∧
    (e.skipping = some b ∨ e.stream.ended = true ∧ e.index = e.stream.size) ∧
    ∃ t, e.run = ⟨.ok [], [], t⟩
  /-- Up to the closing word nothing is done, and a run is one from the lexeme behind it. -/
  within : ∀ j, e.stream.closing b n = some j → e.index ≤ j → e.bench.deeds = ds ∧
    e.skipping = some b ∧ e.run = ({ e with index := j + 1, skipping := none } : Executor σ).run
  /-- Behind the closing word, all that was done since is behind it, too. -/
  behind : ∀ j, e.stream.closing b n = some j → j < e.index →
    Deed.Beyond (j + 1) ds e.bench.deeds

/-- While a block is passed over, a run is one from where the block is not passed over any more. -/
theorem run_of_skip (hb : e.skipping = some b) (hw : e.waiting = word :: rest) :
    e.run = (e.skip b).run := by
  have hs : e.step word rest = ⟨.ok (.reported []), [], e.skip b⟩ := by
    rw [Executor.step, hb]
  rw [run_of_cons hw, hs]
  simp only
  generalize (e.skip b).run = o
  obtain ⟨r, es, t⟩ := o
  cases r <;> rfl

/-- Where the closing word has not come, a run passes over all that waits and reports nothing. -/
theorem run_of_closing_eq_none (hb : e.skipping = some b)
    (h : e.stream.closing b e.index = none) : ∃ t, e.run = ⟨.ok [], [], t⟩ := by
  rcases hw : e.waiting with _ | ⟨word, rest⟩
  · exact ⟨e, run_of_nil hw⟩
  · rw [run_of_skip hb hw, skip_of_closing_eq_none h]
    exact ⟨_, run_of_nil (List.drop_eq_nil_iff.2 le_rfl)⟩

/-- On a passage, what is passed over is the block that the last report was about, up to its closing
word. -/
theorem Passage.passesOver (h : Passage b n ds e) (hh : Heedful e)
    (hd : ds.getLast? = some (.reported n c)) (hm : ¬Deed.Misleads ds) : PassesOver b n ds e := by
  cases h with
  | passing hn hb hds =>
    have hclosing := hh.closing_eq hb hn (hds.symm ▸ hd) (hds.symm ▸ hm)
    refine ⟨fun hj => ⟨hds, .inl hb, run_of_closing_eq_none hb (hclosing ▸ hj)⟩,
      fun j hj _ => ⟨hds, hb, ?_⟩, fun j hj hlt => ?_⟩
    · rw [hclosing] at hj
      obtain ⟨hle, hlt⟩ := Stream.lt_size_of_closing hj
      obtain ⟨word, rest, hw⟩ : ∃ word rest, e.waiting = word :: rest :=
        List.exists_cons_of_ne_nil fun hw => absurd (List.drop_eq_nil_iff.1 hw)
          (Nat.not_le.2 (hle.trans_lt hlt))
      rw [run_of_skip hb hw, skip_of_closing hj]
    · rw [hclosing] at hj
      exact absurd (Stream.lt_size_of_closing hj).1 (Nat.not_le.2 hlt)
  | ended hj he hi hds =>
    refine ⟨fun _ => ⟨hds, .inr ⟨he, hi⟩, e, run_of_nil (List.drop_eq_nil_iff.2 hi.ge)⟩,
      fun j hj' => ?_, fun j hj' => ?_⟩ <;>
    · rw [hj] at hj'
      cases hj'
  | @behind i hj hi hl =>
    refine ⟨fun hj' => ?_, fun j hj' hle => ?_, fun j hj' _ => ?_⟩
    · rw [hj] at hj'
      cases hj'
    · obtain rfl := Option.some.inj (hj.symm.trans hj')
      exact absurd hi (Nat.not_lt.2 hle)
    · obtain rfl := Option.some.inj (hj.symm.trans hj')
      exact hl.beyond

/-- A block that does not wait for its rest is not carried out. -/
structure BlockFails (e : Executor σ) (word : Lexeme) (rest : List Lexeme) (b : Block) :
    Prop where
  skipping : e.skipping = none
  waiting : e.waiting = word :: rest
  opens : word.kind = .blockStart b
  ripe : (Reader.read e.mode e.mayGrow word rest).result ≠ .error .waiting
  undone : ∀ a k, (Reader.read e.mode e.mayGrow word rest).result = .ok (a, k) →
    (Bench.execute e.params (e.index + k - 1) ⟨word, a⟩ (e.begun a)).result ≠ .ok ()

namespace BlockFails

/-- A value of too many digits ends the run, and the block is left where it is. -/
theorem step_of_overlong (h : BlockFails e word rest b) (hn : Reader.Numbers rest)
    (ho : Overlong e.mode (word :: rest)) : ∃ m es,
    e.step word rest = ⟨.error (.failure (.tooManyDigits m)), es, e⟩ := by
  obtain ⟨f, hf⟩ : ∃ f, (Reader.read e.mode e.mayGrow word rest).result = .error (.failed f) :=
    (Reader.failed_iff hn).2 ho
  obtain ⟨y, -, -, -, rfl⟩ := Reader.exists_overlong_of_failed hn hf
  rw [step, h.skipping]
  simp only [command, hf]
  exact ⟨_, _, rfl⟩

/-- **How a block fails**: it is complained about, whether it was read or not, or the plotter
refuses it with something else than a complaint of its own. -/
theorem step_eq (h : BlockFails e word rest b) (hn : Reader.Numbers rest)
    (ho : ¬Overlong e.mode (word :: rest)) {R : Refusal → Prop}
    (hd : Device.Refuses R e.bench.device) :
    (∃ r, R r ∧ (∀ cause i, r ≠ .complaint .device cause i) ∧
      (e.step word rest).result = .error r.toFault) ∨
    ∃ es c, ∃ q : Executor σ, e.step word rest = after es (q.recover e.index word c) ∧
      q.strict = e.strict ∧ Deed.reports q.bench.deeds = Deed.reports e.bench.deeds := by
  -- The block is malformed, or overlong, or awaited, or carried out and refused.
  rcases hr : (Reader.read e.mode e.mayGrow word rest).result with (⟨cause, x, offset⟩ | f | _) |
    ⟨a, k⟩
  · refine .inr ⟨(Reader.read e.mode e.mayGrow word rest).warnings.map Event.warn,
      ⟨cause, some x, some (e.index + offset)⟩, e, ?_, rfl, rfl⟩
    rw [step, h.skipping]
    simp only [command, hr]
  · exact absurd ((Reader.failed_iff hn).1 ⟨f, hr⟩) ho
  · exact absurd hr h.ripe
  · rcases hx : (Bench.execute e.params (e.index + k - 1) ⟨word, a⟩ (e.begun a)).result with f | u
    · have hf : Fails e word rest a k f := ⟨h.skipping, h.waiting, hr, hx⟩
      obtain ⟨es, hstep⟩ := hf.step_eq
      by_cases hc : ∃ c, f = .command c
      · obtain ⟨c, rfl⟩ := hc
        obtain ⟨fs, hcarry⟩ := hf.carryOut_eq_recover
        exact .inr ⟨es ++ fs, c, e.passed k (e.wrecked word a k),
          by rw [hstep, hcarry, after, after, after, List.append_assoc], rfl,
          reports_wrecked e word a k⟩
      · obtain ⟨-, -, -, settings, -, -, -, rfl⟩ := Reader.exists_blockEnd_of_read h.opens hr
        rcases Bench.execute_eq_error (b := e.begun _) hd hx with
          ⟨_, _, _, heq⟩ | ⟨r, hR, hne, rfl⟩ | hown
        · exact absurd ⟨_, heq⟩ hc
        · obtain ⟨fs, hcarry⟩ := hf.carryOut_eq_error fun c hrc => hc ⟨c, hrc⟩
          exact .inl ⟨r, hR, hne, by rw [hstep, hcarry]; rfl⟩
        · exact absurd hown Action.not_ownFault_setOptions
    · exact absurd hx (h.undone a k hr)

end BlockFails

/-- All uses of an executor keep it heedful. -/
theorem kept_heedful : Kept (fun _ => True) (Heedful (σ := σ)) where
  step hw h := heedful_step h hw
  fed {e} l h := h.extend (d := e.bench) (Stream.entries_isPrefix_extend e.stream l) rfl
  aside _ _ h := h.use _

/-- All uses of an executor keep its steps paced. -/
theorem kept_paced : Kept (fun _ => True) (Paced (σ := σ)) where
  step hw h := h.step hw
  fed {e} l h := h.extend (b := e.bench) (Stream.entries_isPrefix_extend e.stream l) rfl
  aside _ _ h := h.use _

/-- **A block that fails is complained about once, and passed over up to its closing word.**  A
lenient executor is used in any way with lexemes whose numbers have digits only, as those of the
lexer, with any plotter, and on any round of a run it has come to a block that fails.

- If a value of it has too many digits, the run ends, nothing is reported, and the block is left
  where it is.
- Otherwise the run ends if the plotter refuses it with something else than a complaint of its own;
  and if that is about a lexeme that the plotter named, the block is passed over from there on.
- Otherwise there is one complaint, the first note about the block.  Whatever the executor is used
  for then, but for discarding what waits, the block is passed over up to the first closing word of
  its kind, whatever stands before it and whenever it comes; and the next command is at the lexeme
  right behind it. -/
theorem failed_block (p : Params) {device : σ} (site : Site) (uses : List Use) {u : Executor σ}
    (hl : ∀ l, .parse l ∈ uses → Reader.Numbers l)
    (hu : ComesTo (start false p device site) uses u) (h : u.BlockFails word rest b) :
    let o := u.step word rest
    (Overlong u.mode (word :: rest) →
      ∃ m es, o = ⟨.error (.failure (.tooManyDigits m)), es, u⟩) ∧
    (¬Overlong u.mode (word :: rest) →
      (∃ r, Device.Gives device r ∧ (∀ cause i, r ≠ .complaint .device cause i) ∧
        o.result = .error r.toFault) ∨
      o.state.Misled ∨
      (∃ c, o.result = .ok (.reported [c])) ∧
        (∀ d ∈ u.bench.deeds, ∀ k, d.number? = some k → k < u.index) ∧
        Deed.reports o.state.bench.deeds = Deed.reports u.bench.deeds ++ [u.index] ∧
        ∀ later, (∀ v ∈ later, v ≠ .discard) → ∀ v, Later u later v →
          PassesOver b u.index o.state.bench.deeds v) := by
  intro o
  have hn : Reader.Numbers rest := fun x hx => by
    obtain ⟨l, hl', hx⟩ := exists_parse_of_waiting hu (h.waiting ▸ List.mem_cons_of_mem word hx)
    exact hl l hl' x hx
  refine ⟨h.step_of_overlong hn, fun ho => ?_⟩
  refine (h.step_eq hn ho (Device.Refuses.of_leads (p := Past.start device)
    (Device.refuses_gives device) hu.leads)).imp_right ?_
  rintro ⟨es, c, q, hstep, hq, hreports⟩
  have hs : u.strict = false := hu.strict_eq
  have hheed : Heedful u :=
    kept_heedful.comesTo (fun _ _ => trivial) hu (heedful_start p device site)
  have hpaced : Paced u := kept_paced.comesTo (fun _ _ => trivial) hu (paced_start ..)
  rw [recover_of_blockStart (hq.trans hs) h.opens] at hstep
  -- The report is the only note that the failing step leaves about the block.
  have hdeeds : o.state.bench.deeds = q.bench.deeds ++ [.reported u.index c] :=
    congrArg (fun t => t.state.bench.deeds) hstep
  have hlast : o.state.bench.deeds.getLast? = some (.reported u.index c) := by
    rw [hdeeds, List.getLast?_concat]
  have hskipping : o.state.skipping = some b := congrArg (fun t => t.state.skipping) hstep
  refine or_iff_not_imp_left.2 fun hm => ?_
  have hm : ¬Deed.Misleads o.state.bench.deeds := fun h => hm ⟨by rw [hskipping]; rfl, h⟩
  refine ⟨⟨c, congrArg Outcome.result hstep⟩,
    fun d hd k hk => lt_index_of_number hpaced hs h.skipping hd hk, ?_, fun later hlater v hv => ?_⟩
  · rw [hdeeds, Deed.reports_append, hreports]
    rfl
  · -- The passage begins at the lexeme that is blamed, which is one of the block.
    have hpassage : Passage b u.index o.state.bench.deeds o.state := by
      refine .passing ?_ hskipping rfl
      exact (le_blamed u.index c).trans_eq (congrArg (fun t => t.state.index) hstep).symm
    obtain ⟨hheed, hpass⟩ := (kept_passage b hlast hm).later hlater h.waiting
      ⟨heedful_step hheed h.waiting, hpassage⟩ hv
    exact hpass.passesOver hheed hlast hm

/-- A block with a word that is no setting, as a lenient executor comes to it. -/
def misset : Executor Recorder :=
  plotting.fed [.alone (.blockStart .options) "OPTS", .alone .unknown "FOO"]

/-- The block is complained about, and passed over with the words of the next line up to its closing
word; the next complaint is about the command behind that. -/
theorem failed_block_misset :
    let t := misset.run.state.fed
      [.alone .mode "MODE", .alone (.blockEnd .options) "END_OPTS", .alone .plot "PLOT"]
    misset.BlockFails (.alone (.blockStart .options) "OPTS") [.alone .unknown "FOO"] .options ∧
      Deed.reports misset.run.state.bench.deeds = [2] ∧
      t.run = ({ t with index := 6, skipping := none } : Executor Recorder).run ∧
      Deed.reports t.run.state.bench.deeds = [2, 6] := by
  intro t
  have hr : (Reader.read misset.mode misset.mayGrow (.alone (.blockStart .options) "OPTS")
      [.alone .unknown "FOO"]).result =
      .error (.wrong (.settingInvalid .options false) (.alone .unknown "FOO") 1) := by
    decide +kernel
  have hf : misset.BlockFails (.alone (.blockStart .options) "OPTS") [.alone .unknown "FOO"]
      .options := by
    refine ⟨by decide +kernel, by decide +kernel, rfl, ?_, fun a k ha => ?_⟩
    · rw [hr]
      rintro ⟨⟩
    · rw [hr] at ha
      cases ha
  -- A value would need a third lexeme.
  have hshort : ¬Overlong misset.mode
      [.alone (.blockStart .options) "OPTS", .alone .unknown "FOO"] := by
    rintro ⟨b, front, x, s, y, tail, hl, ⟨w, r, settings, rfl, -⟩, -⟩
    have hlen := congrArg List.length hl
    simp only [List.length_append, List.length_cons, List.length_nil] at hlen
    omega
  have hl : ∀ l, Use.parse l ∈ [Use.parse [.alone .mode "MODE", .alone (.modeName .plot) "P"],
      .parse [.alone (.blockStart .options) "OPTS", .alone .unknown "FOO"]] → Reader.Numbers l := by
    intro l hl
    rcases List.mem_pair.1 hl with hl | hl <;> cases hl <;> decide
  obtain ⟨-, hall⟩ := failed_block .standard .bare _ hl
    ⟨[_], _, [], 0, rfl, by decide +kernel, .none misset⟩ hf
  obtain ⟨r, hgives, hne, -⟩ | hmis | ⟨-, -, hreports, hpass⟩ := hall hshort
  · obtain ⟨cs, c, hr⟩ := hgives
    obtain ⟨cause, i, hc⟩ := Recorder.willing_obliging.polite cs c r hr
    exact absurd hc (hne cause i)
  · have hcalm : (misset.step (.alone (.blockStart .options) "OPTS")
        [.alone .unknown "FOO"]).state.bench.deeds.all fun d => d.refusal?.isNone := by
      decide +kernel
    exact absurd hmis (calm_of_unrefused hcalm).1
  · have ht : Later misset [.parse [.alone .mode "MODE", .alone (.blockEnd .options) "END_OPTS",
        .alone .plot "PLOT"]] t :=
      .comes ⟨[], _, [], 0, rfl, by decide +kernel, .none t⟩
    have hindex : misset.index = 2 := by decide +kernel
    rw [hindex] at hpass
    have hp := hpass _ (by simp) t ht
    exact ⟨hf, by decide +kernel, (hp.within 5 (by decide +kernel) (by decide +kernel)).2.2,
      by decide +kernel⟩

/-- A block whose value has too many digits. -/
def onesWords : List Lexeme :=
  [.alone (.blockStart .options) "OPTS", .alone (.setting .model) "MODEL",
    .alone .number (String.ofList (List.replicate 4301 '1')),
    .alone (.blockEnd .options) "END_OPTS"]

/-- The block ends the run, nothing is reported, and the block waits to be read again. -/
theorem failed_block_onesWords :
    let o := plotting.parse onesWords
    o.result = .error (.failure (.tooManyDigits 4301)) ∧ Deed.reports o.state.bench.deeds = [] ∧
      o.state.skipping = none ∧ o.state.waiting = onesWords := by
  intro o
  have hrest : Resting plotting :=
    ⟨by decide +kernel, by decide +kernel, by decide +kernel, by decide +kernel⟩
  have hread : (Reader.read (some .plot) true (.alone (.blockStart .options) "OPTS")
      onesWords.tail).result = .error (.failed (.tooManyDigits 4301)) :=
    Session.read_ones (by decide) rfl rfl rfl
  have hkinds : onesWords.map Lexeme.kind =
      [.blockStart .options, .setting .model, .number, .blockEnd .options] := rfl
  have ho : o = (plotting.grow onesWords).run := parse_of_forall hrest.ended fun x hx h => by
    have hk : Kind.endOfFile ∈ onesWords.map Lexeme.kind := h ▸ List.mem_map_of_mem hx
    rw [hkinds] at hk
    exact absurd hk (by decide)
  have hmode : plotting.mode = some .plot := by decide +kernel
  rw [ho, onesWords, hrest.run_grow_of_failed (hmode ▸ hread)]
  refine ⟨rfl, ?_, hrest.skipping, hrest.waiting_grow onesWords⟩
  show Deed.reports plotting.bench.deeds = []
  decide +kernel

end Executor
end PlotScript
