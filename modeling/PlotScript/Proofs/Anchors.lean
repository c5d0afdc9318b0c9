/-
# Where complaints point

A complaint may carry a lexeme, and the number of a lexeme in the stream.  What they are depends on
where the complaint comes from:

| complaint | lexeme | number |
| --- | --- | --- |
| of reading | the one that is blamed | of that one |
| of the plotter, about a call | the first one of the command | of the last one of the command |
| of the plotter, as one about a command | none of the stream | the one that the plotter names |
| about a drawing, or none | the first one of the command | none |

So every number that is not the plotter's is one of the stream, and the lexeme is the one with that
number, but for a command with arguments that the plotter refuses: there they are two lexemes
(`Executor.anchors`).

The number is the stream index that an error carries in the language specification, §13.
-/

import PlotScript.Proofs.RefusedCalls

namespace PlotScript

open Grammar

namespace Grammar

variable {word x : Lexeme} {ws : List Lexeme} {a : Action}

/-- A command with arguments ends with a lexeme of another kind than its word.  The cases are the
commands of the grammar, each of which ends with a number, a text, a name or a closing word. -/
theorem Spells.kind_ne (h : Spells (word :: ws) a) (hx : ws.getLast? = some x) :
    x.kind ≠ word.kind := by
  generalize hl : word :: ws = l at h
  cases h with
  | word hw | plot hw =>
    obtain ⟨rfl, rfl⟩ := List.cons.inj hl
    cases hx
  | mode hw hk =>
    obtain ⟨rfl, rfl⟩ := List.cons.inj hl
    obtain rfl := Option.some.inj hx
    simp [hw, hk]
  | options hw hr hz =>
    obtain ⟨rfl, rfl⟩ := List.cons.inj hl
    rw [List.getLast?_concat] at hx
    obtain rfl := Option.some.inj hx
    simp [hw, hz]
  | goTo hw _ hy | goToRelative hw _ hy =>
    obtain ⟨rfl, rfl⟩ := List.cons.inj hl
    obtain rfl := Option.some.inj hx
    simp [hw, hy.1]
  | draw hw hr hp =>
    obtain ⟨rfl, rfl⟩ := List.cons.inj hl
    simp [hw, hr.kind_of_mem (List.mem_of_getLast? hx)]
  | wait hw hy =>
    obtain ⟨rfl, rfl⟩ := List.cons.inj hl
    obtain rfl := Option.some.inj hx
    simp [hw, hy.1]
  | setPlot hw hk ht =>
    obtain ⟨rfl, rfl⟩ := List.cons.inj hl
    obtain rfl := Option.some.inj hx
    simp [hw, hk]

end Grammar

namespace Executor

variable {σ : Type} [Device σ] {e t u : Executor σ} {word x : Lexeme} {rest l : List Lexeme}
  {a : Action} {k n : Nat} {c : Complaint} {f : Fault}

/-- A complaint comes from the plotter, about a command of `k` lexemes that was read on a round of a
run: the command fails with it, and the last note of the command is of the call that was refused. -/
def OfRefusal (e : Executor σ) (c : Complaint) (k : Nat) : Prop :=
  ∃ n u word rest a before mode call cause i, Rounds n e u ∧ u.Fails word rest a k (.command c) ∧
    c = u.anchored word k cause ∧
    (u.wrecked word a k).deeds = before ++ [.asked mode call (.error (.complaint .device cause i))]

/-- The plotter made a complaint itself when it was asked, as one about a command: it may have a
number, but it is about no lexeme of the stream. -/
def OfPlotter (l : List Deed) (c : Complaint) : Prop :=
  c.lexeme = none ∧ ∃ mode call, .asked mode call (.error (.complaint .command c.cause c.index)) ∈ l

/-- Where the complaint of a step comes from. -/
inductive Blames (e : Executor σ) (word : Lexeme) (rest : List Lexeme) : Complaint → Prop
  | read {cause : Cause} {x : Lexeme} {offset : Nat} : (word :: rest)[offset]? = some x →
    Blames e word rest ⟨cause, some x, some (e.index + offset)⟩
  | unplaced {c : Complaint} : c.index = none → Blames e word rest c
  | refused {a : Action} {k : Nat} {before : List Deed} {mode : Option Mode} {call : Call}
    {cause : Cause} {i : Option Int} : e.Fails word rest a k (.command (e.anchored word k cause)) →
    (e.wrecked word a k).deeds =
      before ++ [.asked mode call (.error (.complaint .device cause i))] →
      Blames e word rest (e.anchored word k cause)
  | made {a : Action} {k : Nat} {c : Complaint} : e.Fails word rest a k (.command c) →
    OfPlotter (e.wrecked word a k).deeds c → Blames e word rest c

/-- The complaint about a command that fails is the plotter's, or has no number.  What the program
itself refuses is given no number, and what the plotter refuses is noted as its answer. -/
theorem Fails.blames (h : Fails e word rest a k (.command c)) : Blames e word rest c := by
  obtain ⟨g, hr, hg⟩ := Bench.exists_of_execute_eq_error h.fault
  have hfaults := Bench.faults_enact e.params word a (e.begun a) g hr
  rcases g with ⟨_ | _ | _ | _, d⟩ | _ | _
  · cases hg
  · obtain rfl : d = c := by cases hg; rfl
    rcases hfaults with hown | ⟨before, call, r, hd, hr⟩
    · exact .unplaced hown.2
    · rcases r with ⟨grade, cause, i⟩ | _ | _
      · cases hr
        have hd : (e.wrecked word a k).deeds = _ := hd
        exact .made h ⟨rfl, _, call, hd ▸ List.mem_append_right _ (List.mem_singleton_self _)⟩
      · cases hr
      · cases hr
  · rcases hfaults with hown | ⟨before, call, r, hd, hr⟩
    · exact hown.elim
    · rcases r with ⟨grade, cause, i⟩ | _ | _
      · cases hr
        obtain rfl : e.anchored word k cause = c := by cases hg; rfl
        exact .refused h hd
      · cases hr
      · cases hr
  · cases hg
  · cases hg
  · cases hg

/-- A step reports a complaint, or ends the run with it. -/
def Step.Given (r : Except Fault Step) (c : Complaint) : Prop :=
  r = .error (.command c) ∨ ∃ cs, r = .ok (.reported cs) ∧ c ∈ cs

omit [Device σ] in
/-- The complaint that a recovery gives is the one that it recovers from. -/
theorem eq_of_given_recover {d : Complaint} (h : Step.Given (e.recover n word d).result c) :
    c = d := by
  have ho := recovered e n word d
  generalize e.recover n word d = o at h ho
  rcases h with h | ⟨cs, h, hc⟩
  · cases ho <;> cases h
    rfl
  · cases ho <;> cases h <;> exact List.mem_singleton.1 hc

/-- A complaint that carrying out an action gives blames a lexeme of the command, or none.  No
complaint is given but the one that the command fails with. -/
theorem blames_of_given_carryOut (hk : e.skipping = none) (hw : e.waiting = word :: rest)
    (hr : (Reader.read e.mode e.mayGrow word rest).result = .ok (a, k))
    (h : Step.Given (e.carryOut word a k).result c) : Blames e word rest c := by
  obtain ⟨es, hcarry⟩ := carryOut_eq e word a k
  rw [hcarry] at h
  split at h
  · rcases h with h | ⟨cs, h, hc⟩
    · cases h
    · cases h
      cases hc
  · rename_i d hd
    obtain rfl := eq_of_given_recover h
    exact Fails.blames ⟨hk, hw, hr, hd⟩
  · rename_i f hf _
    rcases h with h | ⟨cs, h, -⟩
    · cases h
      exact absurd rfl (hf c)
    · cases h

/-- **The complaints of a step.**  It comes from reading the command or from carrying it out. -/
theorem blames_of_given_step (hw : e.waiting = word :: rest)
    (h : Step.Given (e.step word rest).result c) : Blames e word rest c := by
  unfold step at h
  split at h
  · rcases h with h | ⟨cs, h, hc⟩
    · cases h
    · cases h
      cases hc
  · rename_i hk
    unfold command at h
    simp only [after] at h
    split at h
    · rcases h with h | ⟨cs, h, -⟩ <;> cases h
    · rcases h with h | ⟨cs, h, -⟩ <;> cases h
    · rename_i cause x offset hr
      obtain rfl := eq_of_given_recover h
      exact .read (Reader.points_read _ _ _ hr)
    · rename_i hr
      exact blames_of_given_carryOut hk hw hr h

/-- A run gives a complaint, or ends with it. -/
def Given (r : Except Fault (List Complaint)) (c : Complaint) : Prop :=
  r = .error (.command c) ∨ ∃ cs, r = .ok cs ∧ c ∈ cs

omit [Device σ] in
/-- A complaint that is given behind others is one of them, or is given by itself. -/
theorem given_append {r : Except Fault (List Complaint)} {cs : List Complaint}
    (h : Given (r.map (cs ++ ·)) c) : c ∈ cs ∨ Given r c := by
  rcases r with f | ds
  · rcases h with h | ⟨_, h, -⟩
    · cases h
      exact .inr (.inl rfl)
    · cases h
  · rcases h with h | ⟨_, h, hc⟩
    · cases h
    · cases h
      exact (List.mem_append.1 hc).imp_right fun hc => .inr ⟨ds, rfl, hc⟩

/-- **The complaints of a run are those of its steps.**  The induction is on the run: a complaint of
the rest is one of a later step. -/
theorem exists_blames_of_given_run (e : Executor σ) (h : Given e.run.result c) :
    ∃ n u word rest, Rounds n e u ∧ u.waiting = word :: rest ∧ Blames u word rest c := by
  fun_induction run e with
  | case1 e hw =>
    rcases h with h | ⟨cs, h, hc⟩
    · cases h
    · cases h
      cases hc
  | case2 e word rest hw f es t hr =>
    refine ⟨0, e, word, rest, .none e, hw, blames_of_given_step hw ?_⟩
    rw [hr]
    rcases h with h | ⟨cs, h, -⟩
    · cases h
      exact .inl rfl
    · cases h
  | case3 e word rest hw es t hr =>
    rcases h with h | ⟨cs, h, hc⟩
    · cases h
    · cases h
      cases hc
  | case4 e word rest hw cs es t hr _ o ih =>
    rcases given_append h with hc | ho
    · refine ⟨0, e, word, rest, .none e, hw, blames_of_given_step hw ?_⟩
      rw [hr]
      exact .inr ⟨cs, rfl, hc⟩
    · obtain ⟨n, u, v, m, hn, hu⟩ := ih ho
      exact ⟨n + 1, u, v, m, .next hw hr hn, hu⟩

/-- The last lexeme of a command with arguments is another one than the first.  It differs from the
first one in kind, whatever its text is. -/
theorem Fails.getElem?_last_ne (h : Fails e word rest a k f) (hk : 2 ≤ k) :
    e.stream.entries[e.index + k - 1]? ≠ some word := by
  obtain ⟨ws, tail, hl, hlen, hspells, -, -⟩ := Reader.begins_of_read h.read
  rcases ws with _ | ⟨w, ws⟩
  · exact absurd hlen (by simp; omega)
  rw [List.cons_append] at hl
  obtain ⟨rfl, rfl⟩ := List.cons.inj hl
  rw [List.length_cons] at hlen
  have hlast : ws[k - 2]? = ws.getLast? := by
    rw [List.getLast?_eq_getElem?]
    congr 1
    omega
  have hentry : e.stream.entries[e.index + k - 1]? = ws.getLast? := by
    rw [show e.index + k - 1 = e.index + (k - 2 + 1) by omega, getElem?_of_waiting h.waiting,
      List.getElem?_cons_succ, List.getElem?_append_left (by omega), hlast]
  rw [hentry]
  exact fun heq => hspells.kind_ne heq rfl

/-- The complaint of the plotter has the number of the last lexeme of the command, and is about the
first one; these are two, if the command has arguments. -/
theorem OfRefusal.spec (h : e.OfRefusal c k) : ∃ m : Nat,
    c.index = some ((m + k - 1 : Nat) : Int) ∧ 0 < k ∧ m + k ≤ e.stream.size ∧
      c.lexeme = e.stream.entries[m]? ∧ (2 ≤ k → c.lexeme ≠ e.stream.entries[m + k - 1]?) := by
  obtain ⟨n, u, word, rest, a, before, mode, call, cause, i, hn, hf, rfl, -⟩ := h
  have hs := hn.stream_eq
  rw [← hs]
  refine ⟨u.index, rfl, (Reader.taken_read hf.read).1, index_add_le hf.waiting hf.read, ?_,
    fun hk => (hf.getElem?_last_ne hk).symm⟩
  exact (getElem?_of_waiting hf.waiting 0).symm

/-- What the plotter made itself in a round of a run is noted in the end. -/
theorem OfPlotter.of_rounds (h : OfPlotter (u.wrecked word a k).deeds c)
    (hf : u.Fails word rest a k (.command c)) (hn : Rounds n e u) :
    OfPlotter e.run.state.bench.deeds c := by
  obtain ⟨hx, mode, call, hd⟩ := h
  obtain ⟨cs, es, hrun⟩ := hn.run_eq
  have hstep : (u.step word rest).state.past.deeds =
      (u.wrecked word a k).deeds ++ [.reported u.index c] := congrArg Past.deeds hf.past_step
  have hprefix := (leads_run hf.waiting).deeds_isPrefix
  refine ⟨hx, mode, call, ?_⟩
  rw [hrun]
  exact hprefix.subset (hstep ▸ List.mem_append_left _ hd)

/-- A complaint with a number is about the lexeme with that number, or comes from the plotter. -/
theorem Blames.placed {i : Int} (h : Blames u word rest c) (hw : u.waiting = word :: rest)
    (hn : Rounds n e u) (hi : c.index = some i) :
    OfPlotter e.run.state.bench.deeds c ∨
    (∃ m : Nat, i = m ∧ m < e.stream.size ∧ c.lexeme = e.stream.entries[m]?) ∨
      ∃ k, e.OfRefusal c k := by
  cases h with
  | unplaced hnone => exact absurd (hnone.symm.trans hi) nofun
  | made hf hm => exact .inl (hm.of_rounds hf hn)
  | refused hf hd => exact .inr (.inr ⟨_, n, u, word, rest, _, _, _, _, _, _, hn, hf, rfl, hd⟩)
  | @read cause x offset hx =>
    rw [← getElem?_of_waiting hw, hn.stream_eq] at hx
    obtain rfl : ((u.index + offset : Nat) : Int) = i := Option.some.inj hi
    exact .inr (.inl ⟨_, rfl, (List.getElem?_eq_some_iff.1 hx).1, hx.symm⟩)

/-- **Every number of a complaint is one of the stream, and only for the plotter's complaints is it
another lexeme's.**  An executor, strict or not, is used in any way, with any plotter, and then
lexemes are parsed.  If a complaint that this gives, or ends with, has a number, then the plotter
made the complaint as one about a command, with that number, or the stream has a lexeme with that
number.  The complaint is about this lexeme, unless it comes from the plotter and is about a command
with arguments: then it is about the first lexeme of the command and has the number of the last
one. -/
theorem anchors (strict : Bool) (p : Params) (device : σ) (site : Site) (uses : List Use)
    (l : List Lexeme) :
    let e := (start strict p device site).live uses
    let o := e.parse l
    let s := o.state.stream
    ∀ c i, Given o.result c → c.index = some i → OfPlotter o.state.bench.deeds c ∨
      ∃ m : Nat, i = m ∧ m < s.size ∧
        (c.lexeme = s.entries[m]? ↔ ∀ k, (e.fed l).OfRefusal c k → k = 1) ∧
        ∀ k, (e.fed l).OfRefusal c k → c.lexeme = s.entries[m + 1 - k]? := by
  intro e o s c i hc hi
  have hparse : o = (e.fed l).run := by
    rcases hl : (e.stream.extend l).1 with f | u
    · have hr : o.result = .error (.failure f) := by
        show (e.parse l).result = _
        unfold parse
        simp only [hl]
      rcases hc with hc | ⟨cs, hc, -⟩ <;> exact absurd (hr.symm.trans hc) nofun
    · exact parse_eq_run hl
  have hs : s = (e.fed l).stream := by
    show o.state.stream = _
    rw [hparse]
    exact (frame_run (e.fed l)).stream
  rw [hparse] at hc ⊢
  obtain ⟨n, u, word, rest, hn, hw, hb⟩ := exists_blames_of_given_run _ hc
  rw [hs]
  refine or_iff_not_imp_left.2 fun hmade => ?_
  have hrefusal {k : Nat} (h : (e.fed l).OfRefusal c k) {m : Nat} (hm : i = m) :
      ∃ j, m = j + k - 1 ∧ 0 < k ∧ j + k ≤ (e.fed l).stream.size ∧
        c.lexeme = (e.fed l).stream.entries[j]? ∧
        (2 ≤ k → c.lexeme ≠ (e.fed l).stream.entries[m]?) := by
    obtain ⟨j, hj, hk, hle, hx, hne⟩ := h.spec
    obtain rfl : m = j + k - 1 := by
      have := Option.some.inj (hi.symm.trans hj)
      omega
    exact ⟨j, rfl, hk, hle, hx, hne⟩
  have hm : ∃ m : Nat, i = m ∧ m < (e.fed l).stream.size ∧
      ((∀ k, (e.fed l).OfRefusal c k → k = 1) → c.lexeme = (e.fed l).stream.entries[m]?) := by
    rcases (hb.placed hw hn hi).resolve_left hmade with ⟨m, him, hlt, hx⟩ | ⟨k, hk⟩
    · exact ⟨m, him, hlt, fun _ => hx⟩
    · obtain ⟨j, hj, hpos, hle, hx, -⟩ := hk.spec
      refine ⟨j + k - 1, Option.some.inj (hi.symm.trans hj), by omega, fun hone => ?_⟩
      obtain rfl := hone k hk
      exact hx
  obtain ⟨m, him, hlt, hone⟩ := hm
  refine ⟨m, him, hlt, ⟨fun hx k hk => ?_, hone⟩, fun k hk => ?_⟩
  · obtain ⟨j, -, hpos, -, -, hne⟩ := hrefusal hk him
    by_contra hk1
    exact hne (by omega) hx
  · obtain ⟨j, rfl, hpos, -, hx, -⟩ := hrefusal hk him
    rw [hx, show j + k - 1 + 1 - k = j by omega]

/-- A script for which the preview is not connected. -/
def unconnected : List Lexeme := (Lexer.reading ["MODE I", "HOME 1", "GOTO 1 2"] none).tokens.1

/-- Both commands are refused, and the number of the first complaint is that of its lexeme.  The
first lexeme of the command has the number before, so the two parts do not agree. -/
theorem anchors_unconnected :
    let o := ((start false .standard Preview.start .bare).live []).parse unconnected
    ∃ c, Given o.result c ∧ c.index = some 2 ∧ ∃ m : Nat, (2 : Int) = m ∧ m < o.state.stream.size ∧
      (c.lexeme = o.state.stream.entries[m]? ↔
        ∀ k, (((start false .standard Preview.start .bare).live []).fed unconnected).OfRefusal c k →
          k = 1) := by
  intro o
  have hr : o.result.toOption = some [⟨.plotterNotConnected, unconnected[2]?, some 2⟩,
      ⟨.plotterNotConnected, unconnected[4]?, some 6⟩] := by decide +kernel
  have hc : Given o.result ⟨.plotterNotConnected, unconnected[2]?, some 2⟩ := by
    rcases ho : o.result with f | cs
    · rw [ho] at hr
      cases hr
    · rw [ho] at hr
      exact .inr ⟨cs, rfl, Option.some.inj hr ▸ List.mem_cons_self⟩
  have hmade : ¬OfPlotter o.state.bench.deeds
      ⟨.plotterNotConnected, unconnected[2]?, some 2⟩ := fun h => absurd h.1 (by decide +kernel)
  obtain ⟨m, hm, hlt, hiff, -⟩ :=
    (anchors false .standard Preview.start .bare [] unconnected _ 2 hc rfl).resolve_left hmade
  exact ⟨_, hc, rfl, m, hm, hlt, hiff⟩

/-- The number of the second complaint is that of the last lexeme, and the complaint is about the
first lexeme. -/
theorem not_anchored_unconnected :
    let o := ((start false .standard Preview.start .bare).live []).parse unconnected
    ∃ cs c, o.result.toOption = some cs ∧ c ∈ cs ∧ c.index = some 6 ∧
      c.lexeme = o.state.stream.entries[4]? ∧ c.lexeme ≠ o.state.stream.entries[6]? :=
  ⟨[⟨.plotterNotConnected, unconnected[2]?, some 2⟩,
    ⟨.plotterNotConnected, unconnected[4]?, some 6⟩], ⟨.plotterNotConnected, unconnected[4]?, some 6⟩,
    by decide +kernel⟩

end Executor
end PlotScript
