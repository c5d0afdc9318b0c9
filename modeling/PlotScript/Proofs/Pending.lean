/-
# What may be pending

Where a run of a lenient executor ends without a fault, the executor is in one of three states:

| state | what waits | prompt |
| --- | --- | --- |
| idle | nothing | the usual one |
| a block was given up | the closing word of the block, which has not come | the other one |
| a block is awaited | a block that is valid as far as it has come | the other one |

No other command ever waits: if an argument of it is missing, it is complained about in the run in
which it came (`Session.only_blocks_wait`).  A block is given up where it is complained about, and
what is passed over from then on holds no word that closes it (`Executor.Heedful`).  The plotter is
not told where a lexeme stands; only if it complains about one nevertheless, the block is passed
over from there on (`Executor.Misled`).

A run that does not end for what the operating system refuses the plotter leaves the rest of its
words unread (`Executor.BrokenOff`), and a session in which a script is broken off so asks for the
next line.

What may be pending is said in the language specification, §14.
-/

import PlotScript.Proofs.HeardLines
import PlotScript.Proofs.Tidy

namespace PlotScript

open Grammar

namespace Reader

variable {mode : Option Mode} {more : Bool} {word x : Lexeme} {l rest : List Lexeme} {b : Block}
  {cause : Cause} {offset : Nat}

/-- No lexeme before the one that is blamed closes the block: up to there, the block is made of
settings with their values. -/
theorem kind_ne_of_readSettings {interactive : Bool} {seen : List Setting} {k : Nat}
    (h : (readSettings b interactive more word seen k l).result =
      .error (.wrong cause x offset)) : ∀ y ∈ l.take (offset - k), y.kind ≠ .blockEnd b := by
  fun_induction readSettings b interactive more word seen k l with
  | case1 => simp
  | case2 | case6 => cases h
  | case3 =>
    simp only at h
    split at h <;> cases h
    simp
  | case4 | case5 | case9 | case10 =>
    cases h
    simp
  | case7 seen k y z rest hy s hs ha e he =>
    simp only [Except.error.injEq] at h
    subst h
    rw [eq_of_readValue he, Nat.add_sub_cancel_left]
    intro w hw
    rw [List.mem_singleton.1 hw]
    exact hy
  | case8 seen k y z rest hy s hs ha v hv warnings ih =>
    intro w hw
    -- The lexemes in question are the first pair, and those of the rest of the block.
    have hmem : w = y ∨ w = z ∨ w ∈ rest.take (offset - (k + 2)) := by
      rcases hn : offset - k with _ | _ | n
      · rw [hn] at hw
        cases hw
      · rw [hn] at hw
        exact .inl (List.mem_singleton.1 hw)
      · rw [hn] at hw
        rw [show offset - (k + 2) = n by omega]
        simpa using hw
    rcases hmem with rfl | rfl | hw
    · exact hy
    · have hc : Settings [y, w] [(s, v)] := .cons hs (gives_of_readValue hv) .nil
      exact hc.kind_ne w (by simp)
    · exact ih (result_cons_eq_wrong.1 h) w hw

/-- A fault of a block is found before its closing word. -/
theorem kind_ne_of_wrong (hw : word.kind = .blockStart b)
    (h : (read mode more word rest).result = .error (.wrong cause x offset)) :
    ∀ y ∈ (word :: rest).take offset, y.kind ≠ .blockEnd b := by
  unfold read at h
  rw [hw] at h
  simp only at h
  split at h
  · rename_i e he
    simp only [Reading.of, Except.error.injEq] at h
    subst h
    rw [offset_of_needBlockMode he]
    simp
  · unfold readBlock at h
    simp only at h
    split at h
    · rename_i e he
      simp only [Except.error.injEq] at h
      subst h
      have hrest := kind_ne_of_readSettings he
      intro y hy
      cases offset with
      | zero => cases hy
      | succ n =>
        rcases List.mem_cons.1 hy with rfl | hy
        · rw [hw]
          rintro ⟨⟩
        · exact hrest y hy
    · cases h

/-- A block that is read is closed by its last lexeme, and by none before. -/
theorem kind_ne_of_read {a : Action} {n : Nat} (hw : word.kind = .blockStart b)
    (h : (read mode more word rest).result = .ok (a, n)) :
    ∀ y ∈ (word :: rest).take (n - 1), y.kind ≠ .blockEnd b := by
  obtain ⟨ws, tail, hl, rfl, hws, -, -⟩ := begins_of_read h
  obtain ⟨w, ws, rfl⟩ := List.exists_cons_of_length_pos hws.length_pos
  obtain ⟨rfl, rfl⟩ := List.cons.inj hl
  obtain ⟨r, settings, z, rfl, -, hr, -⟩ := setOptions_of_spells hw hws
  have htake : ((word :: (r ++ [z])) ++ tail).take ((word :: (r ++ [z])).length - 1) =
      word :: r := by
    simp
  intro y hy
  replace hy : y ∈ word :: r := htake ▸ hy
  rcases List.mem_cons.1 hy with rfl | hy
  · rw [hw]
    rintro ⟨⟩
  · exact hr.kind_ne y hy

end Reader

/-- The notes end with a complaint that the plotter made itself, about a lexeme that it named. -/
def Deed.Misleads (l : List Deed) : Prop :=
  ∃ before mode call n cause i, l = before ++ [.asked mode call (.error
    (.complaint .command cause (some i))), .reported n ⟨cause, none, some i⟩]

namespace Executor

variable {σ : Type} {e t : Executor σ} {word : Lexeme} {rest : List Lexeme} {b : Block} {n k : Nat}

/-- A complaint about a command that is about another lexeme than its last one misleads. -/
theorem misleads_or {last : Nat} {c : Complaint} {l : List Deed}
    (h : (c.index = none ∨ c.index = some (last : Int)) ∨ ∃ before mode call, c.lexeme = none ∧
      l = before ++ [.asked mode call (.error (.complaint .command c.cause c.index))])
    (start : Nat) : Deed.Misleads (l ++ [.reported start c]) ∨
      (c.index = none ∨ c.index = some (last : Int)) := by
  refine h.elim .inr fun ⟨before, mode, call, hx, hl⟩ => ?_
  obtain ⟨cause, lexeme, index⟩ := c
  obtain rfl : lexeme = none := hx
  rcases index with _ | i
  · exact .inr (.inl rfl)
  · refine .inl ⟨before, mode, call, start, cause, i, ?_⟩
    rw [hl, List.append_assoc]
    rfl

/-- Nothing waits. -/
structure Idle (e : Executor σ) : Prop where
  index : e.index = e.stream.size
  skipping : e.skipping = none

/-- The last that was noted is a complaint about the block that opens at lexeme `n`, and none of the
lexemes from there on and before lexeme `k` closes it. -/
structure Abandons (e : Executor σ) (b : Block) (n k : Nat) : Prop where
  opened : ∃ w, e.stream.entries[n]? = some w ∧ w.kind = .blockStart b
  reported : ∃ c, e.bench.deeds.getLast? = some (.reported n c)
  unclosed : ∀ x ∈ (e.stream.drop n).take (k - n), x.kind ≠ .blockEnd b

/-- A block was complained about, and all that came since was passed over: no closing word came. -/
structure GivenUp (e : Executor σ) (b : Block) : Prop where
  index : e.index = e.stream.size
  skipping : e.skipping = some b
  abandons : ∃ n, e.Abandons b n e.stream.size

/-- A block that is valid as far as it has come waits, and no word of it is a closing word. -/
structure Awaits (e : Executor σ) : Prop where
  skipping : e.skipping = none
  ended : e.stream.ended = false
  valid : Unclosed e.mode e.waiting
  unclosed : ∀ x ∈ e.waiting, ∀ b, x.kind ≠ .blockEnd b

/-- Only a block is pending, if anything is. -/
def OnlyBlockWaits (e : Executor σ) : Prop :=
  e.pending = false ∧ e.Idle ∨ e.pending = true ∧ ((∃ b, e.GivenUp b) ∨ e.Awaits)

/-- What was noted last is that the operating system refused the plotter what a call of it needed:
the run that made the call did not come to its end. -/
def BrokenOff (e : Executor σ) : Prop :=
  ∃ mode c said, e.bench.deeds.getLast? = some (.asked mode c (.error (.failure (.system said))))

/-- A block is passed over from a lexeme on that the plotter named, in a complaint of its own about
a command: the refusal was noted, and then the report. -/
def Misled (e : Executor σ) : Prop :=
  e.skipping.isSome = true ∧ Deed.Misleads e.bench.deeds

/-- How an executor is between two lines. -/
def AtRest (e : Executor σ) : Prop := e.OnlyBlockWaits ∨ e.Misled ∨ e.BrokenOff

/-- A lenient executor within its stream that passes over nothing but blocks that it abandoned, if
it is not misled. -/
structure Heedful (e : Executor σ) : Prop where
  lenient : e.strict = false
  within : e.index ≤ e.stream.size ∨ e.Misled
  abandons : ∀ b, e.skipping = some b → e.Misled ∨ ∃ n, e.Abandons b n e.index

/-- Where the plotter refused nothing, it broke nothing off, and misled nothing. -/
theorem calm_of_unrefused (h : e.bench.deeds.all fun d => d.refusal?.isNone) :
    ¬e.Misled ∧ ¬e.BrokenOff := by
  rw [List.all_eq_true] at h
  refine ⟨?_, ?_⟩
  · rintro ⟨-, before, mode, call, n, cause, i, hd⟩
    have hmem : Deed.asked mode call (.error (.complaint .command cause (some i))) ∈
        e.bench.deeds := by
      rw [hd]
      simp
    cases h _ hmem
  · rintro ⟨mode, c, said, hlast⟩
    cases h _ (List.mem_of_getLast? hlast)

/-- An executor that passes over no block is not misled. -/
theorem not_misled (h : e.skipping = none) : ¬e.Misled := by
  rintro ⟨hs, -⟩
  rw [h] at hs
  cases hs

/-- An executor passes over nothing before the first run. -/
theorem heedful_start (p : Params) (device : σ) (site : Site) :
    Heedful (start false p device site) :=
  ⟨rfl, .inl le_rfl, fun b hb => by cases hb⟩

/-- An executor that passes over nothing is heedful within its stream. -/
theorem Heedful.of_skipping (hs : e.strict = false) (hi : e.index ≤ e.stream.size)
    (hk : e.skipping = none) : Heedful e :=
  ⟨hs, .inl hi, fun b hb => by rw [hk] at hb; cases hb⟩

/-- The opening word of a block that is abandoned is in the stream. -/
theorem Abandons.lt_size (h : e.Abandons b n k) : n < e.stream.size := by
  obtain ⟨w, hw, -⟩ := h.opened
  exact (List.getElem?_eq_some_iff.1 hw).1

/-- More lexemes do not change what was passed over. -/
theorem Abandons.extend (h : e.Abandons b n k) (hk : k ≤ e.stream.size)
    (ht : e.stream.entries <+: t.stream.entries) (hd : t.bench.deeds = e.bench.deeds) :
    t.Abandons b n k := by
  obtain ⟨m, hm⟩ := ht
  have hlt : n < e.stream.entries.length := h.lt_size
  refine ⟨?_, hd ▸ h.reported, ?_⟩
  · rw [← hm, List.getElem?_append_left hlt]
    exact h.opened
  · have hk : k ≤ e.stream.entries.length := hk
    have htake : (t.stream.drop n).take (k - n) = (e.stream.drop n).take (k - n) := by
      rw [Stream.drop, ← hm, List.drop_append_of_le_length hlt.le,
        List.take_append_of_le_length (by rw [List.length_drop]; omega)]
      rfl
    rw [htake]
    exact h.unclosed

/-- A heedful executor that passes over a block comes to its closing word, or to the end of what is
there: then no closing word has come. -/
theorem heedful_skip (h : Heedful e) (hb : e.skipping = some b) : Heedful (e.skip b) := by
  have hle := index_skip_le (e := e) (b := b)
  have ht := skipped e b
  generalize e.skip b = t at hle ht ⊢
  cases ht with
  | closed => exact .of_skipping h.lenient hle rfl
  | unclosed hnone =>
    refine ⟨h.lenient, .inl le_rfl, fun b' hb' => ?_⟩
    simp only at hb'
    have hkept : ({ e with
        index := e.stream.size
        skipping := if e.stream.ended then none else some b } : Executor σ).skipping =
          e.skipping := by
      split at hb'
      · cases hb'
      · rename_i he
        rw [hb]
        exact if_neg he
    obtain rfl : b = b' := by
      split at hb'
      · cases hb'
      · exact Option.some.inj hb'
    rcases h.abandons b hb with hm | ⟨n, ha⟩
    · exact .inl ⟨hkept ▸ hm.1, hm.2⟩
    refine .inr ⟨n, ha.opened, ha.reported, fun x hx => ?_⟩
    -- What is passed over is what was before, and what waited.
    have hx : x ∈ (e.stream.drop n).take (e.index - n) ++ (e.stream.drop n).drop (e.index - n) := by
      rw [List.take_append_drop]
      exact List.take_subset _ _ hx
    rcases List.mem_append.1 hx with hx | hx
    · exact ha.unclosed x hx
    · have hx : x ∈ e.waiting := by
        rw [Stream.drop, List.drop_drop] at hx
        exact List.drop_subset_drop_left _ (by omega) hx
      exact hnone x hx

/-- After a complaint about the command at hand nothing else is passed over than a block, which no
lexeme before the one that is blamed closes, unless the plotter named that one. -/
theorem heedful_recover (hs : t.strict = false) (hk : t.skipping = none)
    (hi : t.index ≤ t.stream.size) {start : Nat} (hw : t.stream.drop start = word :: rest)
    {c : Complaint} (hc : Deed.Misleads (t.bench.deeds ++ [.reported start c]) ∨
      blamed start c < t.stream.size ∧ ∀ b, word.kind = .blockStart b →
        ∀ x ∈ (word :: rest).take (blamed start c - start), x.kind ≠ .blockEnd b) :
    Heedful (t.recover start word c).state := by
  have h := recovered t start word c
  generalize t.recover start word c = o at h ⊢
  cases h with
  | ended | lost => exact .of_skipping hs hi hk
  | nextLine _ _ hlt => exact .of_skipping hs (nextLine_le hlt) hk
  | @inBlock b _ hword =>
    -- A block is passed over from the lexeme on that is blamed.
    refine ⟨hs, hc.symm.imp (fun hc => hc.1.le) fun hm => ⟨rfl, hm⟩, fun b' hb' => ?_⟩
    obtain rfl := Option.some.inj hb'
    refine hc.imp (fun hm => ⟨rfl, hm⟩) fun hc => ⟨start, ⟨word, ?_, hword⟩, ⟨c, ?_⟩, ?_⟩
    · have hhead : (t.stream.drop start)[0]? = some word := by rw [hw]; rfl
      rwa [Stream.drop, List.getElem?_drop] at hhead
    · exact List.getLast?_concat
    · intro x hx
      refine hc.2 b hword x ?_
      rw [← hw]
      exact hx

section Device

variable [Device σ]

/-- **Every step passes over nothing but blocks that were abandoned.**  What reading blames is at
hand, and what the plotter refuses is blamed on the last lexeme of the command, unless it named
another one. -/
theorem heedful_step (h : Heedful e) (hw : e.waiting = word :: rest) :
    Heedful (e.step word rest).state := by
  have hlt := index_lt_of_waiting hw
  have hlen := length_waiting hw
  have hs := stepped e word rest
  generalize e.step word rest = o at hs ⊢
  cases hs with
  | skipped hb => exact heedful_skip h hb
  | waits | failed => exact h
  | @wrong cause x offset _ hk hr =>
    have hle := Reader.offset_le_of_read hr
    refine heedful_recover h.lenient hk hlt.le hw (.inr ⟨?_, fun b hb => ?_⟩)
    · rw [blamed_add]
      omega
    · rw [blamed_add, Nat.add_sub_cancel_left]
      exact Reader.kind_ne_of_wrong hb hr
  | @read a n _ hk hr =>
    show Heedful (e.carryOut word a n).state
    obtain ⟨hpos, hle⟩ := Reader.taken_read hr
    have hsize : e.index + n ≤ e.stream.size := by omega
    -- Carried out, ended by a fault, or complained about.
    obtain ⟨es, bench, (hc | ⟨f, hc⟩) | ⟨c, hc, hi⟩⟩ := carryOut_cases e word a n
    · rw [hc]
      exact .of_skipping h.lenient hsize hk
    · rw [hc]
      exact .of_skipping h.lenient hsize hk
    · rw [hc]
      refine heedful_recover (t := e.passed n bench) h.lenient hk hsize hw ?_
      rcases misleads_or hi e.index with hm | hi
      · exact .inl hm
      · have hblame := blamed_lt hpos hi
        refine .inr ⟨hblame.trans_le hsize, fun b hb x hx => ?_⟩
        exact Reader.kind_ne_of_read hb hr x (List.take_subset_take_left _ (by omega) hx)

/-- A run is heedful in each of its steps. -/
theorem Heedful.run (h : Heedful e) : Heedful e.run.state :=
  rel_run (r := fun e t => Heedful e → Heedful t) (fun _ h => h) (fun hr hs h => hs (hr h))
    (fun hw h => heedful_step h hw) e h

omit [Device σ] in
/-- Lexemes may be added, and what was fetched may be removed. -/
theorem Heedful.extend (h : Heedful e) {s : Stream} (hs : e.stream.entries <+: s.entries)
    {d : Bench σ} (hd : d.deeds = e.bench.deeds) :
    Heedful { e with stream := s, bench := d } := by
  have hm (hm : e.Misled) : Misled { e with stream := s, bench := d } := ⟨hm.1, hd ▸ hm.2⟩
  refine ⟨h.lenient, h.within.imp (fun hi => hi.trans hs.length_le) hm, fun b hb => ?_⟩
  rcases h.within with hi | hmis
  · exact (h.abandons b hb).imp hm fun ⟨n, ha⟩ => ⟨n, ha.extend hi hs hd⟩
  · exact .inl (hm hmis)

/-- An executor is heedful in any use. -/
theorem Heedful.use (h : Heedful e) (u : Use) : Heedful (e.use u) := by
  cases u with
  | parse l =>
    have hx : Heedful { e with stream := (e.stream.extend l).2 } :=
      h.extend (d := e.bench) (Stream.entries_isPrefix_extend e.stream l) rfl
    simp only [Executor.use, parse]
    split
    · exact hx
    · exact hx.run
  | discard => exact .of_skipping h.lenient le_rfl rfl
  | close => exact h.extend (s := e.stream) List.prefix_rfl (congrArg Past.deeds (past_close e))
  | meanwhile s => exact h.extend (s := e.stream) List.prefix_rfl rfl

/-- **Whatever an executor is used for, it passes over nothing but blocks that it abandoned.** -/
theorem Heedful.live (h : Heedful e) (us : List Use) : Heedful (e.live us) := by
  induction us generalizing e with
  | nil => exact h
  | cons u us ih => exact ih (h.use u)

omit [Device σ] in
/-- Where nothing waits, only a block could. -/
theorem Idle.onlyBlockWaits (h : e.Idle) : e.OnlyBlockWaits :=
  .inl ⟨by simp [pending, h.skipping, h.index], h⟩

omit [Device σ] in
/-- Where the closing word of a block is waited for, nothing else is. -/
theorem GivenUp.onlyBlockWaits (h : e.GivenUp b) : e.OnlyBlockWaits :=
  .inr ⟨by simp [pending, h.skipping], .inl ⟨b, h⟩⟩

omit [Device σ] in
/-- Where a block is awaited, nothing else is, and its words make the executor pending. -/
theorem Awaits.onlyBlockWaits (h : e.Awaits) : e.OnlyBlockWaits := by
  refine .inr ⟨?_, .inr h⟩
  obtain ⟨w, r, hw⟩ := List.exists_cons_of_ne_nil h.valid.ne_nil
  simp [pending, index_lt_of_waiting hw]

/-- **Where a run ends without a fault, nothing but a block waits.**  It ends because nothing is
left, and then a block may have been given up; or because a command waits, and only a block does. -/
theorem onlyBlockWaits_run (h : Heedful e) {cs : List Complaint} (hr : e.run.result = .ok cs)
    (hm : ¬e.run.state.Misled) : e.run.state.OnlyBlockWaits := by
  fun_induction run e generalizing cs with
  | case1 e hw =>
    have hi : e.index = e.stream.size :=
      le_antisymm (h.within.resolve_right hm) (List.drop_eq_nil_iff.1 hw)
    rcases hk : e.skipping with _ | b
    · exact Idle.onlyBlockWaits ⟨hi, hk⟩
    · exact GivenUp.onlyBlockWaits ⟨hi, hk, hi ▸ (h.abandons b hk).resolve_left hm⟩
  | case2 => cases hr
  | case3 e word rest hw es t hs =>
    obtain ⟨hk, ht, hread⟩ := read_of_waits (e := e) (by rw [hs])
    rw [hs] at ht
    obtain rfl : t = e := ht
    -- Only a stream that may grow is waited for.
    have hmore : t.mayGrow = true := by
      rcases hm : t.mayGrow with _ | _
      · rw [hm] at hread
        exact absurd hread Reader.read_ne_waiting
      · rfl
    rw [hmore] at hread
    have hu := Reader.unclosed_of_waiting hread
    obtain ⟨b, hb, hrest⟩ := hu.exists_blockStart
    refine Awaits.onlyBlockWaits ⟨hk, ?_, hw ▸ hu, ?_⟩
    · unfold mayGrow at hmore
      simpa using (Bool.and_eq_true_iff.1 hmore).1
    · rw [hw]
      rintro x hx b'
      rcases List.mem_cons.1 hx with rfl | hx
      · rw [hb]
        rintro ⟨⟩
      · exact hrest x hx b'
  | case4 e word rest hw l es t hs _ o ih =>
    have ht := heedful_step h hw
    rw [hs] at ht
    obtain ⟨l', hl'⟩ := exists_of_map_eq_ok hr
    exact ih ht hl' hm

/-- Where parsing ends without a fault, nothing but a block waits, unless the plotter misled the
executor. -/
theorem onlyBlockWaits_parse (h : Heedful e) {l : List Lexeme} {cs : List Complaint}
    (hr : (e.parse l).result = .ok cs) :
    (e.parse l).state.OnlyBlockWaits ∨ (e.parse l).state.Misled := by
  have hx : Heedful { e with stream := (e.stream.extend l).2 } :=
    h.extend (d := e.bench) (Stream.entries_isPrefix_extend e.stream l) rfl
  unfold parse at hr ⊢
  rcases hl : (e.stream.extend l).1 with f | a
  · simp only [hl] at hr
    cases hr
  · simp only [hl] at hr ⊢
    exact or_iff_not_imp_right.2 (onlyBlockWaits_run hx hr)

end Device
end Executor

namespace Session

open Executor

variable {σ : Type}

section Device

variable [Device σ] {s t : Session σ} {i : Input}

omit [Device σ] in
/-- Only what the system refuses breaks anything off. -/
theorem exists_of_brokenOff {r : Except Fault Unit} (h : brokenOff r = true) :
    ∃ said, r = .error (.failure (.system said)) := by
  unfold brokenOff at h
  split at h
  · exact ⟨_, rfl⟩
  · cases h

/-- A line that is broken off ends with the call that was refused. -/
theorem brokenOff_feed {e : Executor σ} {l : List Lexeme} {unknown : List Complaint}
    (h : brokenOff (feed l unknown e).result = true) : (feed l unknown e).state.BrokenOff := by
  obtain ⟨said, hr⟩ := exists_of_brokenOff h
  obtain ⟨before, c, r, hd, hr⟩ := faults_feed l unknown e _ hr trivial
  cases r with
  | failure f =>
    cases hr
    exact ⟨_, c, said, by rw [hd, List.getLast?_concat]⟩
  | complaint | interrupt => cases hr

/-- A line that is carried out, or broken off, leaves nothing that waits but a block, or what comes
after the call that was refused. -/
theorem atRest_feed {e : Executor σ} (h : Heedful e) (hw : e.AtRest) {l : List Lexeme}
    {unknown : List Complaint} (hr : (feed l unknown e).result = .ok () ∨
      brokenOff (feed l unknown e).result = true) : (feed l unknown e).state.AtRest := by
  refine hr.elim (fun hr => ?_) fun hb => .inr (.inr (brokenOff_feed hb))
  rw [feed_state] at hr ⊢
  split at hr
  · rename_i hl
    rw [if_pos hl]
    exact hw
  · rename_i hl
    rw [if_neg hl]
    rcases hp : (e.parse l).result with f | cs
    · simp only [hp] at hr
      cases hr
    · exact (onlyBlockWaits_parse h hp).imp_right .inl

/-- Lines that are carried out one after another leave nothing that waits but a block, if none of
them ends with another fault than one that breaks a script off. -/
theorem atRest_feedAll {e : Executor σ} (h : Heedful e) (hw : e.AtRest)
    {ls : List (List Lexeme)} (hb : Bounded ls) (hr : (feedAll ls e).result = .ok () ∨
      brokenOff (feedAll ls e).result = true) : (feedAll ls e).state.AtRest := by
  induction ls generalizing e with
  | nil => exact hw
  | cons l ls ih =>
    have hl := @atRest_feed σ _ e h hw l (Lexer.unknowns l)
    rw [feedAll, Act.forEach_cons] at hr ⊢
    rcases ho : (feed l (Lexer.unknowns l) e).result with f | u
    · rw [Act.bind_of_error ho] at hr ⊢
      rw [ho] at hl
      exact hl hr
    · rw [Act.bind_of_ok ho] at hr ⊢
      obtain ⟨us, -, -, ht⟩ := fedAll_feed (hb l List.mem_cons_self) (Lexer.unknowns l) e
      exact ih (ht ▸ h.live us) (hl (.inl ho)) (fun m hm => hb m (List.mem_cons_of_mem l hm)) hr

/-- A session that was asked nothing yet, or has answered without a fault. -/
structure Poised (s : Session σ) : Prop where
  upright : Upright s
  heedful : Heedful s.executor
  atRest : s.executor.AtRest

/-- **An input that is answered without a fault leaves nothing that waits but a block**, unless a
script was broken off. -/
theorem Poised.respond (h : Poised s) (hr : (respond i s).result = .ok ()) :
    Poised (respond i s).state := by
  obtain ⟨us, -, -, ht⟩ := fedAll_respond h.upright.unread i
  refine ⟨h.upright.respond i, ht ▸ h.heedful.live us, ?_⟩
  cases i with
  | interrupt | endOfInput => exact h.atRest
  | typed text =>
    have hf := fun hok =>
      atRest_feedAll h.heedful h.atRest (bounded_linesHeard s (hear text)) hok
    have hc := handle_feedAll h.upright.unread text
    rw [← hc.state] at hf
    rw [respond_typed] at hr ⊢
    generalize handle text s = o at hf hr hc ⊢
    split
    · exact .inl (Idle.onlyBlockWaits ⟨rfl, rfl⟩)
    · rename_i hne
      split at hr
      · rename_i hint
        exact absurd hint (hne _)
      · exact hf (hc.of_ok hr)

/-- A session that asks for another input is poised, however many it answered. -/
theorem Poised.after {inputs : List Input} (h : Poised s) (hi : s.after? inputs = some t) :
    Poised t := by
  induction inputs generalizing s with
  | nil => exact Option.some.inj hi ▸ h
  | cons i r ih =>
    obtain ⟨u, hu, hr⟩ := Option.bind_eq_some_iff.1 hi
    obtain ⟨hok, -, rfl⟩ := next?_eq_some.1 hu
    exact ih (h.respond hok) hr

end Device

end Session
end PlotScript
