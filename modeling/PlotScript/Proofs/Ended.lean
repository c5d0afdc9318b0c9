/-
# The end of the stream

When the stream has ended, nothing can complete what waits, so nothing should wait any more.  A step
sees to that: with a block that is passed over it gives up the block, and any other command is
carried out or complained about, but never waited for (`Executor.idle_run_of_ended`).

But a run takes steps only while there are lexemes left to read.  A block that is passed over, with
all lexemes behind it, is given up in no step; so if the end of the stream comes alone then, its
closing word is waited for ever (`Executor.pending_of_ended`).

In the language specification, §14, only an incremental stream may leave something pending.
-/

import PlotScript.Proofs.Arguments
import PlotScript.Proofs.Pending
import PlotScript.Proofs.Rereading

namespace PlotScript

open Grammar

namespace Stream

variable {s : Stream} {l : List Lexeme}

/-- All lexemes that are added are kept, but for the end of the file, which ends the stream. -/
theorem extend_eq_ok (h : (s.extend l).1 = .ok ()) :
    (s.extend l).2.entries = s.entries ++ l.filter (fun x => x.kind ≠ .endOfFile) ∧
      ((s.extend l).2.ended = true ↔ s.ended = true ∨ ∃ x ∈ l, x.kind = .endOfFile) := by
  induction l generalizing s with
  | nil => exact ⟨(List.append_nil _).symm, by simp [extend_nil]⟩
  | cons x l ih =>
    rw [extend_cons] at h ⊢
    split at h
    · cases h
    · rename_i t ht
      obtain ⟨hs, hended, hentries⟩ := ended_of_append ht
      obtain ⟨hkept, hend⟩ := ih h
      refine ⟨?_, ?_⟩
      · rw [hkept, hentries, List.append_assoc, ← List.filter_append]
        rfl
      · rw [hend, hended, hs]
        simp

end Stream

namespace Executor

variable {σ : Type} {e t : Executor σ} {word : Lexeme} {rest : List Lexeme}

/-- A block is passed over only while there are lexemes left to read. -/
def Ahead (e : Executor σ) : Prop := e.skipping = none ∨ e.index < e.stream.size

/-- Passing over a block in a stream that has ended leads ahead, at most to the end. -/
theorem ahead_skip (h : e.stream.ended = true) (b : Block) : Ahead (e.skip b) := by
  left
  have ht := skipped e b
  generalize e.skip b = t at ht ⊢
  cases ht with
  | closed => rfl
  | unclosed => exact if_pos h

/-- After a complaint about a lexeme of an ended stream, the executor is ahead of it, unless the
plotter misled it. -/
theorem ahead_recover (hk : t.skipping = none) {start : Nat} {c : Complaint}
    (hc : Deed.Misleads (t.bench.deeds ++ [.reported start c]) ∨
      blamed start c < t.stream.size) :
    Ahead (t.recover start word c).state ∨ (t.recover start word c).state.Misled := by
  have h := recovered t start word c
  generalize t.recover start word c = o at h ⊢
  cases h with
  | ended | lost | nextLine => exact .inl (.inl hk)
  | inBlock => exact hc.symm.imp .inr fun hm => ⟨rfl, hm⟩

section Device

variable [Device σ]

/-- **When the stream has ended, a step gives up a block at the last lexeme**, unless it is
misled. -/
theorem ahead_step (he : e.stream.ended = true) (hw : e.waiting = word :: rest) :
    Ahead (e.step word rest).state ∨ (e.step word rest).state.Misled := by
  have hlen := length_waiting hw
  have hs := stepped e word rest
  generalize e.step word rest = o at hs ⊢
  cases hs with
  | skipped => exact .inl (ahead_skip he _)
  | waits _ hk | failed _ _ hk => exact .inl (.inl hk)
  | @wrong cause x offset _ hk hr =>
    have hle := Reader.offset_le_of_read hr
    refine ahead_recover hk (.inr ?_)
    rw [blamed_add]
    omega
  | @read a n _ hk hr =>
    show Ahead (e.carryOut word a n).state ∨ (e.carryOut word a n).state.Misled
    obtain ⟨hpos, hle⟩ := Reader.taken_read hr
    obtain ⟨es, bench, (hc | ⟨f, hc⟩) | ⟨c, hc, hi⟩⟩ := carryOut_cases e word a n
    · rw [hc]
      exact .inl (.inl hk)
    · rw [hc]
      exact .inl (.inl hk)
    · rw [hc]
      refine ahead_recover (t := e.passed n bench) hk ?_
      refine (misleads_or hi e.index).imp_right fun hi => (blamed_lt hpos hi).trans_le ?_
      show e.index + n ≤ e.stream.size
      omega

/-- **A run of a stream that has ended leaves nothing that waits**, unless it has nothing to do and
a block is passed over, or it is misled. -/
theorem idle_run_of_ended (he : e.stream.ended = true) (hh : Heedful e) (ha : Ahead e ∨ e.Misled)
    {cs : List Complaint} (hr : e.run.result = .ok cs) (hm : ¬e.run.state.Misled) :
    e.run.state.Idle := by
  fun_induction run e generalizing cs with
  | case1 e hw =>
    have hsize : e.stream.size ≤ e.index := List.drop_eq_nil_iff.1 hw
    exact ⟨(hh.within.resolve_right hm).antisymm hsize,
      (ha.resolve_right hm).resolve_right (Nat.not_lt.2 hsize)⟩
  | case2 => cases hr
  | case3 e word rest hw es t hs =>
    -- Nothing more can come, so nothing is waited for.
    obtain ⟨-, -, hread⟩ := read_of_waits (e := e) (by rw [hs])
    rw [mayGrow, he] at hread
    exact absurd hread Reader.read_ne_waiting
  | case4 e word rest hw l es t hs _ o ih =>
    have hstream := (frame_step e word rest).stream
    have hheed := heedful_step hh hw
    have hahead := ahead_step he hw
    rw [hs] at hstream hheed hahead
    obtain ⟨l', hl'⟩ := exists_of_map_eq_ok hr
    exact ih (hstream ▸ he) hheed hahead hl' hm

/-- Where the stream has ended and lexemes are left to read, a run leaves nothing that waits.  The
executor is behind the last lexeme, and it skips no more, unless there was nothing to read. -/
theorem state_parse_of_ended (hh : Heedful e) {l : List Lexeme} {cs : List Complaint}
    (hr : (e.parse l).result = .ok cs)
    (he : e.stream.ended = true ∨ ∃ x ∈ l, x.kind = .endOfFile)
    (hm : ¬(e.parse l).state.Misled) :
    let t := (e.parse l).state
    t.stream.ended = true ∧ t.index = t.stream.size ∧
      t.skipping = if e.index = e.stream.size ∧ ∀ x ∈ l, x.kind = .endOfFile then e.skipping
        else none := by
  intro t
  have hok : (e.stream.extend l).1 = .ok () := by
    rcases hl : (e.stream.extend l).1 with f | u
    · simp only [parse, hl] at hr
      cases hr
    · rfl
  have hp : e.parse l = (e.fed l).run := parse_eq_run hok
  obtain ⟨hkept, hended⟩ := Stream.extend_eq_ok hok
  have hended : (e.fed l).stream.ended = true := hended.2 he
  have ht : t = (e.fed l).run.state := congrArg Outcome.state hp
  have hstream : t.stream = (e.fed l).stream := ht ▸ (frame_run _).stream
  have hsize : (e.fed l).stream.size =
      e.stream.size + (l.filter fun x => x.kind ≠ .endOfFile).length := by
    rw [Stream.size, fed, hkept, List.length_append]
    rfl
  have hnone : (∀ x ∈ l, x.kind = .endOfFile) ↔
      (l.filter fun x => x.kind ≠ .endOfFile).length = 0 := by
    rw [List.length_eq_zero_iff, List.filter_eq_nil_iff]
    simp
  have hheed : Heedful (e.fed l) :=
    hh.extend (d := e.bench) (Stream.entries_isPrefix_extend e.stream l) rfl
  rw [hp] at hr hm
  refine ⟨hstream ▸ hended, ?_⟩
  by_cases hlt : e.index < (e.fed l).stream.size
  · -- There is something to read, so a step is taken.
    have hidle := idle_run_of_ended hended hheed (.inl (.inr hlt)) hr hm
    rw [← ht] at hidle
    refine ⟨hidle.index, ?_⟩
    rw [if_neg, hidle.skipping]
    rintro ⟨hx, hl⟩
    have := hnone.1 hl
    omega
  · -- Nothing is left, so no step is taken and what was skipped before still is.
    have hw : (e.fed l).waiting = [] := List.drop_eq_nil_iff.2 (Nat.le_of_not_lt hlt)
    rw [run_of_nil hw] at ht hm
    have hle : e.index ≤ e.stream.size := hh.within.resolve_right hm
    rw [ht, if_pos ⟨by omega, hnone.2 (by omega)⟩]
    exact ⟨show e.index = (e.fed l).stream.size by omega, rfl⟩

/-- **What waits when the stream has ended.**  A lenient executor was used in any way, with any
plotter, whatever the results were.  Then it parses lexemes with the end of the file, or after it,
and ends without a fault.

All lexemes are behind it then, and nothing is pending, but for one case: it did not take a step,
because all lexemes were behind it before and none came, while it passed over a block that it had
given up.  It goes on to wait for the closing word of that block, though none can come, and parsing
nothing does not change that.

It is so unless the plotter, which is shown no lexeme, refused a block with a complaint about one
that it named, and the block is passed over from there on. -/
theorem pending_of_ended (p : Params) (device : σ) (site : Site) (uses : List Use)
    {l : List Lexeme} {cs : List Complaint}
    (hr : (((start false p device site).live uses).parse l).result = .ok cs)
    (he : ((start false p device site).live uses).stream.ended = true ∨
      ∃ x ∈ l, x.kind = .endOfFile)
    (hm : ¬(((start false p device site).live uses).parse l).state.Misled) :
    let e := (start false p device site).live uses
    let t := (e.parse l).state
    t.stream.ended = true ∧ t.index = t.stream.size ∧ t.pending = t.skipping.isSome ∧
      (t.skipping = if e.index = e.stream.size ∧ ∀ x ∈ l, x.kind = .endOfFile then e.skipping
        else none) ∧
      (∀ b, t.skipping = some b → t.GivenUp b) ∧ t.parse [] = ⟨.ok [], [], t⟩ := by
  intro e t
  have hh : Heedful e := (heedful_start p device site).live uses
  have hheed : Heedful t := hh.use (.parse l)
  obtain ⟨hended, hindex, hskip⟩ := state_parse_of_ended hh hr he hm
  refine ⟨hended, hindex, ?_, hskip, fun b hb => ?_, ?_⟩
  · rw [pending, show t.index = t.stream.size from hindex]
    simp
  · exact ⟨hindex, hb, hindex ▸ (hheed.abandons b hb).resolve_left hm⟩
  · exact run_of_nil (List.drop_eq_nil_iff.2 hindex.ge)

end Device

/-- The end of the file. -/
def fileEnd : Lexeme := .alone .endOfFile ""

/-- An executor that passes over a block, with all lexemes behind it. -/
def passingOver : Executor Recorder :=
  plotting.live [.parse [.alone (.blockStart .options) "OPTS", .alone .unknown "FOO"]]

/-- The end of the file comes with a lexeme of the block, and nothing is pending. -/
theorem pending_of_ended_accel :
    let l := [.alone (.setting .acceleration) "ACCEL", fileEnd]
    (passingOver.parse l).result = .ok [] ∧ (passingOver.parse l).state.stream.ended = true ∧
      passingOver.skipping = some .options ∧ (passingOver.parse l).state.skipping = none ∧
      (passingOver.parse l).state.pending = false := by
  intro l
  have hr : (passingOver.parse l).result = .ok [] := by decide +kernel
  obtain ⟨hended, -, hpending, hskip, -, -⟩ :=
    pending_of_ended .standard Recorder.obliging .bare
      [.parse [.alone .mode "MODE", .alone (.modeName .plot) "P"],
        .parse [.alone (.blockStart .options) "OPTS", .alone .unknown "FOO"]] hr
      (.inr ⟨fileEnd, by simp [l], rfl⟩) (not_misled (by decide +kernel))
  have hskip : (passingOver.parse l).state.skipping = none :=
    hskip.trans (if_neg fun h => absurd (h.2 _ List.mem_cons_self) (by decide))
  refine ⟨hr, hended, by decide +kernel, hskip, hpending.trans ?_⟩
  show (passingOver.parse l).state.skipping.isSome = false
  rw [hskip]
  rfl

/-- The end of the file comes alone, and the closing word of the block is pending for ever. -/
theorem pending_of_ended_alone :
    let o := passingOver.parse [fileEnd]
    o.result = .ok [] ∧ o.state.stream.ended = true ∧ o.state.index = o.state.stream.size ∧
      o.state.skipping = some .options ∧ o.state.pending = true ∧
      (o.state.parse []).state.pending = true := by
  decide +kernel

end Executor
end PlotScript
