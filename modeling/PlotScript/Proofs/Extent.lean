/-
# Nothing is read beyond the stream

A lexeme that is blamed is one of those at hand (`Reader.offset_le_of_read`), unless a plotter names
another one.  So wherever reading goes on after a fault, it is within the stream, but for a block
that is left unread from a lexeme on that the plotter named (`Executor.InReach`).  An executor that
has nothing pending has therefore come exactly to the end of its stream.
-/

import PlotScript.Proofs.Blocks
import PlotScript.Proofs.Conduct

namespace PlotScript
namespace Executor

variable {σ : Type} {e : Executor σ} {word : Lexeme} {rest : List Lexeme}

/-- The next line begins within the stream, or at its end. -/
theorem nextLine_le {s : Stream} {n : Nat} (h : n < s.size) : nextLine s n ≤ s.size := by
  unfold nextLine
  split
  · exact h
  · rename_i x r hd
    have hlen : s.size - n = r.length + 1 := by
      rw [← List.length_cons, ← hd]
      exact (List.length_drop ..).symm
    have htake : (r.takeWhile fun y => y.place.sameLine x.place).length ≤ r.length :=
      (List.takeWhile_sublist _).length_le
    omega

/-- Passing over a block leads at most to the end of the stream. -/
theorem index_skip_le {b : Block} : (e.skip b).index ≤ e.stream.size := by
  have ht := skipped e b
  rw [← stream_skip e b]
  generalize e.skip b = t at ht ⊢
  cases ht with
  | @closed front back z hw =>
    have hlen : e.waiting.length = e.stream.size - e.index := List.length_drop ..
    rw [hw, List.length_append, List.length_cons] at hlen
    show e.index + front.length + 1 ≤ e.stream.size
    omega
  | unclosed => exact le_rfl

/-- An executor has not gone beyond its stream, unless it leaves a block unread from a lexeme on
that the plotter named. -/
def InReach (e : Executor σ) : Prop :=
  e.index ≤ e.stream.size ∨
    e.skipping.isSome = true ∧ ∃ d ∈ e.bench.deeds, ∃ i, d.named? = some i ∧ (e.index : Int) ≤ i

/-- Where no block is left unread, all is within the stream. -/
theorem InReach.index_le (h : e.InReach) (hk : e.skipping = none) : e.index ≤ e.stream.size := by
  refine h.resolve_right fun ⟨hs, _⟩ => ?_
  rw [hk] at hs
  cases hs

/-- After a complaint about a command an executor is in reach, if the lexeme that is blamed is one
of the stream or was named by the plotter. -/
theorem inReach_recover {start : Nat} {c : Complaint} (hi : e.index ≤ e.stream.size)
    (hs : start < e.stream.size)
    (hc : blamed start c < e.stream.size ∨ ∃ d ∈ e.bench.deeds, d.named? = c.index) :
    (e.recover start word c).state.InReach := by
  have h := recovered e start word c
  generalize e.recover start word c = o at h ⊢
  cases h with
  | ended | lost => exact .inl hi
  | nextLine _ _ hlt => exact .inl (nextLine_le hlt)
  | inBlock =>
    -- The lexeme is one of the stream, or the plotter named it, and that stays noted.
    rcases hc with hc | ⟨d, hd, hn⟩
    · exact .inl hc.le
    by_cases hle : blamed start c ≤ e.stream.size
    · exact .inl hle
    rcases hci : c.index with _ | i <;> simp only [blamed, hci] at hle
    · exact absurd hs.le hle
    · refine .inr ⟨rfl, d, List.mem_append_left _ hd, i, hn.trans hci, ?_⟩
      simp only [blamed, hci]
      omega

/-- A fault of a command that takes lexemes from `start` on is blamed on one of them. -/
theorem blamed_lt {start n : Nat} {c : Complaint} (hn : 0 < n)
    (hc : c.index = none ∨ c.index = some ((start + n - 1 : Nat) : Int)) :
    blamed start c < start + n := by
  unfold blamed
  split
  · omega
  · rename_i i hi
    rcases hc with hc | hc
    · rw [hi] at hc
      cases hc
    · rw [hi] at hc
      obtain rfl := Option.some.inj hc
      omega

section Device

variable [Device σ]

/-- Carrying out a command passes its lexemes; and perhaps there is a complaint, about the command,
about its last lexeme or about one that the plotter named when it was asked last. -/
theorem carryOut_cases (e : Executor σ) (word : Lexeme) (a : Action) (n : Nat) : ∃ es bench,
    (e.carryOut word a n = ⟨.ok (.reported []), es, e.passed n bench⟩ ∨
      ∃ f, e.carryOut word a n = ⟨.error f, es, e.passed n bench⟩) ∨
    ∃ c, e.carryOut word a n = after es ((e.passed n bench).recover e.index word c) ∧
      ((c.index = none ∨ c.index = some ((e.index + n - 1 : Nat) : Int)) ∨
        ∃ before mode call, c.lexeme = none ∧ bench.deeds =
          before ++ [.asked mode call (.error (.complaint .command c.cause c.index))]) := by
  set o := Bench.execute e.params (e.index + n - 1) ⟨word, a⟩ (e.bench.note (.begun e.index a))
    with ho
  refine ⟨o.events, o.state, ?_⟩
  unfold carryOut
  simp only [← ho]
  split
  · exact .inl (.inl rfl)
  · rename_i c hc
    exact .inr ⟨c, rfl, Bench.index_of_execute hc⟩
  · exact .inl (.inr ⟨_, rfl⟩)

/-- Carrying out an action leaves the executor in reach: it goes behind what was read, or back to
where a complaint points. -/
theorem inReach_carryOut {a : Action} {n : Nat} (hn : 0 < n) (hle : e.index + n ≤ e.stream.size) :
    (e.carryOut word a n).state.InReach := by
  obtain ⟨es, bench, (h | ⟨f, h⟩) | ⟨c, h, hc⟩⟩ := carryOut_cases e word a n
  · rw [h]
    exact .inl hle
  · rw [h]
    exact .inl hle
  · rw [h]
    refine inReach_recover (e := e.passed n bench) hle (show e.index < e.stream.size by omega) ?_
    refine hc.imp (fun hc => (blamed_lt hn hc).trans_le hle) ?_
    rintro ⟨before, mode, call, -, hd⟩
    have hd : (e.passed n bench).bench.deeds = _ := hd
    exact ⟨_, hd ▸ List.mem_append_right _ (List.mem_singleton_self _), rfl⟩

/-- **Every step stays in reach.** -/
theorem inReach_step (hw : e.waiting = word :: rest) : (e.step word rest).state.InReach := by
  have hlen := length_waiting hw
  have hs := stepped e word rest
  generalize e.step word rest = o at hs ⊢
  cases hs with
  | skipped => exact .inl ((frame_skip e _).stream ▸ index_skip_le)
  | waits | failed => exact .inl (index_lt_of_waiting hw).le
  | @wrong cause x offset _ _ hr =>
    have hlt := Reader.offset_le_of_read hr
    exact inReach_recover (index_lt_of_waiting hw).le (index_lt_of_waiting hw)
      (.inl (by rw [blamed_add]; omega))
  | read _ _ hr =>
    obtain ⟨hpos, hle⟩ := Reader.taken_read hr
    exact inReach_carryOut hpos (by omega)

/-- A whole run leaves the executor in reach, since every single step does. -/
theorem InReach.run (h : e.InReach) : e.run.state.InReach :=
  rel_run (r := fun e t => e.InReach → t.InReach) (fun _ => id) (fun h k hi => k (h hi))
    (fun hw _ => inReach_step hw) e h

omit [Device σ] in
/-- More lexemes bring nothing out of reach. -/
theorem InReach.extend (h : e.InReach) {s : Stream} (hs : e.stream.entries <+: s.entries)
    {b : Bench σ} (hb : b.deeds = e.bench.deeds) :
    InReach { e with stream := s, bench := b } :=
  h.imp (fun hi => hi.trans hs.length_le) fun hn => ⟨hn.1, hb ▸ hn.2⟩

/-- A use of the executor leaves it in reach. -/
theorem InReach.use (h : e.InReach) (u : Use) : (e.use u).InReach := by
  cases u with
  | parse l =>
    have hx : InReach { e with stream := (e.stream.extend l).2 } :=
      h.extend (b := e.bench) (Stream.entries_isPrefix_extend e.stream l) rfl
    simp only [Executor.use, parse]
    split
    · exact hx
    · exact hx.run
  | discard => exact .inl le_rfl
  | close => exact h.extend (s := e.stream) List.prefix_rfl (congrArg Past.deeds (past_close e))
  | meanwhile s => exact h.extend (s := e.stream) List.prefix_rfl rfl

/-- **Whatever an executor is used for, it stays in reach.** -/
theorem InReach.live (h : e.InReach) (l : List Use) : (e.live l).InReach := by
  induction l generalizing e with
  | nil => exact h
  | cons u l ih => exact ih (h.use u)

omit [Device σ] in
/-- An executor starts in reach, at the beginning of an empty stream. -/
theorem inReach_start (strict : Bool) (p : Params) (device : σ) (site : Site) :
    (start strict p device site).InReach := .inl le_rfl

end Device
end Executor
end PlotScript
