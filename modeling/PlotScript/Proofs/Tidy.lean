/-
# A lenient executor that is given one line at a time

Whatever waits from an earlier line is a block whose closing word has not come (`Executor.Tidy`).
So a command that is no block is among the lexemes that came last.  A step leaves it so
(`Executor.tidy_step`), and so does a run; if the run goes on, the next line may come
(`Executor.tidy_run`).

Reading goes on after a complaint where the line ends that is blamed.  If the lexemes that came last
are on one line, that is the end of the stream (`Executor.nextLine_eq_size`).
-/

import PlotScript.Proofs.Courses
import PlotScript.Proofs.OpenBlock
import PlotScript.Proofs.Recovery

namespace PlotScript
namespace Reader

variable {mode : Option Mode} {more : Bool} {word : Lexeme} {rest : List Lexeme} {b : Block}

/-- A block that is waited for has no closing word. -/
theorem kind_ne_of_waiting (h : (read mode more word rest).result = .error .waiting) :
    ∃ b, word.kind = .blockStart b ∧ ∀ x ∈ rest, x.kind ≠ .blockEnd b := by
  obtain rfl : more = true := by
    cases more with
    | true => rfl
    | false => exact absurd h read_ne_waiting
  obtain ⟨b, hw, hr⟩ := (unclosed_of_waiting h).exists_blockStart
  exact ⟨b, hw, fun x hx => hr x hx b⟩

end Reader

namespace Executor

variable {σ : Type} {e t : Executor σ} {word : Lexeme} {rest : List Lexeme} {b : Block} {k : Nat}

/-- The closing word of a block is due: the block waits for it, or is passed over up to it. -/
inductive Due (e : Executor σ) (b : Block) : Prop
  | passed : e.skipping = some b → Due e b
  | begun {word : Lexeme} {rest : List Lexeme} : e.skipping = none → e.waiting = word :: rest →
    word.kind = .blockStart b → Due e b

/-- A lenient executor, and the number of the first of its lexemes that came last.  If there are
others that wait, they are of a block whose closing word is not among them. -/
structure Tidy (k : Nat) (e : Executor σ) : Prop where
  strict : e.strict = false
  within : k ≤ e.stream.size
  held : e.index < k → ∃ b, e.Due b ∧
    ∀ x ∈ (e.stream.entries.take k).drop e.index, x.kind ≠ .blockEnd b

/-- **On the last line, reading goes on at the end of the stream.** -/
theorem nextLine_eq_size {s : Stream} {n : Nat} (h : Line (s.drop k) []) (hk : k ≤ n)
    (hn : n < s.size) : nextLine s n = s.size := by
  have hlen : (s.drop k).length = s.size - k := List.length_drop ..
  have hnext := h.nextLine_eq (s := s) (n := k) (k := n - k) (List.append_nil _).symm (by omega)
  rwa [Nat.add_sub_cancel' hk, hlen, Nat.add_sub_cancel' (hk.trans hn.le)] at hnext

/-- A block that is passed over is the only one that can be due. -/
theorem Due.eq_of_skipping {b' : Block} (h : e.Due b) (hb : e.skipping = some b') :
    b = b' := by
  cases h with
  | passed hb' => exact Option.some.inj (hb'.symm.trans hb)
  | begun hk =>
    rw [hk] at hb
    cases hb

/-- Where nothing is passed over, a block that is due is the one that the first waiting lexeme
opens. -/
theorem Due.kind_eq (h : e.Due b) (hk : e.skipping = none) (hw : e.waiting = word :: rest) :
    word.kind = .blockStart b := by
  cases h with
  | passed hb =>
    rw [hk] at hb
    cases hb
  | begun _ hw' hb =>
    obtain ⟨rfl, -⟩ := List.cons.inj (hw.symm.trans hw')
    exact hb

/-- A lexeme that waits and is not of the last line is one of those that are held. -/
theorem mem_of_lt {x : Lexeme} {n : Nat} (hx : e.waiting[n]? = some x) (hn : e.index + n < k) :
    x ∈ (e.stream.entries.take k).drop e.index := by
  refine List.mem_of_getElem? (i := n) ?_
  rw [List.getElem?_drop, List.getElem?_take_of_lt hn, ← List.getElem?_drop]
  exact hx

/-- The index of a tidy executor that has come to a command other than a block. -/
theorem Tidy.le_index (h : Tidy k e) (hk : e.skipping = none) (hw : e.waiting = word :: rest)
    (hb : ∀ b, word.kind ≠ .blockStart b) : k ≤ e.index := by
  by_contra hlt
  obtain ⟨b, hd, -⟩ := h.held (Nat.lt_of_not_le hlt)
  exact hb b (hd.kind_eq hk hw)

/-- Passing over more of a block leaves a tidy executor tidy. -/
theorem tidy_skip (h : Tidy k e) (hb : e.skipping = some b) : Tidy k (e.skip b) := by
  have ht := skipped e b
  generalize e.skip b = t at ht ⊢
  cases ht with
  | @closed front back z hw hz =>
    refine ⟨h.strict, h.within, fun hlt => ?_⟩
    -- The closing word would be among the lexemes that are held.
    exfalso
    have hlt : e.index + front.length + 1 < k := hlt
    obtain ⟨b', hd, hnone⟩ := h.held (by omega)
    obtain rfl := hd.eq_of_skipping hb
    refine hnone z (mem_of_lt (n := front.length) ?_ (by omega)) hz
    rw [hw, List.getElem?_append_right le_rfl, Nat.sub_self]
    rfl
  | unclosed =>
    refine ⟨h.strict, h.within, fun hlt => ?_⟩
    exact absurd h.within (Nat.not_le.2 hlt)

/-- A recovery leaves a lenient executor tidy: what it goes back to lies behind the complaint, or a
block is passed over. -/
theorem tidy_recover (h : Tidy k e) (hk : e.skipping = none) (hw : e.waiting = word :: rest)
    (ht : t.stream = e.stream) (hs : t.strict = false) (hi : e.index ≤ t.index) (c : Complaint) :
    Tidy k (t.recover e.index word c).state := by
  have hle := le_blamed e.index c
  have ho := recovered t e.index word c
  generalize t.recover e.index word c = o at ho ⊢
  cases ho with
  | ended hs' =>
    rw [hs] at hs'
    cases hs'
  | lost _ hb =>
    refine ⟨hs, ht ▸ h.within, fun hlt => ?_⟩
    exact absurd ((h.le_index hk hw hb).trans hi) (Nat.not_le.2 hlt)
  | @inBlock b _ hb =>
    refine ⟨hs, ht ▸ h.within, fun hlt => ?_⟩
    obtain ⟨b', hd, hnone⟩ := h.held (Nat.lt_of_le_of_lt hle hlt)
    obtain rfl : b' = b := Kind.blockStart.inj ((hd.kind_eq hk hw).symm.trans hb)
    refine ⟨b', .passed rfl, fun x hx => hnone x ?_⟩
    have hx : x ∈ (t.stream.entries.take k).drop (blamed e.index c) := hx
    rw [ht] at hx
    exact List.drop_subset_drop_left _ hle hx
  | nextLine _ hb =>
    refine ⟨hs, ht ▸ h.within, fun hlt => ?_⟩
    have hlt : nextLine t.stream (blamed e.index c) < k := hlt
    have hnext := lt_nextLine t.stream (blamed e.index c)
    have hle' := h.le_index hk hw hb
    omega

section Device

variable [Device σ]

/-- **What a step of a tidy executor leaves is tidy**, however it ends. -/
theorem tidy_step (h : Tidy k e) (hw : e.waiting = word :: rest) :
    Tidy k (e.step word rest).state := by
  have hs := stepped e word rest
  generalize e.step word rest = o at hs ⊢
  cases hs with
  | skipped hb => exact tidy_skip h hb
  | waits | failed => exact h
  | wrong _ hk => exact tidy_recover h hk hw rfl h.strict le_rfl _
  | @read a n es hk hread =>
    have hpassed (bench : Bench σ) : Tidy k (e.passed n bench) := by
      refine ⟨h.strict, h.within, fun hlt => ?_⟩
      -- A block that was read ends behind all that was held of it.
      exfalso
      have hlt : e.index + n < k := hlt
      obtain ⟨b, hd, hnone⟩ := h.held (by omega)
      obtain ⟨r, z, tail, -, hl, rfl, hz, -⟩ :=
        Reader.exists_blockEnd_of_read (hd.kind_eq hk hw) hread
      refine hnone z (mem_of_lt (n := r.length) ?_ (by omega)) hz
      rw [hw, hl, List.getElem?_append_right le_rfl, Nat.sub_self]
      rfl
    show Tidy k (e.carryOut word a n).state
    obtain ⟨es', bench, (hc | ⟨f, hc⟩) | ⟨c, hc, -⟩⟩ := carryOut_cases e word a n
    · rw [hc]
      exact hpassed bench
    · rw [hc]
      exact hpassed bench
    · rw [hc]
      exact tidy_recover (t := e.passed n bench) h hk hw rfl h.strict (Nat.le_add_right ..) c

/-- What a run leaves is tidy, however it ends. -/
theorem Tidy.run (h : Tidy k e) : Tidy k e.run.state :=
  rel_run (r := fun e t => Tidy k e → Tidy k t) (fun _ h => h) (fun hr hs h => hs (hr h))
    (fun hw h => tidy_step h hw) e h

omit [Device σ] in
/-- A lenient executor with nothing left to read is tidy. -/
theorem tidy_of_size_le (hs : e.strict = false) (hi : e.stream.size ≤ e.index) :
    Tidy e.stream.size e := by
  exact ⟨hs, le_rfl, fun hlt => absurd hi (Nat.not_le.2 hlt)⟩

omit [Device σ] in
/-- A recovery never waits: it goes on behind the complaint, or ends with it. -/
theorem recover_ne_waits (e : Executor σ) (start : Nat) (c : Complaint) :
    (e.recover start word c).result ≠ .ok .waits := by
  intro h
  cases (of_recover_eq_ok h).2.2

/-- A step that waits leaves the executor as it is. -/
theorem read_of_waits (hr : (e.step word rest).result = .ok .waits) :
    e.skipping = none ∧ (e.step word rest).state = e ∧
      (Reader.read e.mode e.mayGrow word rest).result = .error .waiting := by
  unfold step at hr ⊢
  split at hr
  · cases hr
  · rename_i hk
    refine ⟨hk, ?_⟩
    unfold command at hr ⊢
    simp only [after] at hr ⊢
    split at hr
    · rename_i hread
      exact ⟨rfl, hread⟩
    · cases hr
    · exact absurd hr (recover_ne_waits e e.index _)
    · rename_i a n _
      exfalso
      obtain ⟨es, bench, (hc | ⟨f, hc⟩) | ⟨c, hc, -⟩⟩ := carryOut_cases e word a n
      · rw [hc] at hr
        cases hr
      · rw [hc] at hr
        cases hr
      · rw [hc] at hr
        exact recover_ne_waits (e.passed n bench) e.index c hr

/-- **A run that goes on leaves the executor tidy for the next line.** -/
theorem tidy_run (h : Tidy k e) {l : List Complaint} (hr : e.run.result = .ok l) :
    Tidy e.stream.size e.run.state := by
  fun_induction run e generalizing l with
  | case1 e hw => exact tidy_of_size_le h.strict (List.drop_eq_nil_iff.1 hw)
  | case2 => cases hr
  | case3 e word rest hw es t hs =>
    have hwaits : (e.step word rest).result = .ok .waits := by rw [hs]
    obtain ⟨hk, ht, hread⟩ := read_of_waits hwaits
    obtain ⟨b, hb, hnone⟩ := Reader.kind_ne_of_waiting hread
    rw [hs] at ht
    obtain rfl : t = e := ht
    refine ⟨h.strict, le_rfl, fun _ => ⟨b, .begun hk hw hb, fun x hx => ?_⟩⟩
    have hx : x ∈ t.waiting := by
      rwa [Stream.size, List.take_length] at hx
    rw [hw] at hx
    rcases List.mem_cons.1 hx with rfl | hx
    · rw [hb]
      rintro ⟨⟩
    · exact hnone x hx
  | case4 e word rest hw l es t hs _ o ih =>
    have ht := tidy_step h hw
    rw [hs] at ht
    have hstream : t.stream = e.stream := by
      have hf := (frame_step e word rest).stream
      rwa [hs] at hf
    obtain ⟨l', hl'⟩ := exists_of_map_eq_ok hr
    exact hstream ▸ ih ht hl'

omit [Device σ] in
/-- Lexemes are added to those that came last. -/
theorem Tidy.grow (h : Tidy k e) (l : List Lexeme) : Tidy k (e.grow l) := by
  refine ⟨h.strict, ?_, fun hlt => ?_⟩
  · rw [size_grow]
    exact h.within.trans (Nat.le_add_right ..)
  · have hlt : e.index < k := hlt
    obtain ⟨b, hd, hnone⟩ := h.held hlt
    refine ⟨b, ?_, fun x hx => hnone x ?_⟩
    · cases hd with
      | passed hb => exact .passed hb
      | @begun w r hk hw hb =>
        have hle : e.index ≤ e.stream.entries.length := (hlt.trans_le h.within).le
        have hw' : (e.grow l).waiting = w :: (r ++ l) := by
          show (e.stream.entries ++ l).drop e.index = _
          rw [List.drop_append_of_le_length hle]
          exact congrArg (· ++ l) hw
        exact .begun hk hw' hb
    · have hx : x ∈ ((e.stream.entries ++ l).take k).drop e.index := hx
      rwa [List.take_append_of_le_length h.within] at hx

end Device
end Executor
end PlotScript
