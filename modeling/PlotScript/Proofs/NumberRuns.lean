/-
# A drawing takes the numbers that follow it

`DRAW` takes the run of numbers behind it, as far as it goes.  With `n` numbers in the run:

| `n` | next lexeme | is |
| --- | --- | --- |
| even, at least 4 | | a drawing of `n / 2` points, two numbers each |
| odd | any | blamed: it is no number |
| odd | none | blamed on the last number |
| 2 | | blamed on the last number |
| 0 | | blamed on `DRAW` |

A run is read by its length alone; that nothing is lost, repeated or swapped is said of the numbers
at the places `2 * i` and `2 * i + 1` (`Grammar.TwoByTwo`).  Where `DRAW` is at fault, nothing is
done but to report it.

The policy is the one that the language specification adopts in §9: pairs are taken greedily, and an
odd number left over is an error.
-/

import PlotScript.Proofs.FirstFaults

namespace PlotScript
namespace Grammar

variable {r : List Lexeme} {ps : List Point}

/-- The numbers at the front of lexemes. -/
def numberRun (l : List Lexeme) : List Lexeme := l.takeWhile fun x => x.kind = .number

/-- Every point is made of two numbers that follow one another, the first point of the first two. -/
def TwoByTwo (r : List Lexeme) (ps : List Point) : Prop :=
  ∀ i (h : i < ps.length), ∃ x y, r[2 * i]? = some x ∧ r[2 * i + 1]? = some y ∧
    Coordinate x ps[i].1 ∧ Coordinate y ps[i].2

/-- The points of a path are its numbers two by two, whatever follows them. -/
theorem Path.twoByTwo (h : Path r ps) (tail : List Lexeme) : TwoByTwo (r ++ tail) ps := by
  induction h with
  | nil => exact fun i hi => absurd hi (Nat.not_lt_zero i)
  | @cons x y v w r ps hx hy _ ih =>
    rintro (_ | i) hi
    · exact ⟨x, y, rfl, rfl, hx, hy⟩
    · exact ih i (Nat.lt_of_succ_lt_succ hi)

/-- What is wrong with a run of numbers, with the lexeme that is blamed and its distance from the
word of the drawing. -/
inductive WrongRun (word : Lexeme) (rest : List Lexeme) : Cause → Lexeme → Nat → Prop
  | unpaired {x : Lexeme} : (numberRun rest).length % 2 = 1 →
    rest[(numberRun rest).length]? = some x →
    WrongRun word rest .drawInvalidY x ((numberRun rest).length + 1)
  | cutShort {x : Lexeme} : (numberRun rest).length % 2 = 1 →
    rest[(numberRun rest).length]? = none → (numberRun rest).getLast? = some x →
    WrongRun word rest .drawWithoutY x (numberRun rest).length
  | onePoint {x : Lexeme} : (numberRun rest).length = 2 → (numberRun rest).getLast? = some x →
    WrongRun word rest .drawTooShort x 2
  | noPoint : (numberRun rest).length = 0 → WrongRun word rest .drawTooShort word 0

end Grammar

namespace Reader

open Grammar

variable {word : Lexeme} {l rest : List Lexeme}

/-- Numbers can be read, all of them. -/
theorem exists_coordinates (hk : ∀ x ∈ l, x.kind = .number) (hn : Numbers l) :
    ∃ vs, List.Forall₂ Coordinate l vs := by
  induction l with
  | nil => exact ⟨[], .nil⟩
  | cons x l ih =>
    rw [List.forall_mem_cons] at hk
    obtain ⟨hx, hl⟩ := List.forall_mem_cons.1 hn
    obtain ⟨n, hn⟩ := Option.isSome_iff_exists.1 (hx hk.1)
    obtain ⟨vs, hvs⟩ := ih hk.2 hl
    exact ⟨_, .cons ⟨hk.1, n, hn, rfl⟩ hvs⟩

/-- A run of numbers is judged by its length and by what follows it. -/
theorem readDraw_eq (hn : Numbers rest) : ∃ vs, List.Forall₂ Coordinate (numberRun rest) vs ∧
    readDraw word rest =
      if (numberRun rest).length % 2 = 1 then
        match rest[(numberRun rest).length]? with
        | some x => fail .drawInvalidY x ((numberRun rest).length + 1)
        | none => fail .drawWithoutY ((numberRun rest).getLast?.getD word) (numberRun rest).length
      else if (numberRun rest).length < 4 then
        fail .drawTooShort ((numberRun rest).getLast?.getD word) (numberRun rest).length
      else .ok (.draw (pairs vs), (numberRun rest).length + 1) := by
  have hk : ∀ x ∈ numberRun rest, x.kind = .number := fun _ => kind_of_mem_takeWhile
  obtain ⟨vs, hvs⟩ := exists_coordinates hk fun x hx => hn x ((List.takeWhile_sublist _).mem hx)
  refine ⟨vs, hvs, ?_⟩
  have hread : (rest.takeWhile fun x => x.kind = .number).mapM coordinate = .ok vs :=
    (mapM_coordinate_eq_ok hk).2 hvs
  unfold readDraw
  simp only [hread, bind, Except.bind]
  rfl

/-- Reading a run of numbers fails if and only if the run is wrong, with the complaint that says in
which way.  A run of odd length lacks a number, and one of even length is too short. -/
theorem readDraw_eq_error (hn : Numbers rest) {stop : Stop} :
    readDraw word rest = .error stop ↔
      ∃ cause x offset, stop = .wrong cause x offset ∧ WrongRun word rest cause x offset := by
  obtain ⟨vs, -, h⟩ := @readDraw_eq word rest hn
  rw [h]
  constructor
  · intro h
    split at h
    · rename_i hodd
      obtain ⟨last, hlast⟩ : ∃ x, (numberRun rest).getLast? = some x :=
        Option.isSome_iff_exists.1 (by
          rw [List.getLast?_isSome]
          rintro hnil
          rw [hnil] at hodd
          cases hodd)
      split at h
      · rename_i x hx
        cases h
        exact ⟨_, x, _, rfl, .unpaired hodd hx⟩
      · rename_i hx
        cases h
        rw [hlast]
        exact ⟨_, last, _, rfl, .cutShort hodd hx hlast⟩
    · rename_i heven
      split at h
      · rename_i hlt
        cases h
        rcases hrun : numberRun rest with _ | ⟨x, _ | ⟨y, _ | ⟨z, r⟩⟩⟩
        · exact ⟨_, word, _, rfl, .noPoint (by rw [hrun]; rfl)⟩
        · rw [hrun] at heven
          exact absurd rfl heven
        · exact ⟨_, y, _, rfl, .onePoint (by rw [hrun]; rfl) (by rw [hrun]; rfl)⟩
        · rw [hrun] at heven hlt
          simp only [List.length_cons] at heven hlt
          omega
      · cases h
  · rintro ⟨cause, x, offset, rfl, h⟩
    cases h with
    | unpaired hodd hx => simp only [if_pos hodd, hx, fail]
    | cutShort hodd hx hlast => simp only [if_pos hodd, hx, hlast, fail, Option.getD_some]
    | onePoint hlen hlast => simp [hlen, hlast, fail]
    | noPoint hlen => simp [List.length_eq_zero_iff.1 hlen, fail]

/-- What is read of a drawing are the points of its run. -/
theorem of_readDraw {a : Action} {k : Nat} (h : readDraw word rest = .ok (a, k)) :
    (numberRun rest).length % 2 = 0 ∧ 4 ≤ (numberRun rest).length ∧
      k = (numberRun rest).length + 1 ∧ ∃ ps, a = .draw ps ∧
        ps.length = (numberRun rest).length / 2 ∧ TwoByTwo rest ps := by
  obtain ⟨r, tail, ps, rfl, rfl, hp, hlen, rfl, ht⟩ := readDraw_eq_ok.1 h
  have hrun : numberRun (r ++ tail) = r := takeWhile_of_path hp ht
  have hr := hp.length_eq
  rw [hrun]
  exact ⟨by omega, by omega, rfl, ps, rfl, by omega, hp.twoByTwo tail⟩

/-- Reading a run of numbers succeeds if and only if there are at least two whole points. -/
theorem readDraw_isOk (hn : Numbers rest) : (∃ v, readDraw word rest = .ok v) ↔
    (numberRun rest).length % 2 = 0 ∧ 4 ≤ (numberRun rest).length := by
  constructor
  · rintro ⟨⟨a, k⟩, h⟩
    obtain ⟨heven, hlen, -⟩ := of_readDraw h
    exact ⟨heven, hlen⟩
  · rintro ⟨heven, hlen⟩
    obtain ⟨vs, -, h⟩ := @readDraw_eq word rest hn
    rw [if_neg (by omega), if_neg (by omega)] at h
    exact ⟨_, h⟩

/-- In interactive mode a command to draw is read as its run of numbers, whatever may come behind
it. -/
theorem read_eq_readDraw {more : Bool} (hk : word.kind = .draw) :
    read (some .interactive) more word rest = .of (readDraw word rest) := by
  unfold read readSimple
  rw [hk]
  rfl

end Reader

namespace Executor

open Grammar

variable {σ : Type} [Device σ] {e : Executor σ} {word : Lexeme} {rest : List Lexeme}

/-- **A drawing takes the whole run of numbers behind it**, or it is at fault.  It is read if and
only if the run is of even length and has two points at least, and then its points are the numbers
two by two, in order, and the executor passes the whole run.  Otherwise the complaint says in which
way the run is wrong, names the lexeme that is blamed and its place in the stream, and nothing is
called. -/
theorem runs_read (hw : e.waiting = word :: rest) (hk : word.kind = .draw)
    (hm : e.mode = some .interactive) (hn : Reader.Numbers rest) :
    let n := (numberRun rest).length
    let r := Reader.read e.mode e.mayGrow word rest
    ((∃ v, r.result = .ok v) ↔ n % 2 = 0 ∧ 4 ≤ n) ∧
    (∀ a k, r.result = .ok (a, k) → k = n + 1 ∧ ∃ ps, a = .draw ps ∧ ps.length = n / 2 ∧
      TwoByTwo rest ps ∧ e.command word rest = e.carryOut word (.draw ps) (n + 1)) ∧
    (∀ stop, r.result = .error stop ↔
      ∃ cause x offset, stop = .wrong cause x offset ∧ WrongRun word rest cause x offset) ∧
    ∀ cause x offset, WrongRun word rest cause x offset →
      let c : Complaint := ⟨cause, some x, some (e.index + offset)⟩
      e.stream.entries[e.index + offset]? = some x ∧
      e.command word rest = e.recover e.index word c ∧
      (e.command word rest).events = [.report .command c] ∧
      (e.command word rest).state.bench = e.bench.note (.reported e.index c) := by
  have hread : Reader.read e.mode e.mayGrow word rest = .of (Reader.readDraw word rest) := by
    rw [hm]
    exact Reader.read_eq_readDraw hk
  simp only [command, hread, Reader.Reading.of]
  refine ⟨Reader.readDraw_isOk hn, fun a k h => ?_, fun stop => Reader.readDraw_eq_error hn,
    fun cause x offset h => ?_⟩
  · obtain ⟨-, -, rfl, ps, rfl, hlen, hps⟩ := Reader.of_readDraw h
    refine ⟨rfl, ps, rfl, hlen, hps, ?_⟩
    rw [h]
    rfl
  · -- A wrong run is blamed at a lexeme that has been looked at.
    have hresult : Reader.readDraw word rest = .error (.wrong cause x offset) :=
      (Reader.readDraw_eq_error hn).2 ⟨cause, x, offset, rfl, h⟩
    rw [getElem?_of_waiting hw, hresult]
    exact ⟨Reader.points_readDraw cause x offset hresult, rfl, events_recover e e.index word _,
      bench_recover e e.index word _⟩

/-- A lexeme of a drawing with a number too many. -/
def fiveNumbers : Kind → String → Int → Lexeme := inLine "DRAW 0 0 5 7 9 HOME"

/-- An executor at the word of the drawing, in interactive mode; more lexemes may come. -/
def atFiveNumbers : Executor Preview :=
  { start false .standard Preview.start .bare with
    stream := ⟨[fiveNumbers .draw "DRAW" 0, fiveNumbers .number "0" 5, fiveNumbers .number "0" 7,
      fiveNumbers .number "5" 9, fiveNumbers .number "7" 11, fiveNumbers .number "9" 13,
      fiveNumbers .home "HOME" 15], false⟩
    bench := (Bench.start Preview.start .bare).setMode .interactive }

/-- The word behind the numbers is blamed, and nothing is drawn. -/
theorem runs_read_fiveNumbers : ∃ word rest, atFiveNumbers.waiting = word :: rest ∧
    word.kind = .draw ∧ atFiveNumbers.mode = some .interactive ∧ Reader.Numbers rest ∧
    (numberRun rest).length = 5 ∧
    (Reader.read atFiveNumbers.mode atFiveNumbers.mayGrow word rest).result =
      .error (.wrong .drawInvalidY (fiveNumbers .home "HOME" 15) 6) ∧
    (atFiveNumbers.command word rest).state.bench = atFiveNumbers.bench.note
      (.reported 0 ⟨.drawInvalidY, some (fiveNumbers .home "HOME" 15), some 6⟩) := by
  have hn : Reader.Numbers (atFiveNumbers.waiting.drop 1) := by decide +kernel
  have hrun : (numberRun (atFiveNumbers.waiting.drop 1)).length = 5 := by decide +kernel
  have hwrong : WrongRun (fiveNumbers .draw "DRAW" 0) (atFiveNumbers.waiting.drop 1) .drawInvalidY
      (fiveNumbers .home "HOME" 15) 6 := by
    have h := @WrongRun.unpaired (fiveNumbers .draw "DRAW" 0) (atFiveNumbers.waiting.drop 1)
      (fiveNumbers .home "HOME" 15)
    rw [hrun] at h
    exact h rfl rfl
  have h := runs_read (e := atFiveNumbers) rfl rfl rfl hn
  exact ⟨_, _, rfl, rfl, rfl, hn, hrun, (h.2.2.1 _).2 ⟨_, _, _, rfl, hwrong⟩,
    (h.2.2.2 _ _ _ hwrong).2.2.2⟩

end Executor
end PlotScript
