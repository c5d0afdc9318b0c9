/-
# Reading is the grammar

`Reader.read` takes a command exactly where the grammar has one: what it takes spells the command
(`begins_of_read`), and whatever spells a command is taken, as long as the values of its settings
are short enough to be read (`read_of_begins`).
-/

import PlotScript.Command.Reader
import PlotScript.Proofs.Grammar
import Mathlib.Data.List.Chain
import Mathlib.Data.List.Forall2
import Mathlib.Data.List.TakeWhile

namespace PlotScript
namespace Reader

open Grammar

variable {mode : Option Mode} {word : Lexeme} {rest : List Lexeme}

/-- A command that needs a mode goes on if one is set. -/
theorem needMode_eq_ok {m : Mode} : needMode mode word = .ok m ↔ mode = some m := by
  cases mode <;> simp [needMode, fail]

/-- A command that needs the interactive mode goes on if that is set. -/
theorem needInteractive_eq_ok {u : Unit} :
    needInteractive mode word = .ok u ↔ mode = some .interactive := by
  rcases mode with _ | _ | _ <;> simp [needInteractive, needMode, fail, bind, Except.bind]

/-- A command that needs the mode for plots goes on if that is set. -/
theorem needPlot_eq_ok {u : Unit} : needPlot mode word = .ok u ↔ mode = some .plot := by
  rcases mode with _ | _ | _ <;> simp [needPlot, needMode, fail, bind, Except.bind]

/-- A number token is read as the coordinate that the grammar gives it. -/
theorem coordinate_eq_ok {x : Lexeme} {v : Number} (hx : x.kind = .number) :
    coordinate x = .ok v ↔ Coordinate x v := by
  unfold coordinate Coordinate
  cases digitsValue? x.text <;> simp [hx, eq_comm]

/-- A number is read if a lexeme follows that is one. -/
theorem readNumber_eq_ok {a : Argument} {offset : Nat} {x : Option Lexeme} {v : Number} :
    readNumber a word offset x = .ok v ↔ ∃ y, x = some y ∧ Coordinate y v := by
  cases x with
  | none => simp [readNumber, fail]
  | some y =>
    simp only [readNumber]
    split
    · rename_i hy
      simp [coordinate_eq_ok hy]
    · rename_i hy
      simp [fail, Coordinate, hy]

/-- A point is read if two lexemes follow that are numbers, whatever comes behind them.  The two
coordinates are read one after the other, each from the lexeme at its place. -/
theorem readMotion_eq_ok {x y : Number} : readMotion word rest = .ok (x, y) ↔
    ∃ u v r, rest = u :: v :: r ∧ Coordinate u x ∧ Coordinate v y := by
  unfold readMotion
  constructor
  · intro h
    obtain ⟨x', hx, h⟩ := bind_eq_ok h
    obtain ⟨y', hy, h⟩ := bind_eq_ok h
    simp only [pure, Except.pure, Except.ok.injEq, Prod.mk.injEq] at h
    obtain ⟨rfl, rfl⟩ := h
    obtain ⟨u, hu, hux⟩ := readNumber_eq_ok.1 hx
    obtain ⟨v, hv, hvy⟩ := readNumber_eq_ok.1 hy
    match rest, hu, hv with
    | u' :: v' :: r, hu, hv =>
      obtain rfl := Option.some.inj hu
      obtain rfl := Option.some.inj hv
      exact ⟨u', v', r, rfl, hux, hvy⟩
  · rintro ⟨u, v, r, rfl, hu, hv⟩
    have hx : readNumber .x word 1 (u :: v :: r)[0]? = .ok x := readNumber_eq_ok.2 ⟨u, rfl, hu⟩
    have hy : readNumber .y word 2 (u :: v :: r)[1]? = .ok y := readNumber_eq_ok.2 ⟨v, rfl, hv⟩
    rw [hx, hy]
    rfl

/-- The numbers of a list of lexemes, one by one.  The induction is on the lexemes, which are all
known to be numbers in form. -/
theorem mapM_coordinate_eq_ok {l : List Lexeme} (hl : ∀ x ∈ l, x.kind = .number)
    {vs : List Number} : l.mapM coordinate = .ok vs ↔ List.Forall₂ Coordinate l vs := by
  induction l generalizing vs with
  | nil => simp [pure, Except.pure, eq_comm]
  | cons x r ih =>
    have hx := hl x List.mem_cons_self
    have hr : ∀ y ∈ r, y.kind = .number := fun y hy => hl y (List.mem_cons_of_mem _ hy)
    rw [List.mapM_cons, List.forall₂_cons_left_iff]
    constructor
    · intro h
      obtain ⟨v, hv, h⟩ := bind_eq_ok h
      obtain ⟨us, hu, h⟩ := bind_eq_ok h
      simp only [pure, Except.pure, Except.ok.injEq] at h
      exact ⟨v, us, (coordinate_eq_ok hx).1 hv, (ih hr).1 hu, h.symm⟩
    · rintro ⟨v, us, hv, hu, rfl⟩
      rw [(coordinate_eq_ok hx).2 hv, (ih hr).2 hu]
      rfl

/-- Numbers read in pairs are the points of a drawing. -/
theorem path_pairs {l : List Lexeme} {vs : List Number} (h : List.Forall₂ Coordinate l vs)
    (he : l.length % 2 = 0) : Path l (pairs vs) := by
  match l, vs, h with
  | [], [], _ => exact .nil
  | [x], [v], _ => simp at he
  | x :: y :: r, v :: w :: us, .cons hv (.cons hw hr) =>
    refine .cons hv hw (path_pairs hr ?_)
    simp only [List.length_cons] at he
    omega

/-- The points of a drawing are its numbers in pairs. -/
theorem exists_pairs {l : List Lexeme} {ps : List Point} (h : Path l ps) :
    ∃ vs, List.Forall₂ Coordinate l vs ∧ pairs vs = ps := by
  induction h with
  | nil => exact ⟨[], .nil, rfl⟩
  | @cons x y v w r ps hv hw _ ih =>
    obtain ⟨vs, hvs, rfl⟩ := ih
    exact ⟨v :: w :: vs, .cons hv (.cons hw hvs), rfl⟩

/-- The numbers of a drawing are number tokens. -/
theorem kind_of_mem_takeWhile {l : List Lexeme} {x : Lexeme}
    (h : x ∈ l.takeWhile fun x => x.kind = .number) : x.kind = .number := by
  simpa using List.mem_takeWhile_imp h

/-- What follows the numbers of a drawing does not belong to it. -/
theorem endsBefore_dropWhile (ps : List Point) (l : List Lexeme) :
    (Action.draw ps).EndsBefore (l.dropWhile fun x => x.kind = .number) := by
  induction l with
  | nil => trivial
  | cons x r ih =>
    by_cases hx : x.kind = .number
    · rwa [List.dropWhile_cons_of_pos (by simpa using hx)]
    · rw [List.dropWhile_cons_of_neg (by simpa using hx)]
      exact hx

/-- The numbers of a drawing are all that follow its word. -/
theorem takeWhile_of_path {r tail : List Lexeme} {ps : List Point} (h : Path r ps)
    (ht : (Action.draw ps).EndsBefore tail) :
    ((r ++ tail).takeWhile fun x => x.kind = .number) = r := by
  rw [List.takeWhile_append_of_pos fun x hx => by simpa using h.kind_of_mem hx]
  cases tail with
  | nil => simp
  | cons x t =>
    have hx : x.kind ≠ .number := ht
    rw [List.takeWhile_cons_of_neg (by simpa using hx), List.append_nil]

/-- A drawing is read if all numbers that follow are two at least, pair by pair, and no number is
left over.  In both directions the numbers are the longest run of number tokens behind the word. -/
theorem readDraw_eq_ok {a : Action} {n : Nat} : readDraw word rest = .ok (a, n) ↔
    ∃ r tail ps, rest = r ++ tail ∧ n = r.length + 1 ∧ Path r ps ∧ 2 ≤ ps.length ∧
      a = .draw ps ∧ a.EndsBefore tail := by
  constructor
  · intro h
    unfold readDraw at h
    obtain ⟨vs, hvs, h⟩ := bind_eq_ok h
    simp only at h
    split at h
    · split at h <;> simp [fail] at h
    · rename_i he
      split at h
      · simp [fail] at h
      · rename_i hl
        simp only [pure, Except.pure, Except.ok.injEq, Prod.mk.injEq] at h
        obtain ⟨rfl, rfl⟩ := h
        -- The run is of even length, so it is made of pairs.
        have hp := path_pairs ((mapM_coordinate_eq_ok fun _ => kind_of_mem_takeWhile).1 hvs)
          (by omega)
        have hlen := hp.length_eq
        exact ⟨_, _, _, List.takeWhile_append_dropWhile.symm, rfl, hp, by omega, rfl,
          endsBefore_dropWhile _ _⟩
  · rintro ⟨r, tail, ps, rfl, rfl, hp, hlen, rfl, ht⟩
    obtain ⟨vs, hvs, rfl⟩ := exists_pairs hp
    have hr := hp.length_eq
    unfold readDraw
    rw [takeWhile_of_path hp ht]
    simp only [(mapM_coordinate_eq_ok fun _ => hp.kind_of_mem).2 hvs]
    rw [bind, Except.instMonad]
    simp only [Except.bind]
    rw [if_neg (by omega), if_neg (by omega)]
    rfl

/-- A word that names a setting. -/
def isSetting : Kind → Bool
  | .setting _ => true
  | _ => false

/-- The numbers given as values of settings are short enough to be read. -/
def ShortValues (l : List Lexeme) : Prop :=
  l.IsChain fun x y => isSetting x.kind = true → y.kind = .number → y.text.length ≤ digitLimit

instance (l : List Lexeme) : Decidable (ShortValues l) :=
  inferInstanceAs (Decidable (l.IsChain fun _ _ => _ → _ → _))

/-- The values in the first part of lexemes are short if all are. -/
theorem ShortValues.take {l : List Lexeme} (h : ShortValues l) (n : Nat) :
    ShortValues (l.take n) := h.infix (List.take_prefix n l).isInfix

/-- What is read as the value of a setting is what the grammar gives it: a text for the port, and
otherwise a whole number within the limits of the setting, if it has any. -/
theorem gives_of_readValue {s : Setting} {x : Lexeme} {offset : Nat} {v : Value}
    (h : readValue s x offset = .ok v) : Gives s x v := by
  unfold readValue at h
  split at h
  · simp [fail] at h
  · rename_i hk
    rw [valueKind, not_not] at hk
    split at h
    · rename_i ht
      rw [if_pos ht] at hk
      simp only [Except.ok.injEq] at h
      exact h ▸ .text ht hk
    · rename_i ht
      rw [if_neg ht] at hk
      split at h
      · simp at h
      · split at h
        · simp at h
        · rename_i n hn
          split at h
          · rename_i low high hr
            split at h
            · rename_i hle
              simp only [Except.ok.injEq] at h
              refine h ▸ .number (by simpa using ht) hk hn fun low' high' hr' => ?_
              rw [hr] at hr'
              simp only [Option.some.injEq, Prod.mk.injEq] at hr'
              obtain ⟨rfl, rfl⟩ := hr'
              exact hle
            · simp [fail] at h
          · rename_i hr
            simp only [Except.ok.injEq] at h
            refine h ▸ .number (by simpa using ht) hk hn fun low high hr' => ?_
            rw [hr] at hr'
            simp at hr'

/-- A value that the grammar gives a setting is read, if it is short enough.  Only the length of its
digits can stand against a number that is in range. -/
theorem readValue_of_gives {s : Setting} {x : Lexeme} {offset : Nat} {v : Value}
    (h : Gives s x v) (hs : x.kind = .number → x.text.length ≤ digitLimit) :
    readValue s x offset = .ok v := by
  cases h with
  | text ht hk =>
    unfold readValue
    rw [if_neg (by simp [valueKind, ht, hk]), if_pos ht]
  | @number n ht hk hn hr =>
    have hs := hs hk
    unfold readValue
    rw [if_neg (by simp [valueKind, ht, hk]), if_neg (by simp [ht]), if_neg (by omega), hn]
    simp only
    split
    · rename_i low high hlh
      rw [if_pos (hr low high hlh)]
    · rfl

variable {b : Block} {interactive more : Bool} {seen : List Setting}

/-- What is read of a block are its settings, and then its closing word.  The cases are those of
reading a block: it ends at the closing word, or goes on behind a value. -/
theorem settings_of_readSettings {offset : Nat} {l : List Lexeme}
    {settings : List (Setting × Value)} {n : Nat}
    (h : (readSettings b interactive more word seen offset l).result = .ok (settings, n)) :
    ∃ r z tail, l = r ++ z :: tail ∧ n = offset + r.length + 1 ∧ Settings r settings ∧
      z.kind = .blockEnd b ∧ ∀ x ∈ settings, x.1.allowedIn interactive = true := by
  fun_induction readSettings b interactive more word seen offset l generalizing settings with
  | case1 => split at h <;> simp [fail] at h
  | case2 seen offset z hz | case6 seen offset z y tail hz =>
    simp only [Except.ok.injEq, Prod.mk.injEq] at h
    obtain ⟨rfl, rfl⟩ := h
    exact ⟨[], z, _, rfl, by simp, .nil, hz, by simp⟩
  | case3 => simp only at h; split at h <;> simp [fail] at h
  | case4 | case5 | case7 | case9 | case10 => simp [fail] at h
  | case8 =>
    rename_i x y rest _ s hs ha v hv _ ih
    obtain ⟨m, hm, rfl⟩ := result_cons h
    obtain ⟨r, z, tail, rfl, rfl, hr, hz, hall⟩ := ih hm
    refine ⟨x :: y :: r, z, tail, rfl, ?_, .cons hs (gives_of_readValue hv) hr, hz, ?_⟩
    · simp only [List.length_cons]
      omega
    · rintro w hw
      rcases List.mem_cons.1 hw with rfl | hw
      · exact ha
      · exact hall w hw

/-- Settings that the mode allows, with their values and a closing word behind them, are read,
whatever follows. -/
theorem readSettings_of_settings {r tail : List Lexeme} {settings : List (Setting × Value)}
    {z : Lexeme} (hr : Settings r settings) (hz : z.kind = .blockEnd b)
    (ha : ∀ x ∈ settings, x.1.allowedIn interactive = true) (hs : ShortValues r)
    (seen : List Setting) (offset : Nat) :
    (readSettings b interactive more word seen offset (r ++ z :: tail)).result =
      .ok (settings, offset + r.length + 1) := by
  induction hr generalizing seen offset with
  | nil =>
    cases tail with
    | nil => simp [readSettings, hz]
    | cons y t => simp [readSettings, hz]
  | @cons x y s v r l hx hv _ ih =>
    have hc := List.isChain_cons_cons.1 hs
    have hy : readValue s y (offset + 1) = .ok v := readValue_of_gives hv (hc.1 (by rw [hx]; rfl))
    have h := ih (fun w hw => ha w (List.mem_cons_of_mem _ hw)) hc.2.tail (s :: seen) (offset + 2)
    show (readSettings b interactive more word seen offset (x :: y :: (r ++ z :: tail))).result = _
    rw [readSettings, if_neg (by simp [hx])]
    simp only [hx, ha (s, v) List.mem_cons_self, if_true, hy, BlockReading.cons, h, Except.map,
      List.length_cons]
    congr 2
    omega

/-- A block goes on in any mode; an update does only in the interactive one. -/
theorem needBlockMode_eq_ok {m : Mode} : needBlockMode b mode word = .ok m ↔
    mode = some m ∧ (b = .update → m = .interactive) := by
  cases b with
  | options => simp [needBlockMode, needMode_eq_ok]
  | update =>
    rcases mode with _ | _ | _ <;> cases m <;>
      simp [needBlockMode, needInteractive, needMode, fail, bind, Except.bind, pure, Except.pure]

/-- The modes in which a block may stand, by the mode it is read in. -/
theorem permittedIn_setOptions {m : Mode} {l : List (Setting × Value)} :
    (Action.setOptions b l).PermittedIn (some m) ↔ (b = .update → m = .interactive) ∧
      ∀ x ∈ l, x.1.allowedIn (m == .interactive) = true := by
  cases b <;> cases m <;> simp [Action.PermittedIn, Setting.allowedIn]

/-- A block is read if its settings are, and comes to an action that sets them. -/
theorem readBlock_eq_ok {m : Mode} {a : Action} {n : Nat} :
    (readBlock b m more word rest).result = .ok (a, n) ↔ ∃ l,
      (readSettings b (m == .interactive) more word [] 1 rest).result = .ok (l, n) ∧
        a = .setOptions b l := by
  unfold readBlock
  simp only
  split
  · rename_i e he
    simp [he]
  · rename_i l k hl
    simp only [hl, Except.ok.injEq, Prod.mk.injEq, and_assoc, exists_eq_left']
    exact and_comm.trans (and_congr Iff.rfl eq_comm)

/-- Two readings, one after the other, give a result exactly if both do. -/
theorem ok_bind_eq_ok {α β : Type} {x : Except Stop α} {f : α → Except Stop β} {v : β} :
    (x >>= f) = .ok v ↔ ∃ u, x = .ok u ∧ f u = .ok v :=
  ⟨bind_eq_ok, fun ⟨u, hu, h⟩ => by rw [hu]; exact h⟩

/-- The commands of one word, by that word. -/
theorem permittedIn_of_ofWord {k : Kind} {a : Action} (h : Action.ofWord? k = some a) :
    a.PermittedIn mode ↔ mode = some .interactive := by
  unfold Action.ofWord? at h
  split at h <;> simp at h <;> subst h <;> exact Iff.rfl

/-- A command of one word ends with it, whatever follows. -/
theorem endsBefore_of_ofWord {k : Kind} {a : Action} (h : Action.ofWord? k = some a)
    (l : List Lexeme) : a.EndsBefore l := by
  unfold Action.ofWord? at h
  split at h <;> simp at h <;> subst h <;> trivial

/-- A mode is read if its name follows and none is set.  The mode that is set is looked at only if a
name follows. -/
theorem readMode_eq_ok {a : Action} {n : Nat} : readMode mode word rest = .ok (a, n) ↔
    ∃ x tail m, rest = x :: tail ∧ x.kind = .modeName m ∧ mode = none ∧ a = .setMode m ∧
      n = 2 := by
  cases rest with
  | nil => simp [readMode, fail]
  | cons x tail =>
    simp only [readMode]
    constructor
    · intro h
      split at h
      · simp [fail] at h
      · rename_i m hx
        obtain ⟨rfl, rfl⟩ := Prod.mk.inj (Except.ok.inj h)
        exact ⟨x, tail, m, rfl, hx, rfl, rfl, rfl⟩
      · simp [fail] at h
    · rintro ⟨y, t, m, hl, hy, rfl, rfl, rfl⟩
      obtain ⟨rfl, rfl⟩ := List.cons.inj hl
      simp [hy]

/-- A drawing is read if a text follows that is not empty.  Whether there is a file at that path is
asked when the command is carried out. -/
theorem readSetPlot_eq_ok {a : Action} {n : Nat} : readSetPlot word rest = .ok (a, n) ↔
    ∃ x tail, rest = x :: tail ∧ x.kind = .string ∧ x.text ≠ "" ∧ a = .setPlot x.text ∧
      n = 2 := by
  cases rest with
  | nil => simp [readSetPlot, fail]
  | cons x tail =>
    simp only [readSetPlot]
    constructor
    · intro h
      split at h
      · rename_i hx
        obtain ⟨rfl, rfl⟩ := Prod.mk.inj (Except.ok.inj h)
        exact ⟨x, tail, rfl, hx.1, by simpa using hx.2, rfl, rfl⟩
      · simp [fail] at h
    · rintro ⟨y, t, hl, hk, ht, rfl, rfl⟩
      obtain ⟨rfl, rfl⟩ := List.cons.inj hl
      rw [if_pos ⟨hk, by simpa using ht⟩]

/-- The number that `WAIT` takes. -/
theorem readNumber_head_eq_ok {v : Number} : readNumber .time word 1 rest[0]? = .ok v ↔
    ∃ x tail, rest = x :: tail ∧ Coordinate x v := by
  rw [readNumber_eq_ok]
  cases rest with
  | nil => simp
  | cons x tail => simp

/-- What is read as a command without a block is a command of the grammar, and the mode permits it.
The cases are those of the reader, one for each word. -/
theorem begins_of_readSimple {a : Action} {n : Nat} (h : readSimple mode word rest = .ok (a, n)) :
    Begins mode (word :: rest) a n := by
  unfold readSimple at h
  split at h
  · rename_i hw
    obtain ⟨x, tail, m, rfl, hx, hm, rfl, rfl⟩ := readMode_eq_ok.1 h
    exact ⟨[word, x], tail, rfl, rfl, .mode hw hx, trivial, hm⟩
  · rename_i hw
    obtain ⟨_, hm, h⟩ := ok_bind_eq_ok.1 h
    obtain ⟨⟨x, y⟩, hxy, h⟩ := ok_bind_eq_ok.1 h
    obtain ⟨rfl, rfl⟩ := Prod.mk.inj (Except.ok.inj h)
    obtain ⟨u, v, tail, rfl, hu, hv⟩ := readMotion_eq_ok.1 hxy
    exact ⟨[word, u, v], tail, rfl, rfl, .goTo hw hu hv, trivial, needInteractive_eq_ok.1 hm⟩
  · rename_i hw
    obtain ⟨_, hm, h⟩ := ok_bind_eq_ok.1 h
    obtain ⟨⟨x, y⟩, hxy, h⟩ := ok_bind_eq_ok.1 h
    obtain ⟨rfl, rfl⟩ := Prod.mk.inj (Except.ok.inj h)
    obtain ⟨u, v, tail, rfl, hu, hv⟩ := readMotion_eq_ok.1 hxy
    exact ⟨[word, u, v], tail, rfl, rfl, .goToRelative hw hu hv, trivial,
      needInteractive_eq_ok.1 hm⟩
  · rename_i hw
    obtain ⟨_, hm, h⟩ := ok_bind_eq_ok.1 h
    obtain ⟨r, tail, ps, rfl, rfl, hp, hlen, rfl, ht⟩ := readDraw_eq_ok.1 h
    exact ⟨word :: r, tail, rfl, rfl, .draw hw hp hlen, ht, needInteractive_eq_ok.1 hm⟩
  · rename_i hw
    obtain ⟨_, hm, h⟩ := ok_bind_eq_ok.1 h
    obtain ⟨v, hv, h⟩ := ok_bind_eq_ok.1 h
    obtain ⟨rfl, rfl⟩ := Prod.mk.inj (Except.ok.inj h)
    obtain ⟨x, tail, rfl, hx⟩ := readNumber_head_eq_ok.1 hv
    exact ⟨[word, x], tail, rfl, rfl, .wait hw hx, trivial, needInteractive_eq_ok.1 hm⟩
  · rename_i hw
    obtain ⟨_, hm, h⟩ := ok_bind_eq_ok.1 h
    obtain ⟨x, tail, rfl, hk, ht, rfl, rfl⟩ := readSetPlot_eq_ok.1 h
    exact ⟨[word, x], tail, rfl, rfl, .setPlot hw hk ht, trivial, needPlot_eq_ok.1 hm⟩
  · rename_i hw
    obtain ⟨_, hm, h⟩ := ok_bind_eq_ok.1 h
    obtain ⟨rfl, rfl⟩ := Prod.mk.inj (Except.ok.inj h)
    exact ⟨[word], rest, rfl, rfl, .plot hw, trivial, needPlot_eq_ok.1 hm⟩
  · simp [fail] at h
  · split at h
    · rename_i action ha
      obtain ⟨_, hm, h⟩ := ok_bind_eq_ok.1 h
      obtain ⟨rfl, rfl⟩ := Prod.mk.inj (Except.ok.inj h)
      exact ⟨[word], rest, rfl, rfl, .word ha, endsBefore_of_ofWord ha _,
        (permittedIn_of_ofWord ha).2 (needInteractive_eq_ok.1 hm)⟩
    · simp [fail] at h

/-- **What is read is a command of the grammar.**  An option block may be read in some modes only,
and every other command is read by its word. -/
theorem begins_of_read {a : Action} {n : Nat} (h : (read mode more word rest).result = .ok (a, n)) :
    Begins mode (word :: rest) a n := by
  unfold read at h
  split at h
  · rename_i b hw
    split at h
    · simp [Reading.of] at h
    · rename_i m hm
      obtain ⟨rfl, hb⟩ := needBlockMode_eq_ok.1 hm
      obtain ⟨l, hl, rfl⟩ := readBlock_eq_ok.1 h
      obtain ⟨r, z, tail, rfl, rfl, hr, hz, ha⟩ := settings_of_readSettings hl
      refine ⟨word :: (r ++ [z]), tail, by simp, ?_, .options hw hr hz, trivial,
        permittedIn_setOptions.2 ⟨hb, ha⟩⟩
      simp only [List.length_cons, List.length_append, List.length_nil]
      omega
  · exact begins_of_readSimple h

/-- A command of one word needs the interactive mode and takes nothing but its word. -/
theorem readSimple_of_ofWord {a : Action} (h : Action.ofWord? word.kind = some a) :
    readSimple mode word rest = needInteractive mode word >>= fun _ => .ok (a, 1) := by
  unfold readSimple
  split
  all_goals simp_all [Action.ofWord?]
  all_goals rfl

/-- A command that is no option block is read wherever it stands.  The cases are those of the
grammar, one for each way to spell a command. -/
theorem readSimple_of_spells {ws tail : List Lexeme} {a : Action} (hws : Spells ws a)
    (ht : a.EndsBefore tail) (hm : a.PermittedIn mode) (hl : ws ++ tail = word :: rest)
    (hb : ∀ b, word.kind ≠ .blockStart b) : readSimple mode word rest = .ok (a, ws.length) := by
  cases hws with
  | @mode w x m hw hx =>
    obtain ⟨rfl, rfl⟩ := List.cons.inj hl
    simp only [readSimple, hw]
    exact readMode_eq_ok.2 ⟨x, tail, m, rfl, hx, hm, rfl, rfl⟩
  | options hw => exact absurd hw (by rw [(List.cons.inj hl).1]; exact hb _)
  | @word w a ha =>
    obtain ⟨rfl, rfl⟩ := List.cons.inj hl
    have h : needInteractive mode w = .ok () :=
      needInteractive_eq_ok.2 ((permittedIn_of_ofWord ha).1 hm)
    rw [readSimple_of_ofWord ha, h]
    rfl
  | @goTo w x y v u hw hx hy =>
    obtain ⟨rfl, rfl⟩ := List.cons.inj hl
    have h : readMotion w (x :: y :: tail) = .ok (v, u) :=
      readMotion_eq_ok.2 ⟨x, y, tail, rfl, hx, hy⟩
    simp only [readSimple, hw]
    exact ok_bind_eq_ok.2 ⟨(), needInteractive_eq_ok.2 hm, ok_bind_eq_ok.2 ⟨_, h, rfl⟩⟩
  | @goToRelative w x y v u hw hx hy =>
    obtain ⟨rfl, rfl⟩ := List.cons.inj hl
    have h : readMotion w (x :: y :: tail) = .ok (v, u) :=
      readMotion_eq_ok.2 ⟨x, y, tail, rfl, hx, hy⟩
    simp only [readSimple, hw]
    exact ok_bind_eq_ok.2 ⟨(), needInteractive_eq_ok.2 hm, ok_bind_eq_ok.2 ⟨_, h, rfl⟩⟩
  | @draw w r path hw hp hlen =>
    obtain ⟨rfl, rfl⟩ := List.cons.inj hl
    simp only [readSimple, hw]
    exact ok_bind_eq_ok.2 ⟨(), needInteractive_eq_ok.2 hm,
      readDraw_eq_ok.2 ⟨r, tail, path, rfl, rfl, hp, hlen, rfl, ht⟩⟩
  | @wait w x v hw hx =>
    obtain ⟨rfl, rfl⟩ := List.cons.inj hl
    have h : readNumber .time w 1 (x :: tail)[0]? = .ok v :=
      readNumber_head_eq_ok.2 ⟨x, tail, rfl, hx⟩
    simp only [readSimple, hw]
    exact ok_bind_eq_ok.2 ⟨(), needInteractive_eq_ok.2 hm, ok_bind_eq_ok.2 ⟨_, h, rfl⟩⟩
  | @setPlot w x hw hk hne =>
    obtain ⟨rfl, rfl⟩ := List.cons.inj hl
    simp only [readSimple, hw]
    exact ok_bind_eq_ok.2 ⟨(), needPlot_eq_ok.2 hm,
      readSetPlot_eq_ok.2 ⟨x, tail, rfl, hk, hne, rfl, rfl⟩⟩
  | @plot w hw =>
    obtain ⟨rfl, rfl⟩ := List.cons.inj hl
    simp only [readSimple, hw]
    exact ok_bind_eq_ok.2 ⟨(), needPlot_eq_ok.2 hm, rfl⟩

/-- The word of a block opens nothing else.  The cases are the commands of the grammar, each of
which starts with its own word. -/
theorem setOptions_of_spells {b : Block} {ws : List Lexeme} {a : Action}
    (hw : word.kind = .blockStart b) (h : Spells (word :: ws) a) :
    ∃ r l z, ws = r ++ [z] ∧ a = .setOptions b l ∧ Settings r l ∧ z.kind = .blockEnd b := by
  generalize hl : word :: ws = l at h
  cases h with
  | @options w z r b' l' hb hr hz =>
    obtain ⟨rfl, rfl⟩ := List.cons.inj hl
    rw [hw] at hb
    obtain rfl := Kind.blockStart.inj hb
    exact ⟨r, l', z, rfl, rfl, hr, hz⟩
  | @word w a ha =>
    obtain ⟨rfl, rfl⟩ := List.cons.inj hl
    rw [hw] at ha
    cases ha
  | mode hk | goTo hk | goToRelative hk | draw hk | wait hk | setPlot hk | plot hk =>
    obtain ⟨rfl, rfl⟩ := List.cons.inj hl
    rw [hw] at hk
    cases hk

/-- **A command of the grammar is read**, as long as its numbers are short enough.  The cases are
those of reading, with what the grammar says about the command at hand. -/
theorem read_of_begins {a : Action} {n : Nat} (h : Begins mode (word :: rest) a n)
    (hs : ShortValues ((word :: rest).take n)) :
    (read mode more word rest).result = .ok (a, n) := by
  obtain ⟨ws, tail, hl, rfl, hws, ht, hm⟩ := h
  rw [hl, List.take_left] at hs
  unfold read
  split
  · rename_i b hw
    obtain ⟨w, ws', rfl⟩ : ∃ w ws', ws = w :: ws' :=
      List.exists_cons_of_length_pos hws.length_pos
    obtain ⟨rfl, hr⟩ := List.cons.inj hl
    obtain ⟨r, l, z, rfl, rfl, hr', hz⟩ := setOptions_of_spells hw hws
    obtain rfl : rest = r ++ z :: tail := by rw [hr]; simp
    cases mode with
    | none => cases b <;> simp [Action.PermittedIn] at hm
    | some m =>
      obtain ⟨hb, ha⟩ := permittedIn_setOptions.1 hm
      rw [needBlockMode_eq_ok.2 ⟨rfl, hb⟩]
      refine readBlock_eq_ok.2 ⟨l, ?_, rfl⟩
      rw [readSettings_of_settings hr' hz ha hs.tail.left_of_append]
      congr 2
      simp only [List.length_cons, List.length_append, List.length_nil]
      omega
  · rename_i hb
    exact readSimple_of_spells hws ht hm hl.symm hb

end Reader
end PlotScript
