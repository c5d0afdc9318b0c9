/-
# Blocks that are not read

A block that may be continued is not always read.  What there is of it begins with its word and
with settings that have values (`Grammar.Front`).  Then it waits, if nothing follows but perhaps a
setting without a value (`Reader.unclosed_of_waiting`); and reading fails, if the value of the next
setting has too many digits (`Reader.failed_iff`).
-/

import PlotScript.Proofs.Chunks
import PlotScript.Proofs.Sequence

namespace PlotScript
namespace Grammar

/-- A setting that may stand in a mode. -/
def Suits (mode : Option Mode) (s : Setting) : Prop :=
  s.interactiveOnly = true → mode = some .interactive

/-- The word of a block that its mode permits, and settings of it with values that can be read. -/
def Front (mode : Option Mode) (b : Block) (l : List Lexeme) : Prop :=
  ∃ w r settings, l = w :: r ∧ w.kind = .blockStart b ∧ Settings r settings ∧
    Reader.ShortValues r ∧ (Action.setOptions b settings).PermittedIn mode

/-- A block that goes on with lexemes that have not come yet: the last one may be a setting whose
value is missing. -/
def Unclosed (mode : Option Mode) (l : List Lexeme) : Prop :=
  ∃ b front tail, l = front ++ tail ∧ Front mode b front ∧
    (tail = [] ∨ ∃ x s, tail = [x] ∧ x.kind = .setting s ∧ Suits mode s)

/-- A block with a whole number of too many digits as a value. -/
def Overlong (mode : Option Mode) (l : List Lexeme) : Prop :=
  ∃ b front x s y tail, l = front ++ x :: y :: tail ∧ Front mode b front ∧ x.kind = .setting s ∧
    Suits mode s ∧ s.takesText = false ∧ y.kind = .number ∧
    Reader.digitLimit < y.text.length

/-- A block that goes on begins with its word, and no word of it closes a block. -/
theorem Unclosed.exists_blockStart {mode : Option Mode} {w : Lexeme} {r : List Lexeme}
    (h : Unclosed mode (w :: r)) :
    ∃ b, w.kind = .blockStart b ∧ ∀ x ∈ r, ∀ b', x.kind ≠ .blockEnd b' := by
  obtain ⟨b, front, tail, hl, ⟨w', r', settings, rfl, hw, hr, -, -⟩, ht⟩ := h
  obtain ⟨rfl, rfl⟩ := List.cons.inj hl
  refine ⟨b, hw, fun x hx b' => ?_⟩
  rcases List.mem_append.1 hx with hx | hx
  · exact hr.kind_ne x hx
  · rcases ht with rfl | ⟨y, s, rfl, hy, -⟩
    · cases hx
    · rw [List.mem_singleton.1 hx, hy]
      rintro ⟨⟩

/-- A block that is not closed has at least its opening word. -/
theorem Unclosed.ne_nil {mode : Option Mode} {l : List Lexeme} (h : Unclosed mode l) :
    l ≠ [] := by
  obtain ⟨b, front, tail, rfl, ⟨w, r, settings, rfl, -⟩, -⟩ := h
  exact List.cons_ne_nil _ _

end Grammar

namespace Reader

open Grammar

variable {mode : Option Mode} {word : Lexeme} {l rest : List Lexeme} {b : Block}
  {interactive more : Bool} {seen : List Setting} {k : Nat}

/-- A setting suits a mode if and only if it is one of those allowed in it. -/
theorem suits_iff {m : Mode} {s : Setting} :
    Suits (some m) s ↔ s.allowedIn (m == .interactive) = true := by
  cases m <;> simp [Suits, Setting.allowedIn]

/-- A setting whose value was read stands before values that are short. -/
theorem shortValues_value {x y : Lexeme} {s : Setting} {v : Value} {r : List Lexeme}
    (hv : readValue s y k = .ok v) (hs : ShortValues r) : ShortValues (x :: y :: r) :=
  shortValues_cons (fun _ => length_of_readValue hv)
    (shortValues_cons_of_not (isSetting_of_gives (gives_of_readValue hv)) hs)

/-- One more setting in front of a reading that fails does not make it succeed. -/
theorem result_cons_eq_error {ws : List Complaint} {x : Setting × Value} {r : BlockReading}
    {e : Stop} (h : (r.cons ws x).result = .error e) : r.result = .error e := by
  rcases hr : r.result with e' | p
  · simp only [BlockReading.cons, hr, Except.map] at h
    exact h
  · simp only [BlockReading.cons, hr, Except.map] at h
    cases h

/-- Settings of a block that wait for more are at the end of a line. -/
theorem unclosed_of_readSettings
    (h : (readSettings b interactive true word seen k l).result = .error .waiting) :
    ∃ r settings tail, l = r ++ tail ∧ Settings r settings ∧ ShortValues r ∧
      (∀ x ∈ settings, x.1.allowedIn interactive = true) ∧
      (tail = [] ∨ ∃ x s, tail = [x] ∧ x.kind = .setting s ∧ s.allowedIn interactive = true) := by
  fun_induction readSettings b interactive true word seen k l with
  | case1 => exact ⟨[], [], [], rfl, .nil, .nil, by simp, .inl rfl⟩
  | case2 | case6 => cases h
  | case3 seen k x hx s hs ha =>
    exact ⟨[], [], [x], rfl, .nil, .nil, by simp, .inr ⟨x, s, rfl, hs, ha⟩⟩
  | case4 | case5 | case9 | case10 => cases h
  | case7 seen k x y rest hx s hs ha e he =>
    simp only [Except.error.injEq] at h
    subst h
    exact absurd he readValue_ne_waiting
  | case8 seen k x y rest hx s hs ha v hv warnings ih =>
    obtain ⟨r, settings, tail, rfl, hr, hshort, hall, ht⟩ := ih (result_cons_eq_error h)
    refine ⟨x :: y :: r, (s, v) :: settings, tail, rfl, .cons hs (gives_of_readValue hv) hr,
      shortValues_value hv hshort, ?_, ht⟩
    rintro z hz
    rcases List.mem_cons.1 hz with rfl | hz
    · exact ha
    · exact hall z hz

/-- A value that cannot be told is a whole number with too many digits. -/
theorem overlong_of_readValue {s : Setting} {y : Lexeme} {f : Failure} (hy : y.WellFormed)
    (h : readValue s y k = .error (.failed f)) :
    s.takesText = false ∧ y.kind = .number ∧ digitLimit < y.text.length ∧
      f = .tooManyDigits y.text.length := by
  unfold readValue at h
  split at h
  · cases h
  · rename_i hk
    rw [valueKind, not_not] at hk
    split at h
    · cases h
    · rename_i ht
      rw [if_neg ht] at hk
      split at h
      · rename_i hlong
        cases h
        exact ⟨by simpa using ht, hk, hlong, rfl⟩
      · split at h
        · rename_i hn
          have hsome := hy hk
          rw [hn] at hsome
          cases hsome
        · split at h
          · split at h <;> cases h
          · cases h

/-- A number of too many digits fails where it is read as a value, and no complaint is made. -/
theorem readValue_of_overlong {s : Setting} {y : Lexeme} (ht : s.takesText = false)
    (hy : y.kind = .number) (hlong : digitLimit < y.text.length) :
    readValue s y k = .error (.failed (.tooManyDigits y.text.length)) := by
  rw [readValue, if_neg (by simp [valueKind, ht, hy]), if_neg (by simp [ht]), if_pos hlong]

/-- Settings that fail to be read do so at a value with too many digits. -/
theorem overlong_of_readSettings {f : Failure} (hn : Numbers l)
    (h : (readSettings b interactive more word seen k l).result = .error (.failed f)) :
    ∃ r settings x s y tail, l = r ++ x :: y :: tail ∧ Settings r settings ∧ ShortValues r ∧
      (∀ x ∈ settings, x.1.allowedIn interactive = true) ∧ x.kind = .setting s ∧
      s.allowedIn interactive = true ∧ s.takesText = false ∧ y.kind = .number ∧
      digitLimit < y.text.length ∧ f = .tooManyDigits y.text.length := by
  fun_induction readSettings b interactive more word seen k l with
  | case1 | case3 =>
    simp only at h
    split at h <;> cases h
  | case2 | case4 | case5 | case6 | case9 | case10 => cases h
  | case7 seen k x y rest hx s hs ha e he =>
    simp only [Except.error.injEq] at h
    subst h
    obtain ⟨ht, hy, hlong, hf⟩ := overlong_of_readValue (hn y (by simp)) he
    exact ⟨[], [], x, s, y, rest, rfl, .nil, .nil, by simp, hs, ha, ht, hy, hlong, hf⟩
  | case8 seen k x y rest hx s hs ha v hv warnings ih =>
    obtain ⟨r, settings, x', s', y', tail, rfl, hr, hshort, hall, hrest⟩ :=
      ih (fun z hz => hn z (by simp [hz])) (result_cons_eq_error h)
    refine ⟨x :: y :: r, (s, v) :: settings, x', s', y', tail, rfl,
      .cons hs (gives_of_readValue hv) hr, shortValues_value hv hshort, ?_, hrest⟩
    rintro z hz
    rcases List.mem_cons.1 hz with rfl | hz
    · exact ha
    · exact hall z hz

/-- Settings that are right are read, and then what is behind them. -/
theorem readSettings_append_of_settings {r : List Lexeme} {settings : List (Setting × Value)}
    (hr : Settings r settings) (ha : ∀ x ∈ settings, x.1.allowedIn interactive = true)
    (hs : ShortValues r) (b : Block) (more : Bool) (word : Lexeme) (tail : List Lexeme)
    (seen : List Setting) (k : Nat) : ∃ seen',
    (readSettings b interactive more word seen k (r ++ tail)).result =
      (readSettings b interactive more word seen' (k + r.length) tail).result.map
        fun (l, n) => (settings ++ l, n) := by
  induction hr generalizing seen k with
  | nil =>
    refine ⟨seen, ?_⟩
    rw [List.nil_append, List.length_nil, Nat.add_zero]
    rcases (readSettings b interactive more word seen k tail).result with e | p <;> rfl
  | @cons x y s v r l hx hv _ ih =>
    have hc := List.isChain_cons_cons.1 hs
    have hy : readValue s y (k + 1) = .ok v := readValue_of_gives hv (hc.1 (by rw [hx]; rfl))
    obtain ⟨seen', h⟩ := ih (fun w hw => ha w (List.mem_cons_of_mem _ hw)) hc.2.tail (s :: seen)
      (k + 2)
    refine ⟨seen', ?_⟩
    have hlength : k + (x :: y :: r).length = k + 2 + r.length := by
      simp only [List.length_cons]
      omega
    rw [List.cons_append, List.cons_append,
      readSettings_of_value hx (ha (s, v) List.mem_cons_self) hy, hlength]
    simp only [BlockReading.cons, h]
    rcases (readSettings b interactive more word seen' (k + 2 + r.length) tail).result with
      e | p <;> rfl

/-- What is wrong behind settings that are right is wrong with all of them. -/
theorem readSettings_of_front {r tail : List Lexeme} {settings : List (Setting × Value)} {e : Stop}
    (hr : Settings r settings) (ha : ∀ x ∈ settings, x.1.allowedIn interactive = true)
    (hs : ShortValues r)
    (ht : ∀ seen k, (readSettings b interactive more word seen k tail).result = .error e)
    (seen : List Setting) (k : Nat) :
    (readSettings b interactive more word seen k (r ++ tail)).result = .error e := by
  obtain ⟨seen', h⟩ := readSettings_append_of_settings hr ha hs b more word tail seen k
  rw [h, ht]
  rfl

/-- Reading a block fails where reading its settings does, for nothing can go wrong behind them. -/
theorem readBlock_eq_error {m : Mode} {e : Stop} :
    (readBlock b m more word rest).result = .error e ↔
      (readSettings b (m == .interactive) more word [] 1 rest).result = .error e := by
  unfold readBlock
  simp only
  split
  · rename_i e' he
    simp [he]
  · rename_i p hp
    rw [hp]
    simp

/-- Only a block waits. -/
theorem readSimple_ne_waiting : readSimple mode word rest ≠ .error .waiting := by
  intro h
  have hs : Stops rest.length (Numbers rest) (readSimple mode word rest) := stops_readSimple
  rw [h] at hs
  cases hs

/-- Only a block fails to be read. -/
theorem readSimple_ne_failed (hn : Numbers rest) (f : Failure) :
    readSimple mode word rest ≠ .error (.failed f) := by
  intro h
  have hs : Stops rest.length (Numbers rest) (readSimple mode word rest) := stops_readSimple
  rw [h] at hs
  cases hs with
  | failed _ hf => exact hf hn

/-- **A block that is waited for is one that is not closed.** -/
theorem unclosed_of_waiting
    (h : (read mode true word rest).result = .error .waiting) : Unclosed mode (word :: rest) := by
  unfold read at h
  split at h
  · rename_i b hw
    split at h
    · rename_i e he
      simp only [Reading.of, Except.error.injEq] at h
      subst h
      have hb : Stops 0 True (needBlockMode b mode word) := stops_needBlockMode
      rw [he] at hb
      cases hb
    · rename_i m hm
      obtain ⟨rfl, hb⟩ := needBlockMode_eq_ok.1 hm
      obtain ⟨r, settings, tail, rfl, hr, hs, ha, ht⟩ :=
        unclosed_of_readSettings (readBlock_eq_error.1 h)
      refine ⟨b, word :: r, tail, rfl, ⟨word, r, settings, rfl, hw, hr, hs,
        permittedIn_setOptions.2 ⟨hb, ha⟩⟩, ht.imp_right ?_⟩
      rintro ⟨x, s, rfl, hx, hs⟩
      exact ⟨x, s, rfl, hx, suits_iff.2 hs⟩
  · exact absurd h readSimple_ne_waiting

/-- **Reading fails at a block with a value of too many digits**, and nowhere else.  No other
command has a value that is read as a whole number, and in a block all settings before that one are
good. -/
theorem failed_iff (hn : Numbers rest) :
    (∃ f, (read mode more word rest).result = .error (.failed f)) ↔
      Overlong mode (word :: rest) := by
  constructor
  · rintro ⟨f, h⟩
    unfold read at h
    split at h
    · rename_i b hw
      split at h
      · rename_i e he
        simp only [Reading.of, Except.error.injEq] at h
        subst h
        have hb : Stops 0 True (needBlockMode b mode word) := stops_needBlockMode
        rw [he] at hb
        cases hb with
        | failed _ hf => exact absurd trivial hf
      · rename_i m hm
        obtain ⟨rfl, hb⟩ := needBlockMode_eq_ok.1 hm
        obtain ⟨r, settings, x, s, y, tail, rfl, hr, hs, ha, hx, hxs, ht, hy, hlong, -⟩ :=
          overlong_of_readSettings hn (readBlock_eq_error.1 h)
        exact ⟨b, word :: r, x, s, y, tail, rfl, ⟨word, r, settings, rfl, hw, hr, hs,
          permittedIn_setOptions.2 ⟨hb, ha⟩⟩, hx, suits_iff.2 hxs, ht, hy, hlong⟩
    · exact absurd h (readSimple_ne_failed hn f)
  · rintro ⟨b, front, x, s, y, tail, hl, ⟨w, r, settings, rfl, hw, hr, hs, hp⟩, hx, hxs, ht, hy,
      hlong⟩
    obtain ⟨rfl, rfl⟩ := List.cons.inj hl
    cases mode with
    | none => cases b <;> simp [Action.PermittedIn] at hp
    | some m =>
      obtain ⟨hb, ha⟩ := permittedIn_setOptions.1 hp
      refine ⟨.tooManyDigits y.text.length, ?_⟩
      unfold read
      rw [hw]
      simp only [needBlockMode_eq_ok.2 ⟨rfl, hb⟩]
      refine readBlock_eq_error.2 (readSettings_of_front hr ha hs (fun seen k => ?_) [] 1)
      rw [readSettings_of_wrongValue hx (suits_iff.1 hxs) (readValue_of_overlong ht hy hlong)]

end Reader
end PlotScript
