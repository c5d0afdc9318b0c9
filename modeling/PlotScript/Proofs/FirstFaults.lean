/-
# The first fault of an option block

A block that cannot go on is read if it is its word, settings each with a value, and its closing
word.  If it is not, the first lexeme that does not fit is blamed:

| after settings that are right | is blamed |
| --- | --- |
| no setting, and not the closing word | that lexeme |
| a setting that the mode does not allow | that setting |
| a setting, and then nothing | that setting |
| a setting, and a value of another kind or beyond its limits | that value |
| nothing | the word of the block |

`Grammar.FirstFault` says so of the lexemes alone, and `Executor.blocks_read` that the executor
keeps to it: what is blamed is a lexeme of the stream, and where a block ends is its closing word.

The checks are those of the language specification, §4.2 and §14.
-/

import PlotScript.Plotter.Preview
import PlotScript.Proofs.OpenBlock

namespace PlotScript
namespace Grammar

/-- What is wrong with the value of a setting. -/
inductive WrongValue (s : Setting) (y : Lexeme) : Cause → Prop
  | kind : y.kind ≠ Reader.valueKind s → WrongValue s y (.valueInvalid s)
  | limits {n low high : Nat} : s.takesText = false → y.kind = .number →
    digitsValue? y.text = some n → s.range = some (low, high) → ¬(low ≤ n ∧ n ≤ high) →
    WrongValue s y (.valueOutOfRange s low high)

/-- What is wrong at the front of lexemes in which a setting or the closing word should come next,
with the lexeme that is blamed and its distance from the first. -/
inductive FaultInFront (b : Block) (interactive : Bool) : List Lexeme → Cause → Lexeme → Nat → Prop
  | noSetting {x : Lexeme} {tail : List Lexeme} : x.kind ≠ .blockEnd b →
    (∀ s, x.kind ≠ .setting s) →
    FaultInFront b interactive (x :: tail) (.settingInvalid b interactive) x 0
  | notAllowed {x : Lexeme} {s : Setting} {tail : List Lexeme} : x.kind = .setting s →
    ¬s.allowedIn interactive = true →
    FaultInFront b interactive (x :: tail) (.settingOnlyInteractive s) x 0
  | noValue {x : Lexeme} {s : Setting} : x.kind = .setting s → s.allowedIn interactive = true →
    FaultInFront b interactive [x] (.valueInvalid s) x 0
  | value {x y : Lexeme} {s : Setting} {tail : List Lexeme} {cause : Cause} :
    x.kind = .setting s → s.allowedIn interactive = true → WrongValue s y cause →
    FaultInFront b interactive (x :: y :: tail) cause y 1

/-- The first thing that is wrong with the lexemes that follow the word of a block, with the lexeme
that is blamed and its distance from that word. -/
inductive FirstFault (b : Block) (interactive : Bool) (word : Lexeme) :
    List Lexeme → Cause → Lexeme → Nat → Prop
  | notClosed {l : List Lexeme} {settings : List (Setting × Value)} : Settings l settings →
    (∀ x ∈ settings, x.1.allowedIn interactive = true) →
    FirstFault b interactive word l (.blockNotClosed b) word 0
  | behind {r tail : List Lexeme} {settings : List (Setting × Value)} {cause : Cause} {x : Lexeme}
    {k : Nat} : Settings r settings → (∀ x ∈ settings, x.1.allowedIn interactive = true) →
    FaultInFront b interactive tail cause x k →
    FirstFault b interactive word (r ++ tail) cause x (r.length + 1 + k)

/-- The settings of a block that is closed, and how many lexemes the block takes with its word and
its closing word. -/
inductive Closed (b : Block) (interactive : Bool) :
    List Lexeme → List (Setting × Value) → Nat → Prop
  | intro {r tail : List Lexeme} {z : Lexeme} {settings : List (Setting × Value)} :
    Settings r settings → (∀ x ∈ settings, x.1.allowedIn interactive = true) →
    z.kind = .blockEnd b → Closed b interactive (r ++ z :: tail) settings (r.length + 2)

/-- A block that is closed has at least its closing word. -/
theorem Closed.pos {b : Block} {interactive : Bool} {l : List Lexeme}
    {settings : List (Setting × Value)} {n : Nat} (h : Closed b interactive l settings n) :
    1 ≤ n := by
  cases h
  omega

/-- The last lexeme of a block is its closing word. -/
theorem Closed.exists_blockEnd {b : Block} {interactive : Bool} {l : List Lexeme}
    {settings : List (Setting × Value)} {n : Nat} (h : Closed b interactive l settings n)
    (word : Lexeme) : ∃ z, (word :: l)[n - 1]? = some z ∧ z.kind = .blockEnd b := by
  cases h with
  | @intro r tail z settings _ _ hz => exact ⟨z, by simp, hz⟩

end Grammar

namespace Reader

open Grammar

variable {word x y : Lexeme} {l r rest tail : List Lexeme} {b : Block} {interactive : Bool}
  {seen : List Setting} {s : Setting} {cause : Cause} {k offset : Nat}

/-- A complaint about a value is about the lexeme that was given as the value, and says what is
wrong with it. -/
theorem wrongValue_of_readValue (h : readValue s y k = .error (.wrong cause x offset)) :
    WrongValue s y cause ∧ x = y ∧ offset = k := by
  unfold readValue at h
  split at h
  · rename_i hk
    cases h
    exact ⟨.kind hk, rfl, rfl⟩
  rename_i hk
  rw [valueKind, not_not] at hk
  split at h
  · cases h
  rename_i ht
  rw [if_neg ht] at hk
  split at h
  · cases h
  split at h
  · cases h
  rename_i n hn
  split at h
  · rename_i low high hr
    split at h
    · cases h
    · rename_i hle
      cases h
      exact ⟨.limits (by simpa using ht) hk hn hr hle, rfl, rfl⟩
  · cases h

/-- A wrong value is complained about, unless it is a number that is too long to be converted. -/
theorem readValue_of_wrongValue (h : WrongValue s y cause)
    (hs : y.kind = .number → y.text.length ≤ digitLimit) :
    readValue s y k = .error (.wrong cause y k) := by
  cases h with
  | kind hk => exact if_pos hk
  | @limits n low high ht hk hn hr hle =>
    have hlen := hs hk
    rw [readValue, if_neg (by simp [valueKind, ht, hk]), if_neg (by simp [ht]),
      if_neg (by omega), hn]
    simp only [hr]
    exact if_neg hle

/-- What is wrong in front is blamed. -/
theorem readSettings_of_faultInFront (h : FaultInFront b interactive tail cause x offset)
    (hs : ShortValues tail) (seen : List Setting) (k : Nat) :
    (readSettings b interactive false word seen k tail).result =
      .error (.wrong cause x (k + offset)) := by
  cases h with
  | noSetting hb hx => rw [readSettings_of_other hb hx]; rfl
  | notAllowed hx ha => rw [readSettings_of_forbidden hx ha]; rfl
  | noValue hx ha => simp [readSettings, hx, ha, fail]
  | value hx ha hv =>
    have hy := (List.isChain_cons_cons.1 hs).1 (by rw [hx]; rfl)
    rw [readSettings_of_wrongValue hx ha (readValue_of_wrongValue hv hy)]

/-- The first fault of a block is the one that reading it complains about: what is in front of it is
in order. -/
theorem readSettings_of_firstFault (h : FirstFault b interactive word rest cause x offset)
    (hs : ShortValues rest) :
    (readSettings b interactive false word [] 1 rest).result = .error (.wrong cause x offset) := by
  cases h with
  | notClosed hr ha =>
    obtain ⟨seen, h⟩ := readSettings_append_of_settings hr ha hs b false word [] [] 1
    rw [List.append_nil] at h
    rw [h, readSettings]
    rfl
  | @behind r tail settings _ _ k hr ha hf =>
    obtain ⟨seen, h⟩ := readSettings_append_of_settings hr ha hs.left_of_append b false word tail
      [] 1
    rw [h, readSettings_of_faultInFront hf hs.right_of_append, Nat.add_comm 1]
    rfl

/-- What is blamed in a block is the first lexeme that does not fit.  The word of the block is
blamed if all settings in it are good and it is not closed; otherwise good settings come first, and
the next lexeme, or the one behind it, is at fault. -/
theorem firstFault_of_readSettings
    (h : (readSettings b interactive false word seen k l).result =
      .error (.wrong cause x offset)) :
    (offset = 0 ∧ x = word ∧ cause = .blockNotClosed b ∧ ∃ settings, Settings l settings ∧
      ∀ y ∈ settings, y.1.allowedIn interactive = true) ∨
    ∃ r tail settings j, l = r ++ tail ∧ Settings r settings ∧
      (∀ y ∈ settings, y.1.allowedIn interactive = true) ∧
      FaultInFront b interactive tail cause x j ∧ offset = k + r.length + j := by
  fun_induction readSettings b interactive false word seen k l with
  | case1 =>
    cases h
    exact .inl ⟨rfl, rfl, rfl, [], .nil, by simp⟩
  | case2 | case6 => cases h
  | case3 seen k y hy s hs ha =>
    cases h
    exact .inr ⟨[], [x], [], 0, rfl, .nil, by simp, .noValue hs ha, rfl⟩
  | case4 seen k y hy s hs ha =>
    cases h
    exact .inr ⟨[], [x], [], 0, rfl, .nil, by simp, .notAllowed hs ha, rfl⟩
  | case5 seen k y hy hs =>
    cases h
    exact .inr ⟨[], [x], [], 0, rfl, .nil, by simp, .noSetting hy fun s => hs s, rfl⟩
  | case7 seen k y z rest hy s hs ha e he =>
    simp only [Except.error.injEq] at h
    subst h
    -- A setting whose value is at fault: the lexeme behind it is blamed.
    obtain ⟨hv, rfl, rfl⟩ := wrongValue_of_readValue he
    exact .inr ⟨[], y :: x :: rest, [], 1, rfl, .nil, by simp, .value hs ha hv, rfl⟩
  | case8 seen k y z rest hy s hs ha v hv warnings ih =>
    -- A good setting comes first, and the fault is in the rest.
    have hall {settings : List (Setting × Value)}
        (h : ∀ y ∈ settings, y.1.allowedIn interactive = true) :
        ∀ y ∈ (s, v) :: settings, y.1.allowedIn interactive = true :=
      List.forall_mem_cons.2 ⟨ha, h⟩
    rcases ih (result_cons_eq_error h) with ⟨rfl, rfl, rfl, settings, hr, hl⟩ |
      ⟨r, tail, settings, j, rfl, hr, hl, hf, rfl⟩
    · exact .inl ⟨rfl, rfl, rfl, _, .cons hs (gives_of_readValue hv) hr, hall hl⟩
    · refine .inr ⟨y :: z :: r, tail, _, j, rfl, .cons hs (gives_of_readValue hv) hr, hall hl, hf,
        ?_⟩
      simp only [List.length_cons]
      omega
  | case9 seen k y z rest hy s hs ha =>
    cases h
    exact .inr ⟨[], x :: z :: rest, [], 0, rfl, .nil, by simp, .notAllowed hs ha, rfl⟩
  | case10 seen k y z rest hy hs =>
    cases h
    exact .inr ⟨[], x :: z :: rest, [], 0, rfl, .nil, by simp, .noSetting hy fun s => hs s, rfl⟩

/-- Reading a block complains about a lexeme if and only if the first fault of the block is
there. -/
theorem readSettings_eq_wrong (hs : ShortValues rest) :
    (readSettings b interactive false word [] 1 rest).result = .error (.wrong cause x offset) ↔
      FirstFault b interactive word rest cause x offset := by
  refine ⟨fun h => ?_, fun h => readSettings_of_firstFault h hs⟩
  rcases firstFault_of_readSettings h with ⟨rfl, rfl, rfl, settings, hr, ha⟩ |
    ⟨r, tail, settings, j, rfl, hr, ha, hf, rfl⟩
  · exact .notClosed hr ha
  · rw [Nat.add_comm 1]
    exact .behind hr ha hf

/-- Reading a block succeeds if and only if it is closed, with the settings that it spells and the
number of its lexemes. -/
theorem readSettings_eq_ok {settings : List (Setting × Value)} {n : Nat} (hs : ShortValues rest) :
    (readSettings b interactive false word [] 1 rest).result = .ok (settings, n) ↔
      Closed b interactive rest settings n := by
  constructor
  · intro h
    obtain ⟨r, z, tail, rfl, rfl, hr, hz, ha⟩ := settings_of_readSettings h
    rw [Nat.add_comm 1]
    exact .intro hr ha hz
  · rintro ⟨hr, ha, hz⟩
    rw [readSettings_of_settings hr hz ha hs.left_of_append, Nat.add_comm 1]

/-- A block that its mode permits is read up to its closing word. -/
theorem read_eq_ok_of_block {mode : Option Mode} {m : Mode} {a : Action} {n : Nat}
    (hb : word.kind = .blockStart b) (hm : needBlockMode b mode word = .ok m)
    (hs : ShortValues rest) : (read mode false word rest).result = .ok (a, n) ↔
      ∃ settings, Closed b (m == .interactive) rest settings n ∧ a = .setOptions b settings := by
  unfold read
  rw [hb]
  simp only [hm]
  rw [readBlock_eq_ok]
  exact exists_congr fun settings => and_congr_left' (readSettings_eq_ok hs)

/-- A block that its mode permits fails at the first lexeme that does not fit. -/
theorem read_eq_error_of_block {mode : Option Mode} {m : Mode} {stop : Stop}
    (hb : word.kind = .blockStart b) (hm : needBlockMode b mode word = .ok m)
    (hs : ShortValues rest) (hn : Numbers rest) :
    (read mode false word rest).result = .error stop ↔ ∃ cause x offset,
      FirstFault b (m == .interactive) word rest cause x offset ∧ stop = .wrong cause x offset := by
  have hread : (read mode false word rest).result = .error stop ↔
      (readSettings b (m == .interactive) false word [] 1 rest).result = .error stop := by
    unfold read
    rw [hb]
    simp only [hm]
    exact readBlock_eq_error
  rw [hread]
  constructor
  · intro h
    have hstop : Stops rest.length (Numbers rest)
        (readSettings b (m == .interactive) false word [] 1 rest).result :=
      stops_readSettings hs (by omega)
    rw [h] at hstop
    cases hstop with
    | wrong cause x _ => exact ⟨cause, x, _, (readSettings_eq_wrong hs).1 h, rfl⟩
    | failed f hf => exact absurd hn hf
  · rintro ⟨cause, x, offset, hf, rfl⟩
    exact (readSettings_eq_wrong hs).2 hf

end Reader

namespace Executor

open Grammar

variable {σ : Type} [Device σ] {e : Executor σ} {word : Lexeme} {rest : List Lexeme} {b : Block}
  {m : Mode}

/-- **A block is read, or its first fault is blamed**, where it cannot go on.  It is read if and
only if it is closed and its settings are those of the grammar, and blamed if and only if a lexeme
of it is the first fault.  What is read is carried out, and the executor passes the closing word;
what is blamed is reported with the lexeme and its place in the stream. -/
theorem blocks_read (hw : e.waiting = word :: rest) (hb : word.kind = .blockStart b)
    (hm : e.mode = some m) (hu : b = .update → m = .interactive) (hg : e.mayGrow = false)
    (hs : Reader.ShortValues rest) (hn : Reader.Numbers rest) :
    let r := Reader.read e.mode e.mayGrow word rest
    let interactive := m == .interactive
    (∀ a n, r.result = .ok (a, n) ↔
      ∃ settings, Closed b interactive rest settings n ∧ a = .setOptions b settings) ∧
    (∀ stop, r.result = .error stop ↔ ∃ cause x offset,
      FirstFault b interactive word rest cause x offset ∧ stop = .wrong cause x offset) ∧
    (∀ settings n, Closed b interactive rest settings n →
      (∃ z, e.stream.entries[e.index + n - 1]? = some z ∧ z.kind = .blockEnd b) ∧
      e.command word rest =
        after (r.warnings.map Event.warn) (e.carryOut word (.setOptions b settings) n)) ∧
    ∀ cause x offset, FirstFault b interactive word rest cause x offset →
      e.stream.entries[e.index + offset]? = some x ∧
      e.command word rest = after (r.warnings.map Event.warn)
        (e.recover e.index word ⟨cause, some x, some (e.index + offset)⟩) := by
  have hneed : Reader.needBlockMode b e.mode word = .ok m := Reader.needBlockMode_eq_ok.2 ⟨hm, hu⟩
  simp only [command, hg]
  refine ⟨fun a n => Reader.read_eq_ok_of_block hb hneed hs,
    fun stop => Reader.read_eq_error_of_block hb hneed hs hn, fun settings n h => ?_,
    fun cause x offset h => ?_⟩
  · have hresult := (Reader.read_eq_ok_of_block hb hneed hs).2 ⟨settings, h, rfl⟩
    obtain ⟨z, hz, hk⟩ := h.exists_blockEnd word
    rw [Nat.add_sub_assoc h.pos, getElem?_of_waiting hw, hresult]
    exact ⟨⟨z, hz, hk⟩, rfl⟩
  · have hresult := (Reader.read_eq_error_of_block hb hneed hs hn).2 ⟨cause, x, offset, h, rfl⟩
    rw [getElem?_of_waiting hw, hresult]
    exact ⟨Reader.points_read cause x offset hresult, rfl⟩

/-- A lexeme of a line. -/
def inLine (line : String) (k : Kind) (text : String) (start : Int) : Lexeme :=
  ⟨⟨k, text⟩, ⟨line, 1, start, start + text.length, none⟩⟩

/-- A lexeme of a block with a model that there is not. -/
def modelEight : Kind → String → Int → Lexeme := inLine "OPTS ACCEL 50 MODEL 8 END_OPTS"

/-- An executor at the word of the block, in plot mode. -/
def atModelEight : Executor Preview :=
  { start true .standard Preview.start .bare with
    stream := ⟨[modelEight (.blockStart .options) "OPTS" 0,
      modelEight (.setting .acceleration) "ACCEL" 5, modelEight .number "50" 11,
      modelEight (.setting .model) "MODEL" 14, modelEight .number "8" 20,
      modelEight (.blockEnd .options) "END_OPTS" 22], false⟩
    bench := (Bench.start Preview.start .bare).setMode .plot }

/-- The value of the model is blamed, four lexemes behind the word of the block. -/
theorem blocks_read_modelEight : ∃ word rest, atModelEight.waiting = word :: rest ∧
    word.kind = .blockStart .options ∧ atModelEight.mode = some .plot ∧
    atModelEight.mayGrow = false ∧ Reader.ShortValues rest ∧ Reader.Numbers rest ∧
    (Reader.read atModelEight.mode atModelEight.mayGrow word rest).result =
      .error (.wrong (.valueOutOfRange .model 1 7) (modelEight .number "8" 20) 4) ∧
    atModelEight.stream.entries[4]? = some (modelEight .number "8" 20) := by
  have hs : Reader.ShortValues (atModelEight.waiting.drop 1) := by decide +kernel
  have hn : Reader.Numbers (atModelEight.waiting.drop 1) := by decide +kernel
  have hfault : FirstFault .options false (modelEight (.blockStart .options) "OPTS" 0)
      (atModelEight.waiting.drop 1) (.valueOutOfRange .model 1 7) (modelEight .number "8" 20) 4 :=
    .behind (.cons rfl (.number rfl rfl (by decide +kernel : _ = some 50) (by rintro _ _ ⟨⟩)) .nil)
      (by decide)
      (.value rfl rfl (.limits rfl rfl (by decide +kernel : _ = some 8) rfl (by decide)))
  have h := blocks_read (e := atModelEight) (b := .options) (m := .plot) rfl rfl rfl nofun rfl hs hn
  exact ⟨_, _, rfl, rfl, rfl, rfl, hs, hn, (h.2.1 _).2 ⟨_, _, _, hfault, rfl⟩,
    (h.2.2.2 _ _ _ hfault).1⟩

end Executor
end PlotScript
