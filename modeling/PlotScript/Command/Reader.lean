/-
# Reading a command

`read` takes one command from the front of the lexemes that wait.  It looks at no lexeme after the
command's own arguments:

| word | arguments | needs |
| --- | --- | --- |
| `MODE` | the name of a mode | that no mode is set |
| `OPTS`, `UOPTS` | settings with values, then the closing word | a mode; for `UOPTS` interactive |
| `GOTO`, `GOTO_REL` | two numbers | interactive mode |
| `DRAW` | all numbers that follow: an even count, at least four | interactive mode |
| `WAIT` | a number | interactive mode |
| eight others | none | interactive mode |
| `SETPLOT` | a text that is not empty | plot mode |
| `PLOT` | none | plot mode |

A fault is blamed on a lexeme, given with its distance from the command's word.  An option block
may be waited for: `more` says that more lexemes may come.

This is the look-ahead of the Command Dispatcher, language specification, §4.2 and §14:

| | follows |
| --- | --- |
| `readMode`, `readSetPlot`, `readSimple` | the commands with at most one argument |
| `readMotion`, `readDraw`, `readNumber` | the commands with coordinates |
| `readSettings`, `readBlock` | an option block, with the checks of each pair in their order |
| `needMode`, `needInteractive`, `needPlot` | the guards of the mode state machine |
-/

import PlotScript.Command

namespace PlotScript
namespace Reader

/-- Why no command could be read. -/
inductive Stop where
  /-- Something is wrong with the lexeme at a distance from the command's word. -/
  | wrong (cause : Cause) (x : Lexeme) (offset : Nat)
  /-- A number cannot be read. -/
  | failed (f : Failure)
  /-- The command goes on with lexemes that have not come yet. -/
  | waiting
  deriving DecidableEq

/-- What was read: an action and the number of lexemes it takes, with the warnings given. -/
structure Reading where
  warnings : List Complaint
  result : Except Stop (Action × Nat)

/-- A reading without warnings. -/
def Reading.of (result : Except Stop (Action × Nat)) : Reading := ⟨[], result⟩

/-- A fault blamed on a lexeme. -/
def fail {α : Type} (cause : Cause) (x : Lexeme) (offset : Nat) : Except Stop α :=
  .error (.wrong cause x offset)

/-- Goes on only if a mode is set. -/
def needMode (mode : Option Mode) (word : Lexeme) : Except Stop Mode :=
  match mode with
  | some m => .ok m
  | none => fail .modeNotSet word 0

/-- Goes on only in interactive mode. -/
def needInteractive (mode : Option Mode) (word : Lexeme) : Except Stop Unit := do
  match ← needMode mode word with
  | .interactive => .ok ()
  | .plot => fail (.onlyInteractive word.text) word 0

/-- Goes on only in plot mode. -/
def needPlot (mode : Option Mode) (word : Lexeme) : Except Stop Unit := do
  match ← needMode mode word with
  | .plot => .ok ()
  | .interactive => fail (.onlyPlot word.text) word 0

/-- The mode that `MODE` sets. -/
def readMode (mode : Option Mode) (word : Lexeme) : List Lexeme → Except Stop (Action × Nat)
  | [] => fail .modeNotGiven word 0
  | x :: _ =>
    match x.kind, mode with
    | .modeName _, some m => fail (.modeAlreadySet m) word 0
    | .modeName m, none => .ok (.setMode m, 2)
    | _, _ => fail .modeInvalid x 1

/-- A number token as a coordinate or a time. -/
def coordinate (x : Lexeme) : Except Stop Number :=
  match digitsValue? x.text with
  | some n => .ok (.float (Number.floatOfNat n))
  | none => .error (.failed (.notNumber x.text))

/-- The number that should follow; if nothing follows, the command's word is blamed. -/
def readNumber (a : Argument) (word : Lexeme) (offset : Nat) : Option Lexeme → Except Stop Number
  | none => fail (.argumentInvalid a word.text) word 0
  | some x =>
    if x.kind = .number then coordinate x
    else fail (.argumentInvalid a word.text) x offset

/-- The two numbers of a motion. -/
def readMotion (word : Lexeme) (rest : List Lexeme) : Except Stop (Number × Number) := do
  let x ← readNumber .x word 1 rest[0]?
  let y ← readNumber .y word 2 rest[1]?
  return (x, y)

/-- Numbers two by two. -/
def pairs : List Number → List Point
  | x :: y :: r => (x, y) :: pairs r
  | _ => []

/-- The points of `DRAW`: all numbers that follow it. -/
def readDraw (word : Lexeme) (rest : List Lexeme) : Except Stop (Action × Nat) := do
  let run := rest.takeWhile fun x => x.kind = .number
  let values ← run.mapM coordinate
  let count := run.length
  if count % 2 = 1 then
    match rest[count]? with
    | some x => fail .drawInvalidY x (count + 1)
    | none => fail .drawWithoutY (run.getLast?.getD word) count
  else if count < 4 then fail .drawTooShort (run.getLast?.getD word) count
  else return (.draw (pairs values), count + 1)

/-- The source of `SETPLOT`. -/
def readSetPlot (word : Lexeme) : List Lexeme → Except Stop (Action × Nat)
  | [] => fail .plotSourceNotGiven word 0
  | x :: _ =>
    if x.kind = .string ∧ ¬x.text.isEmpty then .ok (.setPlot x.text, 2)
    else fail .plotSourceNotGiven x 1

/-- Whole numbers with more digits than this are not read. -/
def digitLimit : Nat := 4300

/-- The kind of token that a setting's value is. -/
def valueKind (s : Setting) : Kind := if s.takesText then .string else .number

/-- The value of a setting. -/
def readValue (s : Setting) (x : Lexeme) (offset : Nat) : Except Stop Value :=
  if x.kind ≠ valueKind s then fail (.valueInvalid s) x offset
  else if s.takesText then .ok (.text x.text)
  else if digitLimit < x.text.length then .error (.failed (.tooManyDigits x.text.length))
  else match digitsValue? x.text with
    | none => .error (.failed (.notNumber x.text))
    | some n =>
      match s.range with
      | some (low, high) =>
        if low ≤ n ∧ n ≤ high then .ok (.num (.int n))
        else fail (.valueOutOfRange s low high) x offset
      | none => .ok (.num (.int n))

/-- What was read of a block: the settings and the number of lexemes up to the closing word. -/
structure BlockReading where
  warnings : List Complaint
  result : Except Stop (List (Setting × Value) × Nat)

/-- A block with one more setting in front. -/
def BlockReading.cons (warnings : List Complaint) (x : Setting × Value) (r : BlockReading) :
    BlockReading :=
  ⟨warnings ++ r.warnings, r.result.map fun (settings, taken) => (x :: settings, taken)⟩

/-- The settings of a block up to its closing word.  `seen` are the settings before, and `offset`
is the distance from the block's first word. -/
def readSettings (b : Block) (interactive more : Bool) (word : Lexeme) (seen : List Setting)
    (offset : Nat) : List Lexeme → BlockReading
  | [] => ⟨[], if more then .error .waiting else fail (.blockNotClosed b) word 0⟩
  | [x] =>
    if x.kind = .blockEnd b then ⟨[], .ok ([], offset + 1)⟩
    else match x.kind with
      | .setting s =>
        if s.allowedIn interactive then
          ⟨[], if more then .error .waiting else fail (.valueInvalid s) x offset⟩
        else ⟨[], fail (.settingOnlyInteractive s) x offset⟩
      | _ => ⟨[], fail (.settingInvalid b interactive) x offset⟩
  | x :: y :: rest =>
    if x.kind = .blockEnd b then ⟨[], .ok ([], offset + 1)⟩
    else match x.kind with
      | .setting s =>
        if s.allowedIn interactive then
          match readValue s y (offset + 1) with
          | .error e => ⟨[], .error e⟩
          | .ok v =>
            let warnings := if s ∈ seen then [Complaint.about (.settingRepeated s) x] else []
            (readSettings b interactive more word (s :: seen) (offset + 2) rest).cons
              warnings (s, v)
        else ⟨[], fail (.settingOnlyInteractive s) x offset⟩
      | _ => ⟨[], fail (.settingInvalid b interactive) x offset⟩

/-- An option block. -/
def readBlock (b : Block) (mode : Mode) (more : Bool) (word : Lexeme) (rest : List Lexeme) :
    Reading :=
  let r := readSettings b (mode == .interactive) more word [] 1 rest
  match r.result with
  | .error e => ⟨r.warnings, .error e⟩
  | .ok (settings, taken) =>
    let warnings := if settings.isEmpty then [Complaint.about (.blockEmpty b) word] else []
    ⟨r.warnings ++ warnings, .ok (.setOptions b settings, taken)⟩

/-- The mode in which a block may stand. -/
def needBlockMode (b : Block) (mode : Option Mode) (word : Lexeme) : Except Stop Mode := do
  match b with
  | .options => needMode mode word
  | .update => needInteractive mode word; return .interactive

/-- A command that is no option block. -/
def readSimple (mode : Option Mode) (word : Lexeme) (rest : List Lexeme) :
    Except Stop (Action × Nat) :=
  match word.kind with
  | .mode => readMode mode word rest
  | .goTo => do
    needInteractive mode word
    let (x, y) ← readMotion word rest
    return (.goTo x y, 3)
  | .goToRelative => do
    needInteractive mode word
    let (x, y) ← readMotion word rest
    return (.goToRelative x y, 3)
  | .draw => do
    needInteractive mode word
    readDraw word rest
  | .wait => do
    needInteractive mode word
    let time ← readNumber .time word 1 rest[0]?
    return (.wait time, 2)
  | .setPlot => do
    needPlot mode word
    readSetPlot word rest
  | .plot => do
    needPlot mode word
    return (.plot, 1)
  | .unknown => fail (.unknownToken word.text) word 0
  | kind =>
    match Action.ofWord? kind with
    | some action => do
      needInteractive mode word
      return (action, 1)
    | none => fail (.unexpectedToken word.text) word 0

/-- The command at the front of the lexemes that wait. -/
def read (mode : Option Mode) (more : Bool) (word : Lexeme) (rest : List Lexeme) : Reading :=
  match word.kind with
  | .blockStart b =>
    match needBlockMode b mode word with
    | .error e => .of (.error e)
    | .ok m => readBlock b m more word rest
  | _ => .of (readSimple mode word rest)

/-- A block that begins with a setting goes on with a block, and takes as many lexemes. -/
theorem result_cons {ws : List Complaint} {x : Setting × Value} {r : BlockReading}
    {l : List (Setting × Value)} {n : Nat} (h : (r.cons ws x).result = .ok (l, n)) :
    ∃ m, r.result = .ok (m, n) ∧ l = x :: m := by
  obtain ⟨ws', r⟩ := r
  match r with
  | .error e => simp [BlockReading.cons, Except.map] at h
  | .ok (m, k) =>
    simp only [BlockReading.cons, Except.map, Except.ok.injEq, Prod.mk.injEq] at h
    exact ⟨m, by rw [h.2], h.1.symm⟩

/-- A block takes its closing word, and nothing beyond the lexemes at hand. -/
theorem taken_readSettings {b : Block} {interactive more : Bool} {word : Lexeme}
    {seen : List Setting} {offset : Nat} {l : List Lexeme} {settings : List (Setting × Value)}
    {n : Nat}
    (h : (readSettings b interactive more word seen offset l).result = .ok (settings, n)) :
    offset < n ∧ n ≤ offset + l.length := by
  fun_induction readSettings b interactive more word seen offset l generalizing settings with
  | case1 => split at h <;> simp [fail] at h
  | case2 | case6 => simp_all; omega
  | case3 => simp only at h; split at h <;> simp [fail] at h
  | case4 | case5 | case7 | case9 | case10 => simp [fail] at h
  | case8 =>
    rename_i ih
    obtain ⟨m, hm, -⟩ := result_cons h
    have := ih hm
    simp only [List.length_cons]; omega

/-- Two readings, one after the other, give a result only if both do. -/
theorem bind_eq_ok {ε α β : Type} {x : Except ε α} {f : α → Except ε β} {b : β}
    (h : (x >>= f) = .ok b) : ∃ a, x = .ok a ∧ f a = .ok b := by
  cases x with
  | error e => simp [bind, Except.bind] at h
  | ok a => exact ⟨a, rfl, h⟩

/-- A number is read only where a lexeme is at hand. -/
theorem isSome_of_readNumber {a : Argument} {word : Lexeme} {offset : Nat} {x : Option Lexeme}
    {v : Number} (h : readNumber a word offset x = .ok v) : x.isSome = true := by
  cases x with
  | none => simp [readNumber, fail] at h
  | some => rfl

/-- A point is read only where two lexemes are at hand. -/
theorem length_of_readMotion {word : Lexeme} {rest : List Lexeme} {v : Number × Number}
    (h : readMotion word rest = .ok v) : 2 ≤ rest.length := by
  unfold readMotion at h
  obtain ⟨x, -, h⟩ := bind_eq_ok h
  obtain ⟨y, hy, -⟩ := bind_eq_ok h
  have := isSome_of_readNumber hy
  simp at this
  omega

/-- A command that sets the mode takes its own word, and nothing beyond the lexemes at hand. -/
theorem taken_readMode {mode : Option Mode} {word : Lexeme} {rest : List Lexeme} {a : Action}
    {n : Nat} (h : readMode mode word rest = .ok (a, n)) : 0 < n ∧ n ≤ rest.length + 1 := by
  unfold readMode at h
  split at h
  · simp [fail] at h
  · split at h <;> simp [fail] at h
    simp only [List.length_cons]; omega

/-- A command for a drawing takes its own word, and nothing beyond the lexemes at hand. -/
theorem taken_readSetPlot {word : Lexeme} {rest : List Lexeme} {a : Action}
    {n : Nat} (h : readSetPlot word rest = .ok (a, n)) : 0 < n ∧ n ≤ rest.length + 1 := by
  unfold readSetPlot at h
  split at h
  · simp [fail] at h
  · split at h <;> simp [fail] at h
    simp only [List.length_cons]; omega

/-- A path takes its own word, and nothing beyond the numbers at hand. -/
theorem taken_readDraw {word : Lexeme} {rest : List Lexeme} {a : Action}
    {n : Nat} (h : readDraw word rest = .ok (a, n)) : 0 < n ∧ n ≤ rest.length + 1 := by
  unfold readDraw at h
  obtain ⟨x, -, h⟩ := bind_eq_ok h
  have : (rest.takeWhile fun x => decide (x.kind = .number)).length ≤ rest.length :=
    (List.takeWhile_sublist _).length_le
  simp only at h
  split at h
  · split at h <;> simp [fail] at h
  · split at h
    · simp [fail] at h
    · simp only [pure, Except.pure, Except.ok.injEq, Prod.mk.injEq] at h
      omega

/-- A command without a block takes its own word, and nothing beyond the lexemes at hand. -/
theorem taken_readSimple {mode : Option Mode} {word : Lexeme} {rest : List Lexeme} {a : Action}
    {n : Nat} (h : readSimple mode word rest = .ok (a, n)) : 0 < n ∧ n ≤ rest.length + 1 := by
  unfold readSimple at h
  split at h
  · exact taken_readMode h
  · obtain ⟨-, -, h⟩ := bind_eq_ok h
    obtain ⟨v, hv, h⟩ := bind_eq_ok h
    have := length_of_readMotion hv
    simp only [pure, Except.pure, Except.ok.injEq, Prod.mk.injEq] at h
    omega
  · obtain ⟨-, -, h⟩ := bind_eq_ok h
    obtain ⟨v, hv, h⟩ := bind_eq_ok h
    have := length_of_readMotion hv
    simp only [pure, Except.pure, Except.ok.injEq, Prod.mk.injEq] at h
    omega
  · obtain ⟨-, -, h⟩ := bind_eq_ok h
    exact taken_readDraw h
  · obtain ⟨-, -, h⟩ := bind_eq_ok h
    obtain ⟨v, hv, h⟩ := bind_eq_ok h
    have := isSome_of_readNumber hv
    simp at this
    simp only [pure, Except.pure, Except.ok.injEq, Prod.mk.injEq] at h
    omega
  · obtain ⟨-, -, h⟩ := bind_eq_ok h
    exact taken_readSetPlot h
  · obtain ⟨-, -, h⟩ := bind_eq_ok h
    simp only [pure, Except.pure, Except.ok.injEq, Prod.mk.injEq] at h
    omega
  · simp [fail] at h
  · split at h
    · obtain ⟨-, -, h⟩ := bind_eq_ok h
      simp only [pure, Except.pure, Except.ok.injEq, Prod.mk.injEq] at h
      omega
    · simp [fail] at h

/-- **A command takes its own word, and nothing beyond the lexemes at hand.** -/
theorem taken_read {mode : Option Mode} {more : Bool} {word : Lexeme} {rest : List Lexeme}
    {a : Action} {n : Nat} (h : (read mode more word rest).result = .ok (a, n)) :
    0 < n ∧ n ≤ rest.length + 1 := by
  unfold read at h
  split at h
  · split at h
    · simp [Reading.of] at h
    · unfold readBlock at h
      simp only at h
      split at h
      · simp at h
      · rename_i settings taken hr
        have := taken_readSettings hr
        simp only [Except.ok.injEq, Prod.mk.injEq] at h
        omega
  · exact taken_readSimple h

end Reader
end PlotScript
