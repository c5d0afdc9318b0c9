/-
# Running a stream

An executor takes one command after another from the front of its stream and carries it out.  The
stream may grow between runs.  A command with a fault ends the run of a *strict* executor.  Any
other goes on:

| fault of | goes on with |
| --- | --- |
| an option block | the lexeme after the block's closing word, which may be yet to come |
| another command | the first lexeme that is on another line than the one blamed |

An option block that may still be completed is left for the next run.  `Skipped` and `Recovered`
list all that passing over a block and a complaint may lead to; what is proved of either goes
through these cases.

| | follows |
| --- | --- |
| `parse`, `run` | `parse()` of the Command Dispatcher, language specification, §4.2 and §13 |
| `step`, `command`, `carryOut` | one turn of its dispatch loop |
| `recover`, `resume`, `blamed`, `nextLine` | going on after an error in lenient mode, §13 |
| `skip` | passing over a block through its terminator, §13 |
| `pending`, `mayGrow` | incremental streams, §14 |
| `discard` | what is left of a line when it is interrupted, §14 |
-/

import PlotScript.Bench
import PlotScript.Command.Reader
import PlotScript.Token.Stream

namespace PlotScript

/-- A stream with what its commands work on. -/
structure Executor (σ : Type) where
  /-- The first fault ends the run. -/
  strict : Bool
  params : Params
  stream : Stream
  /-- The number of the next lexeme to read. -/
  index : Nat
  /-- The option block to be left unread up to its closing word. -/
  skipping : Option Block
  bench : Bench σ

namespace Executor

variable {σ : Type}

/-- An executor before the first run. -/
def start (strict : Bool) (params : Params) (device : σ) (site : Site) : Executor σ :=
  ⟨strict, params, .empty, 0, none, .start device site⟩

/-- Notes what was done. -/
def note (e : Executor σ) (d : Deed) : Executor σ := { e with bench := e.bench.note d }

/-- The mode of the script. -/
def mode (e : Executor σ) : Option Mode := e.bench.mode

/-- Lexemes wait for more lexemes. -/
def pending (e : Executor σ) : Bool := e.skipping.isSome || e.index < e.stream.size

/-- A block that is not closed may still be completed. -/
def mayGrow (e : Executor σ) : Bool := !e.stream.ended && !e.strict

/-- The lexemes that wait. -/
def waiting (e : Executor σ) : List Lexeme := e.stream.drop e.index

/-- Drops all lexemes that wait. -/
def discard (e : Executor σ) : Executor σ := { e with index := e.stream.size, skipping := none }

/-- Removes what was fetched. -/
def close (e : Executor σ) : List Event × Executor σ :=
  let (es, b) := e.bench.close e.params
  (es, { e with bench := b })

/-- Leaves lexemes unread up to the closing word of a block. -/
def skip (e : Executor σ) (b : Block) : Executor σ :=
  match e.waiting.findIdx? fun x => x.kind = .blockEnd b with
  | some n => { e with index := e.index + n + 1, skipping := none }
  | none =>
    { e with
      index := e.stream.size
      skipping := if e.stream.ended then none else some b }

/-- The number of the first lexeme after a lexeme that is on another line. -/
def nextLine (s : Stream) (n : Nat) : Nat :=
  match s.drop n with
  | [] => n + 1
  | x :: r => n + 1 + (r.takeWhile fun y => y.place.sameLine x.place).length

/-- The lexeme that is blamed for a fault of the command at `start`. -/
def blamed (start : Nat) (c : Complaint) : Nat :=
  match c.index with
  | none => start
  | some i => max i.toNat start

/-- Where reading goes on after a fault of the command at `start`, whose word is given. -/
def resume (e : Executor σ) (start : Nat) (word : Lexeme) (c : Complaint) : Executor σ :=
  match word.kind with
  | .blockStart b => { e with skipping := some b, index := blamed start c }
  | _ => { e with index := nextLine e.stream (blamed start c) }

/-- Reading was to go on after the line of a lexeme that the stream does not hold.  Only a complaint
of a plotter blames such a lexeme. -/
def astray (e : Executor σ) (start : Nat) (word : Lexeme) (c : Complaint) : Bool :=
  match word.kind with
  | .blockStart _ => false
  | _ => e.stream.size ≤ blamed start c

/-- How a step ends: with the complaints reported, or waiting for more lexemes. -/
inductive Step where
  | reported (l : List Complaint)
  | waits
  deriving DecidableEq

/-- What an executor does, with what it reports. -/
abbrev Turn (σ α : Type) := Outcome Fault (Executor σ) α

/-- Reports a complaint about the command at `start`; a strict run ends, and so does one that does
not find the line to go on after. -/
def recover (e : Executor σ) (start : Nat) (word : Lexeme) (c : Complaint) : Turn σ Step :=
  let report := [Event.report .command c]
  let e := e.note (.reported start c)
  if e.strict then ⟨.error (.command c), report, e⟩
  else if e.astray start word c then ⟨.error (.failure .outOfRange), report, e⟩
  else ⟨.ok (.reported [c]), report, e.resume start word c⟩

/-- What a complaint about the command at `start` leads to, with all that led there. -/
inductive Recovered (e : Executor σ) (start : Nat) (word : Lexeme) (c : Complaint) :
    Turn σ Step → Prop
  | ended : e.strict = true → Recovered e start word c
      ⟨.error (.command c), [.report .command c], e.note (.reported start c)⟩
  | lost : e.strict = false → (∀ b, word.kind ≠ .blockStart b) →
    e.stream.size ≤ blamed start c → Recovered e start word c
      ⟨.error (.failure .outOfRange), [.report .command c], e.note (.reported start c)⟩
  | inBlock {b : Block} : e.strict = false → word.kind = .blockStart b →
    Recovered e start word c ⟨.ok (.reported [c]), [.report .command c],
      { e.note (.reported start c) with skipping := some b, index := blamed start c }⟩
  | nextLine : e.strict = false → (∀ b, word.kind ≠ .blockStart b) →
    blamed start c < e.stream.size → Recovered e start word c
      ⟨.ok (.reported [c]), [.report .command c],
        { e.note (.reported start c) with index := nextLine e.stream (blamed start c) }⟩

/-- **A complaint leads to one of these.**  What it changes and what it leaves follows from the
cases. -/
theorem recovered (e : Executor σ) (start : Nat) (word : Lexeme) (c : Complaint) :
    Recovered e start word c (e.recover start word c) := by
  unfold recover
  dsimp only
  split
  · rename_i hs
    exact .ended hs
  rename_i hs
  have hs : e.strict = false := Bool.eq_false_iff.2 hs
  unfold astray resume
  split
  · rename_i b hb
    rw [if_neg Bool.false_ne_true]
    exact .inBlock hs hb
  rename_i hb
  split
  · rename_i hle
    exact .lost hs hb (of_decide_eq_true hle)
  · rename_i hlt
    exact .nextLine hs hb (Nat.lt_of_not_le fun h => hlt (decide_eq_true h))

/-- An outcome with events before its own. -/
def after {α : Type} (es : List Event) (o : Turn σ α) : Turn σ α :=
  { o with events := es ++ o.events }

/-- What is left to do: it falls with every step. -/
def work (e : Executor σ) : Nat :=
  2 * (e.stream.size - e.index) + (if e.skipping.isSome then 0 else 1)

/-- Where passing over a block leads: behind the first closing word that waits, or to the end, if
none does. -/
inductive Skipped (e : Executor σ) (b : Block) : Executor σ → Prop
  | closed {front back : List Lexeme} {z : Lexeme} : e.waiting = front ++ z :: back →
    z.kind = .blockEnd b → (∀ x ∈ front, x.kind ≠ .blockEnd b) →
    Skipped e b { e with index := e.index + front.length + 1, skipping := none }
  | unclosed : (∀ x ∈ e.waiting, x.kind ≠ .blockEnd b) → Skipped e b
      { e with index := e.stream.size, skipping := if e.stream.ended then none else some b }

/-- **Passing over a block leads to one of these.** -/
theorem skipped (e : Executor σ) (b : Block) : Skipped e b (e.skip b) := by
  unfold skip
  split
  · rename_i n hn
    obtain ⟨hlt, hz, hfront⟩ := List.findIdx?_eq_some_iff_getElem.1 hn
    have hlen : (e.waiting.take n).length = n := List.length_take_of_le (Nat.le_of_lt hlt)
    have hsplit : e.waiting = e.waiting.take n ++ e.waiting[n] :: e.waiting.drop (n + 1) := by
      rw [List.getElem_cons_drop, List.take_append_drop]
    have hopen : ∀ x ∈ e.waiting.take n, x.kind ≠ .blockEnd b := by
      intro x hx
      obtain ⟨i, hi, rfl⟩ := List.mem_take_iff_getElem.1 hx
      simpa using hfront i (by omega)
    have h := Skipped.closed hsplit (of_decide_eq_true hz) hopen
    rwa [hlen] at h
  · rename_i hnone
    exact .unclosed fun x hx => by simpa using List.findIdx?_eq_none_iff.1 hnone x hx

/-- Passing over a block leaves the stream as it is. -/
@[simp] theorem stream_skip (e : Executor σ) (b : Block) : (e.skip b).stream = e.stream := by
  have h := skipped e b
  generalize e.skip b = t at h ⊢
  cases h <;> rfl

/-- Passing over a block makes progress if a lexeme waits: either this one is behind it then, or
nothing is left to pass over. -/
theorem work_skip {e : Executor σ} {b : Block} (hs : e.skipping = some b)
    (h : e.index < e.stream.size) : (e.skip b).work < e.work := by
  have ht := skipped e b
  generalize e.skip b = t at ht ⊢
  cases ht with
  | closed =>
    simp only [work, hs, Option.isSome_none, Option.isSome_some]
    simp
    omega
  | unclosed =>
    simp only [work, hs, Option.isSome_some]
    split <;> simp <;> omega

/-- The next line begins behind the lexeme whose line is left. -/
theorem lt_nextLine (s : Stream) (n : Nat) : n < nextLine s n := by
  unfold nextLine
  split <;> omega

/-- No lexeme in front of the command is blamed for its fault. -/
theorem le_blamed (start : Nat) (c : Complaint) : start ≤ blamed start c := by
  unfold blamed
  split <;> omega

/-- A complaint that does not end the run leaves less to do than there was at the word of the
command.  For a block the work may stay in place, but from then on it is passed over, which
counts. -/
theorem work_recover {e t : Executor σ} {start : Nat} {word : Lexeme} {c : Complaint}
    {l : List Complaint} {es : List Event} (hs : e.skipping = none) (h : start < e.stream.size)
    (hr : e.recover start word c = ⟨.ok (.reported l), es, t⟩) :
    t.work < 2 * (e.stream.size - start) + 1 := by
  have hb := le_blamed start c
  have hrec := recovered e start word c
  rw [hr] at hrec
  cases hrec with
  | inBlock =>
    simp only [work, note, Option.isSome_some]
    simp
    omega
  | nextLine =>
    have hlt := lt_nextLine e.stream (blamed start c)
    simp only [work, note, hs, Option.isSome_none]
    simp
    omega

/-- An outcome with events in front is an outcome with the same result and state. -/
theorem after_eq {α : Type} {es fs : List Event} {o : Turn σ α} {r : Except Fault α}
    {t : Executor σ} (h : after es o = ⟨r, fs, t⟩) : ∃ gs, o = ⟨r, gs, t⟩ := by
  obtain ⟨r', gs, t'⟩ := o
  simp only [after, Outcome.mk.injEq] at h
  exact ⟨gs, by rw [h.1, h.2.2]⟩

/-- The lexeme that waits first is one of the stream. -/
theorem index_lt_of_waiting {e : Executor σ} {word : Lexeme} {rest : List Lexeme}
    (h : e.waiting = word :: rest) : e.index < e.stream.size := by
  have : (e.stream.entries.drop e.index).length = (word :: rest).length := congrArg _ h
  simp only [List.length_drop, List.length_cons] at this
  simp only [Stream.size]
  omega

variable [Device σ]

/-- Carries out a command that was read and takes `taken` lexemes. -/
def carryOut (e : Executor σ) (word : Lexeme) (action : Action) (taken : Nat) : Turn σ Step :=
  let o := Bench.execute e.params (e.index + taken - 1) ⟨word, action⟩
    (e.bench.note (.begun e.index action))
  let next := { e with index := e.index + taken, bench := o.state }
  match o.result with
  | .ok () => ⟨.ok (.reported []), o.events, next⟩
  | .error (.complaint .command c) => after o.events (next.recover e.index word c)
  | .error f => ⟨.error f, o.events, next⟩

/-- Reads the command at a word and carries it out. -/
def command (e : Executor σ) (word : Lexeme) (rest : List Lexeme) : Turn σ Step :=
  let r := Reader.read e.mode e.mayGrow word rest
  after (r.warnings.map Event.warn)
    (match r.result with
    | .error .waiting => ⟨.ok .waits, [], e⟩
    | .error (.failed f) => ⟨.error (.failure f), [], e⟩
    | .error (.wrong cause x offset) =>
      e.recover e.index word ⟨cause, some x, some (e.index + offset)⟩
    | .ok (action, taken) => e.carryOut word action taken)

/-- One step: a block left unread, or a command. -/
def step (e : Executor σ) (word : Lexeme) (rest : List Lexeme) : Turn σ Step :=
  match e.skipping with
  | some b => ⟨.ok (.reported []), [], e.skip b⟩
  | none => e.command word rest

/-- A command that is carried out leaves less to do, as it takes its own word at least.  If it is
complained about, reading goes on behind that word, too. -/
theorem work_carryOut {e t : Executor σ} {word : Lexeme} {action : Action} {taken : Nat}
    {l : List Complaint} {es : List Event} (hs : e.skipping = none)
    (h : e.index < e.stream.size) (ht : 0 < taken)
    (hr : e.carryOut word action taken = ⟨.ok (.reported l), es, t⟩) : t.work < e.work := by
  have he : e.work = 2 * (e.stream.size - e.index) + 1 := by simp [work, hs]
  unfold carryOut at hr
  simp only at hr
  split at hr
  · simp only [Outcome.mk.injEq] at hr
    rw [← hr.2.2, he]
    simp only [work, hs, Option.isSome_none]
    simp
    omega
  · obtain ⟨gs, hr⟩ := after_eq hr
    have key := work_recover (by exact hs) (by exact h) hr
    rw [he]
    exact key
  · simp at hr

/-- Reading a command and carrying it out leaves less to do, or it is waited for. -/
theorem work_command {e t : Executor σ} {word : Lexeme} {rest : List Lexeme}
    {l : List Complaint} {es : List Event} (hs : e.skipping = none)
    (h : e.index < e.stream.size)
    (hr : e.command word rest = ⟨.ok (.reported l), es, t⟩) : t.work < e.work := by
  unfold command at hr
  obtain ⟨gs, hr⟩ := after_eq hr
  split at hr
  · simp at hr
  · simp at hr
  · have := work_recover hs h hr
    simpa [work, hs] using this
  · rename_i action taken ha
    exact work_carryOut hs h (Reader.taken_read ha).1 hr

/-- **Every step makes progress.** -/
theorem work_step {e t : Executor σ} {word : Lexeme} {rest : List Lexeme} {l : List Complaint}
    {es : List Event} (h : e.index < e.stream.size)
    (hr : e.step word rest = ⟨.ok (.reported l), es, t⟩) : t.work < e.work := by
  unfold step at hr
  split at hr
  · rename_i b hs
    simp only [Outcome.mk.injEq] at hr
    rw [← hr.2.2]
    exact work_skip hs h
  · rename_i hs
    exact work_command hs h hr

/-- Takes steps until nothing is left to read or more lexemes are waited for. -/
def run (e : Executor σ) : Turn σ (List Complaint) :=
  match hw : e.waiting with
  | [] => ⟨.ok [], [], e⟩
  | word :: rest =>
    match hr : e.step word rest with
    | ⟨.error f, es, t⟩ => ⟨.error f, es, t⟩
    | ⟨.ok .waits, es, t⟩ => ⟨.ok [], es, t⟩
    | ⟨.ok (.reported l), es, t⟩ =>
      have := work_step (index_lt_of_waiting hw) hr
      let o := t.run
      ⟨o.result.map (l ++ ·), es ++ o.events, o.state⟩
termination_by e.work

/-- Adds lexemes to the stream and runs; the complaints reported are given. -/
def parse (e : Executor σ) (l : List Lexeme) : Turn σ (List Complaint) :=
  let (result, stream) := e.stream.extend l
  let e := { e with stream := stream }
  match result with
  | .error f => ⟨.error (.failure f), [], e⟩
  | .ok () => e.run

end Executor
end PlotScript
