/-
# Where faults come from

What a machine says when it fails is found in one kind of failure and in one kind of complaint, and
what the operating system refuses a plotter in another kind of failure.  Nothing else that a command
does ends with any of these: not reading it (`Reader.own_read`), not adding lexemes to a stream
(`Stream.own_extend`), and not finding out where a download leads (`Web.own_join`).
-/

import PlotScript.Bench
import PlotScript.Proofs.Stopping

namespace PlotScript

/-- All errors are of a kind. -/
def ErrorsIn {ε α : Type} (P : ε → Prop) (x : Except ε α) : Prop := ∀ e, x = .error e → P e

section ErrorsIn

variable {ε α β : Type} {P : ε → Prop}

/-- A result has no errors, so all of them are of any kind. -/
theorem errorsIn_ok (a : α) : ErrorsIn P (.ok a : Except ε α) := by
  rintro _ ⟨⟩

/-- An error of the kind is all there is. -/
theorem errorsIn_error {e : ε} (h : P e) : ErrorsIn P (.error e : Except ε α) :=
  fun _ he => Except.error.inj he ▸ h

/-- Two readings, one after the other, come to errors of the kind of each. -/
theorem ErrorsIn.bind {x : Except ε α} {f : α → Except ε β} (hx : ErrorsIn P x)
    (hf : ∀ a, ErrorsIn P (f a)) : ErrorsIn P (x >>= f) := by
  cases x with
  | error e => exact errorsIn_error (hx e rfl)
  | ok a => exact hf a

/-- What is made of a result adds no errors. -/
theorem ErrorsIn.map {x : Except ε α} (hx : ErrorsIn P x) (f : α → β) : ErrorsIn P (x.map f) := by
  cases x with
  | error e => exact errorsIn_error (hx e rfl)
  | ok a => exact errorsIn_ok _

/-- Errors that are told otherwise are of another kind, if this tells those of the one kind as ones
of the other. -/
theorem ErrorsIn.mapError {ε' : Type} {Q : ε' → Prop} {x : Except ε α} {f : ε → ε'}
    (hx : ErrorsIn P x) (hf : ∀ e, P e → Q (f e)) : ErrorsIn Q (x.mapError f) := by
  cases x with
  | error e => exact errorsIn_error (hf e (hx e rfl))
  | ok a => exact errorsIn_ok a

end ErrorsIn

/-- A failure that is neither the machine's nor the operating system's. -/
def Failure.Own : Failure → Prop
  | runtime _ | system _ | raised _ _ => False
  | _ => True

/-- A cause that is not worded elsewhere. -/
def Cause.Own : Cause → Prop
  | said _ | pointed _ _ => False
  | _ => True

/-- A fault that a command comes to without a refusal of the plotter.  A complaint is about no
number of the stream: it gets one only where it is blamed on the command. -/
def Fault.Own : Fault → Prop
  | .complaint .command c | .complaint .fatal c => c.cause.Own ∧ c.index = none
  | .failure f => f.Own
  | .complaint .general _ | .complaint .device _ | .interrupt _ => False

namespace Web

variable {cs scheme : List Char} {url reference : String}

/-- An address in brackets is refused for a reason of this program. -/
theorem own_checkAddress : ErrorsIn Failure.Own (checkAddress cs) := by
  unfold checkAddress
  split
  · split
    · exact errorsIn_ok ()
    · exact errorsIn_error (by trivial)
  split
  · exact errorsIn_error (by trivial)
  split
  · exact errorsIn_ok ()
  · exact errorsIn_error (by trivial)

/-- A host with brackets is refused for a reason of this program. -/
theorem own_checkBrackets : ErrorsIn Failure.Own (checkBrackets cs) := by
  unfold checkBrackets
  split
  · exact errorsIn_error (by trivial)
  split
  · exact errorsIn_ok ()
  split
  · split
    · exact own_checkAddress
    · exact own_checkAddress
    · exact errorsIn_error (by trivial)
  · split
    · exact errorsIn_error (by trivial)
    · exact own_checkAddress

/-- A host with reserved characters is refused for a reason of this program. -/
theorem own_checkReserved : ErrorsIn Failure.Own (checkReserved cs) := by
  unfold checkReserved
  split
  · exact errorsIn_error (by trivial)
  · exact errorsIn_ok ()

/-- A URL that cannot be read is refused for a reason of this program. -/
theorem own_parse : ErrorsIn Failure.Own (Url.parse cs scheme) := by
  unfold Url.parse
  refine own_checkBrackets.bind fun _ => own_checkReserved.bind fun _ => ?_
  exact errorsIn_ok _

/-- A prefix of temporary files that is no text is refused for a reason of this program. -/
theorem own_tempPrefixText {p : Params} : ErrorsIn Failure.Own p.tempPrefixText := by
  unfold Params.tempPrefixText
  split
  · exact errorsIn_ok _
  · exact errorsIn_ok _
  · exact errorsIn_error (by trivial)

/-- That a URL has no extension that can be found out is a failure of this program. -/
theorem own_urlExtension : ErrorsIn Failure.Own (urlExtension url) :=
  own_parse.bind fun _ => errorsIn_ok _

/-- That a redirect has no target that can be found out is a failure of this program. -/
theorem own_join : ErrorsIn Failure.Own (join url reference) := by
  unfold join
  split
  · exact errorsIn_ok _
  split
  · exact errorsIn_ok _
  refine own_parse.bind fun b => own_parse.bind fun u => ?_
  dsimp only
  split
  · exact errorsIn_ok _
  split
  · exact errorsIn_ok _
  split <;> exact errorsIn_ok _

end Web

/-- That a stream has ended is the only reason why it is not extended. -/
theorem Stream.own_extend {s : Stream} {l : List Lexeme} :
    ErrorsIn Failure.Own (s.extend l).1 := by
  induction l generalizing s with
  | nil => exact errorsIn_ok ()
  | cons x l ih =>
    rw [extend_cons]
    rcases ha : s.append x with f | t
    · unfold append at ha
      split at ha
      · cases ha
        exact errorsIn_error (by trivial)
      · split at ha <;> cases ha
    · exact ih

namespace Reader

variable {α : Type} {mode : Option Mode} {word x : Lexeme} {rest l : List Lexeme} {offset : Nat}
  {b : Block}

/-- A reading that stops for a reason of its own. -/
def Stop.Own : Stop → Prop
  | .wrong cause _ _ => cause.Own
  | .failed f => f.Own
  | .waiting => True

/-- A reading that stops at a lexeme stops for the reason that is given. -/
theorem own_fail {cause : Cause} (h : cause.Own) (x : Lexeme) (offset : Nat) :
    ErrorsIn Stop.Own (fail cause x offset : Except Stop α) := errorsIn_error h

/-- That no mode is set is complained about in words of this program. -/
theorem own_needMode : ErrorsIn Stop.Own (needMode mode word) := by
  cases mode with
  | none => exact own_fail (by trivial) _ _
  | some m => exact errorsIn_ok m

/-- That the mode is not the interactive one is complained about in words of this program. -/
theorem own_needInteractive : ErrorsIn Stop.Own (needInteractive mode word) := by
  refine own_needMode.bind fun m => ?_
  cases m with
  | interactive => exact errorsIn_ok ()
  | plot => exact own_fail (by trivial) _ _

/-- That the mode is not the one for plots is complained about in words of this program. -/
theorem own_needPlot : ErrorsIn Stop.Own (needPlot mode word) := by
  refine own_needMode.bind fun m => ?_
  cases m with
  | interactive => exact own_fail (by trivial) _ _
  | plot => exact errorsIn_ok ()

/-- That a block does not suit the mode is complained about in words of this program. -/
theorem own_needBlockMode : ErrorsIn Stop.Own (needBlockMode b mode word) := by
  cases b with
  | options => exact own_needMode
  | update => exact own_needInteractive.bind fun _ => errorsIn_ok _

/-- Setting the mode stops for a reason of its own. -/
theorem own_readMode : ErrorsIn Stop.Own (readMode mode word rest) := by
  cases rest with
  | nil => exact own_fail (by trivial) _ _
  | cons x rest =>
    simp only [readMode]
    split
    · exact own_fail (by trivial) _ _
    · exact errorsIn_ok _
    · exact own_fail (by trivial) _ _

/-- A lexeme that is no coordinate is complained about in words of this program. -/
theorem own_coordinate : ErrorsIn Stop.Own (coordinate x) := by
  unfold coordinate
  split
  · exact errorsIn_ok _
  · exact errorsIn_error (P := Stop.Own) (by trivial)

/-- The first of several lexemes that is no coordinate is complained about in words of this
program. -/
theorem own_mapM_coordinate : ErrorsIn Stop.Own (l.mapM coordinate) := by
  induction l with
  | nil => exact errorsIn_ok []
  | cons x l ih =>
    rw [List.mapM_cons]
    exact own_coordinate.bind fun v => ih.bind fun vs => errorsIn_ok (v :: vs)

/-- A number that is missing or wrong is complained about in words of this program. -/
theorem own_readNumber {a : Argument} {x : Option Lexeme} :
    ErrorsIn Stop.Own (readNumber a word offset x) := by
  cases x with
  | none => exact own_fail (by trivial) _ _
  | some x =>
    rw [readNumber]
    split
    · exact own_coordinate
    · exact own_fail (by trivial) _ _

/-- A motion stops for a reason of its own. -/
theorem own_readMotion : ErrorsIn Stop.Own (readMotion word rest) :=
  own_readNumber.bind fun x => own_readNumber.bind fun y => errorsIn_ok (x, y)

/-- A path stops for a reason of its own. -/
theorem own_readDraw : ErrorsIn Stop.Own (readDraw word rest) := by
  unfold readDraw
  refine own_mapM_coordinate.bind fun vs => ?_
  simp only
  split
  · split <;> exact own_fail (by trivial) _ _
  split
  · exact own_fail (by trivial) _ _
  · exact errorsIn_ok _

/-- A drawing stops for a reason of its own. -/
theorem own_readSetPlot : ErrorsIn Stop.Own (readSetPlot word rest) := by
  cases rest with
  | nil => exact own_fail (by trivial) _ _
  | cons x rest =>
    rw [readSetPlot]
    split
    · exact errorsIn_ok _
    · exact own_fail (by trivial) _ _

/-- A command without a block stops for a reason of its own, whichever it is. -/
theorem own_readSimple : ErrorsIn Stop.Own (readSimple mode word rest) := by
  unfold readSimple
  split
  · exact own_readMode
  · exact own_needInteractive.bind fun _ => own_readMotion.bind fun (_, _) => errorsIn_ok _
  · exact own_needInteractive.bind fun _ => own_readMotion.bind fun (_, _) => errorsIn_ok _
  · exact own_needInteractive.bind fun _ => own_readDraw
  · exact own_needInteractive.bind fun _ => own_readNumber.bind fun _ => errorsIn_ok _
  · exact own_needPlot.bind fun _ => own_readSetPlot
  · exact own_needPlot.bind fun _ => errorsIn_ok _
  · exact own_fail (by trivial) _ _
  · split
    · exact own_needInteractive.bind fun _ => errorsIn_ok _
    · exact own_fail (by trivial) _ _

/-- A value that is missing, wrong or too long stops for a reason of its own. -/
theorem own_readValue {s : Setting} : ErrorsIn Stop.Own (readValue s x offset) := by
  unfold readValue
  split
  · exact own_fail (by trivial) _ _
  split
  · exact errorsIn_ok _
  split
  · exact errorsIn_error (P := Stop.Own) (by trivial)
  split
  · exact errorsIn_error (P := Stop.Own) (by trivial)
  split
  · split
    · exact errorsIn_ok _
    · exact own_fail (by trivial) _ _
  · exact errorsIn_ok _

/-- The settings of a block stop for a reason of their own.  The induction is the one along which
they are read. -/
theorem own_readSettings {interactive more : Bool} {seen : List Setting} :
    ErrorsIn Stop.Own (readSettings b interactive more word seen offset l).result := by
  fun_induction readSettings b interactive more word seen offset l with
  | case1 =>
    split
    · exact errorsIn_error (by trivial)
    · exact own_fail (by trivial) _ _
  | case2 | case6 => exact errorsIn_ok _
  | case3 =>
    split
    · exact errorsIn_error (by trivial)
    · exact own_fail (by trivial) _ _
  | case4 | case5 | case9 | case10 => exact own_fail (by trivial) _ _
  | case7 _ _ _ _ _ _ _ _ _ e he => exact errorsIn_error (own_readValue e he)
  | case8 _ _ _ _ _ _ _ _ _ _ _ _ ih => exact ih.map _

/-- **Reading comes to no fault that is not its own.** -/
theorem own_read {more : Bool} : ErrorsIn Stop.Own (read mode more word rest).result := by
  unfold read
  split
  · rename_i b _
    split
    · rename_i e he
      exact errorsIn_error (own_needBlockMode e he)
    · unfold readBlock
      simp only
      split
      · rename_i e he
        exact errorsIn_error (own_readSettings e he)
      · exact errorsIn_ok _
  · exact own_readSimple

end Reader
end PlotScript
