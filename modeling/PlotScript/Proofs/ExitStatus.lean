/-
# Exit status and reports

A run of a script ends with a status, and leaves records of errors in the log:

| the run | status | records of errors |
| --- | --- | --- |
| comes to its end | 0 | none |
| finds unknown words in the script | 1 | one for each, in their order |
| has any other fault | 1 | one |
| has a fault that nothing foresees | none | none |

The records are made in four places: where the words are read, where a command has a fault, where
the program ends with a fault that is fatal, and nowhere for a fault that was reported before.  So
for each way in which a run can end there is one that makes them (`Program.Agree`).  The events of a
run are `Program.batchEvents`, and what the program shows are their texts.

The statuses are those of the language specification, §15, and the records those of §12 and §13.
-/

import PlotScript.Proofs.Cleanup
import PlotScript.Proofs.Conclusions
import PlotScript.Proofs.Origins
import PlotScript.Proofs.Precedence

namespace PlotScript

namespace Event

/-- The records of errors among events. -/
def errors (es : List Event) : List Event := es.filter isError

/-- The records of errors among events are those among the first of them, and those among the others
after them. -/
@[simp] theorem errors_append (es fs : List Event) : errors (es ++ fs) = errors es ++ errors fs :=
  List.filter_append ..

/-- Events of which none is the record of an error leave no such record. -/
theorem errors_eq_nil {es : List Event} (h : ∀ ev ∈ es, ev.isError = false) : errors es = [] :=
  List.filter_eq_nil_iff.2 fun ev hev => by simp [h ev hev]

/-- Complaints are reported one by one, and each report is the record of an error. -/
theorem errors_reports (l : List Complaint) :
    errors (l.map (report .command)) = l.map (report .command) :=
  List.filter_eq_self.2 fun ev hev => by
    obtain ⟨c, -, rfl⟩ := List.mem_map.1 hev
    rfl

/-- Warnings are no records of errors. -/
@[simp] theorem errors_warnings (l : List Complaint) : errors (l.map warn) = [] :=
  errors_eq_nil fun ev hev => by
    obtain ⟨c, -, rfl⟩ := List.mem_map.1 hev
    rfl

end Event

namespace Script

open Executor

variable {path : String} {site : Site} {cs : List Char}

/-- The words of a script; there are none if it cannot be read. -/
def wordsOf (site : Site) (path : String) : List Lexeme :=
  match text site path with
  | .ok cs => (Lexer.reading (Text.fileLines cs) (some path)).words
  | .error _ => []

/-- The words of a script are given, with a record for each that is unknown.  The warnings come
first, and the script is refused for the first unknown word. -/
theorem lexemes_eq (lines : List String) (site : Site) :
    let x := Lexer.reading lines (some path)
    ∃ ws, lexemes path lines site =
      ⟨(firstComplaint (Lexer.unknowns x.words)).map fun _ => x.tokens.1,
        List.map Event.warn ws ++ (Lexer.unknowns x.words).map (.report .command), site⟩ := by
  intro x
  have hu : x.tokens.2.2.complaints = Lexer.unknowns x.words := by
    rw [x.ends_tokens.complaints, Lexer.words_eq_ahead]
    rfl
  refine ⟨x.tokens.2.1.toList, ?_⟩
  have hl : lexemes path lines = Act.tell (x.tokens.2.1.toList.map Event.warn) >>= fun _ =>
      Act.tell (x.tokens.2.2.complaints.map (Event.report .command)) >>= fun _ =>
        Act.ofExcept (firstComplaint x.tokens.2.2.complaints) >>= fun _ =>
          (pure x.tokens.1 : Act Fault Site (List Lexeme)) := rfl
  rw [hl, hu]
  refine Act.bind_eq rfl ?_
  rcases hc : Lexer.unknowns x.words with _ | ⟨c, r⟩
  · rfl
  · exact (Act.bind_eq rfl rfl).trans (by rw [List.append_nil]; rfl)

end Script

namespace Program

open Executor

/-- What events leave on standard error. -/
def rows (es : List Event) : String := String.join (es.filterMap row?)

/-- The status of a run of a script agrees with the errors that it records.  There are complaints
about unknown words, or there are none; and the run ends with a fault that nothing foresees, or it
does not. -/
inductive Agree (unknown : List Complaint) (unforeseen : Prop) :
    Except Fault Nat → List Event → Prop
  | well : unknown = [] → ¬unforeseen → Agree unknown unforeseen (.ok 0) []
  | words : unknown ≠ [] → ¬unforeseen →
    Agree unknown unforeseen (.ok 1) (unknown.map (.report .command))
  | once (g : Grade) (c : Complaint) : unknown = [] → ¬unforeseen →
    Agree unknown unforeseen (.ok 1) [.report g c]
  | unforeseen (f : Failure) : unknown = [] → unforeseen →
    Agree unknown unforeseen (.error (.failure f)) []

namespace Agree

variable {unknown : List Complaint} {unforeseen : Prop} {status : Except Fault Nat}
  {records : List Event}

/-- The status is 0 or 1 if there is one. -/
theorem range (h : Agree unknown unforeseen status records) (n : Nat) (hn : status = .ok n) :
    n = 0 ∨ n = 1 := by
  cases h with
  | well => exact .inl (Except.ok.inj hn).symm
  | words | once => exact .inr (Except.ok.inj hn).symm
  | unforeseen => cases hn

/-- With status 0 no error is recorded. -/
theorem quiet (h : Agree unknown unforeseen status records) (hn : status = .ok 0) :
    records = [] := by
  cases h with
  | well => rfl
  | words | once | unforeseen => cases hn

/-- With status 1 and no unknown words, there is exactly one record. -/
theorem single (h : Agree unknown unforeseen status records) (hn : status = .ok 1)
    (hu : unknown = []) : ∃ g c, records = [.report g c] := by
  cases h with
  | well => cases hn
  | words hne _ => exact absurd hu hne
  | once g c _ _ => exact ⟨g, c, rfl⟩
  | unforeseen => cases hn

end Agree

/-- A script sets a drawing whose check breaks down. -/
def BreaksDown (c : Config Constant) (path : String) (site : Site) : Prop :=
  ∃ l, (Script.load path site).result = .ok l ∧ ∃ n drawing,
    .begun n (.setPlot drawing) ∈ (Script.perform l
      (.start true (Params.ofConfig c) Preview.start site)).state.bench.deeds ∧
    site.Breaks drawing

section runScript

variable {debug : Bool} {c : Config Constant} {path : String} {site : Site}

/-- A script that is not loaded sets no drawing, so no check of one breaks down. -/
theorem not_breaksDown {f : Fault} (h : (Script.load path site).result = .error f) :
    ¬BreaksDown c path site := by
  rintro ⟨l, hl, -⟩
  rw [h] at hl
  cases hl

end runScript

end Program

namespace Config

variable {α : Type} {given : String → Option α} {c object : Config α} {names : List String}

end Config

namespace Program

open Executor

variable {a : Arguments} {site : Site} {path : String}

/-- A folder with a script. -/
def withScript (script : String) (others : List (String × Entry)) : Site :=
  ⟨.ofList ["w"] (("s.axi", .file script.toUTF8.toList) :: others), .fresh "/tmp", [], [], .plain⟩

end Program
end PlotScript
