/-
# The stream of lexemes

Lexemes wait in a stream for the commands that take them.  A stream grows at its end until the end
of the file is added, which is not kept but ends the stream: nothing can be added after it.

This is `FileState`, the positioned-token stream of the language specification, §3: `Stream.append`
and `Stream.extend` are its two ways to grow, and `tokens`, `lines`, `lineNumbers` and the places
are its parallel records.
-/

import PlotScript.Fault

namespace PlotScript

/-- Lexemes in the order in which they came, and whether the end of the file came after them. -/
structure Stream where
  entries : List Lexeme
  ended : Bool
  deriving DecidableEq, Repr

namespace Stream

/-- The stream to which nothing was added. -/
def empty : Stream := ⟨[], false⟩

/-- The number of lexemes. -/
def size (s : Stream) : Nat := s.entries.length

/-- Adds one lexeme. -/
def append (s : Stream) (x : Lexeme) : Except Failure Stream :=
  if s.ended then .error .streamEnded
  else if x.kind = .endOfFile then .ok { s with ended := true }
  else .ok { s with entries := s.entries ++ [x] }

/-- Adds lexemes up to the first that cannot be added. -/
def extend (s : Stream) : List Lexeme → Except Failure Unit × Stream
  | [] => (.ok (), s)
  | x :: r =>
    match s.append x with
    | .error f => (.error f, s)
    | .ok t => t.extend r

/-- The stream that holds these lexemes. -/
def ofList (l : List Lexeme) : Except Failure Stream :=
  match empty.extend l with
  | (.ok (), s) => .ok s
  | (.error f, _) => .error f

/-- The lexeme at a position; a negative position counts from the end. -/
def get (s : Stream) (i : Int) : Except Failure Lexeme :=
  let n : Int := if i < 0 then s.size + i else i
  if n < 0 then .error .outOfRange
  else match s.entries[n.toNat]? with
    | some x => .ok x
    | none => .error .outOfRange

/-- The tokens of a stream. -/
def tokens (s : Stream) : List Token := s.entries.map Lexeme.token

/-- The line of each lexeme. -/
def lines (s : Stream) : List String := s.entries.map (·.place.line)

/-- The line number of each lexeme. -/
def lineNumbers (s : Stream) : List Int := s.entries.map (·.place.lineNumber)

/-- The lexemes in the order in which an iteration gives them. -/
def toList (s : Stream) : List Lexeme := s.entries

/-- The lexemes from a position on. -/
def drop (s : Stream) (n : Nat) : List Lexeme := s.entries.drop n

/-- Extending a stream with nothing leaves it as it is. -/
@[simp] theorem extend_nil (s : Stream) : s.extend [] = (.ok (), s) := rfl

/-- A stream is extended one lexeme at a time, and the first one that cannot be appended ends it. -/
@[simp] theorem extend_cons (s : Stream) (x : Lexeme) (r : List Lexeme) :
    s.extend (x :: r) = match s.append x with
      | .error f => (.error f, s)
      | .ok t => t.extend r := rfl

/-- Lexemes that do not end the stream are added one after the other. -/
theorem extend_of_forall {s : Stream} (hs : s.ended = false) {l : List Lexeme}
    (hl : ∀ x ∈ l, x.kind ≠ .endOfFile) (r : List Lexeme) :
    s.extend (l ++ r) = (⟨s.entries ++ l, false⟩ : Stream).extend r := by
  induction l generalizing s with
  | nil =>
    obtain ⟨entries, ended⟩ := s
    obtain rfl : ended = false := hs
    rw [List.nil_append, List.append_nil]
  | cons x l ih =>
    have hx : s.append x = .ok ⟨s.entries ++ [x], false⟩ := by
      rw [append, if_neg (by simp [hs]), if_neg (hl x List.mem_cons_self), hs]
    rw [List.cons_append, extend_cons, hx]
    simp only
    rw [ih rfl fun y hy => hl y (List.mem_cons_of_mem _ hy), List.append_assoc]
    rfl

/-- Nothing can be added to a stream that has ended. -/
theorem append_of_ended {s : Stream} (hs : s.ended = true) (x : Lexeme) :
    s.append x = .error .streamEnded := if_pos hs

/-- A lexeme that is added is kept, but for the end of the file, which ends the stream. -/
theorem ended_of_append {s t : Stream} {x : Lexeme} (h : s.append x = .ok t) :
    s.ended = false ∧ t.ended = decide (x.kind = .endOfFile) ∧
      t.entries = s.entries ++ [x].filter (fun y => y.kind ≠ .endOfFile) := by
  unfold append at h
  split at h
  · cases h
  · rename_i hs
    have hs : s.ended = false := by simpa using hs
    split at h <;> rename_i hx <;> cases h
    · exact ⟨hs, by simp [hx], by simp [hx]⟩
    · exact ⟨hs, by simp [hs, hx], by simp [hx]⟩

/-- Adding fails only where the stream has ended. -/
theorem ended_of_append_eq_error {s : Stream} {x : Lexeme} {f : Failure}
    (h : s.append x = .error f) : s.ended = true ∧ f = .streamEnded := by
  unfold append at h
  split at h
  · rename_i hs
    exact ⟨hs, (Except.error.inj h).symm⟩
  · split at h <;> cases h

/-- A stream that has ended is not changed by anything that comes later. -/
theorem state_extend_of_ended {s : Stream} (hs : s.ended = true) (l : List Lexeme) :
    (s.extend l).2 = s := by
  cases l with
  | nil => rfl
  | cons x l => rw [extend_cons, append_of_ended hs]

/-- Appending a lexeme keeps the entries that are there. -/
theorem entries_isPrefix_append {s t : Stream} {x : Lexeme} (h : s.append x = .ok t) :
    s.entries <+: t.entries :=
  (ended_of_append h).2.2 ▸ List.prefix_append _ _

/-- Nothing is taken out of a stream. -/
theorem entries_isPrefix_extend (s : Stream) (l : List Lexeme) :
    s.entries <+: (s.extend l).2.entries := by
  induction l generalizing s with
  | nil => exact List.prefix_rfl
  | cons x l ih =>
    rw [extend_cons]
    split
    · exact List.prefix_rfl
    · rename_i t h
      exact (entries_isPrefix_append h).trans (ih t)

end Stream
end PlotScript
