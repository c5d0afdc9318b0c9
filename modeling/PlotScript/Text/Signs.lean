/-
# Signs

A text is read from its octets front to back: some octets stand for characters together, and what
they are read for may change how the next ones are read.  An octet at which nothing can be read
stands for nothing.  A *sign* is a character, or an octet that stands for nothing.
-/

namespace PlotScript
namespace Text

/-- What is read at the front of some octets: the characters, how many octets they take, and how
the next ones are read. -/
structure Front (σ : Type) where
  chars : List Char
  taken : Nat
  next : σ
  deriving DecidableEq, Repr

variable {σ : Type}

/-- The signs of a list of octets. -/
def signs (front? : σ → List UInt8 → Option (Front σ)) : σ → List UInt8 → List (Option Char)
  | _, [] => []
  | s, b :: r =>
    match front? s (b :: r) with
    | some f => f.chars.map some ++ signs front? f.next (r.drop (f.taken - 1))
    | none => none :: signs front? s r
termination_by _ l => l.length
decreasing_by
  · simp only [List.length_drop, List.length_cons]
    omega
  · simp only [List.length_cons]
    omega

/-- The signs of a list of octets that are all read in the same way. -/
def plainSigns (front? : List UInt8 → Option (List Char × Nat)) : List UInt8 → List (Option Char) :=
  signs (fun _ l => (front? l).map fun (cs, n) => ⟨cs, n, ()⟩) ()

/-- The characters of signs; none if there is an octet that stands for nothing. -/
def charsOf? (l : List (Option Char)) : Option (List Char) := l.mapM id

example : plainSigns (fun l => if l.head? = some 0x61 then some (['a'], 2) else none)
    [0x61, 0x62, 0x63, 0x61] = [some 'a', none, some 'a'] := by decide +kernel

end Text
end PlotScript
