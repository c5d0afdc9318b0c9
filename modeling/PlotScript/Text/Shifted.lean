/-
# Encodings that shift between sets

All octets have seven bits.  Some sequences stand for no character but say by which set the next
octets are read:

| encoding | sequence | the next octets are read |
| --- | --- | --- |
| `hz` | `~{`, `~}` | by GB 2312, by themselves |
| ISO 2022 | escape, `(` or `$`, letter | by the set of this letter |
| ISO 2022, Korean | shift out, shift in | by the second set that was named, by the first one |

A line feed leads back from the second set.  An escape that begins none of these sequences stands
for itself, and so do the octets after it up to a capital letter or `@`.
-/

import PlotScript.Text.CodePage
import PlotScript.Text.EastAsian

namespace PlotScript
namespace Text

/-- An encoding that shifts between sets. -/
inductive Shifted where
  | hz
  | japanese
  | japanese1
  | japanese2
  | japanese3
  | japanese2004
  | japaneseExtended
  | korean
  deriving DecidableEq, Repr

namespace Shifted

/-- A set that is named by a letter. -/
inductive Plane where
  | ascii
  | roman
  | narrow
  | latin1
  | greek
  | jisx0208
  | jisx0208Old
  | jisx0212
  | jisx0213 (e : EastAsian.Edition)
  | jisx0213Second
  | gb2312
  | ksx1001
  deriving DecidableEq, Repr

/-- The octet of a character of seven bits. -/
def letter (c : Char) : UInt8 := UInt8.ofNat c.toNat

namespace Plane

/-- The letter that names a set, and whether its characters take two octets. -/
def name : Plane → UInt8 × Bool
  | ascii => (letter 'B', false)
  | roman => (letter 'J', false)
  | narrow => (letter 'I', false)
  | latin1 => (letter 'A', false)
  | greek => (letter 'F', false)
  | jisx0208 => (letter 'B', true)
  | jisx0208Old => (letter '@', true)
  | jisx0212 => (letter 'D', true)
  | jisx0213 .first => (letter 'O', true)
  | jisx0213 .second => (letter 'Q', true)
  | jisx0213Second => (letter 'P', true)
  | gb2312 => (letter 'A', true)
  | ksx1001 => (letter 'C', true)

/-- The characters at the front of some octets, and how many these are.  The sets of signs of eight
bits are not read in this way. -/
def front? (p : Plane) (l : List UInt8) : Option (List Char × Nat) :=
  match p, l with
  | ascii, b :: _ => some ([Char.ofNat b.toNat], 1)
  | roman, b :: _ => some ([EastAsian.roman b], 1)
  | narrow, b :: _ => (EastAsian.narrow? (b ^^^ 0x80)).map fun c => ([c], 1)
  | jisx0208, a :: b :: _ | jisx0208Old, a :: b :: _ =>
    (CodedSet.jisx0208.char? (CodedSet.number a b)).map fun c => ([c], 2)
  | jisx0212, a :: b :: _ => (CodedSet.jisx0212.char? (CodedSet.number a b)).map fun c => ([c], 2)
  | jisx0213 e, a :: b :: _ => (EastAsian.jisx0213? e (CodedSet.number a b)).map (·, 2)
  | jisx0213Second, a :: b :: _ =>
    (EastAsian.jisx0213Second? .second (CodedSet.number a b)).map fun c => ([c], 2)
  | gb2312, a :: b :: _ => (CodedSet.gb2312.char? (CodedSet.number a b)).map fun c => ([c], 2)
  | ksx1001, a :: b :: _ => (CodedSet.ksx1001.char? (CodedSet.number a b)).map fun c => ([c], 2)
  | _, _ => none

/-- The character of an octet that follows a single shift. -/
def single? (p : Plane) (b : UInt8) : Option Char :=
  if 0x80 ≤ b then none
  else match p with
    | ascii => some (Char.ofNat b.toNat)
    | latin1 => some (Char.ofNat (b.toNat + 0x80))
    | greek => CodePage.iso7.char? (b ^^^ 0x80)
    | _ => none

end Plane

/-- The sets that an encoding names, besides `ascii`. -/
def planes : Shifted → List Plane
  | hz => []
  | japanese => [.jisx0208, .roman, .jisx0208Old]
  | japanese1 => [.jisx0208, .jisx0212, .roman, .jisx0208Old]
  | japanese2 =>
    [.jisx0208, .jisx0212, .ksx1001, .gb2312, .roman, .jisx0208Old, .latin1, .greek]
  | japanese3 => [.jisx0208, .jisx0213 .first, .jisx0213Second]
  | japanese2004 => [.jisx0208, .jisx0213 .second, .jisx0213Second]
  | japaneseExtended => [.jisx0208, .jisx0212, .roman, .narrow, .jisx0208Old]
  | korean => [.ksx1001]

/-- The set that is named by a letter. -/
def plane? (e : Shifted) (name : UInt8 × Bool) : Option Plane :=
  (.ascii :: e.planes).find? fun p => p.name = name

/-- How the next octets are read. -/
structure State where
  /-- The sets that are named last. -/
  first : Plane
  second : Plane
  third : Plane
  /-- They are read by the second set. -/
  shifted : Bool
  /-- They stand for themselves after an escape. -/
  escaped : Bool
  deriving DecidableEq, Repr

/-- How octets are read at the start. -/
def State.start : State := ⟨.ascii, .ascii, .ascii, false, false⟩

/-- The control characters of these encodings. -/
def escape : UInt8 := 0x1B
def shiftOut : UInt8 := 0x0E
def shiftIn : UInt8 := 0x0F
def lineFeed : UInt8 := 0x0A

/-- An octet at which a sequence after an escape ends. -/
def isEnd (b : UInt8) : Bool := letter '@' ≤ b && b ≤ letter 'Z'

/-- An octet that begins the name of a set. -/
def isNaming (b : UInt8) : Bool := ("()$.&".toList.map letter).contains b

/-- How the next octets are read after a sequence that names a set, and how many octets follow the
escape in it.  Two octets may announce the newer edition of the first Japanese set. -/
def named? (e : Shifted) (s : State) (l : List UInt8) : Option (State × Nat) :=
  let set (double : Bool) (b : UInt8) : Option Plane := e.plane? (b, double)
  let announced (l : List UInt8) : Bool := ("\x1b$B".toList.map letter).isPrefixOf (l.drop 2) &&
    (!(l.drop 1).head?.any isEnd || ("&@".toList.map letter).isPrefixOf l)
  if e ≠ .korean && announced l then some ({ s with first := .jisx0208 }, 5)
  else match l.map fun b => Char.ofNat b.toNat, l with
    | '$' :: '(' :: _, _ :: _ :: b :: _ => (set true b).map fun p => ({ s with first := p }, 3)
    | '$' :: ')' :: _, _ :: _ :: b :: _ => (set true b).map fun p => ({ s with second := p }, 3)
    | '$' :: _, _ :: b :: _ => (set true b).map fun p => ({ s with first := p }, 2)
    | '(' :: _, _ :: b :: _ => (set false b).map fun p => ({ s with first := p }, 2)
    | ')' :: _, _ :: b :: _ => (set false b).map fun p => ({ s with second := p }, 2)
    | '.' :: _, _ :: b :: _ =>
      if e = .japanese2 then (set false b).map fun p => ({ s with third := p }, 2) else none
    | _, _ => none

/-- What stands at the front of some octets after an escape. -/
def afterEscape? (e : Shifted) (s : State) : List UInt8 → Option (Front State)
  | [] => none
  | b :: r =>
    if isNaming b then (e.named? s (b :: r)).map fun (t, n) => ⟨[], n + 1, t⟩
    else if e = .japanese2 && b = letter 'N' then
      (r.head?.bind s.third.single?).map fun c => ⟨[c], 3, s⟩
    else some ⟨['\x1b'], 1, { s with escaped := true }⟩

/-- What stands at the front of some octets in ISO 2022. -/
def front2022? (e : Shifted) (s : State) : List UInt8 → Option (Front State)
  | [] => none
  | b :: r =>
    let itself (s : State) : Front State := ⟨[Char.ofNat b.toNat], 1, s⟩
    if s.escaped then some (itself { s with escaped := !isEnd b })
    else if b = escape then e.afterEscape? s r
    else if e = .korean && b = shiftOut then some ⟨[], 1, { s with shifted := true }⟩
    else if e = .korean && b = shiftIn then some ⟨[], 1, { s with shifted := false }⟩
    else if b = lineFeed then some (itself { s with shifted := false })
    else if b < 0x20 then some (itself s)
    else if 0x80 ≤ b then none
    else ((if s.shifted then s.second else s.first).front? (b :: r)).map fun (cs, n) => ⟨cs, n, s⟩

/-- What stands at the front of some octets in HZ. -/
def frontHz? (s : State) : List UInt8 → Option (Front State)
  | [] => none
  | b :: r =>
    if b = letter '~' then
      match r.map fun b => Char.ofNat b.toNat with
      | '~' :: _ => if s.shifted then none else some ⟨['~'], 2, s⟩
      | '{' :: _ => if s.shifted then none else some ⟨[], 2, { s with shifted := true }⟩
      | '}' :: _ => if s.shifted then some ⟨[], 2, { s with shifted := false }⟩ else none
      | '\n' :: _ => if s.shifted then none else some ⟨[], 2, s⟩
      | _ => none
    else if 0x80 ≤ b then none
    else ((if s.shifted then Plane.gb2312 else .ascii).front? (b :: r)).map fun (cs, n) =>
      ⟨cs, n, s⟩

/-- The signs of a list of octets. -/
def signs (e : Shifted) (bytes : List UInt8) : List (Option Char) :=
  Text.signs (if e = .hz then frontHz? else e.front2022?) .start bytes

end Shifted
end Text
end PlotScript
