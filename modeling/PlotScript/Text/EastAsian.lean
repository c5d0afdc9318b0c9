/-
# Encodings of Eastern Asia

Octets of seven bits stand for themselves; other characters take one octet of eight bits, or several
octets of which the first one has eight bits.

| module | encodings |
| --- | --- |
| `EastAsian.Chinese` | `gb2312`, `gbk`, `gb18030`, `big5`, `windows950`, `hongKong` |
| `EastAsian.Japanese` | `shiftJis`, `windows932`, `shiftJisx0213`, `eucJp`, `eucJisx0213` |
| `EastAsian.Korean` | `eucKr`, `unified`, `johab` |
-/

import PlotScript.Text.EastAsian.Chinese
import PlotScript.Text.EastAsian.Japanese
import PlotScript.Text.EastAsian.Korean
import PlotScript.Text.Signs

namespace PlotScript
namespace Text

/-- An encoding of Eastern Asia. -/
inductive EastAsian where
  | gb2312
  | gbk
  | gb18030
  | big5
  | windows950
  | hongKong
  | shiftJis
  | windows932
  | shiftJisx0213 (e : EastAsian.Edition)
  | eucJp
  | eucJisx0213 (e : EastAsian.Edition)
  | eucKr
  | unified
  | johab
  deriving DecidableEq, Repr

namespace EastAsian

/-- The character of a single octet. -/
def alone? : EastAsian → UInt8 → Option Char
  | shiftJisx0213 _, b => if b < 0x80 then some (roman b) else narrow? b
  | e, b =>
    if b < 0x80 then some (Char.ofNat b.toNat)
    else match e with
      | shiftJis => narrow? b
      | windows932 => windowsAlone? b
      | _ => none

/-- The characters of a pair of octets. -/
def pair? : EastAsian → UInt8 → UInt8 → Option (List Char)
  | gb2312, a, b => (gb2312? a b).map ([·])
  | gbk, a, b => (gbk? a b).map ([·])
  | gb18030, a, b => (gb18030? a b).map ([·])
  | big5, a, b => (big5? a b).map ([·])
  | windows950, a, b => (windows950? a b).map ([·])
  | hongKong, a, b => hongKong? a b
  | shiftJis, a, b => (shiftJis? a b).map ([·])
  | windows932, a, b => (windows932? a b).map ([·])
  | shiftJisx0213 e, a, b => shiftJisx0213? e a b
  | eucJp, a, b => (eucJp? a b).map ([·])
  | eucJisx0213 e, a, b => eucJisx0213? e a b
  | eucKr, a, b => (eucKr? a b).map ([·])
  | unified, a, b => (unified? a b).map ([·])
  | johab, a, b => (johab? a b).map ([·])

/-- The character of more than two octets, and how many it takes. -/
def longer? : EastAsian → List UInt8 → Option (Char × Nat)
  | gb18030, a :: b :: c :: d :: _ => (fourOctets? a b c d).map (·, 4)
  | eucJp, a :: b :: c :: _ => (eucJpSupplement? a b c).map (·, 3)
  | eucJisx0213 e, a :: b :: c :: _ => (eucJisx0213Supplement? e a b c).map (·, 3)
  | eucKr, l => (madeSyllable? (l.take 8)).map (·, 8)
  | _, _ => none

/-- The characters at the front of some octets, and how many these are. -/
def front? (e : EastAsian) : List UInt8 → Option (List Char × Nat)
  | [] => none
  | a :: r =>
    match e.alone? a with
    | some c => some ([c], 1)
    | none =>
      match r.head?.bind (e.pair? a) with
      | some cs => some (cs, 2)
      | none => (e.longer? (a :: r)).map fun (c, n) => ([c], n)

/-- The signs of a list of octets. -/
def signs (e : EastAsian) : List UInt8 → List (Option Char) := plainSigns e.front?

end EastAsian
end Text
end PlotScript
