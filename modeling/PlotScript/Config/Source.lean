/-
# Lines of a configuration file

| of a file | are |
| --- | --- |
| line ends | line feeds, carriage returns, or one after the other |
| `Source.lines` | its lines in UTF-8, without their ends and without a mark at the beginning |
| `rawLine?` | what a complaint shows of a line |

A complaint shows a line as it stands in the file, with its end.  A long line is looked at in pieces
of `pieceSize` octets, and only the last one is shown.
-/

import PlotScript.Config.Encoding

namespace PlotScript
namespace Config

/-- The octets of a line feed and of a carriage return. -/
def lineFeed : UInt8 := 0x0A
def carriageReturn : UInt8 := 0x0D

/-- The mark that a file in UTF-8 may begin with. -/
def byteOrderMark : List UInt8 := [0xEF, 0xBB, 0xBF]

/-- Octets with a line feed at every line end. -/
def withLineFeeds : List UInt8 → List UInt8
  | [] => []
  | [b] => [if b = carriageReturn then lineFeed else b]
  | a :: b :: r =>
    if a = carriageReturn then
      if b = lineFeed then lineFeed :: withLineFeeds r
      else lineFeed :: withLineFeeds (b :: r)
    else a :: withLineFeeds (b :: r)

/-- Lines between line feeds, each with its line feed; the last one need not have any. -/
def endedLines : List UInt8 → List (List UInt8)
  | [] => []
  | b :: r =>
    if b = lineFeed then [b] :: endedLines r
    else match endedLines r with
      | [] => [[b]]
      | l :: ls => (b :: l) :: ls

/-- What is added to the last line of a file: nothing if the line has a plain end already, and a
line feed if it has none, or one of two octets. -/
def lastEnd (bytes : List UInt8) : List UInt8 :=
  match bytes.reverse with
  | b :: r =>
    if b = carriageReturn || (b = lineFeed && r.head? ≠ some carriageReturn) then [] else [lineFeed]
  | [] => []

/-- A line without its line feed. -/
def withoutEnd (line : List UInt8) : List UInt8 :=
  if line.getLast? = some lineFeed then line.dropLast else line

/-- Octets as characters of the same numbers. -/
def asCharacters (l : List UInt8) : List Char := l.map fun b => Char.ofNat b.toNat

/-- A configuration file as it is read. -/
structure Source where
  /-- The encoding that it declares. -/
  declared : Option Text.Charset
  /-- Its lines in UTF-8, without their line feeds. -/
  lines : List (List UInt8)
  deriving DecidableEq, Repr

namespace Source

/-- The lines of octets in UTF-8. -/
def ofUtf8 (declared : Option Text.Charset) (bytes : List UInt8) : Source :=
  ⟨declared, (endedLines bytes).map withoutEnd⟩

/-- Reads octets; none if the declared encoding is not known or not kept to. -/
def ofBytes? (bytes : List UInt8) : Option Source :=
  let added := lastEnd bytes
  let bytes := withLineFeeds bytes
  let marked := byteOrderMark.isPrefixOf bytes
  let body := if marked then bytes.drop byteOrderMark.length else bytes
  match declared? (((endedLines body).take 2).map fun l => asCharacters (withoutEnd l)), marked with
  | none, marked => some (ofUtf8 (if marked then some .utf8 else none) body)
  | some name, marked =>
    if isUtf8 name then some (ofUtf8 (some .utf8) body)
    else if marked then none
    else do
      let charset ← declaredCharset? name
      let cs ← charset.decode? (body ++ added)
      return ofUtf8 (some charset) (Text.Utf8.encode (String.ofList cs))

end Source

/-- How many octets of a long line are looked at together. -/
def pieceSize : Nat := 999

/-- The last piece of a line; none if the line stops at the end of a piece. -/
def lastPiece? (line : List UInt8) : Option (List UInt8) :=
  let piece := line.drop (line.length / pieceSize * pieceSize)
  if piece.isEmpty then
    if line.getLast? = some lineFeed then some (line.drop (line.length - pieceSize)) else none
  else some piece

/-- What a complaint shows of the line with a number, read again from the file; none if there is no
such line or it cannot be read. -/
def rawLine? (bytes : List UInt8) (declared : Option Text.Charset) (number : Nat) :
    Option (List Char) := do
  let line ← (endedLines (withLineFeeds bytes))[number - 1]?
  let piece ← lastPiece? line
  match declared with
  | none => Text.Utf8.decode? piece
  | some charset => charset.lossy? piece

/-- What a complaint shows of the line with a number; `reread` is what the path of the file leads
to when the complaint is made. -/
def shownLine (s : Source) (reread : Option (List UInt8)) (number : Nat) : List Char :=
  match reread.bind fun bytes => rawLine? bytes s.declared number with
  | some cs => cs
  | none => Text.Utf8.lossy (s.lines[number - 1]?.getD []) ++ ['\n']

example : endedLines [0x61, 0x0A, 0x62] = [[0x61, 0x0A], [0x62]] := by decide
example : withLineFeeds [0x61, 0x0D, 0x0A, 0x0D, 0x62] = [0x61, 0x0A, 0x0A, 0x62] := by decide
example : Source.ofBytes? [0xEF, 0xBB, 0xBF, 0x61] = some ⟨some .utf8, [[0x61]]⟩ := by
  decide +kernel

end Config
end PlotScript
