/-
# Lines of a text

Two notions of line are in use.  Messages are laid out by *rows*, which end at any of the
characters that move to a new row:

| ends | characters |
| --- | --- |
| a row | `U+000A` … `U+000D`, `U+001C` … `U+001E`, `U+0085`, `U+2028`, `U+2029` |
| a line of a file | line feed, carriage return |

In both a carriage return and the line feed after it are one end, and the text after the last end
is a line only if it is not empty.
-/

namespace PlotScript
namespace Text

/-- Characters that end a row. -/
def isRowEnd (c : Char) : Bool :=
  let n := c.toNat
  (0x0A ≤ n && n ≤ 0x0D) || (0x1C ≤ n && n ≤ 0x1E) || n == 0x85 || n == 0x2028 || n == 0x2029

/-- Characters that end a line of a file. -/
def isLineEnd (c : Char) : Bool := c == '\n' || c == '\r'

/-- The pieces of a text between the characters that end a piece. -/
def splitAtEnds (isEnd : Char → Bool) : List Char → List (List Char)
  | [] => []
  | '\r' :: '\n' :: r => [] :: splitAtEnds isEnd r
  | c :: r =>
    if isEnd c then [] :: splitAtEnds isEnd r
    else match splitAtEnds isEnd r with
      | [] => [[c]]
      | l :: ls => (c :: l) :: ls

/-- The rows of a message. -/
def rows (s : String) : List String := (splitAtEnds isRowEnd s.toList).map String.ofList

/-- The lines of a file. -/
def fileLines (cs : List Char) : List String := (splitAtEnds isLineEnd cs).map String.ofList

/-- The part of a text up to its last line end: what is known to be whole lines while more of the
file is to come.  A carriage return at the very end may be half of a line end, so it does not
count. -/
def wholeLines (cs : List Char) : List Char :=
  let shown := if cs.getLast? = some '\r' then cs.dropLast else cs
  (shown.reverse.dropWhile (fun c => !isLineEnd c)).reverse

example : rows "a\nb" = ["a", "b"] := by decide +kernel
example : rows "\n\na\n\n" = ["", "", "a", ""] := by decide +kernel
example : rows "a\r\nb\rc" = ["a", "b", "c"] := by decide +kernel
example : rows "" = [] := by decide +kernel

end Text
end PlotScript
