/-
# Blank characters

Words of a script are separated by blanks.  The blanks are the white space of the Unicode
Character Database together with the four information separators `U+001C` … `U+001F`:

| range | characters |
| --- | --- |
| `U+0009` … `U+000D` | tab, line feed, line tabulation, form feed, carriage return |
| `U+001C` … `U+001F` | information separators |
| `U+0020`, `U+00A0` | space, no-break space |
| `U+0085` | next line |
| `U+1680`, `U+2000` … `U+200A`, `U+202F`, `U+205F`, `U+3000` | the other spaces |
| `U+2028`, `U+2029` | line and paragraph separator |
-/

namespace PlotScript
namespace Text

/-- A blank: a character that separates words. -/
def isBlank (c : Char) : Bool :=
  let n := c.toNat
  (0x09 ≤ n && n ≤ 0x0D) || (0x1C ≤ n && n ≤ 0x20) || n == 0x85 || n == 0xA0 || n == 0x1680 ||
    (0x2000 ≤ n && n ≤ 0x200A) || n == 0x2028 || n == 0x2029 || n == 0x202F || n == 0x205F ||
    n == 0x3000

/-- A list without the elements at its end that have a property. -/
def dropWhileEnd {α : Type} (p : α → Bool) (l : List α) : List α :=
  (l.reverse.dropWhile p).reverse

/-- A text without the blanks around it. -/
def trim (s : String) : String :=
  String.ofList (dropWhileEnd isBlank (s.toList.dropWhile isBlank))

/-- A line without the line feeds and carriage returns at its end. -/
def dropLineEnd (s : String) : String :=
  String.ofList (dropWhileEnd (fun c => c == '\n' || c == '\r') s.toList)

/-- Nothing is dropped from the end of a list whose last element stays. -/
theorem dropWhileEnd_append_of_not {α : Type} {p : α → Bool} {a : α} (h : p a = false)
    (l : List α) : dropWhileEnd p (l ++ [a]) = l ++ [a] := by
  simp [dropWhileEnd, h]

end Text
end PlotScript
