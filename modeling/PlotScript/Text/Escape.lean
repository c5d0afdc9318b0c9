/-
# Showing a text on one line

`escape` writes a text in printable ASCII; `quote` writes it between quotes and keeps every
printable character.  Both write the other characters with a backslash:

| character | written |
| --- | --- |
| backslash | `\\` |
| tab, line feed, carriage return | `\t`, `\n`, `\r` |
| up to `U+00FF` | `\x` and two hexadecimal digits |
| up to `U+FFFF` | `\u` and four |
| above | `\U` and eight |
-/

import PlotScript.Text.Printable

namespace PlotScript
namespace Text

/-- The hexadecimal digit of a number below 16. -/
def hexDigit (n : Nat) : Char :=
  if n < 10 then Char.ofNat (n + 48) else Char.ofNat (n + 87)

/-- The last `width` hexadecimal digits of a number. -/
def hex (width n : Nat) : List Char :=
  match width with
  | 0 => []
  | w + 1 => hex w (n / 16) ++ [hexDigit (n % 16)]

/-- The code of a character after a backslash. -/
def codeEscape (c : Char) : List Char :=
  let n := c.toNat
  if n < 0x100 then '\\' :: 'x' :: hex 2 n
  else if n < 0x10000 then '\\' :: 'u' :: hex 4 n
  else '\\' :: 'U' :: hex 8 n

/-- The short escape of a character that has one, else the code of one that is not shown. -/
def escapeChar (isShown : Char → Bool) (c : Char) : List Char :=
  if c = '\\' then ['\\', '\\']
  else if c = '\t' then ['\\', 't']
  else if c = '\n' then ['\\', 'n']
  else if c = '\r' then ['\\', 'r']
  else if isShown c then [c]
  else codeEscape c

/-- A printable ASCII character. -/
def isPlain (c : Char) : Bool := 0x20 ≤ c.toNat && c.toNat < 0x7F

/-- A text in printable ASCII. -/
def escape (s : String) : String := String.ofList (s.toList.flatMap (escapeChar isPlain))

/-- Characters between quotes: between apostrophes, unless there is an apostrophe and no double
quote. -/
def quoted (isShown : Char → Bool) (cs : List Char) : String :=
  let mark := if cs.contains '\'' && !cs.contains '"' then '"' else '\''
  let inner := cs.flatMap fun c => if c = mark then ['\\', c] else escapeChar isShown c
  String.ofList (mark :: inner ++ [mark])

/-- A text between quotes. -/
def quote (s : String) : String := quoted isPrintable s.toList

/-- Octets between quotes, after a `b`: each as the character of its number, if that is plain. -/
def quoteOctets (l : List UInt8) : String :=
  "b" ++ quoted isPlain (l.map fun b => Char.ofNat b.toNat)

/-- Sixteen digits are written as plain characters. -/
theorem isPlain_hexDigit {n : Nat} (h : n < 16) : isPlain (hexDigit n) = true := by
  have key : ∀ m : Fin 16, isPlain (hexDigit m) = true := by decide
  exact key ⟨n, h⟩

/-- A hexadecimal number of any width is written in plain characters. -/
theorem isPlain_of_mem_hex {w n : Nat} {c : Char} (h : c ∈ hex w n) : isPlain c = true := by
  induction w generalizing n with
  | zero => simp [hex] at h
  | succ w ih =>
    rcases List.mem_append.1 h with h | h
    · exact ih h
    · rw [List.mem_singleton.1 h]
      exact isPlain_hexDigit (Nat.mod_lt _ (by decide))

/-- The escape of a character is a backslash, a letter and hexadecimal digits, all of them plain. -/
theorem isPlain_of_mem_codeEscape {c d : Char} (h : d ∈ codeEscape c) : isPlain d = true := by
  unfold codeEscape at h
  simp only at h
  split at h
  · rcases List.mem_cons.1 h with rfl | h
    · rfl
    rcases List.mem_cons.1 h with rfl | h
    · rfl
    · exact isPlain_of_mem_hex h
  split at h
  · rcases List.mem_cons.1 h with rfl | h
    · rfl
    rcases List.mem_cons.1 h with rfl | h
    · rfl
    · exact isPlain_of_mem_hex h
  · rcases List.mem_cons.1 h with rfl | h
    · rfl
    rcases List.mem_cons.1 h with rfl | h
    · rfl
    · exact isPlain_of_mem_hex h

/-- **An escaped text is printable ASCII:** no control character and no line break is left. -/
theorem isPlain_of_mem_escape {s : String} {c : Char} (h : c ∈ (escape s).toList) :
    isPlain c = true := by
  simp only [escape, String.toList_ofList, List.mem_flatMap] at h
  obtain ⟨d, -, h⟩ := h
  unfold escapeChar at h
  split at h
  · simp only [List.mem_cons, List.not_mem_nil, or_false] at h; rcases h with rfl | rfl <;> rfl
  split at h
  · simp only [List.mem_cons, List.not_mem_nil, or_false] at h; rcases h with rfl | rfl <;> rfl
  split at h
  · simp only [List.mem_cons, List.not_mem_nil, or_false] at h; rcases h with rfl | rfl <;> rfl
  split at h
  · simp only [List.mem_cons, List.not_mem_nil, or_false] at h; rcases h with rfl | rfl <;> rfl
  split at h
  · rename_i hp
    rw [List.mem_singleton.1 h]; exact hp
  · exact isPlain_of_mem_codeEscape h

example : escape "a\tb\\é" = "a\\tb\\\\\\xe9" := by decide +kernel
example : quote "it's" = "\"it's\"" := by decide +kernel
example : quote "a'\"\n" = "'a\\'\"\\n'" := by decide +kernel
example : quoteOctets [0x61, 0x27, 0x00, 0xE9] = "b\"a'\\x00\\xe9\"" := by decide +kernel

/-- The decimal digits are plain. -/
theorem isPlain_of_isDigit {c : Char} (h : c.isDigit = true) : isPlain c = true := by
  simp only [Char.isDigit, Bool.and_eq_true, decide_eq_true_eq, UInt32.le_iff_toNat_le] at h
  simp only [isPlain, Bool.and_eq_true, decide_eq_true_eq, Char.toNat]
  have h0 : '0'.val.toNat = 0x30 := rfl
  have h9 : '9'.val.toNat = 0x39 := rfl
  omega

/-- A natural number is written in decimal digits, which are plain. -/
theorem isPlain_of_mem_natToString {n : Nat} {c : Char} (h : c ∈ (toString n).toList) :
    isPlain c = true :=
  isPlain_of_isDigit
    (Nat.isDigit_of_mem_toDigits (b := 10) (by decide) (by decide) (by simpa using h))

/-- A number in decimal digits, with its sign, is printable ASCII. -/
theorem isPlain_of_mem_intToString {n : Int} {c : Char} (h : c ∈ (toString n).toList) :
    isPlain c = true := by
  cases n with
  | ofNat n => exact isPlain_of_mem_natToString h
  | negSucc n =>
    have hsign : c ∈ ("-" ++ toString (n + 1)).toList := h
    rw [String.toList_append] at hsign
    rcases List.mem_append.1 hsign with hc | hc
    · rw [List.mem_singleton.1 hc]
      rfl
    · exact isPlain_of_mem_natToString hc

end Text
end PlotScript
