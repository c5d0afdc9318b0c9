/-
# Syllables of the Korean script

A syllable is made of a leading letter, a vowel and perhaps a trailing letter.  In Unicode the
syllables stand in the order of these:

| letters | in order |
| --- | --- |
| `leading` | 19 |
| `vowels` | 21 |
| none, then `trailing` | 28 |

Beside these letters, which stand alone, Unicode has others that join; they come in the same order.
-/

namespace PlotScript
namespace Text
namespace Hangul

/-- The letters that a syllable may begin with. -/
def leading : List Char := "ㄱㄲㄴㄷㄸㄹㅁㅂㅃㅅㅆㅇㅈㅉㅊㅋㅌㅍㅎ".toList

/-- The vowels. -/
def vowels : List Char := "ㅏㅐㅑㅒㅓㅔㅕㅖㅗㅘㅙㅚㅛㅜㅝㅞㅟㅠㅡㅢㅣ".toList

/-- The letters that a syllable may end with. -/
def trailing : List Char := "ㄱㄲㄳㄴㄵㄶㄷㄹㄺㄻㄼㄽㄾㄿㅀㅁㅂㅄㅅㅆㅇㅈㅊㅋㅌㅍㅎ".toList

/-- What stands in the place of a letter that a syllable does not have. -/
def filler : Char := '\u3164'

/-- The first syllable and the last one. -/
def first : Nat := 0xAC00
def last : Nat := 0xD7A3

/-- How many syllables there are with one leading letter, and with one leading letter and vowel. -/
def perLeading : Nat := 588
def perVowel : Nat := 28

/-- The syllable of three letters. -/
def syllable? (l v t : Char) : Option Char := do
  let i ← leading.idxOf? l
  let j ← vowels.idxOf? v
  let k ← if t = filler then some 0 else (trailing.idxOf? t).map (· + 1)
  return Char.ofNat (first + i * perLeading + j * perVowel + k)

/-- The first joining letters of the three kinds; the place of the first trailing one is empty. -/
def joiningLeading : Nat := 0x1100
def joiningVowel : Nat := 0x1161
def joiningTrailing : Nat := 0x11A7

/-- The joining letters of a syllable. -/
def letters? (c : Char) : Option (List Char) :=
  let n := c.toNat
  if first ≤ n && n ≤ last then
    let i := n - first
    let t := i % perVowel
    some (Char.ofNat (joiningLeading + i / perLeading) ::
      Char.ofNat (joiningVowel + i % perLeading / perVowel) ::
      if t = 0 then [] else [Char.ofNat (joiningTrailing + t)])
  else none

/-- The syllable that two joining letters make, or a syllable and a trailing letter. -/
def joined? (c d : Char) : Option Char :=
  let m := c.toNat
  let n := d.toNat
  if joiningLeading ≤ m && m < joiningLeading + leading.length &&
      joiningVowel ≤ n && n < joiningVowel + vowels.length then
    some (Char.ofNat (first + (m - joiningLeading) * perLeading + (n - joiningVowel) * perVowel))
  else if first ≤ m && m ≤ last && (m - first) % perVowel = 0 &&
      joiningTrailing < n && n ≤ joiningTrailing + trailing.length then
    some (Char.ofNat (m + (n - joiningTrailing)))
  else none

example : perVowel = trailing.length + 1 := by decide +kernel
example : perLeading = vowels.length * perVowel := by decide +kernel
example : first + leading.length * perLeading = last + 1 := by decide +kernel
example : syllable? 'ㅎ' 'ㅏ' 'ㄴ' = some '한' := by decide +kernel
example : syllable? 'ㄱ' 'ㅡ' filler = some '그' := by decide +kernel

end Hangul
end Text
end PlotScript
