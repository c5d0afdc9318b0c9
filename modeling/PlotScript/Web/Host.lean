/-
# Hosts

The host of a URL may be an address in brackets, with a user before it and a port after it:

| between the brackets | stands |
| --- | --- |
| an address of version 6 | for itself |
| `v`, a number in base 16, `.`, any text | for an address of a later version |
| an address of version 4, or any other text | for nothing |

A host must not hold characters that stand for reserved ones: under compatibility decomposition
`℀` becomes `a/c`, so a host with it would end earlier than it seems to.
-/

import PlotScript.Fault
import PlotScript.Number

namespace PlotScript
namespace Web

/-- The pieces of a list between the occurrences of an element. -/
def splitAt {α : Type} [DecidableEq α] (sep : α) : List α → List (List α)
  | [] => [[]]
  | a :: r =>
    if a = sep then [] :: splitAt sep r
    else match splitAt sep r with
      | [] => [[a]]
      | l :: ls => (a :: l) :: ls

/-- A hexadecimal digit. -/
def isHexDigit (c : Char) : Bool :=
  isDecimalDigit c || ('a' ≤ c && c ≤ 'f') || ('A' ≤ c && c ≤ 'F')

/-- A number from 0 to 255 without zeros in front. -/
def isOctet (cs : List Char) : Bool :=
  !cs.isEmpty && cs.all isDecimalDigit && cs.length ≤ 3 &&
    (cs.length = 1 || cs.head? ≠ some '0') &&
    match digitsValue? (String.ofList cs) with
    | some n => n ≤ 255
    | none => false

/-- An address of version 4. -/
def isVersion4 (cs : List Char) : Bool :=
  let parts := splitAt '.' cs
  parts.length == 4 && parts.all isOctet

/-- A group of an address of version 6. -/
def isGroup (cs : List Char) : Bool :=
  !cs.isEmpty && cs.all isHexDigit && cs.length ≤ 4

/-- The groups of an address of version 6, in which one gap may stand for groups of zeros. -/
def areGroups (parts : List (List Char)) : Bool :=
  let inner := parts.drop 1 |>.dropLast
  match inner.filter List.isEmpty with
  | [] => parts.length == 8 && parts.all isGroup
  | [_] =>
    let before := parts.take ((inner.findIdx List.isEmpty) + 1)
    let after := parts.drop ((inner.findIdx List.isEmpty) + 2)
    -- a gap at an end is written with one more separator
    let before := if before = [[]] then [] else before
    let after := if after = [[]] then [] else after
    before.all isGroup && after.all isGroup && before.length + after.length ≤ 7
  | _ => false

/-- An address of version 6, with the zone that may follow it. -/
def isVersion6 (cs : List Char) : Bool :=
  let address := cs.takeWhile (· != '%')
  let zone := cs.dropWhile (· != '%')
  let zoneOk := zone.isEmpty || (2 ≤ zone.length && !(zone.drop 1).contains '%')
  let parts := splitAt ':' address
  let last := parts.getLast?.getD []
  -- the last two groups may be written as an address of version 4
  let groups? :=
    if last.contains '.' then
      if isVersion4 last then some (parts.dropLast ++ [['0'], ['0']]) else none
    else some parts
  zoneOk && 3 ≤ parts.length &&
    match groups? with
    | some groups => areGroups groups
    | none => false

/-- The version number in front of an address of a later version. -/
def isLaterVersion (cs : List Char) : Bool :=
  let digits := (cs.drop 1).takeWhile isHexDigit
  match (cs.drop 1).dropWhile isHexDigit with
  | '.' :: _ :: _ => !digits.isEmpty
  | _ => false

/-- Characters that stand for text with a reserved character. -/
def standsForReserved (c : Char) : Bool :=
  [0x2047, 0x2048, 0x2049, 0x2100, 0x2101, 0x2105, 0x2106, 0x2A74, 0xFE13, 0xFE16, 0xFE55, 0xFE56,
    0xFE5F, 0xFE6B, 0xFF03, 0xFF0F, 0xFF1A, 0xFF1F, 0xFF20].contains c.toNat

/-- The part of a list after the last occurrence of an element. -/
def afterLast {α : Type} [DecidableEq α] (sep : α) (l : List α) : List α :=
  (l.reverse.takeWhile (· ≠ sep)).reverse

/-- Refuses what stands between brackets unless it is an address. -/
def checkAddress (cs : List Char) : Except Failure Unit :=
  if cs.head? = some 'v' then
    if isLaterVersion cs then .ok () else .error .hostVersion
  else if isVersion4 cs then .error .hostNotInBrackets
  else if isVersion6 cs then .ok ()
  else .error (.hostNotAddress (String.ofList cs))

/-- Refuses a host whose brackets are wrong.  After the user the brackets come first, and only a
port may follow them.  If the brackets are in the user alone, the host is refused as an address. -/
def checkBrackets (host : List Char) : Except Failure Unit :=
  if host.contains '[' != host.contains ']' then .error .hostBrackets
  else if !host.contains '[' then .ok ()
  else
    match afterLast '@' host with
    | '[' :: r =>
      match (r.dropWhile (· ≠ ']')).drop 1 with
      | [] | ':' :: _ => checkAddress (r.takeWhile (· ≠ ']'))
      | _ => .error .hostBrackets
    | r => if r.contains '[' then .error .hostBrackets else checkAddress (r.takeWhile (· ≠ ':'))

/-- Refuses a host with characters that stand for reserved ones. -/
def checkReserved (host : List Char) : Except Failure Unit :=
  if host.any standsForReserved then .error (.hostReserved (String.ofList host)) else .ok ()

example : isVersion6 "::1".toList = true := by decide +kernel
example : isVersion6 "1:2:3:4:5:6:7:8".toList = true := by decide +kernel
example : isVersion6 "::ffff:1.2.3.4%eth0".toList = true := by decide +kernel
example : isVersion6 ":1::2".toList = false := by decide +kernel
example : isVersion6 "1::2::3".toList = false := by decide +kernel
example : (checkBrackets "[u@[::1]:80".toList).isOk = true := by decide +kernel
example : (checkBrackets "[::1]80".toList).isOk = false := by decide +kernel

end Web
end PlotScript
