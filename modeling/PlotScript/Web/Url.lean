/-
# URLs

A URL is taken apart into scheme, host, path, parameters of the last segment, query and fragment,
and a reference is resolved against the URL of the page that holds it, segment by segment:

| reference | resolved against `http://a/b/c` |
| --- | --- |
| `g`, `./g`, `g?y#s` | `http://a/b/g`, `http://a/b/g`, `http://a/b/g?y#s` |
| `../g`, `../../g` | `http://a/g`, `http://a/g` |
| `/g`, `//g` | `http://a/g`, `http://g` |
| `?y` | `http://a/b/c?y` |
| `g:h` | `g:h` |

Characters up to the space in front of a URL, and tabs and line ends anywhere, do not count.
-/

import PlotScript.Web.Host

namespace PlotScript
namespace Web

/-- The parts of a URL. -/
structure Url where
  scheme : List Char
  host : List Char
  path : List Char
  params : List Char
  query : List Char
  fragment : List Char
  deriving DecidableEq, Repr

/-- Schemes with relative references. -/
def relativeSchemes : List String :=
  ["", "ftp", "http", "gopher", "nntp", "imap", "wais", "file", "https", "shttp", "mms",
    "prospero", "rtsp", "rtspu", "sftp", "svn", "svn+ssh", "ws", "wss"]

/-- Schemes with a host. -/
def hostSchemes : List String :=
  ["", "ftp", "http", "gopher", "nntp", "telnet", "imap", "wais", "file", "mms", "https", "shttp",
    "snews", "prospero", "rtsp", "rtspu", "rsync", "svn", "svn+ssh", "sftp", "nfs", "git",
    "git+ssh", "ws", "wss"]

/-- Schemes with parameters of the last segment. -/
def paramSchemes : List String :=
  ["", "ftp", "hdl", "prospero", "http", "imap", "https", "shttp", "rtsp", "rtspu", "sip",
    "sips", "mms", "sftp", "tel"]

/-- A letter of the basic alphabet. -/
def isLetter (c : Char) : Bool := ('a' ≤ c && c ≤ 'z') || ('A' ≤ c && c ≤ 'Z')

/-- A character of a scheme. -/
def isSchemeChar (c : Char) : Bool :=
  isLetter c || isDecimalDigit c || c == '+' || c == '-' || c == '.'

/-- A letter in lower case. -/
def lowerLetter (c : Char) : Char := if 'A' ≤ c && c ≤ 'Z' then Char.ofNat (c.toNat + 32) else c

/-- The part of a list before an element, and the part after it if it is there. -/
def cut {α : Type} [DecidableEq α] (sep : α) : List α → List α × Option (List α)
  | [] => ([], none)
  | a :: r =>
    if a = sep then ([], some r)
    else
      let (before, after) := cut sep r
      (a :: before, after)

/-- The scheme of a URL and what follows its colon. -/
def takeScheme (cs : List Char) : Option (List Char × List Char) :=
  match cs.head?, cut ':' cs with
  | some c, (scheme, some rest) =>
    if isLetter c && scheme.all isSchemeChar then some (scheme.map lowerLetter, rest) else none
  | _, _ => none

/-- The path and the parameters of its last segment. -/
def takeParams (path : List Char) : List Char × List Char :=
  let last := (path.reverse.takeWhile (· != '/')).reverse
  let before := path.take (path.length - last.length)
  let (name, params) := cut ';' last
  (before ++ name, params.getD [])

namespace Url

/-- Takes a URL apart; `scheme` is used if it has none of its own. -/
def parse (text : List Char) (scheme : List Char) : Except Failure Url := do
  let cs := (text.dropWhile fun c => c.toNat ≤ 0x20).filter fun c =>
    c != '\t' && c != '\r' && c != '\n'
  let (scheme, cs) := (takeScheme cs).getD (scheme, cs)
  let (host, cs) := match cs with
    | '/' :: '/' :: r =>
      (r.takeWhile fun c => c != '/' && c != '?' && c != '#',
        r.dropWhile fun c => c != '/' && c != '?' && c != '#')
    | r => ([], r)
  checkBrackets host
  let (cs, fragment) := cut '#' cs
  let (path, query) := cut '?' cs
  checkReserved host
  let (path, params) :=
    if paramSchemes.contains (String.ofList scheme) then takeParams path else (path, [])
  return ⟨scheme, host, path, params, query.getD [], fragment.getD []⟩

/-- Puts a URL together. -/
def render (u : Url) : List Char :=
  let path := if u.params.isEmpty then u.path else u.path ++ ';' :: u.params
  -- a path with two slashes in front looks like a host already
  let hasHost := !u.host.isEmpty ||
    (!u.scheme.isEmpty && hostSchemes.contains (String.ofList u.scheme) &&
      path.take 2 != ['/', '/'])
  let path :=
    if hasHost then
      '/' :: '/' :: u.host ++ (if path.isEmpty || path.head? = some '/' then path else '/' :: path)
    else path
  (if u.scheme.isEmpty then [] else u.scheme ++ [':']) ++ path ++
    (if u.query.isEmpty then [] else '?' :: u.query) ++
    (if u.fragment.isEmpty then [] else '#' :: u.fragment)

end Url

/-- A list without its empty members, the first and the last apart. -/
def dropEmptyInside (l : List (List Char)) : List (List Char) :=
  match l with
  | [] => []
  | a :: r =>
    match r.getLast? with
    | none => [a]
    | some z => a :: r.dropLast.filter (!·.isEmpty) ++ [z]

/-- Follows `.` and `..` through the segments of a path; `done` are those passed, last first. -/
def resolveSegments (done : List (List Char)) : List (List Char) → List (List Char)
  | [] => done.reverse
  | s :: r =>
    if s = ['.', '.'] then resolveSegments (done.drop 1) r
    else if s = ['.'] then resolveSegments done r
    else resolveSegments (s :: done) r

/-- A path relative to another. -/
def joinPaths (base path : List Char) : List Char :=
  let parts := splitAt '/' path
  let segments :=
    if path.head? = some '/' then parts
    else
      let baseParts := splitAt '/' base
      let folder := if baseParts.getLast? = some [] then baseParts else baseParts.dropLast
      dropEmptyInside (folder ++ parts)
  let resolved := resolveSegments [] segments
  let last := segments.getLast?
  let resolved :=
    if last = some ['.'] || last = some ['.', '.'] then resolved ++ [[]] else resolved
  let joined := List.intercalate ['/'] resolved
  if joined.isEmpty then ['/'] else joined

/-- A reference resolved against a URL. -/
def join (base reference : String) : Except Failure String := do
  if base.isEmpty then return reference
  if reference.isEmpty then return base
  let b ← Url.parse base.toList []
  let u ← Url.parse reference.toList b.scheme
  let scheme := String.ofList u.scheme
  if u.scheme != b.scheme || !relativeSchemes.contains scheme then return reference
  let hasHost := hostSchemes.contains scheme
  if hasHost && !u.host.isEmpty then return String.ofList u.render
  let host := if hasHost then b.host else u.host
  if u.path.isEmpty && u.params.isEmpty then
    let query := if u.query.isEmpty then b.query else u.query
    return String.ofList
      ({ u with host := host, path := b.path, params := b.params, query := query } : Url).render
  return String.ofList ({ u with host := host, path := joinPaths b.path u.path } : Url).render

/-- The extension of a path: from the last dot of its last segment on, unless only dots stand
before it. -/
def extension (path : List Char) : List Char :=
  let name := (path.reverse.takeWhile (· != '/')).reverse
  let after := (name.reverse.takeWhile (· != '.')).reverse
  if after.length = name.length then []
  else
    let before := name.take (name.length - after.length - 1)
    if before.all (· == '.') then [] else '.' :: after

/-- The extension of the path of a URL. -/
def urlExtension (url : String) : Except Failure String := do
  let u ← Url.parse url.toList []
  return String.ofList (extension u.path)

/-- A source that is fetched from the web. -/
def isUrl (s : String) : Bool :=
  let cs := s.toList
  let rest := (cs.drop 4)
  cs.take 4 == "http".toList &&
    (rest.take 3 == "://".toList || rest.take 4 == "s://".toList) && !rest.contains '\n'

end Web
end PlotScript
