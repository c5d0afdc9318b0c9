/-
# Files

A run sees a tree of files, works in one folder of it, and makes its temporary files in another.  A
path is followed from component to
component, from the root if it begins with `/` and else from that folder:

| component | leads |
| --- | --- |
| empty, or `.` | nowhere else |
| `..` | up, and from the root to the root |
| any other | down to what has this name |

Each component but the last must be a folder.  A path does not exist if a component has more than
255 octets, if the whole has 4096 or more, or if it holds a null character.
-/

import PlotScript.Text.Utf8
import PlotScript.Web.Host

namespace PlotScript

/-- What a path leads to. -/
inductive Entry where
  | file (bytes : List UInt8)
  | folder
  deriving DecidableEq

namespace Entry

/-- A regular file. -/
def isFile : Entry → Bool
  | file _ => true
  | folder => false

/-- The content of a file. -/
def bytes? : Entry → Option (List UInt8)
  | file bytes => some bytes
  | folder => none

end Entry

/-- A tree of files, by the names on the way from the root, and the folder to work in. -/
structure Files where
  entries : List (List String × Entry)
  here : List String

namespace Files

/-- The components of a path. -/
def components (path : String) : List String := (Web.splitAt '/' path.toList).map String.ofList

/-- Where a path begins. -/
def origin (here : List String) (path : String) : List String :=
  if path.toList.head? = some '/' then [] else here

/-- Goes through components by the names alone, from a place given with its last name first. -/
def simplify (place : List String) : List String → List String
  | [] => place.reverse
  | c :: r =>
    if c = "" ∨ c = "." then simplify place r
    else if c = ".." then simplify (place.drop 1) r
    else simplify (c :: place) r

/-- The place of a path by the names alone. -/
def simplified (here : List String) (path : String) : List String :=
  simplify (origin here path).reverse (components path)

/-- The path of a name in the folder at a path. -/
def join (folder name : String) : String :=
  String.ofList (folder.toList.reverse.dropWhile (· == '/')).reverse ++ "/" ++ name

/-- A path, from the root. -/
def absolute (f : Files) (path : String) : String :=
  if path.toList.head? = some '/' then path
  else join ("/" ++ String.intercalate "/" f.here) path

/-- The tree with these files. -/
def ofList (here : List String) (l : List (String × Entry)) : Files :=
  ⟨l.map fun (path, e) => (simplified here path, e), here⟩

/-- What lies at a place.  A folder is there if something lies below it. -/
def at? (f : Files) (place : List String) : Option Entry :=
  match f.entries.find? fun x => x.1 = place with
  | some x => some x.2
  | none =>
    if place.isPrefixOf f.here || f.entries.any fun x => place.isPrefixOf x.1 then some .folder
    else none

/-- The longest name of a file, in octets. -/
def nameLimit : Nat := 255

/-- The longest path, in octets. -/
def pathLimit : Nat := 4096

/-- The place that components lead to from another. -/
def follow (f : Files) (place : List String) : List String → Option (List String)
  | [] => some place
  | c :: r =>
    if f.at? place = some .folder then
      if c = "" ∨ c = "." then f.follow place r
      else if c = ".." then f.follow place.dropLast r
      else if nameLimit < Text.Utf8.size c then none
      else f.follow (place ++ [c]) r
    else none

/-- A path that can be followed at all. -/
def isPath (path : String) : Bool :=
  !path.isEmpty && !path.toList.contains '\x00' && Text.Utf8.size path < pathLimit

/-- The place that a path leads to, where something need not lie yet. -/
def place? (f : Files) (path : String) : Option (List String) :=
  if isPath path then f.follow (origin f.here path) (components path) else none

/-- What a path leads to. -/
def lookup (f : Files) (path : String) : Option Entry := (f.place? path).bind f.at?

/-- What a path leads to when it is first simplified by the names alone. -/
def lookupSimplified (f : Files) (path : String) : Option Entry :=
  if isPath path then (f.follow [] (simplified f.here path)).bind f.at? else none

/-- The tree with a new file, unless something lies at the path or nothing can. -/
def create? (f : Files) (path : String) (bytes : List UInt8) : Option Files := do
  let place ← f.place? path
  if (f.at? place).isSome then none
  else some { f with entries := (place, .file bytes) :: f.entries }

/-- The tree without the file at a path. -/
def remove? (f : Files) (path : String) : Option Files := do
  let place ← f.place? path
  if (f.at? place).any Entry.isFile then
    some { f with entries := f.entries.filter fun x => x.1 ≠ place }
  else none

/-- What the operating system says where components lead to nothing that it can remove. -/
def obstacle (f : Files) (place : List String) : List String → String
  | [] =>
    if f.at? place = some .folder then "[Errno 21] Is a directory"
    else "[Errno 2] No such file or directory"
  | c :: r =>
    if f.at? place = some .folder then
      if c = "" ∨ c = "." then f.obstacle place r
      else if c = ".." then f.obstacle place.dropLast r
      else if nameLimit < Text.Utf8.size c then "[Errno 36] File name too long"
      else f.obstacle (place ++ [c]) r
    else if (f.at? place).isSome then "[Errno 20] Not a directory"
    else "[Errno 2] No such file or directory"

/-- What the operating system says when nothing can be removed at a path. -/
def removalError (f : Files) (path : String) : String :=
  (if pathLimit ≤ Text.Utf8.size path then "[Errno 36] File name too long"
    else f.obstacle (origin f.here path) (components path)) ++ ": " ++ Text.quote path

/-- The files in the folder at a path, by their names. -/
def inFolder (f : Files) (path : String) : List (String × List UInt8) :=
  f.entries.filterMap fun (place, e) =>
    if place.dropLast = simplified f.here path then
      match place.getLast?, e with
      | some name, .file bytes => some (name, bytes)
      | _, _ => none
    else none

/-- The tree without the files in the folder at a path. -/
def emptied (f : Files) (path : String) : Files :=
  { f with entries := f.entries.filter fun x =>
      !(x.2.isFile && x.1.dropLast = simplified f.here path) }

/-- The first name on the way that leads nowhere is missing from its folder. -/
def isMissing (f : Files) (place : List String) : List String → Bool
  | [] => false
  | c :: r =>
    if f.at? place ≠ some .folder || nameLimit < Text.Utf8.size c then false
    else (f.at? (place ++ [c])).isNone || f.isMissing (place ++ [c]) r

/-- A simplified path leads nowhere because a name is missing, and not for another reason. -/
def isAbsent (f : Files) (path : String) : Bool :=
  isPath path && f.isMissing [] (simplified f.here path)

example : (ofList ["w"] [("d/f", .file [1])]).lookup "d/../d/./f" = some (.file [1]) := by
  decide +kernel
example : (ofList ["w"] [("d/f", .file [1])]).lookup "d/f/" = none := by decide +kernel
example : (ofList ["w"] [("d/f", .file [1])]).lookup "d" = some .folder := by decide +kernel
example : (ofList ["w"] [("d/f", .file [1])]).lookup "x/../d/f" = none := by decide +kernel
example : (ofList ["w"] [("d/f", .file [1])]).removalError "d/f/g" =
    "[Errno 20] Not a directory: 'd/f/g'" := by decide +kernel
example : (ofList ["w"] [("d/f", .file [1])]).lookupSimplified "x/../d/f" = some (.file [1]) := by
  decide +kernel

end Files

/-- Why a temporary file cannot be made. -/
inductive TemporaryFault where
  /-- None can be created. -/
  | creation
  /-- What is created cannot be written. -/
  | writing
  deriving DecidableEq

/-- The folder for temporary files. -/
structure Temporary where
  path : String
  /-- The number of the last file that was asked for. -/
  made : Nat
  fault : Option TemporaryFault

namespace Temporary

/-- A folder for which no file was asked yet. -/
def fresh (path : String) : Temporary := ⟨path, 0, none⟩

/-- The path of a name seen from the folder. -/
def pathOf (t : Temporary) (name : String) : String :=
  if name.toList.head? = some '/' then name else t.path ++ "/" ++ name

/-- The path with a number in it. -/
def numbered (t : Temporary) (before after : String) (n : Nat) : String :=
  t.pathOf (before ++ toString n ++ after)

/-- The number of the next file: the first one after the last under which nothing lies.  Of as many
numbers as there are entries in the tree, and one more, not all can be taken. -/
def nextNumber (t : Temporary) (f : Files) (before after : String) : Nat :=
  let numbers := List.range' (t.made + 1) (f.entries.length + f.here.length + 1)
  (numbers.find? fun n => (f.lookup (t.numbered before after n)).isNone).getD (t.made + 1)

example : (fresh "/t").numbered "./x-" ".svg" 1 = "/t/./x-1.svg" := by decide +kernel

end Temporary
end PlotScript
