/-
# Configurations of a run

A configuration is named by the path of a file, by the path of a folder in which a file stands for
it, or by the name of a module, of which the standard one is known here.  The empty name stands for
the folder to work in.  A file of literal assignments is read (`Config.literals?`), and any other
one is left to the evaluator of the site.  A name that begins with `_` is private to its file.

| file | the run ends with |
| --- | --- |
| missing, with a name that ends in `.py` | the name |
| missing, with another name | the name, unless it is that of a module |
| malformed, as the evaluator says | the path, the line, and what the line holds |
| that refers to something missing | the same as one that is missing |
| that fails when it is run | the fault |
| a folder in which no file stands for it | its name |

| | follows |
| --- | --- |
| `Config.load`, `Config.loadAll` | the loading of one configuration, and of several by priority |
| `Config.assign`, `Config.value` | the assignment of option values, and the look-up of one |
| `Site.checkConfig` | the check of the path before it is loaded |
-/

import PlotScript.Site

namespace PlotScript

namespace Params

/-- The names that can be configured. -/
def names : List String :=
  ["debug", "max_redirects", "fetch_timeout", "user_agent", "temp_prefix", "keep_downloads",
    "prompt", "continuation_prompt"]

/-- The configuration if nothing is configured. -/
def standardConfig : Config Constant :=
  [("debug", .truth false), ("max_redirects", .int 5), ("fetch_timeout", .int 30),
    ("user_agent", .text "axilang/1.2.0"), ("temp_prefix", .text "axilang-"),
    ("keep_downloads", .truth false), ("prompt", .text "AxiLang>> "),
    ("continuation_prompt", .text "...>> ")]

/-- The parameters that a configuration gives. -/
def ofConfig (c : Config Constant) : Params :=
  let value (name : String) (otherwise : Constant) := (c.get? name).getD otherwise
  let truth (name : String) (otherwise : Bool) := (value name (.truth otherwise)).holds
  { debug := truth "debug" standard.debug
    maxRedirects := value "max_redirects" standard.maxRedirects
    fetchTimeout := value "fetch_timeout" standard.fetchTimeout
    userAgent := value "user_agent" standard.userAgent
    tempPrefix := value "temp_prefix" standard.tempPrefix
    keepDownloads := truth "keep_downloads" standard.keepDownloads
    prompt := value "prompt" standard.prompt
    continuationPrompt := value "continuation_prompt" standard.continuationPrompt }

-- A copy of the standard configuration reads as what it is known to be.
example : Config.readLines? ([
    "'''", "Default configuration values.", "'''", "",
    "debug = False           # Report debug messages",
    "max_redirects = 5       # Maximum number of redirects",
    "fetch_timeout = 30      # Timeout for each request",
    "                            # None waits without end",
    "user_agent = 'axilang/1.2.0'",
    "temp_prefix = 'axilang-'",
    "keep_downloads = False", "",
    "prompt = 'AxiLang>> '",
    "continuation_prompt = '...>> '"].map Text.Utf8.encode) = some standardConfig := by
  decide +kernel

example : ofConfig standardConfig = standard := by decide +kernel
example : ofConfig [] = standard := by decide +kernel

end Params

namespace Config

/-- A name that is private to its file. -/
def isPrivate (name : String) : Bool := name.toList.head? == some '_'

/-- The names and values that are taken over: the last value of each name that is not private. -/
def takenOver (l : List (String × Constant)) : Config Constant :=
  merge [] (l.filter fun x => !isPrivate x.1)

/-- The name under which the standard configuration is known. -/
def standardName : String := "axilang.axilang_conf"

/-- The name that stands for a folder. -/
def mainName : String := "__main__"

/-- A name leads to a folder. -/
def isFolder (f : Files) (name : String) : Bool := name.isEmpty || f.lookup name = some .folder

/-- Runs the file at a path. -/
def runFile (s : Site) (path : String) (bytes : List UInt8) : Evaluation :=
  match literals? bytes with
  | some l => .assigned l
  | none => s.evaluator.runFile s.files path bytes

/-- Runs the file that stands for a folder, unless a folder of files stands for it. -/
def runFolder (s : Site) (name : String) : Evaluation :=
  let path := Files.join (s.files.absolute name) mainName
  let inside := (s.lookup (Files.join path "__init__.py")).bind Entry.bytes?
  match inside, (s.lookup (path ++ ".py")).bind Entry.bytes? with
  | none, some bytes => runFile s (path ++ ".py") bytes
  | _, _ => .failed (.folderWithoutMain name)

/-- Runs what lies at a path. -/
def runPath (s : Site) (path : String) : Evaluation :=
  if path.toList.contains '\x00' then .failed .pathWithNull
  else if isFolder s.files path then runFolder s path
  else match s.files.lookupSimplified path with
    | some (.file bytes) => runFile s path bytes
    | _ => .refused (s.files.isAbsent path)

/-- Runs the module of a name. -/
def runModule (s : Site) (name : String) : Option (Except Failure (List (String × Constant))) :=
  if name = standardName then some (.ok Params.standardConfig)
  else s.evaluator.runModule s.files name

/-- A name is that of a file. -/
def namesFile (name : String) : Bool := ".py".toList.isSuffixOf name.toList

/-- The configuration of a name: that of the file or the folder at this path, or of the module. -/
def load (s : Site) : Option String → Except Fault (Config Constant)
  | none => .ok []
  | some name =>
    match runPath s name with
    | .assigned l => .ok (takenOver l)
    | .malformed path line text => .error (.fatal (.plain (.configMalformed path line text)))
    | .failed f => .error (.failure f)
    | .refused missing =>
      if namesFile name && missing then .error (.fatal (.plain (.configMissing name)))
      else match runModule s name with
        | some (.ok l) => .ok (takenOver l)
        | some (.error f) => .error (.failure f)
        | none => .error (.fatal (.plain (.configUnknown name)))

/-- Configurations merged, the one of highest priority first; the last one is loaded first. -/
def loadAll (s : Site) : List (Option String) → Except Fault (Config Constant)
  | [] => .ok []
  | name :: r => do
    let below ← loadAll s r
    let c ← load s name
    return below.merge c

end Config
end PlotScript
