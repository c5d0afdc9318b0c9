/-
# The site of a run

A run depends on parameters, and on what surrounds it: files, a folder for temporary ones, the web,
the serial ports, and what evaluates configurations.  A URL is answered by a list of responses, each
used once except the last, which stays.

`Params` are the configuration keys of the language specification, §11, and `Params.standard` their
defaults.
-/

import PlotScript.Act
import PlotScript.Config.Evaluator

namespace PlotScript

/-- What can be configured. -/
structure Params where
  debug : Bool
  maxRedirects : Constant
  /-- Seconds for each request; none waits without end. -/
  fetchTimeout : Constant
  /-- The name that requests give. -/
  userAgent : Constant
  /-- The front of the name of a temporary file; none stands for a plain one. -/
  tempPrefix : Constant
  keepDownloads : Bool
  prompt : Constant
  /-- The prompt while a block is open. -/
  continuationPrompt : Constant
  deriving DecidableEq

/-- The parameters if nothing is configured. -/
def Params.standard : Params where
  debug := false
  maxRedirects := .int 5
  fetchTimeout := .int 30
  userAgent := .text "axilang/1.2.0"
  tempPrefix := .text "axilang-"
  keepDownloads := false
  prompt := .text "AxiLang>> "
  continuationPrompt := .text "...>> "

/-- The front of the name of a temporary file, as a text. -/
def Params.tempPrefixText (p : Params) : Except Failure String :=
  match p.tempPrefix with
  | .none => .ok "tmp"
  | .text s => .ok s
  | v => .error (.badTempPrefix v)

/-- How many redirects are followed. -/
def Params.redirectLimit (p : Params) : Nat := ((p.maxRedirects.floor?).getD 0).toNat

/-- What comes back for a request. -/
inductive Response where
  /-- Nothing: the request failed. -/
  | failed
  | answered (status : Int) (location : Option String) (body : List UInt8)
  deriving DecidableEq

/-- The responses still to come, by URL. -/
abbrev Web.Pages := List (String × List Response)

/-- The next response for a URL, and the responses after it. -/
def Web.Pages.request (p : Web.Pages) (url : String) : Response × Web.Pages :=
  match p with
  | [] => (.failed, [])
  | (u, responses) :: r =>
    if u = url then
      match responses with
      | [] => (.failed, (u, []) :: r)
      | [a] => (a, (u, [a]) :: r)
      | a :: rest => (a, (u, rest) :: r)
    else
      let (a, after) := request r url
      (a, (u, responses) :: after)

/-- A serial port: its device, its description, and the identity of its hardware. -/
structure SerialPort where
  device : String
  description : String
  hardware : String
  deriving DecidableEq, Repr

/-- What surrounds a run. -/
structure Site where
  files : Files
  temp : Temporary
  pages : Web.Pages
  ports : List SerialPort
  /-- What runs configurations that are more than literal assignments. -/
  evaluator : Evaluator

namespace Site

/-- What a path leads to. -/
def lookup (s : Site) (path : String) : Option Entry := s.files.lookup path

/-- A path leads to a regular file. -/
def isFile (s : Site) (path : String) : Bool :=
  match s.lookup path with
  | some e => e.isFile
  | none => false

end Site
end PlotScript
