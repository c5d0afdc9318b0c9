/-
# Downloads

A drawing named by a URL is downloaded to a new temporary file before it is used.  Redirects are
followed one at a time:

| response | what follows |
| --- | --- |
| none | the run ends |
| 301, 302, 303, 307, 308 with a target | a request for the target, while redirects are left |
| the same without a target | the run ends |
| 200 … 299 | the body is saved, under a name with the extension of the URL |
| any other | the run ends |

This is the Resource Fetcher of the language specification, §4.4 and §14: `fetch` is `fetch(url)`,
`follow` is one hop of it, and `store` makes and writes the temporary file; what that may come to is
listed by `Stored`.
-/

import PlotScript.Site
import PlotScript.Web.Url

namespace PlotScript
namespace Web

/-- The answers that send the request elsewhere. -/
def isRedirect (status : Int) : Bool := [301, 302, 303, 307, 308].contains status

/-- Ends the run with a complaint. -/
def giveUp {α : Type} (cause : Cause) : Act Fault Site α := .throw (.fatal (.plain cause))

/-- Two spaces for each request so far. -/
def indent (hops : Nat) : String := String.ofList (List.replicate (2 * (hops + 1)) ' ')

/-- Leaves a record for debugging. -/
def note (hops : Nat) (text : String) : Act Fault Site Unit := .log .debug (indent hops ++ text)

/-- Sends one request. -/
def request (p : Params) (url : String) : Act Fault Site Response := fun s =>
  let (response, pages) := s.pages.request url
  ⟨.ok response, [.get url p.userAgent p.fetchTimeout], { s with pages := pages }⟩

/-- Makes a new temporary file with a content, and gives its path. -/
def store (p : Params) (suffix : String) (body : List UInt8) : Act Fault Site String := fun s =>
  let refused (f : Fault) (s : Site) : Outcome Fault Site String := ⟨.error f, [], s⟩
  let fatal (cause : Cause) := refused (.fatal (.plain cause))
  if s.temp.fault = some .creation then fatal .temporaryNotCreated s
  else match p.tempPrefixText with
    | .error f => refused (.failure f) s
    | .ok front =>
      let number := s.temp.nextNumber s.files front suffix
      let path := s.temp.numbered front suffix number
      let counted := { s with temp := { s.temp with made := number } }
      if path.toList.contains '\x00' then refused (.failure .pathWithNull) counted
      else match s.files.create? path body with
        | none => fatal .temporaryNotCreated counted
        | some files =>
          if s.temp.fault = some .writing then fatal (.temporaryNotWritten path) counted
          else ⟨.ok path, [], { counted with files := files }⟩

/-- Where a new temporary file goes, if one can be made at all: the path under the next number, and
what is left when this number is taken. -/
structure Planned (p : Params) (suffix : String) (s : Site) (front path : String) (t : Site) :
    Prop where
  noFault : s.temp.fault ≠ some .creation
  front_eq : p.tempPrefixText = .ok front
  path_eq : path = s.temp.numbered front suffix (s.temp.nextNumber s.files front suffix)
  state_eq : t = { s with
    temp := { s.temp with made := s.temp.nextNumber s.files front suffix } }

/-- Taking a number leaves the files. -/
theorem Planned.files_eq {p : Params} {suffix : String} {s : Site} {front path : String} {t : Site}
    (h : Planned p suffix s front path t) : t.files = s.files := by
  rw [h.state_eq]

/-- What storing a body comes to, with all that led there. -/
inductive Stored (p : Params) (suffix : String) (body : List UInt8) (s : Site) :
    Outcome Fault Site String → Prop
  | noCreation : s.temp.fault = some .creation →
    Stored p suffix body s ⟨.error (.fatal (.plain .temporaryNotCreated)), [], s⟩
  | noFront {e : Failure} : s.temp.fault ≠ some .creation → p.tempPrefixText = .error e →
    Stored p suffix body s ⟨.error (.failure e), [], s⟩
  | null {front path : String} {t : Site} : Planned p suffix s front path t →
    '\x00' ∈ path.toList → Stored p suffix body s ⟨.error (.failure .pathWithNull), [], t⟩
  | notCreated {front path : String} {t : Site} : Planned p suffix s front path t →
    '\x00' ∉ path.toList → s.files.create? path body = none →
    Stored p suffix body s ⟨.error (.fatal (.plain .temporaryNotCreated)), [], t⟩
  | notWritten {front path : String} {t : Site} {files : Files} :
    Planned p suffix s front path t → '\x00' ∉ path.toList →
    s.files.create? path body = some files → s.temp.fault = some .writing →
    Stored p suffix body s ⟨.error (.fatal (.plain (.temporaryNotWritten path))), [], t⟩
  | created {front path : String} {t : Site} {files : Files} :
    Planned p suffix s front path t → '\x00' ∉ path.toList →
    s.files.create? path body = some files → s.temp.fault ≠ some .writing →
    Stored p suffix body s ⟨.ok path, [], { t with files := files }⟩

/-- **Storing a body comes to one of these.**  Whatever is to be known of it follows from the cases,
so that its definition is opened here only. -/
theorem stored (p : Params) (suffix : String) (body : List UInt8) (s : Site) :
    Stored p suffix body s (store p suffix body s) := by
  unfold store
  dsimp only
  split
  · rename_i hc
    exact .noCreation hc
  rename_i hc
  split
  · rename_i e hp
    exact .noFront hc hp
  rename_i front hp
  have hplan : Planned p suffix s front _ _ := ⟨hc, hp, rfl, rfl⟩
  split
  · rename_i hn
    exact .null hplan (List.contains_iff_mem.1 hn)
  rename_i hn
  have hnull := fun h => hn (List.contains_iff_mem.2 h)
  split
  · rename_i hf
    exact .notCreated hplan hnull hf
  rename_i files hf
  split
  · rename_i hw
    exact .notWritten hplan hnull hf hw
  · rename_i hw
    exact .created hplan hnull hf hw

/-- Storing a body is silent: what is told of it is told by its caller. -/
@[simp] theorem events_store (p : Params) (suffix : String) (body : List UInt8) (s : Site) :
    (store p suffix body s).events = [] := by
  have h := stored p suffix body s
  generalize store p suffix body s = o at h ⊢
  cases h <;> rfl

/-- Saves what a URL holds. -/
def save (p : Params) (hops : Nat) (url : String) (body : List UInt8) : Act Fault Site String := do
  note hops "Creating temporary file."
  let suffix ← Act.ofExcept ((urlExtension url).mapError Fault.failure)
  let path ← store p suffix body
  note hops ("Saved to: " ++ path)
  return path

/-- Ends the run at a redirect beyond those that are allowed. -/
def refuseRedirect {α : Type} (p : Params) : Act Fault Site α :=
  match p.maxRedirects.floor? with
  | some _ => giveUp .redirectTooOften
  | none => .throw (.failure (.badRedirectLimit p.maxRedirects))

/-- Downloads a URL after `hops` redirects, with `left` more allowed. -/
def follow (p : Params) (hops : Nat) (url : String) (left : Nat) : Act Fault Site String := do
  note hops ("Downloading file from \"" ++ Text.escape url ++ "\".")
  match ← request p url with
  | .failed => giveUp (.downloadFailed url)
  | .answered status location body =>
    if isRedirect status then
      match location with
      | none | some "" => giveUp (.redirectWithoutTarget url)
      | some reference =>
        match left with
        | 0 => refuseRedirect p
        | left + 1 => do
          let target ← Act.ofExcept ((join url reference).mapError Fault.failure)
          note hops ("Redirecting to \"" ++ Text.escape target ++ "\".")
          follow p (hops + 1) target left
    else if 200 ≤ status ∧ status < 300 then save p hops url body
    else giveUp (.downloadRefused url status)

/-- Downloads a URL and gives the path of the temporary file that holds it. -/
def fetch (p : Params) (url : String) : Act Fault Site String :=
  follow p 0 url p.redirectLimit

end Web
end PlotScript
