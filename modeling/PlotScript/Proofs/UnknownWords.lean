/-
# Unknown words

A lexer notes each unknown word that it gives, however it is used: asked for one word after another,
or handed one line after another (`Lexer.complaints_useAll`).

A script is read as a whole before anything is done for it.  So with an unknown word anywhere in it
nothing is done: each is reported, in the order of the script, and the run ends with the first.
Without one nothing is reported before the first command (`Script.unknown_words_end_execute`).

This is the policy of the batch runner in the language specification, §14.
-/

import PlotScript.Proofs.ExitStatus

namespace PlotScript

namespace Lexer

/-- What a lexer is used for. -/
inductive Use where
  /-- The next lexeme. -/
  | next
  /-- The lexemes of a line that is handed to it. -/
  | line (text : String) (number : Option Int)

/-- The lexemes that one use gives, and the lexer after it. -/
def use (x : Lexer) : Use → List Lexeme × Lexer
  | .next =>
    match x.next with
    | .word l y => ([l], y)
    | .stop l _ y => ([l], y)
  | .line text number =>
    match x.lexLine text number with
    | (.ok ls, y) => (ls, y)
    | (.error _, y) => ([], y)

/-- The lexemes that some uses give, one after the other, and the lexer after them. -/
def useAll (x : Lexer) : List Use → List Lexeme × Lexer
  | [] => ([], x)
  | u :: us =>
    let (l, y) := x.use u
    let (m, z) := y.useAll us
    (l ++ m, z)

/-- The end of the file is no unknown word. -/
@[simp]
theorem unknowns_endOfFile (place : Place) : unknowns [⟨⟨.endOfFile, ""⟩, place⟩] = [] := rfl

/-- What is given up to the end of the file has the unknown words that were ahead. -/
theorem unknowns_tokens (x : Lexer) : unknowns x.tokens.1 = unknowns x.words := by
  obtain ⟨place, h⟩ := x.tokens_eq
  simp [h, unknowns_endOfFile]

/-- **Each unknown word that a use gives is noted.** -/
theorem complaints_use (x : Lexer) (u : Use) :
    (x.use u).2.complaints = x.complaints ++ unknowns (x.use u).1 := by
  cases u with
  | next =>
    rcases h : x.next with ⟨l, y⟩ | ⟨l, w, y⟩
    · simp only [use, h]
      exact (of_search_word rfl h).2.2
    · obtain ⟨⟨place, rfl⟩, -, -, -, hc⟩ := of_search_stop rfl h
      simp only [use, h]
      simp [hc]
  | line text number =>
    rcases hu : x.unread with _ | lines
    · obtain ⟨place, z, hl, -, -, -, -, hc⟩ := lexLine_eq hu text number
      simp only [use, hl]
      simp [hc, unknowns_endOfFile]
    · have hl : x.lexLine text number = (.error .lexerReads, x) := by
        rw [lexLine, hu]
        rfl
      simp only [use, hl]
      exact (List.append_nil _).symm

/-- **A lexer notes each unknown word that it gives, in their order.** -/
theorem complaints_useAll (x : Lexer) (us : List Use) :
    (x.useAll us).2.complaints = x.complaints ++ unknowns (x.useAll us).1 := by
  induction us generalizing x with
  | nil => exact (List.append_nil _).symm
  | cons u us ih =>
    show ((x.use u).2.useAll us).2.complaints = _
    rw [ih, complaints_use, List.append_assoc, ← unknowns_append]
    rfl

end Lexer

namespace Script

variable {path : String} {site : Site} {bytes : List UInt8} {cs : List Char}

/-- A file that is not empty passes the check of a script. -/
theorem checkScript_of_lookup (hfile : site.lookup path = some (.file bytes)) (hne : bytes ≠ []) :
    site.checkScript path = .ok () := by
  have hnil : bytes.isEmpty = false := by simpa using hne
  simp only [Site.checkScript, Site.scriptFault?, hfile, hnil]
  rfl

/-- The text of a file is what its bytes decode to. -/
theorem text_of_lookup (hfile : site.lookup path = some (.file bytes))
    (htext : Text.Utf8.decode? bytes = some cs) : text site path = .ok cs := by
  have h : ((site.lookup path).bind Entry.bytes?).bind Text.Utf8.decode? = some cs := by
    rw [hfile]
    exact htext
  simp only [text, h]

/-- **What reading a script comes to:** its lexemes, unless a word is unknown, with a record for
each that is. -/
theorem load_eq (hfile : site.lookup path = some (.file bytes)) (hne : bytes ≠ [])
    (htext : Text.Utf8.decode? bytes = some cs) :
    let x := Lexer.reading (Text.fileLines cs) (some path)
    ∃ ws, load path site =
      ⟨(firstComplaint (Lexer.unknowns x.tokens.1)).map fun _ => x.tokens.1,
        .log .debug ("Parsing file '" ++ path ++ "'.") :: (List.map Event.warn ws ++
          (Lexer.unknowns x.tokens.1).map (.report .command)), site⟩ := by
  intro x
  obtain ⟨ws, hw⟩ := @lexemes_eq path (Text.fileLines cs) site
  have ho : load path site = (Act.ofExcept (site.checkScript path) >>= fun _ =>
      Act.log .debug ("Parsing file '" ++ path ++ "'.") >>= fun _ =>
        Act.ofExcept (text site path) >>= fun cs => lexemes path (Text.fileLines cs)) site := rfl
  rw [checkScript_of_lookup hfile hne, text_of_lookup hfile htext] at ho
  have ho := ho.trans (Act.bind_eq rfl (Act.bind_eq rfl (Act.bind_eq rfl hw)))
  rw [← Lexer.unknowns_tokens] at ho
  exact ⟨ws, ho⟩

variable {σ : Type} [Device σ]

omit [Device σ] in
/-- Where reading a script ends with a fault, nothing is carried out. -/
theorem onSite_load_of_error {e : Executor σ} {f : Fault}
    (h : (load path e.bench.site).result = .error f) :
    onSite (load path) e = ⟨.error f, (load path e.bench.site).events, e⟩ := by
  show Outcome.mk (load path e.bench.site).result _
    { e with bench := { e.bench with site := (load path e.bench.site).state } } = _
  rw [h, (quiet_load path _).1]
  rfl

/-- A script that cannot be loaded is not begun: the executor is as it was, and the fault is that of
loading. -/
theorem execute_of_load_error {e : Executor σ} {f : Fault}
    (h : (load path e.bench.site).result = .error f) :
    execute path e = ⟨.error f, (load path e.bench.site).events, e⟩ := by
  have hx := onSite_load_of_error h
  exact (Act.bind_of_error (by rw [hx]) _).trans (by rw [hx])

/-- **Unknown words end the run of a script before it begins.**  However a lexer is used, it notes
one complaint for each unknown word that it gives, in their order, about that word.  If a script
that can be read has an unknown word, its run leaves records only and changes nothing, each unknown
word is reported once, in the order of the script, and the run ends with the first of them.  If it
has none, no error is recorded before its commands are carried out. -/
theorem unknown_words_end_execute (p : Params) (device : σ)
    (hfile : site.lookup path = some (.file bytes)) (hne : bytes ≠ [])
    (htext : Text.Utf8.decode? bytes = some cs) :
    let lexemes := (Lexer.reading (Text.fileLines cs) (some path)).tokens.1
    let unknown := Lexer.unknowns lexemes
    let e := Executor.start true p device site
    let o := execute path e
    (∀ (x : Lexer) (us : List Lexer.Use),
      (x.useAll us).2.complaints = x.complaints ++ Lexer.unknowns (x.useAll us).1) ∧
    (∀ c r, unknown = c :: r → o.result = .error (.command c) ∧ o.state = e ∧
      (∀ ev ∈ o.events, ev.isRecord = true) ∧
      Event.errors o.events = unknown.map (.report .command)) ∧
    (unknown = [] → ∃ es, (∀ ev ∈ es, ev.isRecord = true) ∧ Event.errors es = [] ∧
      o = ⟨(perform lexemes e).result, es ++ (perform lexemes e).events,
        (perform lexemes e).state⟩) := by
  intro lexemes unknown e o
  obtain ⟨ws, hload⟩ := load_eq hfile hne htext
  have hrecords : ∀ ev ∈ (load path site).events, ev.isRecord = true := by
    rw [hload]
    simp only [List.mem_cons, List.mem_append, List.mem_map]
    rintro ev (rfl | ⟨c, -, rfl⟩ | ⟨c, -, rfl⟩) <;> rfl
  have herrors : Event.errors (load path site).events = unknown.map (.report .command) := by
    rw [hload, ← List.singleton_append, Event.errors_append, Event.errors_append,
      Event.errors_warnings, Event.errors_reports]
    rfl
  have hresult : (load path site).result = (firstComplaint unknown).map fun _ => lexemes := by
    rw [hload]
  refine ⟨Lexer.complaints_useAll, fun c r hu => ?_, fun hu => ?_⟩
  · rw [hu] at hresult
    have ho : o = _ := execute_of_load_error (e := e) hresult
    rw [ho]
    exact ⟨rfl, rfl, hrecords, herrors⟩
  · rw [hu] at hresult herrors
    exact ⟨(load path site).events, hrecords, herrors, execute_of_load (e := e) hresult⟩

/-- A script with unknown words in comments and in a string, and two elsewhere. -/
def hiddenWords : String := "MODE I\n%= FOO\nBAR =% qux PENUP\nSETPLOT \"BAZ\" 12a % quux\n"

/-- The two are reported, and the plotter is not asked. -/
theorem unknown_words_end_execute_hiddenWords :
    let site := Program.withScript hiddenWords []
    let unknown := Lexer.unknowns
      (Lexer.reading (Text.fileLines hiddenWords.toList) (some "s.axi")).tokens.1
    let o := execute "s.axi" (Executor.start true .standard Preview.start site)
    site.lookup "s.axi" = some (.file hiddenWords.toUTF8.toList) ∧
    hiddenWords.toUTF8.toList ≠ [] ∧
    Text.Utf8.decode? hiddenWords.toUTF8.toList = some hiddenWords.toList ∧
    unknown.map Complaint.message = ["Unknown token 'qux'.", "Unknown token '12a'."] ∧
    Event.errors o.events = unknown.map (.report .command) ∧ o.state.bench.deeds = [] ∧
    ∃ c, o.result = .error (.command c) ∧ c.message = "Unknown token 'qux'." := by
  intro site unknown o
  have hfile : site.lookup "s.axi" = some (.file hiddenWords.toUTF8.toList) := by decide +kernel
  have hne : hiddenWords.toUTF8.toList ≠ [] := by decide +kernel
  have htext : Text.Utf8.decode? hiddenWords.toUTF8.toList = some hiddenWords.toList := by
    decide +kernel
  have hm : unknown.map Complaint.message = ["Unknown token 'qux'.", "Unknown token '12a'."] := by
    decide +kernel
  obtain ⟨-, h, -⟩ := unknown_words_end_execute .standard Preview.start hfile hne htext
  rcases hu : unknown with _ | ⟨c, r⟩
  · rw [hu] at hm
    cases hm
  · obtain ⟨hr, hs, -, he⟩ := h c r hu
    rw [hu] at hm
    exact ⟨hfile, hne, htext, hm, hu ▸ he, congrArg (·.bench.deeds) hs, c, hr,
      (List.cons.inj hm).1⟩

end Script
end PlotScript
