/-
# The lines that a session carries out

What comes with an input is a row of lines: none, the one that was typed, or those of the script
that it sources.  They are carried out one after another (`Session.handle_feedAll`), up to the first
that ends with a fault.  A line of which no word is known is only reported; all words of the others
are parsed, in their order (`Session.fedAll_after`).
-/

import PlotScript.Proofs.Interruption

namespace PlotScript

/-- The words of some lines, line by line. -/
def Lexer.wordRows (source : Option String) (comment : Option Lexeme) (number : Int) :
    List String → List (List Lexeme)
  | [] => []
  | line :: lines =>
    let r := lineRow source comment number line
    r.words :: wordRows source r.comment (number + 1) lines

namespace Executor

variable {σ : Type} [Device σ] {e t u : Executor σ} {l m : List Lexeme}

/-- From one executor to another, these lexemes are parsed, all of them and in their order; and what
waits may be discarded. -/
def FedAll (l : List Lexeme) (e t : Executor σ) : Prop :=
  ∃ us : List Use, (∀ v ∈ us, v.Inner) ∧ us.flatMap Use.given = l ∧ t = e.live us

/-- Where no lexemes are given, none are parsed. -/
theorem FedAll.refl (e : Executor σ) : FedAll [] e e := ⟨[], by simp, rfl, rfl⟩

/-- Lexemes are fed one row after another by feeding them together. -/
theorem FedAll.trans (h : FedAll l e t) (k : FedAll m t u) : FedAll (l ++ m) e u := by
  obtain ⟨us, hu, rfl, rfl⟩ := h
  obtain ⟨vs, hv, rfl, rfl⟩ := k
  refine ⟨us ++ vs, fun v hx => ?_, List.flatMap_append, List.foldl_append.symm⟩
  exact (List.mem_append.1 hx).elim (hu v) (hv v)

/-- Where all lexemes are parsed, they are fed. -/
theorem FedAll.fed (h : FedAll l e t) : Fed l e t := by
  obtain ⟨us, hu, hl, ht⟩ := h
  exact ⟨us, hu, hl ▸ List.Sublist.refl _, ht⟩

/-- Parsing feeds all of its lexemes, whatever the result of it is. -/
theorem fedAll_parse (h : ∀ x ∈ l, x.kind ≠ .endOfFile) : FedAll l e (e.parse l).state := by
  refine ⟨[.parse l], fun v hv => ?_, by simp [Use.given], rfl⟩
  obtain rfl := List.mem_singleton.1 hv
  exact h

/-- Discarding what waits feeds nothing. -/
theorem fedAll_discard (e : Executor σ) : FedAll [] e e.discard := by
  refine ⟨[.discard], fun v hv => ?_, by simp [Use.given], rfl⟩
  obtain rfl := List.mem_singleton.1 hv
  trivial

/-- **The stream of an executor holds all that it was fed.** -/
theorem FedAll.stream_eq (h : FedAll l e t) (he : e.stream.ended = false) :
    t.stream = ⟨e.stream.entries ++ l, false⟩ := by
  obtain ⟨us, hu, rfl, rfl⟩ := h
  exact stream_live he hu

end Executor

namespace Session

open Executor Lexer

variable {σ : Type}

/-- The lines of the script at a path. -/
def scriptLines (site : Site) (path : String) : List (List Lexeme) :=
  match script? site path with
  | .ok bytes => wordRows (some path) none 1 (shownLines bytes)
  | .error _ => []

/-- The lines that come with what is heard: the one that is given, or those of the script that it
sources. -/
def linesHeard (s : Session σ) : Heard → List (List Lexeme)
  | .line line =>
    [(lineRow s.lexer.source s.lexer.comment ((s.history.length + 1 : Nat) : Int) line).words]
  | .script _ path => scriptLines s.executor.bench.site path
  | .nothing | .command _ => []

/-- The lines that come with an input. -/
def linesWith (s : Session σ) : Input → List (List Lexeme)
  | .typed text => s.linesHeard (hear text)
  | .interrupt | .endOfInput => []

/-- There is a word on the line that is known. -/
def hasKnown (l : List Lexeme) : Bool := !l.all fun x => x.kind = .unknown

/-- The lines hold no end of a file. -/
def Bounded (ls : List (List Lexeme)) : Prop := ∀ l ∈ ls, ∀ x ∈ l, x.kind ≠ .endOfFile

/-- No lines hold no end of a file. -/
theorem bounded_nil : Bounded [] := fun _ hl => (nomatch hl)

/-- The words of lines hold no end of a file: a lexer gives it apart from them. -/
theorem bounded_wordRows (source : Option String) (comment : Option Lexeme) (number : Int)
    (ls : List String) : Bounded (wordRows source comment number ls) := by
  induction ls generalizing comment number with
  | nil => exact bounded_nil
  | cons line ls ih =>
    intro l hl
    rcases List.mem_cons.1 hl with rfl | hl
    · exact fun _ => kind_ne_of_mem_row
    · exact ih _ _ l hl

/-- The lines of a script hold no end of a file. -/
theorem bounded_scriptLines (site : Site) (path : String) : Bounded (scriptLines site path) := by
  unfold scriptLines
  split
  · exact bounded_wordRows _ _ _ _
  · exact bounded_nil

/-- The lines that come with what is heard hold no end of a file. -/
theorem bounded_linesHeard (s : Session σ) (heard : Heard) : Bounded (s.linesHeard heard) := by
  cases heard with
  | nothing | command => exact bounded_nil
  | script _ path => exact bounded_scriptLines _ path
  | line line =>
    intro l hl
    obtain rfl := List.mem_singleton.1 hl
    exact fun _ => kind_ne_of_mem_row

section Device

variable [Device σ] {s t : Session σ} {i : Input}

/-- Feeds the words of some lines, one line after another. -/
def feedAll (ls : List (List Lexeme)) : Act Fault (Executor σ) Unit :=
  Act.forEach ls fun l => feed l (unknowns l)

/-- The lines that are carried out: those up to the first that ends with a fault. -/
def carriedOut (e : Executor σ) : List (List Lexeme) → List (List Lexeme)
  | [] => []
  | l :: ls =>
    let o := feed l (unknowns l) e
    l :: match o.result with
      | .ok () => carriedOut o.state ls
      | .error _ => []

/-- The lines of a script come to what their words come to, and tell what these do. -/
theorem forEach_runSourced {x : Lexer × Executor σ} (hx : x.1.unread = none) (ls : List String)
    (n : Nat) :
    let o := Act.forEach (ls.zipIdx n) runSourced x
    let p := feedAll (wordRows x.1.source x.1.comment n (ls.map Text.sanitize)) x.2
    o.result = p.result ∧ p.events.Sublist o.events ∧ o.state.2 = p.state := by
  induction ls generalizing x n with
  | nil => exact ⟨rfl, .refl _, rfl⟩
  | cons line ls ih =>
    obtain ⟨y, hu, hs, hc, hr, hes, hst⟩ := exists_runSourced hx line n
    have hn : ((n + 1 : Nat) : Int) = n + 1 := rfl
    simp only [List.zipIdx_cons, List.map_cons, wordRows, feedAll, Act.forEach_cons] at ih ⊢
    generalize lineRow x.1.source x.1.comment n (Text.sanitize line) = row at hc hr hes hst ⊢
    rcases hf : (feed row.words (unknowns row.words) x.2).result with f | a
    · rw [Act.bind_of_error (hr.trans hf), Act.bind_of_error hf, hst]
      dsimp only
      exact ⟨rfl, hes, rfl⟩
    · rw [Act.bind_of_ok (hr.trans hf), Act.bind_of_ok hf, hst]
      dsimp only
      have hrest := ih (x := (y, (feed row.words (unknowns row.words) x.2).state)) hu (n + 1)
      rw [hs, hc, hn] at hrest
      obtain ⟨hresult, hevents, hstate⟩ := hrest
      exact ⟨hresult, hes.append hevents, hstate⟩

/-- What lines come to: they are broken off only in a script, and all that they tell is told. -/
structure ComesFrom (o : Outcome Fault (Executor σ) Unit) (r : Except Fault Unit)
    (es : List Event) (e : Executor σ) : Prop where
  result : r = o.result ∨ r = .ok () ∧ brokenOff o.result = true
  events : o.events.Sublist es
  state : e = o.state

omit [Device σ] in
/-- What ends without a fault was carried out, or broken off. -/
theorem ComesFrom.of_ok {o : Outcome Fault (Executor σ) Unit} {r : Except Fault Unit}
    {es : List Event} (h : ComesFrom o r es e) (hr : r = .ok ()) :
    o.result = .ok () ∨ brokenOff o.result = true :=
  h.result.imp (fun ho => ho.symm.trans hr) And.right

/-- Sourcing a script comes to what its lines come to, and tells it. -/
theorem source_feedAll (path : String) (s : Session σ) :
    ComesFrom (feedAll (scriptLines s.executor.bench.site path) s.executor) (source path s).result
      (source path s).events (source path s).state.executor := by
  rw [source_eq_script, scriptLines]
  cases script? s.executor.bench.site path with
  | error cause => exact ⟨.inl rfl, List.nil_sublist _, rfl⟩
  | ok bytes =>
    obtain ⟨hr, hes, he⟩ := forEach_runSourced (x := (.handed (some path), s.executor)) rfl
      (Text.Utf8.linesBeforeFault bytes).1 1
    simp only [runFile_eq]
    have hr : (sourced path bytes s).result =
      (feedAll (wordRows (some path) none 1 (shownLines bytes)) s.executor).result := hr
    refine ⟨?_, (hes.trans (List.sublist_append_left _ _)).cons _, he⟩
    rw [← hr]
    by_cases hb : brokenOff (sourced path bytes s).result = true
    · exact .inr ⟨if_pos hb, hb⟩
    · exact .inl (if_neg hb)

/-- **What a typed text does with the executor, its lines do**, one after another. -/
theorem handle_feedAll (h : s.lexer.unread = none) (text : String) :
    ComesFrom (feedAll (s.linesHeard (hear text)) s.executor) (handle text s).result
      (handle text s).events (handle text s).state.executor := by
  rw [handle_eq]
  generalize hear text = heard
  cases heard with
  | nothing => exact ⟨.inl rfl, .refl _, rfl⟩
  | command c => cases c <;> exact ⟨.inl rfl, List.nil_sublist _, rfl⟩
  | script line path => exact source_feedAll path (s.remember line)
  | line line =>
    obtain ⟨y, -, -, -, hr⟩ :=
      exists_runLine (x := (s.lexer, s.executor)) h line (s.history.length + 1)
    simp only [hr, linesHeard, feedAll, Act.forEach_cons]
    generalize (lineRow s.lexer.source s.lexer.comment _ line).words = l
    rcases hf : (feed l (unknowns l) s.executor).result with f | a
    · rw [Act.bind_of_error hf]
      exact ⟨.inl rfl, List.sublist_append_right _ _, rfl⟩
    · rw [Act.bind_of_ok hf]
      refine ⟨.inl rfl, ?_, rfl⟩
      show (_ ++ []).Sublist _
      rw [List.append_nil]
      exact List.sublist_append_right _ _

/-- The words of a line are fed if one of them is known, and else none of them is. -/
theorem fedAll_feed {l : List Lexeme} (h : ∀ x ∈ l, x.kind ≠ .endOfFile)
    (unknown : List Complaint) (e : Executor σ) :
    FedAll (if hasKnown l then l else []) e (feed l unknown e).state := by
  rw [feed_state, hasKnown]
  by_cases hl : (l.all fun x => x.kind = .unknown) = true
  · simp only [hl, if_true]
    exact .refl e
  · simp only [hl]
    exact fedAll_parse h

/-- **Of the lines that are carried out, those with a known word are parsed.** -/
theorem fedAll_feedAll {ls : List (List Lexeme)} (h : Bounded ls) (e : Executor σ) :
    FedAll ((carriedOut e ls).filter hasKnown).flatten e (feedAll ls e).state := by
  induction ls generalizing e with
  | nil => exact .refl e
  | cons l ls ih =>
    have hl := fedAll_feed (h l List.mem_cons_self) (unknowns l) e
    have hcons (r : List (List Lexeme)) : ((l :: r).filter hasKnown).flatten =
        (if hasKnown l then l else []) ++ (r.filter hasKnown).flatten := by
      by_cases hk : hasKnown l = true <;> simp [hk]
    rw [feedAll, Act.forEach_cons, carriedOut, hcons]
    rcases hr : (feed l (unknowns l) e).result with f | a
    · rw [Act.bind_of_error hr]
      simp only [List.filter_nil, List.flatten_nil, List.append_nil]
      exact hl
    · rw [Act.bind_of_ok hr]
      exact hl.trans (ih (fun m hm => h m (List.mem_cons_of_mem l hm)) _)

/-- The lines that are carried out for an input. -/
def heardWith (s : Session σ) (i : Input) : List (List Lexeme) :=
  carriedOut s.executor (s.linesWith i)

/-- The lines that are carried out for some inputs, as long as the session asks for another. -/
def heardIn (s : Session σ) : List Input → List (List Lexeme)
  | [] => []
  | i :: r => s.heardWith i ++ ((s.next? i).map fun t => t.heardIn r).getD []

/-- The lines that are carried out when a script is sourced first, if there is one. -/
def heardFirst (s : Session σ) : Option String → List (List Lexeme)
  | none => []
  | some path => carriedOut s.executor (scriptLines s.executor.bench.site path)

/-- For an input those lines are fed that are carried out and have a known word. -/
theorem fedAll_respond (h : s.lexer.unread = none) (i : Input) :
    FedAll ((s.heardWith i).filter hasKnown).flatten s.executor
      (respond i s).state.executor := by
  cases i with
  | interrupt | endOfInput => exact .refl s.executor
  | typed text =>
    have hf := fedAll_feedAll (bounded_linesHeard s (hear text)) s.executor
    rw [← (handle_feedAll h text).state] at hf
    rw [respond_typed, heardWith, linesWith]
    generalize handle text s = o at hf ⊢
    split
    · have hd := hf.trans (fedAll_discard o.state.executor)
      rwa [List.append_nil] at hd
    · exact hf

/-- For a script that is sourced first those lines are fed that are carried out and have a known
word. -/
theorem fedAll_opened (s : Session σ) (script : Option String) :
    FedAll ((s.heardFirst script).filter hasKnown).flatten s.executor
      (s.opened script).executor := by
  cases script with
  | none => exact .refl s.executor
  | some path =>
    rw [opened, (source_feedAll path s).state]
    exact fedAll_feedAll (bounded_scriptLines _ path) s.executor

/-- **Of the lines of all inputs, those with a known word are parsed.** -/
theorem fedAll_after {inputs : List Input} (h : Upright s) (hi : s.after? inputs = some t) :
    FedAll ((s.heardIn inputs).filter hasKnown).flatten s.executor t.executor := by
  induction inputs generalizing s with
  | nil => exact Option.some.inj hi ▸ .refl s.executor
  | cons i r ih =>
    obtain ⟨u, hu, hr⟩ := Option.bind_eq_some_iff.1 hi
    have hf := fedAll_respond h.unread i
    rw [← state_of_next? hu] at hf
    rw [heardIn, hu, List.filter_append, List.flatten_append]
    exact hf.trans (ih (h.next hu) hr)

/-- The lines of one input more. -/
theorem heardIn_append {inputs : List Input} (hi : s.after? inputs = some t) (i : Input) :
    s.heardIn (inputs ++ [i]) = s.heardIn inputs ++ t.heardWith i := by
  induction inputs generalizing s with
  | nil =>
    obtain rfl := Option.some.inj hi
    rcases hn : s.next? i with _ | u <;> simp [heardIn, hn]
  | cons j r ih =>
    obtain ⟨u, hu, hr⟩ := Option.bind_eq_some_iff.1 hi
    rw [List.cons_append, heardIn, heardIn, hu, List.append_assoc]
    exact congrArg _ (ih hr)

end Device
end Session
end PlotScript
