/-
# A stream only grows, and only until it ends

Lexemes are offered to a stream one at a time or several in one call.  A call fails at the first
lexeme that cannot be added, and then the stream is used again.  What it holds depends on the
lexemes that it was offered alone, and not on the calls in which they came (`Stream.Holds`):

| of the stream | told by the lexemes that it was offered |
| --- | --- |
| its lexemes | those before the first end of the file, in order |
| whether it has ended | whether an end of the file is among them |
| whether a call fails | whether one that the call offers comes behind an end of the file |

So a call can fail in the middle, when the first of its lexemes were added and one of them ended the
stream; from then on nothing changes any more (`Stream.append_only`).  An executor that is handed
lexemes in such a call carries nothing out, but the next run does (`Executor.parse_of_late`).

The invariants are those of the language specification, §3.
-/

import PlotScript.Proofs.Dialogue
import PlotScript.Proofs.Arguments

namespace PlotScript

namespace Stream

variable {s t : Stream} {l m : List Lexeme} {x : Lexeme}

/-- What a stream is used for. -/
inductive Use where
  /-- One lexeme is added. -/
  | append (x : Lexeme)
  /-- Lexemes are added one after the other. -/
  | extend (l : List Lexeme)

/-- The lexemes that a use offers. -/
def Use.lexemes : Use → List Lexeme
  | .append x => [x]
  | .extend l => l

/-- What a use ends with, and the stream after it. -/
def use (s : Stream) : Use → Except Failure Unit × Stream
  | .append x =>
    match s.append x with
    | .error f => (.error f, s)
    | .ok t => (.ok (), t)
  | .extend l => s.extend l

/-- The stream after some uses, whatever each of them ended with. -/
def useAll (s : Stream) (us : List Use) : Stream := us.foldl (fun s u => (s.use u).2) s

/-- A stream is what it should be after these lexemes were offered to it. -/
structure Holds (s : Stream) (l : List Lexeme) : Prop where
  entries : s.entries = l.takeWhile fun x => x.kind ≠ .endOfFile
  ended : s.ended = true ↔ ∃ x ∈ l, x.kind = .endOfFile

/-- When the lexemes `m` follow `l`, one of them comes behind an end of the file. -/
def Late (l m : List Lexeme) : Prop :=
  ∃ before x after, m = before ++ x :: after ∧ ∃ y ∈ l ++ before, y.kind = .endOfFile

/-- The views of a stream have its length, and tell of one lexeme at each position. -/
structure Parallel (s : Stream) : Prop where
  length_toList : s.toList.length = s.size
  length_tokens : s.tokens.length = s.size
  length_lines : s.lines.length = s.size
  length_lineNumbers : s.lineNumbers.length = s.size
  at_position : ∀ i < s.size, ∃ x, s.get i = .ok x ∧ s.toList[i]? = some x ∧
    s.tokens[i]? = some x.token ∧ s.lines[i]? = some x.place.line ∧
    s.lineNumbers[i]? = some x.place.lineNumber

/-- One lexeme is added like a list of one. -/
theorem use_eq (s : Stream) (u : Use) : s.use u = s.extend u.lexemes := by
  cases u with
  | append | extend => rfl

/-- A stream is made by adding to the one to which nothing was added. -/
theorem ofList_eq (l : List Lexeme) :
    ofList l = (empty.extend l).1.map fun _ => (empty.extend l).2 := by
  rw [ofList]
  split <;> rename_i hs <;> rw [hs] <;> rfl

/-- Where the first lexemes are all added, the others are added to what comes of them. -/
theorem extend_append (h : (s.extend l).1 = .ok ()) (m : List Lexeme) :
    s.extend (l ++ m) = (s.extend l).2.extend m := by
  induction l generalizing s with
  | nil => rfl
  | cons x l ih =>
    rw [List.cons_append, extend_cons, extend_cons]
    rw [extend_cons] at h
    split at h
    · cases h
    · exact ih h

/-- **A stream that has ended stays as it is.** -/
theorem useAll_of_ended (hs : s.ended = true) (us : List Use) : s.useAll us = s := by
  induction us with
  | nil => rfl
  | cons u us ih =>
    show (s.use u).2.useAll us = s
    rw [use_eq, state_extend_of_ended hs, ih]

/-- In a stream the lexemes and the lines that they begin are two views of the same entries, so they
are parallel. -/
theorem parallel (s : Stream) : s.Parallel := by
  refine ⟨rfl, List.length_map _, List.length_map _, List.length_map _, fun i hi => ?_⟩
  have hx : s.entries[i]? = some s.entries[i] := List.getElem?_eq_getElem hi
  have hmap {α : Type} (f : Lexeme → α) : (s.entries.map f)[i]? = some (f s.entries[i]) := by
    rw [List.getElem?_map, hx]
    rfl
  have hget : s.get i = .ok s.entries[i] := by
    have hnonneg : ¬(i : Int) < 0 := by omega
    simp only [get, if_neg hnonneg, Int.toNat_natCast, hx]
  exact ⟨_, hget, hx, hmap _, hmap _, hmap _⟩

/-- The empty stream holds the empty list. -/
theorem holds_empty : empty.Holds [] := ⟨rfl, by simp [empty]⟩

namespace Holds

/-- To an open stream no end of the file was offered. -/
theorem kind_ne (h : s.Holds l) (hs : s.ended = false) : ∀ x ∈ l, x.kind ≠ .endOfFile := by
  intro x hx hend
  have hended : s.ended = true := h.ended.2 ⟨x, hx, hend⟩
  rw [hs] at hended
  cases hended

/-- What comes behind the end of the file is of no account. -/
theorem of_ended (h : s.Holds l) (hs : s.ended = true) (m : List Lexeme) : s.Holds (l ++ m) := by
  obtain ⟨x, hx, hend⟩ := h.ended.1 hs
  refine ⟨?_, fun _ => ⟨x, List.mem_append_left m hx, hend⟩, fun _ => hs⟩
  -- The lexemes before the first end of the file are not all of `l`, so `m` adds none to them.
  rw [h.entries, List.takeWhile_append, if_neg]
  intro hlength
  have hall := List.takeWhile_eq_self_iff.1 ((List.takeWhile_prefix _).eq_of_length hlength)
  simpa [hend] using hall x hx

/-- **One lexeme more is added.** -/
theorem append (h : s.Holds l) (hs : s.append x = .ok t) : t.Holds (l ++ [x]) := by
  obtain ⟨hopen, hended, hentries⟩ := ended_of_append hs
  have hl := h.kind_ne hopen
  have hkept : ∀ y ∈ l, decide (y.kind ≠ .endOfFile) = true :=
    fun y hy => decide_eq_true (hl y hy)
  refine ⟨?_, ?_⟩
  · rw [hentries, h.entries, List.takeWhile_append_of_pos hkept,
      List.takeWhile_eq_self_iff.2 hkept, List.takeWhile_cons, List.filter_cons]
    rfl
  · rw [hended, decide_eq_true_iff]
    refine ⟨fun hx => ⟨x, by simp, hx⟩, ?_⟩
    rintro ⟨y, hy, hend⟩
    rcases List.mem_append.1 hy with hy | hy
    · exact absurd hend (hl y hy)
    · exact List.mem_singleton.1 hy ▸ hend

/-- What an extended stream holds is what it held and what it was given, up to the end of the
file. -/
theorem extend (h : s.Holds l) (m : List Lexeme) : (s.extend m).2.Holds (l ++ m) := by
  induction m generalizing s l with
  | nil => rwa [List.append_nil]
  | cons x m ih =>
    rcases hs : s.append x with f | t
    · obtain ⟨hended, -⟩ := ended_of_append_eq_error hs
      rw [state_extend_of_ended hended]
      exact h.of_ended hended _
    · rw [extend_cons, hs, List.append_cons]
      exact ih (h.append hs)

/-- **What a stream holds is known from the lexemes that it was offered**, in whatever calls they
came and whatever these ended with. -/
theorem useAll (h : s.Holds l) (us : List Use) :
    (s.useAll us).Holds (l ++ us.flatMap Use.lexemes) := by
  induction us generalizing s l with
  | nil => rwa [List.flatMap_nil, List.append_nil]
  | cons u us ih =>
    rw [List.flatMap_cons, ← List.append_assoc]
    show ((s.use u).2.useAll us).Holds _
    rw [use_eq]
    exact ih (h.extend u.lexemes)

end Holds

/-- Nothing is not late. -/
theorem not_late_nil : ¬Late l [] := by
  rintro ⟨before, x, after, hm, -⟩
  simp at hm

/-- The first lexeme comes behind an end of the file, or one of the others does. -/
theorem late_cons : Late l (x :: m) ↔ (∃ y ∈ l, y.kind = .endOfFile) ∨ Late (l ++ [x]) m := by
  constructor
  · rintro ⟨before, z, after, hm, y, hy, hend⟩
    cases before with
    | nil => exact .inl ⟨y, by simpa using hy, hend⟩
    | cons w before =>
      obtain ⟨rfl, rfl⟩ := List.cons.inj hm
      exact .inr ⟨before, z, after, rfl, y, by simpa using hy, hend⟩
  · rintro (⟨y, hy, hend⟩ | ⟨before, z, after, rfl, y, hy, hend⟩)
    · exact ⟨[], x, m, rfl, y, List.mem_append_left _ hy, hend⟩
    · exact ⟨x :: before, z, after, rfl, y, by simpa using hy, hend⟩

/-- Where a lexeme comes behind an end of the file, there is an end of the file. -/
theorem Late.exists_end (h : Late l m) : ∃ y ∈ l ++ m, y.kind = .endOfFile := by
  obtain ⟨before, x, after, rfl, y, hy, hend⟩ := h
  refine ⟨y, ?_, hend⟩
  rw [← List.append_assoc]
  exact List.mem_append_left _ hy

/-- The first of the lexemes that come behind an end of the file. -/
theorem Late.exists_first (h : Late l m) : ∃ before x after, m = before ++ x :: after ∧
    ¬Late l before ∧ ∃ y ∈ l ++ before, y.kind = .endOfFile := by
  induction m generalizing l with
  | nil => exact absurd h not_late_nil
  | cons x m ih =>
    by_cases hl : ∃ y ∈ l, y.kind = .endOfFile
    · exact ⟨[], x, m, rfl, not_late_nil, by rwa [List.append_nil]⟩
    · obtain ⟨before, z, after, rfl, hbefore, hend⟩ := ih ((late_cons.1 h).resolve_left hl)
      refine ⟨x :: before, z, after, rfl, ?_, by rwa [List.append_cons]⟩
      rw [late_cons, or_iff_right hl]
      exact hbefore

/-- **A call fails exactly if it offers a lexeme behind an end of the file.** -/
theorem Holds.result_extend (h : s.Holds l) (m : List Lexeme) :
    Late l m ∧ (s.extend m).1 = .error .streamEnded ∨ ¬Late l m ∧ (s.extend m).1 = .ok () := by
  induction m generalizing s l with
  | nil => exact .inr ⟨not_late_nil, rfl⟩
  | cons x m ih =>
    rw [extend_cons]
    rcases hs : s.append x with f | t
    · obtain ⟨hended, rfl⟩ := ended_of_append_eq_error hs
      exact .inl ⟨late_cons.2 (.inl (h.ended.1 hended)), rfl⟩
    · have hopen : ¬∃ y ∈ l, y.kind = .endOfFile := by
        rintro ⟨y, hy, hend⟩
        exact h.kind_ne (ended_of_append hs).1 y hy hend
      rw [late_cons, or_iff_right hopen]
      exact ih (h.append hs)

/-- Extending a stream fails if and only if a lexeme comes late, behind the end of the file. -/
theorem Holds.extend_eq_error_iff (h : s.Holds l) (m : List Lexeme) :
    (s.extend m).1 = .error .streamEnded ↔ Late l m := by
  rcases h.result_extend m with ⟨hlate, hr⟩ | ⟨hlate, hr⟩ <;> simp [hlate, hr]

/-- Extending a stream succeeds if and only if nothing comes late. -/
theorem Holds.extend_eq_ok_iff (h : s.Holds l) (m : List Lexeme) :
    (s.extend m).1 = .ok () ↔ ¬Late l m := by
  rcases h.result_extend m with ⟨hlate, hr⟩ | ⟨hlate, hr⟩ <;> simp [hlate, hr]

/-- **A stream only grows, and only until it ends.**  A stream is made with some lexemes, which
fails exactly if one of them comes behind an end of the file.  Then it is used in any way, whatever
the uses end with.

It holds the lexemes that it was offered before the first end of the file, in order, and has ended
exactly if it was offered an end of the file.  The next use fails exactly if it offers a lexeme
behind the first end of the file, and then the stream stays as it is, whatever it is used for.  All
its views have its length, and tell of the same lexeme at each position. -/
theorem append_only (init : List Lexeme) :
    (Late [] init → ofList init = .error .streamEnded) ∧
    (¬Late [] init → ∃ s, ofList init = .ok s ∧ ∀ us : List Use,
      let t := s.useAll us
      let l := init ++ us.flatMap Use.lexemes
      t.entries = l.takeWhile (fun x => x.kind ≠ .endOfFile) ∧
      (t.ended = true ↔ ∃ x ∈ l, x.kind = .endOfFile) ∧
      (∀ u : Use,
        ((t.use u).1 = .error .streamEnded ↔ Late l u.lexemes) ∧
        ((t.use u).1 = .ok () ↔ ¬Late l u.lexemes) ∧
        (Late l u.lexemes → ∀ vs, (t.use u).2.useAll vs = (t.use u).2)) ∧
      t.Parallel) := by
  have hinit := holds_empty.extend init
  rw [List.nil_append] at hinit
  rw [ofList_eq]
  refine ⟨fun hlate => ?_, fun hlate => ⟨(empty.extend init).2, ?_, fun us => ?_⟩⟩
  · rw [(holds_empty.extend_eq_error_iff init).2 hlate]
    rfl
  · rw [(holds_empty.extend_eq_ok_iff init).2 hlate]
    rfl
  · intro t l
    have ht : t.Holds l := hinit.useAll us
    refine ⟨ht.entries, ht.ended, fun u => ?_, t.parallel⟩
    rw [use_eq]
    refine ⟨ht.extend_eq_error_iff _, ht.extend_eq_ok_iff _, fun h vs => ?_⟩
    exact useAll_of_ended ((ht.extend u.lexemes).ended.2 h.exists_end) vs

/-- A call ends the stream with its second lexeme and fails at its third. -/
theorem append_only_endInside :
    let home := Lexeme.alone .home "HOME"
    let up := Lexeme.alone .penUp "PENUP"
    let u := Use.extend [up, .alone .endOfFile "", .alone .penDown "PENDOWN"]
    ¬Late [] [home] ∧ Late [home] u.lexemes ∧ ∃ s, ofList [home] = .ok s ∧
      (s.use u).1 = .error .streamEnded ∧ (s.useAll [u]).entries = [home, up] ∧
      (s.useAll [u]).ended = true ∧ ∀ vs, (s.use u).2.useAll vs = (s.use u).2 := by
  intro home up u
  have hinit : ¬Late [] [home] := (holds_empty.extend_eq_ok_iff [home]).1 rfl
  have hlate : Late [home] u.lexemes :=
    ⟨[up, .alone .endOfFile ""], .alone .penDown "PENDOWN", [], rfl, .alone .endOfFile "",
      by simp, rfl⟩
  obtain ⟨s, hs, h⟩ := (append_only [home]).2 hinit
  obtain ⟨-, -, huse, -⟩ := h []
  obtain ⟨hresult, -, hstays⟩ := huse u
  obtain ⟨hentries, hended, -, -⟩ := h [u]
  refine ⟨hinit, hlate, s, hs, hresult.2 hlate, hentries, hended.2 ?_, hstays hlate⟩
  exact ⟨.alone .endOfFile "", by simp [u, Use.lexemes], rfl⟩

end Stream

namespace Executor

variable {σ : Type} [Device σ] {e : Executor σ} {l m : List Lexeme}

/-- **The stream of an executor holds what it was handed**, whatever it was used for. -/
theorem holds_live (h : e.stream.Holds l) (us : List Use) :
    (e.live us).stream.Holds (l ++ us.flatMap Use.given) := by
  induction us generalizing e l with
  | nil => rwa [List.flatMap_nil, List.append_nil]
  | cons u us ih =>
    rw [List.flatMap_cons, ← List.append_assoc]
    refine ih ?_
    cases u with
    | parse m =>
      rw [use, stream_parse]
      exact h.extend m
    | discard | close | meanwhile => rwa [Use.given, List.append_nil]

/-- **Lexemes that come too late put off the others.**  An executor is used in any way, and then it
is handed lexemes of which some come behind an end of the file.  That fails and carries nothing out,
but those before the first of them are kept; and parsing nothing does then what parsing them alone
would have done. -/
theorem parse_of_late (strict : Bool) (p : Params) (device : σ) (site : Site) (us : List Use)
    (hlate : Stream.Late (us.flatMap Use.given) m) :
    let e := (start strict p device site).live us
    ∃ before x after, m = before ++ x :: after ∧ ¬Stream.Late (us.flatMap Use.given) before ∧
      (∃ y ∈ us.flatMap Use.given ++ before, y.kind = .endOfFile) ∧
      e.parse m = ⟨.error (.failure .streamEnded), [], e.fed before⟩ ∧
      (e.parse m).state.parse [] = e.parse before := by
  intro e
  have he : e.stream.Holds (us.flatMap Use.given) :=
    holds_live (e := start strict p device site) Stream.holds_empty us
  have herror := (he.extend_eq_error_iff m).2 hlate
  obtain ⟨before, x, after, rfl, hbefore, hend⟩ := hlate.exists_first
  have hok := (he.extend_eq_ok_iff before).2 hbefore
  have hfed : e.fed (before ++ x :: after) = e.fed before := by
    have hended : (e.stream.extend before).2.ended = true := (he.extend before).ended.2 hend
    rw [fed, fed, Stream.extend_append hok, Stream.state_extend_of_ended hended]
  have hp : e.parse (before ++ x :: after) =
      ⟨.error (.failure .streamEnded), [], e.fed before⟩ := by
    rw [← hfed]
    simp only [parse, herror, fed]
  refine ⟨before, x, after, rfl, hbefore, hend, hp, ?_⟩
  rw [hp, parse_eq_run hok]
  rfl

end Executor
end PlotScript
