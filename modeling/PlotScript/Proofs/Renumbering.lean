/-
# Lines under other numbers

The words of a typed line are the same under any number but for that number
(`Lexer.lineRow_unnumbered`); a line of a script keeps its number.  So two executors that differ in
numbers of typed lines only still do so after a line (`Session.agrees_runLine`) or a script
(`Session.agrees_forEach`), and what is observed of them is the same but for these numbers
(`Event.Renumbered`).

After a complaint, reading goes on where the line ends that is blamed.  Of a typed line, nothing is
left when the next one comes, but perhaps a block; what is left of a script that was broken off is
on a line of that script (`Executor.Orderly`).  So no other number makes two lines look like one, or
one like two (`keepsLines_unnumbered`).
-/

import PlotScript.Proofs.Dialogue
import PlotScript.Proofs.Relocation

namespace PlotScript

/-- A place without the number of its line, if that line was typed. -/
def Place.unnumbered (p : Place) : Place :=
  if p.source.isSome then p else { p with lineNumber := 0 }

/-- The place of a lexeme of a script keeps its number. -/
theorem Place.unnumbered_of_source {p : Place} (h : p.source.isSome = true) : p.unnumbered = p :=
  if_pos h

/-- A place without its number is of the same script, or of none. -/
theorem Place.source_unnumbered (p : Place) : p.unnumbered.source = p.source := by
  unfold unnumbered
  split <;> rfl

/-- **Without their numbers, no lines are mixed up**, if some are of scripts and the last is one
line. -/
theorem keepsLines_unnumbered {m l : List Lexeme} (hm : ∀ x ∈ m, x.place.source.isSome = true)
    (hl : Line l []) : KeepsLines .unnumbered (m ++ l) := by
  intro x hx y hy
  by_cases hs : x.place.source = y.place.source
  · by_cases hx' : x.place.source.isSome = true
    · rw [Place.unnumbered_of_source hx', Place.unnumbered_of_source (hs ▸ hx')]
    · have hy' : ¬y.place.source.isSome = true := hs ▸ hx'
      have hxl := (List.mem_append.1 hx).resolve_left fun h => hx' (hm x h)
      have hyl := (List.mem_append.1 hy).resolve_left fun h => hy' (hm y h)
      have hsame := hl.together y hyl x hxl
      rw [hsame, Place.unnumbered, Place.unnumbered, if_neg hx', if_neg hy']
      simp only [Place.sameLine, Bool.and_eq_true, beq_iff_eq] at hsame ⊢
      exact ⟨⟨hsame.1.1, trivial⟩, hsame.2⟩
  · have hne {p q : Place} (h : p.source ≠ q.source) : p.sameLine q = false := by
      rw [Place.sameLine, beq_eq_false_iff_ne.2 h]
      rfl
    rw [hne hs, hne (by rwa [Place.source_unnumbered, Place.source_unnumbered])]

/-- What the number of a line is taken for: of a typed line, it does not matter. -/
def numberShown (source : Option String) (n : Int) : Int := if source.isSome then n else 0

/-- What is observed of two runs, and is the same but for line numbers: it would be the same if all
lines had the same number. -/
def Event.Renumbered (es es' : List Event) : Prop :=
  ∃ fs, List.Forall₂ (Moved .unnumbered) es fs ∧ List.Forall₂ (Moved .unnumbered) es' fs

namespace Event

variable {es es' fs fs' : List Event}

/-- What is observed is the same if no line has another number. -/
theorem renumbered_refl (es : List Event) : Renumbered es es :=
  ⟨es, moved_refl es, moved_refl es⟩

/-- What is told of complaints that are the same but for line numbers. -/
theorem renumbered_map {tell : Complaint → Event}
    (h : ∀ c, Moved .unnumbered (tell c) (tell (c.moved .unnumbered))) {l l' : List Complaint}
    (hl : l.map (Complaint.moved .unnumbered) = l'.map (Complaint.moved .unnumbered)) :
    Renumbered (l.map tell) (l'.map tell) := by
  have hmap : ∀ m : List Complaint, List.Forall₂ (Moved .unnumbered) (m.map tell)
      ((m.map (Complaint.moved .unnumbered)).map tell) := by
    intro m
    rw [List.map_map, List.forall₂_map_left_iff, List.forall₂_map_right_iff]
    exact List.forall₂_same.2 fun c _ => h c
  exact ⟨_, hmap l, hl ▸ hmap l'⟩

/-- What is observed one after the other is the same but for line numbers if each part is. -/
theorem Renumbered.append (h : Renumbered es es') (k : Renumbered fs fs') :
    Renumbered (es ++ fs) (es' ++ fs') := by
  obtain ⟨gs, hg, hg'⟩ := h
  obtain ⟨hs, hh, hh'⟩ := k
  exact ⟨gs ++ hs, List.rel_append hg hh, List.rel_append hg' hh'⟩

/-- What is kept for what it is, and not for what it tells of a line, is kept of both. -/
theorem Renumbered.filter {p : Event → Bool} (hp : ∀ severity text text',
    p (.log severity text) = p (.log severity text')) (h : Renumbered es es') :
    Renumbered (es.filter p) (es'.filter p) := by
  have hmoved : ∀ {ev ev'}, Moved .unnumbered ev ev' → p ev = p ev' := by
    intro ev ev' hm
    cases hm with
    | same => rfl
    | report | warn | record | note => exact hp _ _ _
  have hfilter : ∀ {es fs}, List.Forall₂ (Moved .unnumbered) es fs →
      List.Forall₂ (Moved .unnumbered) (es.filter p) (fs.filter p) := by
    intro es fs h
    induction h with
    | nil => exact .nil
    | @cons ev ev' es fs hm _ ih =>
      by_cases hk : p ev = true
      · rw [List.filter_cons_of_pos hk, List.filter_cons_of_pos (hmoved hm ▸ hk)]
        exact .cons hm ih
      · rw [List.filter_cons_of_neg hk, List.filter_cons_of_neg (hmoved hm ▸ hk)]
        exact ih
  obtain ⟨fs, hf, hf'⟩ := h
  exact ⟨fs.filter p, hfilter hf, hfilter hf'⟩

/-- The errors are the same but for line numbers. -/
theorem Renumbered.errors (h : Renumbered es es') :
    Renumbered (es.filter isError) (es'.filter isError) :=
  h.filter fun severity _ _ => by cases severity <;> rfl

/-- The calls of the plotter are the same. -/
theorem Renumbered.calls_eq (h : Renumbered es es') : calls es = calls es' := by
  have hcalls : ∀ {es fs}, List.Forall₂ (Moved .unnumbered) es fs → calls es = calls fs := by
    intro es fs h
    induction h with
    | nil => rfl
    | @cons ev _ es fs hm _ ih =>
      cases hm with
      | report | warn | record | note => exact ih
      | same =>
        cases ev with
        | call c => exact congrArg (List.cons c) ih
        | log | out | machine | get => exact ih
  obtain ⟨fs, hf, hf'⟩ := h
  exact (hcalls hf).trans (hcalls hf').symm

end Event

namespace Lexer

variable (f : Place → Place) (place : Nat → Nat → Place) (c : Option Lexeme) (n : Nat)
  (cs : List Char) (source : Option String) (line : String) (k : Int)

/-- On a line at another place the same is found, at another place. -/
theorem scan_moved : scan (fun i j => f (place i j)) (c.map (.moved f)) n cs =
    ⟨(scan place c n cs).word, (scan place c n cs).comment.map (.moved f)⟩ := by
  fun_induction scan place c n cs with
  | case1 => rfl
  | case2 _ n r ih => exact ih
  | case3 x n c r h ih =>
    rw [← ih, Option.map_some]
    exact scan_open h n
  | case4 n r ih =>
    rw [← ih]
    exact scan_blockComment n
  | case5 n r h =>
    refine scan_lineComment (fun hr => ?_) n
    obtain ⟨r', rfl⟩ := List.head?_eq_some_iff.1 hr
    exact h r' rfl
  | case6 n c r _ _ hb ih =>
    rw [← ih]
    exact scan_blank hb
  | case7 n c r _ hp hb =>
    show scan _ none n (c :: r) = _
    rw [scan_none hp, if_neg hb]
    rfl

/-- A line at another place has the same words, at other places.  The induction is on the words of
the line. -/
theorem row_moved : row (fun i j => f (place i j)) (c.map (.moved f)) n cs =
    ⟨(row place c n cs).words.map (.moved f), (row place c n cs).comment.map (.moved f)⟩ := by
  fun_induction row place c n cs with
  | case1 c n cs start word rest c' h hlt r ih =>
    have hs := scan_moved f place c n cs
    rw [h] at hs
    rw [row_of_word hs]
    have ih : row (fun i j => f (place i j)) none (start + word.length) rest = _ := ih
    rw [ih]
    rfl
  | case2 c n cs c' h =>
    have hs := scan_moved f place c n cs
    rw [h] at hs
    rw [row_of_none hs]
    rfl

/-- **The number of a line is in the places of its words, and nowhere else.** -/
theorem lineRow_unnumbered :
    lineRow source (c.map (.moved .unnumbered)) (numberShown source k) line =
      ⟨(lineRow source c k line).words.map (.moved .unnumbered),
        (lineRow source c k line).comment.map (.moved .unnumbered)⟩ := by
  have hplace : columns (Text.dropLineEnd line) (numberShown source k) source =
      fun i j => (columns (Text.dropLineEnd line) k source i j).unnumbered := by
    funext i j
    cases source <;> rfl
  rw [lineRow, hplace]
  exact row_moved .unnumbered (columns (Text.dropLineEnd line) k source) c 0 _

variable {place c n cs} in
/-- The place of a word on a line is that of some of its columns. -/
theorem place_of_mem_row {x : Lexeme} (hx : x ∈ (row place c n cs).words) :
    ∃ i j, x.place = place i j := by
  fun_induction row place c n cs with
  | case1 c n cs start word rest c' h hlt r ih =>
    rcases List.mem_cons.1 hx with rfl | hx
    · exact ⟨_, _, rfl⟩
    · exact ih hx
  | case2 => cases hx

/-- The words of a line are on one line. -/
theorem line_lineRow : Line (lineRow source c k line).words [] := by
  refine ⟨fun x hx y hy => ?_, fun x _ y hy => by (cases hy)⟩
  obtain ⟨i, j, hx⟩ := place_of_mem_row hx
  obtain ⟨i', j', hy⟩ := place_of_mem_row hy
  rw [hx, hy]
  simp [Place.sameLine, columns]

variable {f} in
/-- The complaints about unknown words at other places are those about these words, moved. -/
theorem unknowns_moved (l : List Lexeme) :
    unknowns (l.map (.moved f)) = (unknowns l).map (.moved f) := by
  rw [unknowns, unknowns, List.filter_map, List.map_map, List.map_map]
  rfl

end Lexer

/-- Where two runs end that may be of different line numbers: what is told is the same but for
them. -/
structure Outcome.Agrees {τ : Type} (r : τ → τ → Prop) (o o' : Outcome Fault τ Unit) : Prop where
  result : o.result.mapError (Fault.moved .unnumbered) =
    o'.result.mapError (Fault.moved .unnumbered)
  events : Event.Renumbered o.events o'.events
  state : r o.state o'.state

/-- Both end with a fault, or neither does. -/
theorem Outcome.Agrees.result_eq_ok {τ : Type} {r : τ → τ → Prop} {o o' : Outcome Fault τ Unit}
    (h : o.Agrees r o') : o.result = .ok () ↔ o'.result = .ok () := by
  have hmoved : ∀ res : Except Fault Unit,
      res.mapError (Fault.moved .unnumbered) = .ok () ↔ res = .ok () := by
    rintro (_ | _) <;> simp
  rw [← hmoved o.result, h.result, hmoved]

/-- Both are broken off, or neither is. -/
theorem Outcome.Agrees.brokenOff_eq {τ : Type} {r : τ → τ → Prop} {o o' : Outcome Fault τ Unit}
    (h : o.Agrees r o') : Session.brokenOff o.result = Session.brokenOff o'.result := by
  have hmoved : ∀ res : Except Fault Unit,
      Session.brokenOff (res.mapError (Fault.moved .unnumbered)) = Session.brokenOff res := by
    rintro ((_ | _ | _) | _) <;> rfl
  rw [← hmoved o.result, h.result, hmoved]

/-- Both end with the same interrupt, or neither does. -/
theorem Outcome.Agrees.result_eq_interrupt {τ : Type} {r : τ → τ → Prop}
    {o o' : Outcome Fault τ Unit} (h : o.Agrees r o') (said : String) :
    o.result = .error (.interrupt said) ↔ o'.result = .error (.interrupt said) := by
  have hmoved : ∀ res : Except Fault Unit,
      res.mapError (Fault.moved .unnumbered) = .error (.interrupt said) ↔
        res = .error (.interrupt said) := by
    rintro ((_ | _ | _) | _) <;> simp [Fault.moved]
  rw [← hmoved o.result, h.result, hmoved]

/-- A tidy executor that is ready for the next line: what came last is of scripts that were broken
off. -/
def Executor.Orderly {σ : Type} (e : Executor σ) : Prop :=
  ∃ k, Tidy k e ∧ ∀ x ∈ e.stream.drop k, x.place.source.isSome = true

/-- An executor behind all of its lexemes is ready for the next line. -/
theorem Executor.Tidy.orderly {σ : Type} {e : Executor σ} (h : Tidy e.stream.size e) :
    e.Orderly := by
  refine ⟨e.stream.size, h, ?_⟩
  rw [show e.stream.drop e.stream.size = [] from List.drop_length]
  exact fun x hx => by cases hx

namespace Session

open Executor Lexer

variable {σ : Type}

/-- A lexer that is handed its lines, and an executor that is ready for the next one. -/
structure Ready (x : Lexer × Executor σ) : Prop where
  unread : x.1.unread = none
  ended : x.2.stream.ended = false
  orderly : x.2.Orderly

/-- The same lexer and executor, but for line numbers. -/
structure Alongside (x x' : Lexer × Executor σ) : Prop where
  executor : x.2.moved .unnumbered = x'.2.moved .unnumbered
  source : x.1.source = x'.1.source
  comment : x.1.comment.map (Lexeme.moved .unnumbered) =
    x'.1.comment.map (Lexeme.moved .unnumbered)

variable [Device σ] {e : Executor σ} {x x' : Lexer × Executor σ} {f : Place → Place}

/-- **The words of a line are fed, wherever they stand**, if the lines are kept.  They are put in
the stream and run, or dropped if all of them are unknown, and neither looks at the numbers of the
lines. -/
theorem shifted_feed {k : Nat} (ht : Tidy k e) (he : e.stream.ended = false) {l : List Lexeme}
    (hf : KeepsLines f (e.stream.drop k ++ l)) (hk : ∀ y ∈ l, y.kind ≠ .endOfFile) :
    Shifted f id (feed l (unknowns l) e)
      (feed (l.map (.moved f)) (unknowns (l.map (.moved f))) (e.moved f)) := by
  have hk' : ∀ y ∈ l.map (Lexeme.moved f), y.kind ≠ .endOfFile := by
    intro y hy
    obtain ⟨z, hz, rfl⟩ := List.mem_map.1 hy
    rw [Lexeme.kind_moved]
    exact hk z hz
  have hp : e.parse l = (e.grow l).run := parse_of_forall he hk
  have hp' : (e.moved f).parse (l.map (.moved f)) = ((e.grow l).moved f).run := by
    refine (parse_of_forall (e := e.moved f) he hk').trans (congrArg Executor.run ?_)
    simp only [Executor.moved, Stream.moved, Executor.grow, List.map_append]
  have hall : (l.map (.moved f)).all (fun y : Lexeme => decide (y.kind = .unknown)) =
      l.all fun y => decide (y.kind = .unknown) := by
    rw [List.all_map]
    rfl
  rw [feed_state, feed_state, hall, hp, hp', unknowns_moved]
  by_cases h : (l.all fun y => decide (y.kind = .unknown)) = true
  · rw [if_pos h, if_pos h]
    refine ⟨rfl, ?_, rfl⟩
    rw [List.map_map, List.forall₂_map_left_iff, List.forall₂_map_right_iff]
    exact List.forall₂_same.2 fun c _ => .report .command c
  · rw [if_neg h, if_neg h]
    have hdrop : (e.grow l).stream.drop k = e.stream.drop k ++ l :=
      List.drop_append_of_le_length ht.within
    obtain ⟨hres, hev, hst⟩ := shifted_run (hdrop ▸ hf) (ht.grow l)
    refine ⟨?_, hev, hst⟩
    show ((e.grow l).moved f).run.result.map _ = _
    rw [hres]
    rcases (e.grow l).run.result with fault | given <;> rfl

/-- **A line leaves the executor ready for the next**, if it ends without a fault or is a line of a
script. -/
theorem orderly_feed (h : e.Orderly) (he : e.stream.ended = false) {l : List Lexeme}
    (hk : ∀ y ∈ l, y.kind ≠ .endOfFile)
    (hr : (feed l (unknowns l) e).result = .ok () ∨ ∀ y ∈ l, y.place.source.isSome = true) :
    (feed l (unknowns l) e).state.stream.ended = false ∧ (feed l (unknowns l) e).state.Orderly := by
  have hp : e.parse l = (e.grow l).run := parse_of_forall he hk
  rw [feed_state, hp] at hr ⊢
  by_cases hu : (l.all fun y => decide (y.kind = .unknown)) = true
  · rw [if_pos hu]
    exact ⟨he, h⟩
  · rw [if_neg hu] at hr ⊢
    obtain ⟨k, ht, hs⟩ := h
    have hstream : (e.grow l).run.state.stream = (e.grow l).stream := (frame_run _).stream
    refine ⟨congrArg Stream.ended hstream, ?_⟩
    rcases hr with hr | hl
    · rcases hrun : (e.grow l).run.result with fault | given
      · simp only [hrun] at hr
        cases hr
      · exact Tidy.orderly (hstream ▸ tidy_run (ht.grow l) hrun)
    · refine ⟨k, (ht.grow l).run, fun x hx => ?_⟩
      have hdrop : (e.grow l).stream.drop k = e.stream.drop k ++ l :=
        List.drop_append_of_le_length ht.within
      rw [hstream, hdrop] at hx
      exact (List.mem_append.1 hx).elim (hs x) (hl x)

omit [Device σ] in
/-- Two acts that come to the same on lexemes without numbers agree. -/
theorem agrees_of_shifted {o o' z : Outcome Fault (Executor σ) Unit}
    (h : Shifted .unnumbered id o z) (h' : Shifted .unnumbered id o' z) :
    o.Agrees (fun e e' => e.moved .unnumbered = e'.moved .unnumbered) o' := by
  have hid : ∀ r : Except Fault Unit, r.map id = r := fun r => by cases r <;> rfl
  have hr := h.result.symm.trans h'.result
  rw [hid, hid] at hr
  exact ⟨hr, ⟨z.events, h.events, h'.events⟩, h.state.symm.trans h'.state⟩

/-- The words of a line of a script are of that script. -/
theorem source_of_mem_lineRow {source : Option String} {c : Option Lexeme} {n : Int}
    {line : String} {y : Lexeme} (hy : y ∈ (lineRow source c n line).words) :
    y.place.source = source := by
  obtain ⟨i, j, hp⟩ := place_of_mem_row hy
  rw [hp]
  rfl

/-- **A line does the same under any number**, if it was typed.  A line of a file keeps its number,
which is shown in its complaints; the one of a typed line is not shown at all. -/
theorem agrees_runLine (h : Alongside x x') (hx : Ready x) (hx' : Ready x') (line : String)
    {n n' : Nat} (hn : x.1.source.isSome = true → n = n') :
    (runLine line n x).Agrees Alongside (runLine line n' x') := by
  obtain ⟨y, -, hs, hc, hr⟩ := exists_runLine hx.unread line n
  obtain ⟨y', -, hs', hc', hr'⟩ := exists_runLine hx'.unread line n'
  have hrow := lineRow_unnumbered x.1.comment x.1.source line n
  have hrow' := lineRow_unnumbered x'.1.comment x'.1.source line n'
  have hnumber : numberShown x.1.source n = numberShown x'.1.source n' := by
    rw [← h.source, numberShown, numberShown]
    split
    · rename_i hsome
      rw [hn hsome]
    · rfl
  have hsame : lineRow x.1.source (x.1.comment.map (.moved .unnumbered))
      (numberShown x.1.source n) line =
    lineRow x'.1.source (x'.1.comment.map (.moved .unnumbered))
      (numberShown x'.1.source n') line := by
    rw [hnumber, h.source, h.comment]
  obtain ⟨hwords, hcomment⟩ := Row.mk.inj (hrow.symm.trans (hsame.trans hrow'))
  -- What each executor has still to read lies in lines of its own.
  obtain ⟨k, ht, hscript⟩ := hx.orderly
  have hf := shifted_feed ht hx.ended (keepsLines_unnumbered hscript
    (line_lineRow x.1.comment x.1.source line n)) fun _ => kind_ne_of_mem_row
  obtain ⟨k', ht', hscript'⟩ := hx'.orderly
  have hf' := shifted_feed ht' hx'.ended (keepsLines_unnumbered hscript'
    (line_lineRow x'.1.comment x'.1.source line n')) fun _ => kind_ne_of_mem_row
  rw [← hwords, ← h.executor] at hf'
  obtain ⟨hres, hev, hst⟩ := agrees_of_shifted hf hf'
  have hnotes : Event.Renumbered
      ((unknowns (lineRow x.1.source x.1.comment n line).words).map fun c =>
        .log .debug (c.describe .command))
      ((unknowns (lineRow x'.1.source x'.1.comment n' line).words).map fun c =>
        .log .debug (c.describe .command)) := by
    refine Event.renumbered_map (fun c => .note c) ?_
    rw [← unknowns_moved, ← unknowns_moved, hwords]
  rw [hr, hr']
  refine ⟨hres, hnotes.append hev, hst, ?_, ?_⟩
  · exact hs.trans (h.source.trans hs'.symm)
  · exact (congrArg _ hc).trans (hcomment.trans (congrArg _ hc'.symm))

/-- A line leaves lexer and executor ready for the next one, if it ends without a fault or is a line
of a script. -/
theorem ready_runLine (hx : Ready x) (line : String) (n : Nat)
    (hr : (runLine line n x).result = .ok () ∨ x.1.source.isSome = true) :
    Ready (runLine line n x).state ∧ (runLine line n x).state.1.source = x.1.source := by
  obtain ⟨y, hu, hs, -, he⟩ := exists_runLine hx.unread line n
  rw [he] at hr ⊢
  obtain ⟨hend, ho⟩ := orderly_feed hx.orderly hx.ended (fun _ => kind_ne_of_mem_row)
    (hr.imp_right fun hsome y hy => source_of_mem_lineRow hy ▸ hsome)
  exact ⟨⟨hu, hend, ho⟩, hs⟩

/-- A line of a script does the same in two runs that differ in numbers of typed lines only. -/
theorem agrees_runSourced (h : Alongside x x') (hx : Ready x) (hx' : Ready x')
    (line : String) (n : Nat) :
    (runSourced (line, n) x).Agrees Alongside (runSourced (line, n) x') := by
  rw [runSourced_eq, runSourced_eq]
  split
  · exact ⟨rfl, Event.renumbered_refl [], h⟩
  · exact agrees_runLine h hx hx' _ fun _ => rfl

/-- A line of a script leaves lexer and executor ready for the next one, however it ends. -/
theorem ready_runSourced (hx : Ready x) (hs : x.1.source.isSome = true) (line : String) (n : Nat) :
    Ready (runSourced (line, n) x).state ∧
      (runSourced (line, n) x).state.1.source = x.1.source := by
  rw [runSourced_eq]
  split
  · exact ⟨hx, rfl⟩
  · exact ready_runLine hx _ n (.inr hs)

/-- **The lines of a script do the same, one after another.**  The induction is on the lines; a line
that ends with a fault in one session does so in the other. -/
theorem agrees_forEach (h : Alongside x x') (hx : Ready x) (hx' : Ready x')
    (hs : x.1.source.isSome = true) (ls : List String) (n : Nat) :
    (Act.forEach (ls.zipIdx n) runSourced x).Agrees Alongside
      (Act.forEach (ls.zipIdx n) runSourced x') := by
  induction ls generalizing x x' n with
  | nil => exact ⟨rfl, Event.renumbered_refl [], h⟩
  | cons line ls ih =>
    have hline := agrees_runSourced h hx hx' line n
    obtain ⟨hready, hsource⟩ := ready_runSourced hx hs line n
    obtain ⟨hready', -⟩ := ready_runSourced hx' (h.source ▸ hs) line n
    rw [← hsource] at hs
    simp only [List.zipIdx_cons, Act.forEach_cons]
    rcases hr : (runSourced (line, n) x).result with f | u
    · rcases hr' : (runSourced (line, n) x').result with f' | u'
      · rw [Act.bind_of_error hr, Act.bind_of_error hr']
        generalize runSourced (line, n) x = o at hline hr ⊢
        generalize runSourced (line, n) x' = o' at hline hr' ⊢
        have hres := hline.result
        rw [hr, hr'] at hres
        refine ⟨?_, hline.events, hline.state⟩
        exact congrArg Except.error (Except.error.inj hres)
      · rw [hline.result_eq_ok.2 hr'] at hr
        cases hr
    · have hr' := hline.result_eq_ok.1 hr
      rw [Act.bind_of_ok hr, Act.bind_of_ok hr']
      have hrest := ih hline.state hready hready' hs (n + 1)
      generalize runSourced (line, n) x = o at hline hrest ⊢
      generalize runSourced (line, n) x' = o' at hline hrest ⊢
      exact ⟨hrest.result, hline.events.append hrest.events, hrest.state⟩

/-- **However a script ends, the executor is ready for the next line.**  The induction is on the
lines, each of which leaves the lexer between lines. -/
theorem ready_forEach (hx : Ready x) (hs : x.1.source.isSome = true) (ls : List String) (n : Nat) :
    Ready (Act.forEach (ls.zipIdx n) runSourced x).state := by
  induction ls generalizing x n with
  | nil => exact hx
  | cons line ls ih =>
    obtain ⟨hready, hsource⟩ := ready_runSourced hx hs line n
    rw [← hsource] at hs
    simp only [List.zipIdx_cons, Act.forEach_cons]
    rcases ho : (runSourced (line, n) x).result with f | u
    · rw [Act.bind_of_error ho]
      generalize runSourced (line, n) x = o at hready ⊢
      exact hready
    · rw [Act.bind_of_ok ho]
      have hrest := ih hready hs (n + 1)
      generalize runSourced (line, n) x = o at hrest ⊢
      exact hrest

end Session
end PlotScript
