/-
# A run on lexemes at other places

An executor does the same with lexemes at other places, step by step (`Executor.shifted_step`), if
it goes on alike after a complaint (`Executor.GoesOnAlike`).  A strict one does not go on.  A tidy
one goes on alike if of the lexemes that came last those stay on one line that are on one line, and
no others (`KeepsLines`): for all it reads but blocks is among these.  So both do the same in a
whole run (`Executor.shifted_run_strict`, `Executor.shifted_run`).  What they report tells of the
other places (`Event.Moved`).
-/

import PlotScript.Proofs.Places
import PlotScript.Proofs.Tidy

namespace PlotScript

/-- Lexemes are on one line if they are so at the other places, and only then. -/
def KeepsLines (f : Place → Place) (l : List Lexeme) : Prop :=
  ∀ x ∈ l, ∀ y ∈ l, (f x.place).sameLine (f y.place) = x.place.sameLine y.place

variable {f : Place → Place}

/-- What is observed of a run on lexemes at other places: what is said of a lexeme tells of its
other place. -/
inductive Event.Moved (f : Place → Place) : Event → Event → Prop
  | same (ev : Event) : Moved f ev ev
  | report (g : Grade) (c : Complaint) : Moved f (report g c) (report g (c.moved f))
  | warn (c : Complaint) : Moved f (warn c) (warn (c.moved f))
  /-- The record of a command that is carried out. -/
  | record (c : Command) : Moved f (log .debug (Bench.record c))
      (log .debug (Bench.record ⟨c.anchor.moved f, c.action⟩))
  /-- The record of an unknown word. -/
  | note (c : Complaint) : Moved f (log .debug (c.describe .command))
      (log .debug ((c.moved f).describe .command))

/-- What is observed is the same if no lexeme has another place. -/
theorem Event.moved_refl (es : List Event) : List.Forall₂ (Moved f) es es :=
  List.forall₂_same.2 fun ev _ => .same ev

/-- The same stream, with its lexemes at other places. -/
def Stream.moved (f : Place → Place) (s : Stream) : Stream :=
  { s with entries := s.entries.map (.moved f) }

/-- A stream has as many lexemes wherever they stand. -/
@[simp] theorem Stream.size_moved (s : Stream) : (s.moved f).size = s.size := List.length_map _

/-- The lexemes from a number on are the same ones at their other places. -/
@[simp] theorem Stream.drop_moved (s : Stream) (n : Nat) :
    (s.moved f).drop n = (s.drop n).map (.moved f) := (List.map_drop ..).symm

namespace Bench

variable {σ : Type}

/-- A file that was fetched is removed in the same way: no lexeme takes part. -/
theorem removeDownload_moved (b : Bench σ) (path : String) : (b.moved f).removeDownload path =
    ((b.removeDownload path).1, (b.removeDownload path).2.moved f) := by
  have hs : (b.moved f).site = b.site := rfl
  simp only [removeDownload, hs]
  rcases b.site.files.remove? path with _ | files <;> rfl

/-- All files that were fetched are removed in the same way. -/
theorem removeAll_moved (b : Bench σ) (paths : List String) : (b.moved f).removeAll paths =
    ((b.removeAll paths).1, (b.removeAll paths).2.moved f) := by
  induction paths generalizing b with
  | nil => rfl
  | cons path paths ih => simp only [removeAll, removeDownload_moved, ih]

/-- A bench is closed in the same way, wherever the lexemes stand that its notes are about. -/
theorem close_moved (p : Params) (b : Bench σ) :
    (b.moved f).close p = ((b.close p).1, (b.close p).2.moved f) := by
  unfold close
  split
  · rfl
  · have hd : (b.moved f).downloads = b.downloads := rfl
    simp only [hd, removeAll_moved]
    rfl

end Bench

namespace Executor

variable {σ : Type} {e t : Executor σ} {word : Lexeme} {rest : List Lexeme} {k : Nat}

/-- The same executor, with its lexemes at other places. -/
def moved (f : Place → Place) (e : Executor σ) : Executor σ :=
  { e with stream := e.stream.moved f, bench := e.bench.moved f }

/-- The same lexemes wait, at their other places. -/
@[simp] theorem waiting_moved (e : Executor σ) : (e.moved f).waiting = e.waiting.map (.moved f) :=
  e.stream.drop_moved e.index

/-- A note about a lexeme is the note about the lexeme at its other place. -/
@[simp] theorem note_moved (e : Executor σ) (d : Deed) :
    (e.moved f).note (d.moved f) = (e.note d).moved f := by
  simp only [note, moved, Bench.note_moved]

/-- Something is pending wherever the lexemes stand. -/
@[simp] theorem pending_moved (e : Executor σ) : (e.moved f).pending = e.pending := by
  show (e.skipping.isSome || decide (e.index < (e.stream.moved f).size)) = _
  rw [Stream.size_moved]
  rfl

/-- The same lexemes are discarded. -/
@[simp] theorem discard_moved (e : Executor σ) : (e.moved f).discard = e.discard.moved f := by
  show Executor.mk _ _ _ (e.stream.moved f).size _ _ = _
  rw [Stream.size_moved]
  rfl

/-- An executor is closed in the same way, wherever its lexemes stand. -/
theorem close_moved (e : Executor σ) : (e.moved f).close = (e.close.1, e.close.2.moved f) := by
  have hb : (e.moved f).close = (((e.bench.moved f).close e.params).1,
      { e.moved f with bench := ((e.bench.moved f).close e.params).2 }) := rfl
  rw [hb, Bench.close_moved]
  rfl

/-- A block is passed over up to the same closing word. -/
@[simp]
theorem skip_moved (e : Executor σ) (b : Block) : (e.moved f).skip b = (e.skip b).moved f := by
  have hfind : (e.moved f).waiting.findIdx? (fun x => decide (x.kind = .blockEnd b)) =
      e.waiting.findIdx? fun x => decide (x.kind = .blockEnd b) := by
    rw [waiting_moved, List.findIdx?_map]
    rfl
  simp only [skip, hfind]
  split
  · rfl
  · simp only [moved, Stream.size_moved]
    rfl

/-- The next line begins with the same lexeme, if lines are kept from some lexeme on in front of
it. -/
theorem nextLine_moved {s : Stream} {n : Nat} (h : KeepsLines f (s.drop k)) (hk : k ≤ n) :
    nextLine (s.moved f) n = nextLine s n := by
  have hsub : s.drop n ⊆ s.drop k := List.drop_subset_drop_left s.entries hk
  unfold nextLine
  rw [Stream.drop_moved]
  rcases hd : s.drop n with _ | ⟨x, r⟩
  · rfl
  · rw [hd] at hsub
    have hx : x ∈ s.drop k := hsub List.mem_cons_self
    have htake (m : List Lexeme) (hm : m ⊆ s.drop k) :
        ((m.map (.moved f)).takeWhile fun y : Lexeme => y.place.sameLine (f x.place)) =
          (m.takeWhile fun y => y.place.sameLine x.place).map (.moved f) := by
      induction m with
      | nil => rfl
      | cons y m ih =>
        have hy : (y.moved f).place.sameLine (f x.place) = y.place.sameLine x.place :=
          h y (hm List.mem_cons_self) x hx
        rw [List.map_cons, List.takeWhile_cons, List.takeWhile_cons, hy,
          ih fun z hz => hm (List.mem_cons_of_mem y hz)]
        split <;> rfl
    show n + 1 + ((r.map (.moved f)).takeWhile fun y : Lexeme =>
      y.place.sameLine (f x.place)).length = _
    rw [htake r fun y hy => hsub (List.mem_cons_of_mem x hy), List.length_map]

/-- The same end of a step, with complaints about lexemes at other places. -/
def Step.moved (f : Place → Place) : Step → Step
  | .reported l => .reported (l.map (.moved f))
  | .waits => .waits

/-- A turn on lexemes at other places. -/
structure Shifted {α : Type} (f : Place → Place) (image : α → α) (o o' : Turn σ α) : Prop where
  result : o'.result = (o.result.map image).mapError (.moved f)
  events : List.Forall₂ (Event.Moved f) o.events o'.events
  state : o'.state = o.state.moved f

/-- What the other turn is, but for its events. -/
theorem Shifted.eq {α : Type} {image : α → α} {o o' : Turn σ α} (h : Shifted f image o o') :
    o' = ⟨(o.result.map image).mapError (.moved f), o'.events, o.state.moved f⟩ := by
  rw [← h.result, ← h.state]

/-- Turns that go on alike do so with events before them that go on alike. -/
theorem Shifted.after {α : Type} {image : α → α} {o o' : Turn σ α} (h : Shifted f image o o')
    {es es' : List Event} (hes : List.Forall₂ (Event.Moved f) es es') :
    Shifted f image (after es o) (after es' o') :=
  ⟨h.result, List.rel_append hes h.events, h.state⟩

/-- After a complaint about the command at a word, executors with that stream go on alike, wherever
the lexemes stand. -/
def GoesOnAlike (f : Place → Place) (e : Executor σ) (word : Lexeme) : Prop :=
  ∀ (t : Executor σ) (c : Complaint), t.stream = e.stream → t.strict = e.strict →
    Shifted f (.moved f) (t.recover e.index word c)
      ((t.moved f).recover e.index (word.moved f) (c.moved f))

/-- A complaint ends a strict run, wherever the lexemes stand. -/
theorem goesOnAlike_of_strict (h : e.strict = true) (word : Lexeme) : GoesOnAlike f e word := by
  intro t c _ hs
  have hn : (t.moved f).note (.reported e.index (c.moved f)) =
      (t.note (.reported e.index c)).moved f := note_moved t (.reported e.index c)
  have hs' : (t.moved f).strict = true := hs.trans h
  rw [recover_of_strict (hs.trans h), recover_of_strict hs', hn]
  exact ⟨rfl, .cons (.report .command c) .nil, rfl⟩

/-- Whether the line to go on after is there does not depend on where lexemes stand. -/
theorem astray_moved (t : Executor σ) (start : Nat) (word : Lexeme) (c : Complaint) :
    (t.moved f).astray start (word.moved f) (c.moved f) = t.astray start word c := by
  have hsize : (t.moved f).stream.size = t.stream.size := Stream.size_moved t.stream
  have hb : blamed start (c.moved f) = blamed start c := rfl
  simp only [astray, Lexeme.kind_moved, hsize, hb]

/-- Where reading goes on after a complaint about the command at hand. -/
theorem goesOnAlike_of_tidy (hf : KeepsLines f (e.stream.drop k)) (h : Tidy k e)
    (hk : e.skipping = none)
    (hw : e.waiting = word :: rest) : GoesOnAlike f e word := by
  intro t c ht hs
  have hn : (t.moved f).note (.reported e.index (c.moved f)) =
      (t.note (.reported e.index c)).moved f := note_moved t (.reported e.index c)
  have hb : blamed e.index (c.moved f) = blamed e.index c := rfl
  have hr : ((t.note (.reported e.index c)).moved f).resume e.index (word.moved f) (c.moved f) =
      ((t.note (.reported e.index c)).resume e.index word c).moved f := by
    simp only [resume, Lexeme.kind_moved, hb]
    split
    · rfl
    · rename_i hnot
      have hle := (h.le_index hk hw hnot).trans (le_blamed e.index c)
      have hnext : nextLine (t.stream.moved f) (blamed e.index c) =
          nextLine t.stream (blamed e.index c) := by
        rw [ht]
        exact nextLine_moved hf hle
      show Executor.mk _ _ _ (nextLine (t.stream.moved f) _) _ _ = _
      rw [hnext]
      rfl
  have hs := hs.trans h.strict
  have hs' : (t.moved f).strict = false := hs
  rcases ha : t.astray e.index word c with _ | _
  · rw [recover_of_lenient hs ha, recover_of_lenient hs' ((astray_moved ..).trans ha), hn, hr]
    exact ⟨rfl, .cons (.report .command c) .nil, rfl⟩
  · rw [recover_of_astray hs ha, recover_of_astray hs' ((astray_moved ..).trans ha), hn]
    exact ⟨rfl, .cons (.report .command c) .nil, rfl⟩

/-- A fault of the plotter is blamed on the moved word, with the same number. -/
theorem blame_moved (anchor : Lexeme) (last : Nat) (fault : Fault) :
    Bench.blame (anchor.moved f) last (fault.moved f) =
      (Bench.blame anchor last fault).moved f := by
  rcases fault with ⟨g, c⟩ | _ | _
  · cases g <;> rfl
  · rfl
  · rfl

section Device

variable [Device σ]

/-- What carrying out a command leaves, wherever its word stands. -/
theorem execute_moved (p : Params) (last : Nat) (anchor : Lexeme) (a : Action) (b : Bench σ) :
    let o := Bench.execute p last ⟨anchor, a⟩ b
    let o' := Bench.execute p last ⟨anchor.moved f, a⟩ (b.moved f)
    o'.result = o.result.mapError (.moved f) ∧
      List.Forall₂ (Event.Moved f) o.events o'.events ∧ o'.state = o.state.moved f := by
  intro o o'
  have h := Bench.follows_enact f p anchor a b
  have ho : o = ⟨(Bench.enact p anchor a b).result.mapError (Bench.blame anchor last),
      .log .debug (Bench.record ⟨anchor, a⟩) :: (Bench.enact p anchor a b).events,
      (Bench.enact p anchor a b).state⟩ := rfl
  have ho' : o' = ⟨(Bench.enact p (anchor.moved f) a (b.moved f)).result.mapError
      (Bench.blame (anchor.moved f) last), .log .debug (Bench.record ⟨anchor.moved f, a⟩) ::
        (Bench.enact p (anchor.moved f) a (b.moved f)).events,
      (Bench.enact p (anchor.moved f) a (b.moved f)).state⟩ := rfl
  rw [ho, ho', h]
  refine ⟨?_, .cons (.record ⟨anchor, a⟩) (Event.moved_refl _), rfl⟩
  rcases (Bench.enact p anchor a b).result with fault | u
  · exact congrArg Except.error (blame_moved anchor last fault)
  · rfl

/-- A command is carried out in the same way, and complained about in the same way, if the executor
then goes on alike. -/
theorem shifted_carryOut (h : GoesOnAlike f e word) (a : Action) (n : Nat) :
    Shifted f (.moved f) (e.carryOut word a n) ((e.moved f).carryOut (word.moved f) a n) := by
  obtain ⟨hr, hes, hs⟩ := execute_moved (f := f) e.params (e.index + n - 1) word a
    (e.bench.note (.begun e.index a))
  have hb : (e.bench.note (.begun e.index a)).moved f =
      (e.moved f).bench.note (.begun e.index a) := (e.bench.note_moved f (.begun e.index a)).symm
  rw [hb] at hr hes hs
  have ho' : Bench.execute (e.moved f).params ((e.moved f).index + n - 1) ⟨word.moved f, a⟩
      ((e.moved f).bench.note (.begun (e.moved f).index a)) =
    Bench.execute e.params (e.index + n - 1) ⟨word.moved f, a⟩
      ((e.moved f).bench.note (.begun e.index a)) := rfl
  unfold carryOut
  simp only [ho']
  generalize Bench.execute e.params (e.index + n - 1) ⟨word.moved f, a⟩
    ((e.moved f).bench.note (.begun e.index a)) = o' at hr hes hs ⊢
  generalize Bench.execute e.params (e.index + n - 1) ⟨word, a⟩
    (e.bench.note (.begun e.index a)) = o at hr hes hs ⊢
  obtain ⟨r, es, b⟩ := o
  obtain ⟨r', es', b'⟩ := o'
  obtain rfl : r' = r.mapError (.moved f) := hr
  obtain rfl : b' = b.moved f := hs
  rcases r with ⟨⟨⟩, c⟩ | text | failure | u
  case error.complaint.command =>
    exact (h (e.passed n b) c rfl rfl).after hes
  all_goals exact ⟨rfl, hes, rfl⟩

/-- **A step goes on lexemes at other places as it does.** -/
theorem shifted_step (h : e.skipping = none → GoesOnAlike f e word) :
    Shifted f (.moved f) (e.step word rest)
      ((e.moved f).step (word.moved f) (rest.map (.moved f))) := by
  have hkm : (e.moved f).skipping = e.skipping := rfl
  unfold step
  rw [hkm]
  split
  · refine ⟨rfl, .nil, ?_⟩
    exact skip_moved e _
  · rename_i hk
    have hread : Reader.read (e.moved f).mode (e.moved f).mayGrow (word.moved f)
        (rest.map (.moved f)) = (Reader.read e.mode e.mayGrow word rest).moved f :=
      Reader.read_moved f e.mode word rest e.mayGrow
    simp only [command, hread]
    generalize Reader.read e.mode e.mayGrow word rest = r
    obtain ⟨ws, res⟩ := r
    have hwarn : List.Forall₂ (Event.Moved f) (ws.map Event.warn)
        ((ws.map (.moved f)).map Event.warn) := by
      rw [List.map_map, List.forall₂_map_left_iff, List.forall₂_map_right_iff]
      exact List.forall₂_same.2 fun c _ => .warn c
    refine Shifted.after ?_ hwarn
    rcases res with (⟨cause, x, offset⟩ | failure | _) | ⟨a, n⟩
    · exact h hk e ⟨cause, some x, some (e.index + offset)⟩ rfl rfl
    · exact ⟨rfl, .nil, rfl⟩
    · exact ⟨rfl, .nil, rfl⟩
    · exact shifted_carryOut (h hk) a n

/-- A run goes on lexemes at other places as it does, if every executor goes on alike that has a
property which is kept. -/
theorem shifted_run_of {P : Executor σ → Prop}
    (hgo : ∀ {e word rest}, P e → e.waiting = word :: rest → e.skipping = none →
      GoesOnAlike f e word)
    (hstep : ∀ {e word rest l}, P e → e.waiting = word :: rest →
      (e.step word rest).result = .ok (.reported l) → P (e.step word rest).state) (h : P e) :
    Shifted f (List.map (.moved f)) e.run (e.moved f).run := by
  fun_induction run e with
  | case1 e hw =>
    rw [run_of_nil (by rw [waiting_moved, hw]; rfl)]
    exact ⟨rfl, .nil, rfl⟩
  | case2 e word rest hw fault es t hr =>
    have hs : Shifted f (.moved f) (e.step word rest) _ := shifted_step (hgo h hw)
    rw [hr] at hs
    rw [run_of_cons (by rw [waiting_moved, hw]; rfl), hs.eq]
    exact ⟨rfl, hs.events, rfl⟩
  | case3 e word rest hw es t hr =>
    have hs : Shifted f (.moved f) (e.step word rest) _ := shifted_step (hgo h hw)
    rw [hr] at hs
    rw [run_of_cons (by rw [waiting_moved, hw]; rfl), hs.eq]
    exact ⟨rfl, hs.events, rfl⟩
  | case4 e word rest hw l es t hr _ o ih =>
    have hs : Shifted f (.moved f) (e.step word rest) _ := shifted_step (hgo h hw)
    have ht := hstep h hw (by rw [hr])
    rw [hr] at hs ht
    obtain ⟨hres, hes, hst⟩ := ih ht
    rw [run_of_cons (by rw [waiting_moved, hw]; rfl), hs.eq]
    refine ⟨?_, List.rel_append hs.events hes, hst⟩
    show (t.moved f).run.result.map (l.map (.moved f) ++ ·) = _
    rw [hres]
    rcases o.result with fault | m
    · rfl
    · exact congrArg Except.ok List.map_append.symm

/-- **A tidy run goes on lexemes at other places as it does**, if the lines of those that came last
are kept. -/
theorem shifted_run (hf : KeepsLines f (e.stream.drop k)) (h : Tidy k e) :
    Shifted f (List.map (.moved f)) e.run (e.moved f).run := by
  refine shifted_run_of (P := fun e => KeepsLines f (e.stream.drop k) ∧ Tidy k e)
    (fun h hw hk => goesOnAlike_of_tidy h.1 h.2 hk hw) (fun {e word rest _} h hw _ => ?_) ⟨hf, h⟩
  exact ⟨(frame_step e word rest).stream ▸ h.1, tidy_step h.2 hw⟩

/-- **A strict run goes on lexemes at other places as it does**, wherever these are. -/
theorem shifted_run_strict (h : e.strict = true) :
    Shifted f (List.map (.moved f)) e.run (e.moved f).run :=
  shifted_run_of (fun h _ _ => goesOnAlike_of_strict h _)
    (fun {e word rest _} h _ _ => (frame_step e word rest).strict.trans h) h

end Device
end Executor
end PlotScript
