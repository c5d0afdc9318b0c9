/-
# Warnings of a block that comes in parts

A block that waits is read again, from its word on, each time that lexemes come.  Reading it gives a
warning for each setting that is repeated with its value, so a setting that was repeated before the
block is complete is warned about each time: what several parses give is what one parse of the whole
block gives, and before that all warnings of its parts (`Executor.warnings_of_parts`).

| read | warnings |
| --- | --- |
| a part of a block | one for each setting of it that is repeated and has its value |
| the whole block | these, and one if there are no settings |

The warnings are those of the language specification, §13.
-/

import PlotScript.Proofs.OpenBlock

namespace PlotScript

open Grammar

/-- A record of a warning. -/
def Event.isWarning : Event → Bool
  | log .warning _ => true
  | _ => false

namespace Reader

variable {mode : Option Mode} {more : Bool} {word z : Lexeme} {l r rest : List Lexeme} {b : Block}

/-- A warning for each setting that has a value and was given one before. -/
def repeatedIn (seen : List Setting) : List Lexeme → List Complaint
  | x :: _ :: r =>
    match x.kind with
    | .setting s =>
      (if s ∈ seen then [.about (.settingRepeated s) x] else []) ++ repeatedIn (s :: seen) r
    | _ => []
  | _ => []

/-- The warnings for settings that are repeated in a block, or in a part of it that begins with its
word. -/
def repeated (l : List Lexeme) : List Complaint := repeatedIn [] l.tail

/-- The warning for a block without settings. -/
def emptied (word : Lexeme) (b : Block) (settings : List (Setting × Value)) : List Complaint :=
  if settings.isEmpty then [.about (.blockEmpty b) word] else []

/-- Settings that are read, or wait for more, are warned about where they are repeated. -/
theorem warnings_readSettings {interactive : Bool} {seen : List Setting} {k : Nat}
    (h : ∀ e, (readSettings b interactive more word seen k l).result = .error e → e = .waiting) :
    (readSettings b interactive more word seen k l).warnings = repeatedIn seen l := by
  fun_induction readSettings b interactive more word seen k l with
  | case1 | case2 | case3 => rfl
  | case4 | case5 => rfl
  | case6 seen k x y rest hx => simp [repeatedIn, hx]
  | case7 seen k x y rest hx s hs ha e he =>
    obtain rfl := h e rfl
    exact absurd he readValue_ne_waiting
  | case8 seen k x y rest hx s hs ha v hv warnings ih =>
    rw [repeatedIn]
    simp only [hs]
    refine congrArg _ (ih fun e he => h e ?_)
    simp only [BlockReading.cons, he, Except.map]
  | case9 => cases h _ rfl
  | case10 => cases h _ rfl

/-- The warnings of a part of a block that waits. -/
theorem warnings_of_waiting (h : (read mode more word rest).result = .error .waiting) :
    (read mode more word rest).warnings = repeated (word :: rest) := by
  unfold read at h ⊢
  split at h
  · rename_i b hw
    rcases hm : needBlockMode b mode word with e | m
    · simp only [hm, Reading.of, Except.error.injEq] at h
      subst h
      have hb : Stops 0 True (needBlockMode b mode word) := stops_needBlockMode
      rw [hm] at hb
      cases hb
    · simp only [hm, readBlock] at h ⊢
      rcases hr : (readSettings b (m == .interactive) more word [] 1 rest).result with e | p
      · simp only [hr, Except.error.injEq] at h ⊢
        subst h
        refine warnings_readSettings fun e he => ?_
        rw [hr] at he
        exact (Except.error.inj he).symm
      · simp only [hr] at h
        cases h
  · exact absurd h readSimple_ne_waiting

/-- The warnings of a block that is read. -/
theorem warnings_of_read {settings : List (Setting × Value)} {n : Nat}
    (hw : word.kind = .blockStart b)
    (h : (read mode more word rest).result = .ok (.setOptions b settings, n)) :
    (read mode more word rest).warnings = repeated (word :: rest) ++ emptied word b settings := by
  unfold read at h ⊢
  simp only [hw] at h ⊢
  rcases hm : needBlockMode b mode word with e | m
  · simp only [hm] at h
    cases h
  · simp only [hm, readBlock] at h ⊢
    rcases hr : (readSettings b (m == .interactive) more word [] 1 rest).result with e | ⟨ss, k⟩
    · simp only [hr] at h
      cases h
    · simp only [hr, Except.ok.injEq, Prod.mk.injEq, Action.setOptions.injEq] at h ⊢
      obtain ⟨⟨-, rfl⟩, -⟩ := h
      refine congrArg₂ _ (warnings_readSettings fun e he => ?_) rfl
      rw [hr] at he
      cases he

end Reader

namespace Executor

open Reader

variable {σ : Type} [Device σ] {e : Executor σ} {word : Lexeme} {l rest block : List Lexeme}
  {b : Block} {settings : List (Setting × Value)}

/-- What waits after each of several parses, but for those after which nothing more comes. -/
def unfinished (held : List Lexeme) : List (List Lexeme) → List (List Lexeme)
  | [] => []
  | c :: cs => if cs.flatten = [] then [] else (held ++ c) :: unfinished (held ++ c) cs

/-- What a valid block is made of ends no file. -/
theorem kind_ne_of_spells (h : Spells block (.setOptions b settings)) :
    ∀ x ∈ block, x.kind ≠ .endOfFile := by
  obtain ⟨w, r, z, rfl, hw, hr, hz⟩ := h.exists_blockStart
  intro x hx
  rcases List.mem_cons.1 hx with rfl | hx
  · rw [hw]
    rintro ⟨⟩
  · rcases List.mem_append.1 hx with hx | hx
    · rcases hr.kind_cases x hx with ⟨s, hk⟩ | hk | hk <;> rw [hk] <;> rintro ⟨⟩
    · rw [List.mem_singleton.1 hx, hz]
      rintro ⟨⟩

/-- **A part of a block is warned about, and waits.** -/
theorem Resting.run_grow_part (h : Resting e)
    (hb : Spells (l ++ rest) (.setOptions b settings)) (hr : rest ≠ [])
    (hm : (Action.setOptions b settings).PermittedIn e.mode) (hs : ShortValues (l ++ rest)) :
    (e.grow l).run = ⟨.ok [], (repeated l).map Event.warn, e.grow l⟩ := by
  cases l with
  | nil => exact run_of_nil (h.waiting_grow [])
  | cons w l =>
    have hread : (read e.mode true w l).result = .error .waiting := read_part hb hr hm hs
    rw [h.run_grow_of_waiting hread, warnings_of_waiting hread]

/-- Where nothing waits and nothing comes, nothing happens. -/
theorem events_parseEach_of_flatten {t : Executor σ} (hw : t.waiting = [])
    (he : t.stream.ended = false) {chunks : List (List Lexeme)} (hc : chunks.flatten = []) :
    (t.parseEach chunks).flatMap (·.events) = [] := by
  induction chunks with
  | nil => rfl
  | cons c cs ih =>
    obtain ⟨rfl, hcs⟩ := List.append_eq_nil_iff.1 (List.flatten_cons ▸ hc)
    have hparse : t.parse [] = ⟨.ok [], [], t⟩ := by
      rw [parse_of_forall he (l := []) (fun _ hx => absurd hx List.not_mem_nil)]
      show (t.grow []).run = _
      rw [grow_nil he, run_of_nil hw]
    rw [parseEach, hparse, List.flatMap_cons, ih hcs]
    rfl

/-- **A whole block is warned about, and carried out**, and nothing waits then. -/
theorem Resting.run_grow_block (h : Resting e)
    (hb : Spells (word :: rest) (.setOptions b settings))
    (hm : (Action.setOptions b settings).PermittedIn e.mode) (hs : ShortValues (word :: rest)) :
    (e.grow (word :: rest)).run.state.waiting = [] ∧
      (e.grow (word :: rest)).run.events =
        (repeated (word :: rest) ++ emptied word b settings).map Event.warn ++
          ((e.grow (word :: rest)).carryOut word (.setOptions b settings)
            (rest.length + 1)).events := by
  obtain ⟨w, r, z, hl, hw, hr, hz⟩ := hb.exists_blockStart
  obtain ⟨rfl, rfl⟩ := List.cons.inj hl
  have hbegins : Begins e.mode (word :: (r ++ [z])) (.setOptions b settings)
      ((r ++ [z]).length + 1) := ⟨_, [], (List.append_nil _).symm, rfl, hb, trivial, hm⟩
  have hread : (read e.mode true word (r ++ [z])).result =
      .ok (.setOptions b settings, (r ++ [z]).length + 1) :=
    read_of_begins hbegins (hs.take _)
  have hclosed : ClosedLast b (word :: (r ++ [z])) := by
    refine closedLast_of_dropLast fun x hx => ?_
    rw [← List.cons_append, List.dropLast_concat] at hx
    rcases List.mem_cons.1 hx with rfl | hx
    · rw [hw]
      rintro ⟨⟩
    · exact hr.kind_ne x hx
  obtain ⟨hwait, hevents, -⟩ := h.run_grow_of_ok hw hclosed hread
  rw [hevents, warnings_of_read hw hread]
  exact ⟨hwait, rfl⟩

/-- **What comes of the parts of a block**: their warnings, and then what comes of the block. -/
theorem Resting.events_parseEach (h : Resting e) (hb : Spells block (.setOptions b settings))
    (hm : (Action.setOptions b settings).PermittedIn e.mode) (hs : ShortValues block)
    {held : List Lexeme} {chunks : List (List Lexeme)} (hc : held ++ chunks.flatten = block)
    (hne : chunks.flatten ≠ []) :
    ((e.grow held).parseEach chunks).flatMap (·.events) =
      ((unfinished held chunks).flatMap repeated).map Event.warn ++ (e.grow block).run.events := by
  induction chunks generalizing held with
  | nil => exact absurd rfl hne
  | cons c cs ih =>
    have hparse : (e.grow held).parse c = (e.grow (held ++ c)).run := by
      rw [parse_of_forall rfl fun x hx => kind_ne_of_spells hb x ?_, ← grow_grow]
      · rfl
      · rw [← hc, List.flatten_cons]
        exact List.mem_append_right _ (List.mem_append_left _ hx)
    rw [List.flatten_cons, ← List.append_assoc] at hc
    rw [parseEach, List.flatMap_cons, hparse, unfinished]
    by_cases hcs : cs.flatten = []
    · -- The chunk completes the block.
      rw [hcs, List.append_nil] at hc
      obtain ⟨w, r, z, rfl, -⟩ := hb.exists_blockStart
      rw [if_pos hcs, hc, events_parseEach_of_flatten (h.run_grow_block hb hm hs).1
        (ended_run_grow e _) hcs, List.append_nil]
      rfl
    · rw [if_neg hcs, List.flatMap_cons, List.map_append, List.append_assoc,
        h.run_grow_part (hc ▸ hb) hcs hm (hc ▸ hs)]
      exact congrArg _ (ih hc hcs)

/-- The events of a block that is carried out, when the plotter does not warn of anything. -/
theorem isWarning_carryOut (hd : Device.Leaves σ (fun ev => ev.isWarning = false)) (word : Lexeme)
    (a : Action) (n : Nat) : ∀ ev ∈ (e.carryOut word a n).events, ev.isWarning = false := by
  have ho : ∀ ev ∈ (Bench.execute e.params (e.index + n - 1) ⟨word, a⟩
      (e.bench.note (.begun e.index a))).events, ev.isWarning = false :=
    Bench.events_execute ⟨fun _ => rfl, fun _ => rfl, fun _ => rfl, fun _ _ _ => rfl⟩ hd _ _ _ _
  intro ev hev
  unfold carryOut at hev
  simp only at hev
  split at hev
  · exact ho ev hev
  · rcases List.mem_append.1 hev with hev | hev
    · exact ho ev hev
    · -- A complaint is no warning.
      rw [events_recover] at hev
      exact List.mem_singleton.1 hev ▸ rfl
  · exact ho ev hev

/-- **How often a repeated setting is warned about.**  A lenient executor, whatever it was used for
before, has nothing pending, and its stream has not ended.  It is given a valid block in parts.

- The whole block at once gives one warning for each setting that is repeated, one more if it has no
  settings, and then the events of carrying it out, of which none is a warning, unless the plotter
  warns itself.
- The parts give the same, and before it, for each part after which the block waits, one warning for
  each setting that is repeated by then.
- So the parts give what the whole gives exactly if no setting is repeated before the last part. -/
theorem warnings_of_parts (p : Params) (device : σ) (site : Site) (uses : List Use)
    {parts : List (List Lexeme)}
    (hp : ((start false p device site).live uses).pending = false)
    (he : ((start false p device site).live uses).stream.ended = false)
    (hb : Spells (word :: rest) (.setOptions b settings))
    (hm : (Action.setOptions b settings).PermittedIn ((start false p device site).live uses).mode)
    (hs : ShortValues (word :: rest)) (hc : parts.flatten = word :: rest) :
    let e := (start false p device site).live uses
    let once := (repeated (word :: rest) ++ emptied word b settings).map Event.warn
    let again := ((unfinished [] parts).flatMap repeated).map Event.warn
    ∃ carried, (e.parse (word :: rest)).events = once ++ carried ∧
      (Device.Leaves σ (fun ev => ev.isWarning = false) → ∀ ev ∈ carried, ev.isWarning = false) ∧
      (e.parseEach parts).flatMap (·.events) = again ++ once ++ carried ∧
      ((e.parseEach parts).flatMap (·.events) = (e.parse (word :: rest)).events ↔
        ∀ l ∈ unfinished [] parts, repeated l = []) := by
  intro e once again
  have h : Resting e := .of_pending (strict_live _ uses) hp he
    ((inReach_start false p device site).live uses)
  have hk := kind_ne_of_spells hb
  have hparse : e.parse (word :: rest) = (e.grow (word :: rest)).run := parse_of_forall he hk
  obtain ⟨-, hwhole⟩ := h.run_grow_block hb hm hs
  have hparts : ((e.grow []).parseEach parts).flatMap (·.events) = _ :=
    h.events_parseEach hb hm hs hc (hc ▸ List.cons_ne_nil _ _)
  rw [grow_nil he] at hparts
  refine ⟨_, hparse ▸ hwhole, fun hd => isWarning_carryOut hd _ _ _, ?_, ?_⟩
  · rw [hparts, hwhole, ← List.append_assoc]
  · rw [hparts, hparse, List.append_left_eq_self, List.map_eq_nil_iff, List.flatMap_eq_nil_iff]

/-- A block in which a setting is repeated. -/
def repeatingBlock : List Lexeme :=
  [.alone (.blockStart .options) "OPTS", .alone (.setting .acceleration) "ACCEL",
    .alone .number "10", .alone (.setting .acceleration) "ACCEL", .alone .number "20",
    .alone (.blockEnd .options) "END_OPTS"]

/-- A lenient executor in plot mode. -/
def plotting : Executor Recorder :=
  (start false .standard Recorder.obliging .bare).live
    [.parse [.alone .mode "MODE", .alone (.modeName .plot) "P"]]

/-- The example block repeats its one setting, so that reading it warns. -/
theorem spells_repeatingBlock : Spells repeatingBlock
    (.setOptions .options [(.acceleration, .num (.int 10)), (.acceleration, .num (.int 20))]) := by
  refine .options rfl (.cons rfl (.number rfl rfl (n := 10) rfl ?_)
    (.cons rfl (.number rfl rfl (n := 20) rfl ?_) .nil)) rfl
  · rintro low high ⟨⟩
  · rintro low high ⟨⟩

/-- The value of the repeated setting comes with the closing word, and there is one warning. -/
theorem warnings_of_parts_repeatingBlock :
    let parts := [repeatingBlock.take 4, repeatingBlock.drop 4]
    (plotting.parseEach parts).flatMap (·.events) = (plotting.parse repeatingBlock).events ∧
      (repeated repeatingBlock).length = 1 := by
  intro parts
  have hm : plotting.mode = some .plot := by decide +kernel
  obtain ⟨-, -, -, -, h⟩ := warnings_of_parts .standard Recorder.obliging .bare
    [.parse [.alone .mode "MODE", .alone (.modeName .plot) "P"]]
    (by decide +kernel) (by decide +kernel) spells_repeatingBlock
    ⟨by show plotting.mode ≠ none; rw [hm]; rintro ⟨⟩, by simp [Setting.interactiveOnly]⟩
    (by decide) (rfl : parts.flatten = repeatingBlock)
  exact ⟨h.2 (by decide), by decide⟩

/-- The closing word comes alone, and there are two warnings of one repetition. -/
theorem warnings_of_parts_twice :
    let parts := [repeatingBlock.take 5, repeatingBlock.drop 5]
    let warning : Event :=
      .warn (.about (.settingRepeated .acceleration) (.alone (.setting .acceleration) "ACCEL"))
    (plotting.parse repeatingBlock).events.filter Event.isWarning = [warning] ∧
      ((plotting.parseEach parts).flatMap (·.events)).filter Event.isWarning =
        [warning, warning] := by
  decide +kernel

end Executor
end PlotScript
