/-
# A block may come in pieces

A lenient executor with nothing pending is given an option block.  It makes no difference whether
the lexemes of the block come at once or one chunk after another, wherever they are cut
(`chunks_eq_whole`): the calls are the same, the complaints that the parses give are the same when
they are put together, and the executor is the same in the end.

With every chunk the block is read again from its first word.  As long as it may go on, nothing
happens; a fault that is found stays the fault whatever lexemes follow (`Reader.read_append`), and
then all up to the closing word is left unread; and a block that can be carried out has come to its
closing word, which is its last.

These are the incremental streams of the language specification, §14.
-/

import PlotScript.Proofs.Extent

namespace PlotScript

/-- No lexeme comes after the first closing word of a block. -/
def ClosedLast (b : Block) (l : List Lexeme) : Prop :=
  ∀ r z t, l = r ++ z :: t → z.kind = .blockEnd b → t = []

/-- No lexeme comes after the first closing word of a block behind any of its lexemes, either. -/
theorem ClosedLast.drop {b : Block} {l : List Lexeme} (h : ClosedLast b l) (n : Nat) :
    ClosedLast b (l.drop n) := by
  intro r z t hl hz
  refine h (l.take n ++ r) z t ?_ hz
  rw [List.append_assoc, ← hl, List.take_append_drop]

/-- No lexeme comes after the first closing word in the first part of a block. -/
theorem ClosedLast.left {b : Block} {l m : List Lexeme} (h : ClosedLast b (l ++ m)) :
    ClosedLast b l := by
  intro r z t hl hz
  have ht := h r z (t ++ m) (by rw [hl, List.append_assoc, List.cons_append]) hz
  exact (List.append_eq_nil_iff.1 ht).1

/-- If no lexeme but the last one closes a block, then nothing comes after the word that does. -/
theorem closedLast_of_dropLast {b : Block} {l : List Lexeme}
    (h : ∀ x ∈ l.dropLast, x.kind ≠ .blockEnd b) : ClosedLast b l := by
  rintro r z t rfl hz
  by_contra ht
  refine h z ?_ hz
  obtain ⟨y, t, rfl⟩ := List.exists_cons_of_ne_nil ht
  rw [List.dropLast_append_cons, List.dropLast_cons_cons]
  exact List.mem_append_right _ List.mem_cons_self

/-- Nothing comes after lexemes that have a closing word. -/
theorem ClosedLast.eq_nil {b : Block} {l m : List Lexeme} (h : ClosedLast b (l ++ m)) {z : Lexeme}
    (hz : z ∈ l) (hk : z.kind = .blockEnd b) : m = [] := by
  obtain ⟨r, t, rfl⟩ := List.append_of_mem hz
  have ht := h r z (t ++ m) (by rw [List.append_assoc, List.cons_append]) hk
  exact (List.append_eq_nil_iff.1 ht).2

namespace Event

/-- A record in the log. -/
def isRecord : Event → Bool
  | log _ _ => true
  | out _ | call _ | machine _ | get _ _ _ => false

/-- The events that are no records in the log. -/
def unlogged (es : List Event) : List Event := es.filter fun ev => !ev.isRecord

/-- Apart from the log, the events are those among the first of them, and those among the others
after them. -/
@[simp]
theorem unlogged_append (es fs : List Event) : unlogged (es ++ fs) = unlogged es ++ unlogged fs :=
  List.filter_append ..

/-- Records in the log are no other events. -/
theorem unlogged_eq_nil {es : List Event} (h : ∀ ev ∈ es, ev.isRecord = true) :
    unlogged es = [] := by
  rw [unlogged, List.filter_eq_nil_iff]
  intro ev hev
  rw [h ev hev]
  exact Bool.false_ne_true

/-- Warnings are found in the log only. -/
@[simp] theorem unlogged_warnings (l : List Complaint) : unlogged (l.map warn) = [] := by
  refine unlogged_eq_nil fun ev h => ?_
  obtain ⟨c, -, rfl⟩ := List.mem_map.1 h
  rfl

end Event

namespace Reader

variable {mode : Option Mode} {word : Lexeme} {b : Block} {cause : Cause} {x : Lexeme}
  {offset : Nat}

section Settings

variable {interactive more : Bool} {seen : List Setting} {k : Nat} {l : List Lexeme} {s : Setting}

/-- A fault in a block stays when lexemes follow.  The cases are those of reading a block, and one
that waits or is complete has no fault. -/
theorem readSettings_append
    (h : (readSettings b interactive true word seen k l).result = .error (.wrong cause x offset))
    (m : List Lexeme) : (readSettings b interactive true word seen k (l ++ m)).result =
      .error (.wrong cause x offset) := by
  fun_induction readSettings b interactive true word seen k l with
  | case1 | case2 | case3 | case6 => cases h
  | case4 seen k y hy s hs ha | case9 seen k y z rest hy s hs ha =>
    rw [List.cons_append, readSettings_of_forbidden hs ha]
    exact h
  | case5 seen k y hy hs | case10 seen k y z rest hy hs =>
    rw [List.cons_append, readSettings_of_other hy hs]
    exact h
  | case7 seen k y z rest hy s hs ha e he =>
    rw [List.cons_append, List.cons_append, readSettings_of_wrongValue hs ha he]
    exact h
  | case8 seen k y z rest hy s hs ha v hv warnings ih =>
    rw [List.cons_append, List.cons_append, readSettings_of_value hs ha hv]
    exact result_cons_eq_wrong.2 (ih (result_cons_eq_wrong.1 h))

/-- What is read of a block while it may go on is what is read when it can not, unless it waits.  It
waits where the lexemes end before the block, or between an option and its value. -/
theorem readSettings_true : (readSettings b interactive true word seen k l).result =
      .error .waiting ∨ (readSettings b interactive true word seen k l).result =
        (readSettings b interactive false word seen k l).result := by
  fun_induction readSettings b interactive true word seen k l with
  | case1 | case3 => exact .inl rfl
  | case2 seen k y hy | case6 seen k y z rest hy =>
    exact .inr (by rw [readSettings_of_blockEnd hy])
  | case4 seen k y hy s hs ha | case9 seen k y z rest hy s hs ha =>
    exact .inr (by rw [readSettings_of_forbidden hs ha])
  | case5 seen k y hy hs | case10 seen k y z rest hy hs =>
    exact .inr (by rw [readSettings_of_other hy hs])
  | case7 seen k y z rest hy s hs ha e he =>
    exact .inr (by rw [readSettings_of_wrongValue hs ha he])
  | case8 seen k y z rest hy s hs ha v hv warnings ih =>
    rw [readSettings_of_value hs ha hv]
    simp only [BlockReading.cons]
    rcases ih with h | h
    · rw [h]
      exact .inl rfl
    · rw [h]
      exact .inr rfl

end Settings

/-- **A fault that is found in a block stays when lexemes follow.**  Only its settings are read
further, so it comes down to them. -/
theorem read_append {ms : List Lexeme} (hw : word.kind = .blockStart b)
    (h : (read mode true word ms).result = .error (.wrong cause x offset)) (m : List Lexeme) :
    (read mode true word (ms ++ m)).result = .error (.wrong cause x offset) := by
  unfold read at h ⊢
  rw [hw] at h ⊢
  simp only at h ⊢
  split
  · rename_i e he
    rw [he] at h
    exact h
  · rename_i k hk
    rw [hk] at h
    unfold readBlock at h ⊢
    simp only at h ⊢
    rcases hr : (readSettings b (k == .interactive) true word [] 1 ms).result with e | p
    · rw [hr] at h
      simp only [Except.error.injEq] at h
      subst h
      rw [readSettings_append hr m]
    · rw [hr] at h
      cases h

/-- A block that is read ends with a closing word. -/
theorem exists_blockEnd_of_read {more : Bool} {ms : List Lexeme} {a : Action} {n : Nat}
    (hw : word.kind = .blockStart b) (h : (read mode more word ms).result = .ok (a, n)) :
    ∃ r z tail settings, word :: ms = r ++ z :: tail ∧ n = r.length + 1 ∧
      z.kind = .blockEnd b ∧ a = .setOptions b settings := by
  obtain ⟨ws, tail, hl, rfl, hws, -, -⟩ := begins_of_read h
  obtain ⟨w, ws, rfl⟩ := List.exists_cons_of_length_pos hws.length_pos
  obtain ⟨rfl, -⟩ := List.cons.inj hl
  obtain ⟨r, l, z, rfl, ha, -, hz⟩ := setOptions_of_spells hw hws
  refine ⟨word :: r, z, tail, l, ?_, by simp, hz, ha⟩
  rw [hl]
  simp

/-- What is read at a word while more may come is what is read when no more can, unless it waits.
No other command waits in the middle of a block, so only its settings matter. -/
theorem read_true {ms : List Lexeme} : (read mode true word ms).result = .error .waiting ∨
    (read mode true word ms).result = (read mode false word ms).result := by
  unfold read
  split
  · rename_i b hw
    split
    · exact .inr rfl
    · rename_i m hm
      unfold readBlock
      simp only
      rcases @readSettings_true word b (m == .interactive) [] 1 ms with h | h
      · rw [h]
        exact .inl rfl
      · rw [h]
        right
        split <;> rfl
  · exact .inr rfl

/-- **A command whose numbers are in order does not fail to be read**: it is read, or it waits, or
a lexeme is blamed. -/
theorem read_ne_failed {ms : List Lexeme} (hs : ShortValues ms) (hn : Numbers ms) (f : Failure) :
    (read mode true word ms).result ≠ .error (.failed f) := by
  intro h
  rcases @read_true mode word ms with hw | hf
  · rw [hw] at h
    cases h
  · have hstop : Stops ms.length (Numbers ms) (read mode false word ms).result := stops_read hs
    rw [← hf, h] at hstop
    cases hstop with
    | failed _ hnot => exact hnot hn

end Reader

section Polite

variable {σ : Type} [Device σ]

/-- A plotter that refuses what it is asked only with complaints of its own. -/
def Polite (d : σ) : Prop := ∀ cs c r, (Device.perform c (Device.afterAll d cs)).result = .error r →
  ∃ cause i, r = .complaint .device cause i

/-- A plotter that does whatever it is asked refuses nothing, so it is polite. -/
theorem Willing.polite {d : σ} (h : Willing d) : Polite d := by
  intro cs c r hr
  obtain ⟨a, ha⟩ := h.answers cs c
  rw [ha] at hr
  cases hr

/-- A polite plotter stays polite. -/
theorem Polite.of_leads {p q : Past σ} (h : Polite p.device) (hl : Past.Leads p q) :
    Polite q.device :=
  Device.Refuses.of_leads h hl

namespace Bench

/-- An act that with a polite plotter ends with no other fault than a complaint of the plotter. -/
def Civil {α : Type} (x : Act Fault (Bench σ) α) : Prop := ∀ b, Polite b.device →
  (∀ f, (x b).result = .error f → ∃ c, f = .complaint .device c) ∧ Polite (x b).state.device

/-- A polite plotter that is asked to do something does so, or ends the act with a complaint of its
own. -/
theorem civil_ask (c : Call) : Civil (ask c : Act Fault (Bench σ) c.Answer) := by
  refine confined_ask (R := fun r => ∃ cause i, r = .complaint .device cause i) ?_ c
  rintro r ⟨cause, i, rfl⟩
  exact ⟨_, rfl⟩

/-- A block is carried out by calls alone, so with a polite plotter it ends with no other fault than
a complaint. -/
theorem civil_setOptions (p : Params) (anchor : Lexeme) (k : Block)
    (settings : List (Setting × Value)) :
    Civil (enact p anchor (.setOptions k settings) : Act Fault (Bench σ) Unit) := by
  have hall : Act.Confined (fun b : Bench σ => Polite b.device)
      (fun f => ∃ c, f = .complaint .device c)
      (Act.forEach settings fun x => ask (.set x.1 x.2)) :=
    .forEach fun x => civil_ask (.set x.1 x.2)
  exact hall.bind fun _ => civil_ask .commitOptions

end Bench
end Polite

namespace Executor

variable {σ : Type}

/-- An executor with more lexemes in its stream. -/
def grow (e : Executor σ) (l : List Lexeme) : Executor σ :=
  { e with stream := ⟨e.stream.entries ++ l, false⟩ }

/-- Lexemes that come in two parts come as one. -/
@[simp]
theorem grow_grow (e : Executor σ) (l m : List Lexeme) : (e.grow l).grow m = e.grow (l ++ m) := by
  simp only [grow, List.append_assoc]

/-- An executor to whose open stream nothing comes is as it was. -/
@[simp] theorem grow_nil {e : Executor σ} (he : e.stream.ended = false) : e.grow [] = e := by
  obtain ⟨strict, params, ⟨entries, ended⟩, index, skipping, bench⟩ := e
  obtain rfl : ended = false := he
  simp only [grow, List.append_nil]

/-- An executor that leaves all unread that waits, up to the closing word of a block. -/
def skipAll (e : Executor σ) (b : Block) : Executor σ :=
  { e with
    index := e.stream.size
    skipping := if e.waiting.any fun x => x.kind = .blockEnd b then none else some b }

variable {e : Executor σ} {b : Block} {word : Lexeme} {ms : List Lexeme}

/-- If a closing word can only come last, all is left unread.  The cases are those of a skip: a
closing word is the last lexeme, or there is none. -/
theorem skip_eq_skipAll (he : e.stream.ended = false)
    (hl : ClosedLast b e.waiting) : e.skip b = e.skipAll b := by
  have hlen : e.waiting.length = e.stream.size - e.index := List.length_drop ..
  have ht := skipped e b
  unfold skipAll
  generalize e.skip b = t at ht ⊢
  cases ht with
  | @closed front back z hw hz =>
    obtain rfl := hl front z back hw hz
    have hany : (e.waiting.any fun x => decide (x.kind = .blockEnd b)) = true :=
      List.any_eq_true.2 ⟨z, hw ▸ List.mem_append_right _ List.mem_cons_self, decide_eq_true hz⟩
    rw [hw, List.length_append, List.length_singleton] at hlen
    rw [hany, if_pos rfl]
    congr 1
    omega
  | unclosed hall =>
    have hany : (e.waiting.any fun x => decide (x.kind = .blockEnd b)) = false := by
      rw [List.any_eq_false]
      exact fun x hx => by simpa using hall x hx
    rw [hany, he]

/-- The complaints that a turn gives.  A turn that ends with a fault gives none. -/
def given (o : Turn σ (List Complaint)) : List Complaint :=
  match o.result with
  | .ok l => l
  | .error _ => []

/-- Two turns, one after the other, come to what a third comes to at once. -/
structure Joins (o o' u : Turn σ (List Complaint)) : Prop where
  state : o'.state = u.state
  given : given o ++ given o' = given u
  unlogged : Event.unlogged o.events ++ Event.unlogged o'.events = Event.unlogged u.events
  /-- If the turn at once ends with no fault, the last turn does not, either. -/
  ok : (∃ l, u.result = .ok l) → ∃ l, o'.result = .ok l

/-- An executor with nothing pending, to which lexemes may come. -/
structure Resting (e : Executor σ) : Prop where
  strict : e.strict = false
  ended : e.stream.ended = false
  skipping : e.skipping = none
  index : e.index = e.stream.size

/-- A lenient executor with nothing pending, whose stream has not ended, is at rest. -/
theorem Resting.of_pending (hs : e.strict = false) (hp : e.pending = false)
    (he : e.stream.ended = false) (hr : e.InReach) : Resting e := by
  obtain ⟨hk, hx⟩ := Bool.or_eq_false_iff.1 hp
  have hk : e.skipping = none := by simpa using hk
  have hge : ¬e.index < e.stream.size := by simpa using hx
  exact ⟨hs, he, hk, (hr.index_le hk).antisymm (Nat.le_of_not_lt hge)⟩

/-- What comes to an executor at rest is all that waits. -/
theorem Resting.waiting_grow (h : Resting e) (l : List Lexeme) : (e.grow l).waiting = l := by
  show (e.stream.entries ++ l).drop e.index = l
  rw [h.index]
  exact List.drop_left

/-- A stream has as many lexemes more as come to it. -/
@[simp] theorem size_grow (e : Executor σ) (l : List Lexeme) :
    (e.grow l).stream.size = e.stream.size + l.length := List.length_append ..

/-- An executor with a block that is to be left unread from a lexeme on. -/
def abandon (e : Executor σ) (b : Block) (l : List Lexeme) (bench : Bench σ) (offset : Nat) :
    Executor σ :=
  { e.grow l with index := e.index + offset, skipping := some b, bench := bench }

/-- Of a block that is given up, what stands behind the lexeme that is blamed waits to be passed
over. -/
theorem Resting.waiting_abandon (h : Resting e) (l : List Lexeme) (bench : Bench σ)
    (offset : Nat) : (e.abandon b l bench offset).waiting = l.drop offset := by
  show (e.stream.entries ++ l).drop (e.index + offset) = _
  rw [h.index, ← List.drop_drop, Stream.size, List.drop_left]

/-- After a complaint about a block, a lenient executor leaves the block unread. -/
theorem recover_of_blockStart (hs : e.strict = false) (hw : word.kind = .blockStart b) (start : Nat)
    (c : Complaint) : e.recover start word c = ⟨.ok (.reported [c]), [.report .command c],
      { e.note (.reported start c) with skipping := some b, index := blamed start c }⟩ := by
  have h := recovered e start word c
  generalize e.recover start word c = o at h ⊢
  cases h with
  | ended hs' =>
    rw [hs] at hs'
    cases hs'
  | lost _ hb | nextLine _ hb => exact absurd hw (hb b)
  | inBlock _ hw' =>
    obtain rfl := Kind.blockStart.inj (hw.symm.trans hw')
    rfl

/-- After a complaint about a block that was just read, the block is given up from the blamed lexeme
on. -/
theorem Resting.recover_passed (h : Resting e) (hw : word.kind = .blockStart b) (l : List Lexeme)
    (k : Nat) (bench : Bench σ) (c : Complaint) :
    ((e.grow l).passed k bench).recover e.index word c = ⟨.ok (.reported [c]), [.report .command c],
      e.abandon b l (bench.note (.reported e.index c)) (blamed e.index c - e.index)⟩ := by
  rw [recover_of_blockStart (e := (e.grow l).passed k bench) h.strict hw]
  have hle := le_blamed e.index c
  simp only [abandon, Nat.add_sub_cancel' hle]
  rfl

section Device

variable [Device σ]

/-- A block is left unread at once.  Nothing waits behind it, so one step is the whole run. -/
theorem run_of_skipping (hs : e.skipping = some b) (he : e.stream.ended = false)
    (hi : e.index ≤ e.stream.size) (hl : ClosedLast b e.waiting) :
    e.run = ⟨.ok [], [], e.skipAll b⟩ := by
  rcases hw : e.waiting with _ | ⟨word, rest⟩
  · have hsize : e.stream.size ≤ e.index := List.drop_eq_nil_iff.1 hw
    rw [run_of_nil hw, skipAll, hw]
    obtain ⟨strict, params, stream, index, skipping, bench⟩ := e
    obtain rfl : skipping = some b := hs
    obtain rfl : index = stream.size := Nat.le_antisymm hi hsize
    rfl
  · have hstep : e.step word rest = ⟨.ok (.reported []), [], e.skipAll b⟩ := by
      rw [step, hs, ← skip_eq_skipAll he hl]
    rw [run_of_cons hw, hstep]
    have hnil : (e.skipAll b).waiting = [] := List.drop_eq_nil_iff.2 le_rfl
    simp only
    rw [run_of_nil hnil]
    rfl

/-- A block that is given up is passed over in one step, as its closing word can only come last. -/
theorem Resting.run_abandon (h : Resting e) {l : List Lexeme} {bench : Bench σ} {offset : Nat}
    (ho : offset ≤ l.length) (hl : ClosedLast b l) : (e.abandon b l bench offset).run =
      ⟨.ok [], [], (e.abandon b l bench offset).skipAll b⟩ := by
  refine run_of_skipping rfl rfl ?_ ?_
  · show e.index + offset ≤ (e.grow l).stream.size
    rw [size_grow, h.index]
    omega
  · rw [h.waiting_abandon]
    exact hl.drop offset

variable {cause : Cause} {x : Lexeme} {offset : Nat}

omit [Device σ] in
/-- An executor at rest may wait for the rest of a block, as its stream has not ended. -/
theorem Resting.mayGrow_grow (h : Resting e) (l : List Lexeme) : (e.grow l).mayGrow = true := by
  show (!false && !e.strict) = true
  rw [h.strict]
  rfl

/-- The first step of a run reads the block. -/
theorem Resting.step_grow (h : Resting e) : (e.grow (word :: ms)).step word ms =
    after ((Reader.read e.mode true word ms).warnings.map Event.warn)
      (match (Reader.read e.mode true word ms).result with
      | .error .waiting => ⟨.ok .waits, [], e.grow (word :: ms)⟩
      | .error (.failed f) => ⟨.error (.failure f), [], e.grow (word :: ms)⟩
      | .error (.wrong cause x offset) =>
        (e.grow (word :: ms)).recover e.index word (e.fault cause x offset)
      | .ok (action, taken) => (e.grow (word :: ms)).carryOut word action taken) := by
  rw [step, show (e.grow (word :: ms)).skipping = none from h.skipping]
  simp only [command, h.mayGrow_grow]
  rfl

/-- A block that may go on is left for the next run. -/
theorem Resting.run_grow_of_waiting (h : Resting e)
    (hr : (Reader.read e.mode true word ms).result = .error .waiting) :
    (e.grow (word :: ms)).run = ⟨.ok [], (Reader.read e.mode true word ms).warnings.map Event.warn,
      e.grow (word :: ms)⟩ := by
  rw [run_of_cons (h.waiting_grow _), h.step_grow, hr]
  simp only [after, List.append_nil]

/-- A block that cannot be read stays, too. -/
theorem Resting.run_grow_of_failed (h : Resting e) {f : Failure}
    (hr : (Reader.read e.mode true word ms).result = .error (.failed f)) :
    (e.grow (word :: ms)).run = ⟨.error (.failure f),
      (Reader.read e.mode true word ms).warnings.map Event.warn, e.grow (word :: ms)⟩ := by
  rw [run_of_cons (h.waiting_grow _), h.step_grow, hr]
  simp only [after, List.append_nil]

/-- A fault in a block is reported, and the rest is left unread.  The run recovers from the fault
first, and then skips what is there of the block. -/
theorem Resting.run_grow_of_wrong (h : Resting e) (hw : word.kind = .blockStart b)
    (hl : ClosedLast b (word :: ms))
    (hr : (Reader.read e.mode true word ms).result = .error (.wrong cause x offset)) :
    (e.grow (word :: ms)).run = ⟨.ok [e.fault cause x offset],
      (Reader.read e.mode true word ms).warnings.map Event.warn ++
        [.report .command (e.fault cause x offset)],
      (e.abandon b (word :: ms) (e.bench.note (.reported e.index (e.fault cause x offset)))
        offset).skipAll b⟩ := by
  have hblame : blamed e.index (e.fault cause x offset) - e.index = offset := by
    rw [show blamed e.index (e.fault cause x offset) = e.index + offset from blamed_add ..]
    omega
  have hrec := h.recover_passed hw (word :: ms) 0 e.bench (e.fault cause x offset)
  rw [hblame] at hrec
  have hstep : (e.grow (word :: ms)).recover e.index word (e.fault cause x offset) = _ := hrec
  have ho : offset ≤ (word :: ms).length :=
    (Reader.offset_le_of_read hr).trans (Nat.le_succ _)
  rw [run_of_cons (h.waiting_grow _), h.step_grow, hr]
  simp only [hstep, after]
  rw [h.run_abandon ho hl, List.append_nil]
  rfl

/-- A block that is carried out is all that waited: nothing else leaves events but the reading, and
only a fault of its own ends the run.  The closing word is the last lexeme, so the executor passes
everything. -/
theorem Resting.run_grow_of_ok (h : Resting e) (hw : word.kind = .blockStart b)
    (hl : ClosedLast b (word :: ms)) {a : Action} {n : Nat}
    (hr : (Reader.read e.mode true word ms).result = .ok (a, n)) :
    (e.grow (word :: ms)).run.state.waiting = [] ∧
      (e.grow (word :: ms)).run.events = (Reader.read e.mode true word ms).warnings.map Event.warn ++
        ((e.grow (word :: ms)).carryOut word a n).events ∧
      ((∃ l, (e.grow (word :: ms)).run.result = .ok l) ∨
        ∃ f, ((e.grow (word :: ms)).carryOut word a n).result = .error f) := by
  obtain ⟨r, z, tail, -, hms, rfl, hz, -⟩ := Reader.exists_blockEnd_of_read hw hr
  -- Nothing follows the closing word.
  obtain rfl := hl r z tail hms hz
  have hlen : (word :: ms).length = r.length + 1 := by rw [hms, List.length_append]; rfl
  have hpass : ∀ bench, ((e.grow (word :: ms)).passed (r.length + 1) bench).waiting = [] := by
    intro bench
    rw [waiting_passed (h.waiting_grow _), ← hlen, List.drop_length]
  rw [run_of_cons (h.waiting_grow _), h.step_grow, hr]
  obtain ⟨es, bench, (hc | ⟨f, hc⟩) | ⟨c, hc, -⟩⟩ :=
    carryOut_cases (e.grow (word :: ms)) word a (r.length + 1)
  · simp only [hc, after]
    rw [run_of_nil (hpass bench)]
    exact ⟨hpass bench, List.append_nil _, .inl ⟨[], rfl⟩⟩
  · simp only [hc, after]
    exact ⟨hpass bench, trivial, .inr ⟨f, rfl⟩⟩
  · rw [show (e.grow (word :: ms)).index = e.index from rfl,
      h.recover_passed hw (word :: ms) (r.length + 1) bench c] at hc
    simp only [hc, after]
    by_cases hblame : blamed e.index c - e.index ≤ (word :: ms).length
    · rw [h.run_abandon hblame hl]
      exact ⟨List.drop_eq_nil_iff.2 le_rfl, List.append_nil _, .inl ⟨[c], rfl⟩⟩
    · -- The plotter named a lexeme that is still to come.
      have hnil : (e.abandon b (word :: ms) (bench.note (.reported e.index c))
          (blamed e.index c - e.index)).waiting = [] := by
        rw [h.waiting_abandon]
        exact List.drop_eq_nil_iff.2 (Nat.le_of_not_le hblame)
      rw [run_of_nil hnil]
      exact ⟨hnil, List.append_nil _, .inl ⟨[c], rfl⟩⟩

/-- Nothing happens when nothing is added where nothing waits. -/
theorem joins_of_waiting_eq_nil {o : Turn σ (List Complaint)} (hw : o.state.waiting = [])
    (he : o.state.stream.ended = false) : Joins o (o.state.grow []).run o := by
  rw [grow_nil he, run_of_nil hw]
  exact ⟨rfl, List.append_nil _, List.append_nil _, fun _ => ⟨[], rfl⟩⟩

/-- Neither more lexemes nor a run end the stream. -/
theorem ended_run_grow (e : Executor σ) (l : List Lexeme) :
    (e.grow l).run.state.stream.ended = false := by
  rw [(frame_run _).stream]
  rfl

omit [Device σ] in
/-- Where all that waits is passed over, nothing waits. -/
theorem waiting_skipAll (e : Executor σ) (b : Block) : (e.skipAll b).waiting = [] :=
  List.drop_eq_nil_iff.2 le_rfl

omit [Device σ] in
/-- What comes next is passed over as well, if no closing word has come yet. -/
theorem skipping_skipAll (hn : ∀ x ∈ e.waiting, x.kind ≠ .blockEnd b) :
    (e.skipAll b).skipping = some b := by
  have hany : (e.waiting.any fun x => decide (x.kind = .blockEnd b)) = false := by
    rw [List.any_eq_false]
    exact fun x hx => by simpa using hn x hx
  rw [skipAll, hany]
  rfl

/-- Lexemes that come while a block is left unread are left unread, too.  No closing word was among
those before, so the block is left where they show one. -/
theorem Resting.run_grow_skipAll (h : Resting e) {bench : Bench σ} {l m : List Lexeme}
    (hn : ∀ x ∈ l.drop offset, x.kind ≠ .blockEnd b) (ho : offset ≤ l.length)
    (hm : ClosedLast b m) : (((e.abandon b l bench offset).skipAll b).grow m).run =
      ⟨.ok [], [], (e.abandon b (l ++ m) bench offset).skipAll b⟩ := by
  have hskip : ((e.abandon b l bench offset).skipAll b).skipping = some b :=
    skipping_skipAll (by rw [h.waiting_abandon]; exact hn)
  have hw : (((e.abandon b l bench offset).skipAll b).grow m).waiting = m := by
    show ((e.stream.entries ++ l) ++ m).drop (e.stream.entries ++ l).length = m
    exact List.drop_left
  have hany : (l.drop offset ++ m).any (fun x => decide (x.kind = .blockEnd b)) =
      m.any fun x => decide (x.kind = .blockEnd b) := by
    rw [List.any_append, List.any_eq_false.2 fun x hx => by simpa using hn x hx, Bool.false_or]
  have hle : (e.abandon b l bench offset).stream.size ≤
      (((e.abandon b l bench offset).skipAll b).grow m).stream.size := by
    rw [size_grow]
    exact Nat.le_add_right ..
  refine (run_of_skipping (e := ((e.abandon b l bench offset).skipAll b).grow m) hskip rfl hle
    (hw.symm ▸ hm)).trans ?_
  rw [skipAll, hw, skipAll, skipAll, h.waiting_abandon (l ++ m), List.drop_append_of_le_length ho,
    hany]
  simp only [grow, abandon, List.append_assoc]

/-- **A block that comes in two parts is run as a block that comes at once.**  The cases are how
reading the first part ends: with a complaint, with a failure, waiting, or with a command. -/
theorem Resting.joins (h : Resting e) (hw : word.kind = .blockStart b) {m : List Lexeme}
    (hl : ClosedLast b (word :: ms ++ m)) :
    Joins (e.grow (word :: ms)).run ((e.grow (word :: ms)).run.state.grow m).run
      (e.grow (word :: ms ++ m)).run := by
  rcases hr : (Reader.read e.mode true word ms).result with (⟨cause, x, offset⟩ | f | _) | ⟨a, n⟩
  · have hrun := h.run_grow_of_wrong hw hl.left hr
    -- The first part is malformed, and the whole at the same place; the closing word is still to
    -- come, or there.
    by_cases hn : ∀ y ∈ (word :: ms).drop offset, y.kind ≠ .blockEnd b
    · have hm : ClosedLast b m := by
        have hd := hl.drop (word :: ms).length
        rwa [List.drop_left] at hd
      have ho : offset ≤ (word :: ms).length :=
        (Reader.offset_le_of_read hr).trans (Nat.le_succ _)
      have hl' : ClosedLast b (word :: (ms ++ m)) := hl
      have hrun' := h.run_grow_of_wrong hw hl' (Reader.read_append hw hr m)
      rw [hrun, h.run_grow_skipAll hn ho hm, List.cons_append, hrun']
      refine ⟨rfl, rfl, ?_, fun _ => ⟨[], rfl⟩⟩
      simp only [Event.unlogged_append, Event.unlogged_warnings]
      rfl
    · push Not at hn
      obtain ⟨z, hz, hk⟩ := hn
      obtain rfl : m = [] := hl.eq_nil (List.mem_of_mem_drop hz) hk
      rw [List.append_nil]
      refine joins_of_waiting_eq_nil ?_ (ended_run_grow e _)
      rw [hrun]
      exact waiting_skipAll _ b
  · rw [h.run_grow_of_failed hr]
    simp only [grow_grow]
    refine ⟨rfl, rfl, ?_, id⟩
    rw [Event.unlogged_warnings]
    rfl
  · -- What waits is read again as a whole, with the second part behind it.
    rw [h.run_grow_of_waiting hr]
    simp only [grow_grow]
    refine ⟨rfl, rfl, ?_, id⟩
    rw [Event.unlogged_warnings]
    rfl
  · obtain ⟨r, z, tail, -, hms, -, hz, -⟩ := Reader.exists_blockEnd_of_read hw hr
    obtain rfl : m = [] := hl.eq_nil (hms ▸ List.mem_append_right _ List.mem_cons_self) hz
    rw [List.append_nil]
    exact joins_of_waiting_eq_nil (h.run_grow_of_ok hw hl.left hr).1 (ended_run_grow e _)

/-- The turns of some chunks that are parsed one after another. -/
def parseEach (e : Executor σ) : List (List Lexeme) → List (Turn σ (List Complaint))
  | [] => []
  | l :: r => e.parse l :: (e.parse l).state.parseEach r

/-- Turns one after another, which end in a state, amount to one turn. -/
structure AmountsTo (os : List (Turn σ (List Complaint))) (t : Executor σ)
    (u : Turn σ (List Complaint)) : Prop where
  state : t = u.state
  given : os.flatMap given = given u
  unlogged : (os.flatMap fun o => Event.unlogged o.events) = Event.unlogged u.events

omit [Device σ] in
/-- Turns amount to what they amount to when the first two are joined to one. -/
theorem AmountsTo.join {o o' v u : Turn σ (List Complaint)} {os : List (Turn σ (List Complaint))}
    {t : Executor σ} (h : AmountsTo (v :: os) t u) (hj : Joins o o' v) :
    AmountsTo (o :: o' :: os) t u := by
  refine ⟨h.state, ?_, ?_⟩
  · rw [← h.given, List.flatMap_cons, List.flatMap_cons, List.flatMap_cons, ← hj.given,
      List.append_assoc]
  · rw [← h.unlogged, List.flatMap_cons, List.flatMap_cons, List.flatMap_cons, ← hj.unlogged,
      List.append_assoc]

/-- Chunks that come after the word of a block go on with it.  The induction is on the chunks; each
one is read with those before it, or skipped with them. -/
theorem Resting.amount_cons (h : Resting e) (hw : word.kind = .blockStart b)
    {chunks : List (List Lexeme)} (hl : ClosedLast b (word :: ms ++ chunks.flatten))
    (hk : ∀ x ∈ chunks.flatten, x.kind ≠ .endOfFile) :
    AmountsTo ((e.grow (word :: ms)).run :: (e.grow (word :: ms)).run.state.parseEach chunks)
      ((e.grow (word :: ms)).run.state.live (chunks.map .parse))
      (e.grow (word :: ms ++ chunks.flatten)).run := by
  induction chunks generalizing ms with
  | nil =>
    simp only [parseEach, List.flatten_nil, List.append_nil]
    exact ⟨rfl, List.append_nil _, List.append_nil _⟩
  | cons l r ih =>
    rw [List.flatten_cons, ← List.append_assoc] at hl ⊢
    rw [List.flatten_cons] at hk
    have hparse : (e.grow (word :: ms)).run.state.parse l =
        ((e.grow (word :: ms)).run.state.grow l).run :=
      parse_of_forall (ended_run_grow e _) fun x hx => hk x (List.mem_append_left _ hx)
    have hj := h.joins hw hl.left
    have hi := @ih (ms ++ l) hl fun x hx => hk x (List.mem_append_right _ hx)
    rw [← List.cons_append, ← hj.state, ← hparse] at hi
    rw [← hparse] at hj
    exact hi.join hj

/-- With a polite plotter, carrying out a block ends a lenient run with no fault.  What a polite
plotter refuses is complained about, and a lenient run recovers from a complaint. -/
theorem carryOut_ne_error (hs : e.strict = false) (hw : word.kind = .blockStart b)
    (hp : Polite e.bench.device) (k : Block) (settings : List (Setting × Value)) (n : Nat)
    (f : Fault) :
    (e.carryOut word (.setOptions k settings) n).result ≠ .error f := by
  obtain ⟨es, he⟩ := carryOut_eq e word (.setOptions k settings) n
  rw [he]
  rcases hr : (Bench.enact e.params word (.setOptions k settings)
    (e.begun (.setOptions k settings))).result with g | u
  · obtain ⟨c, rfl⟩ := (Bench.civil_setOptions e.params word k settings
      (e.begun (.setOptions k settings)) hp).1 g hr
    simp only [Except.mapError, Bench.blame, after]
    rw [recover_of_blockStart (e := e.passed n _) hs hw]
    rintro ⟨⟩
  · intro h
    cases h

/-- **Every run of a part of a block ends with no fault**, if the plotter is polite and the numbers
are in order. -/
theorem Resting.ok_run_grow (h : Resting e) (hw : word.kind = .blockStart b)
    (hl : ClosedLast b (word :: ms)) (hp : Polite e.bench.device) (hs : Reader.ShortValues ms)
    (hn : Reader.Numbers ms) : ∃ l, (e.grow (word :: ms)).run.result = .ok l := by
  rcases hr : (Reader.read e.mode true word ms).result with (⟨cause, x, offset⟩ | f | _) | ⟨a, n⟩
  · rw [h.run_grow_of_wrong hw hl hr]
    exact ⟨_, rfl⟩
  · exact absurd hr (Reader.read_ne_failed hs hn f)
  · rw [h.run_grow_of_waiting hr]
    exact ⟨_, rfl⟩
  · refine (h.run_grow_of_ok hw hl hr).2.2.resolve_right ?_
    rintro ⟨f, hf⟩
    obtain ⟨-, -, -, settings, -, -, -, rfl⟩ := Reader.exists_blockEnd_of_read hw hr
    exact carryOut_ne_error (e := e.grow (word :: ms)) h.strict hw hp b settings n f hf

/-- Every parse of a part of a block ends with no fault, if the plotter is polite and the numbers
are in order.  The induction is on the chunks, each of which meets a block that still may go on, one
that is passed over, or an executor at rest. -/
theorem Resting.ok_of_mem_parseEach (h : Resting e) (hw : word.kind = .blockStart b)
    {chunks : List (List Lexeme)} (hl : ClosedLast b (word :: ms ++ chunks.flatten))
    (hk : ∀ x ∈ chunks.flatten, x.kind ≠ .endOfFile) (hp : Polite e.bench.device)
    (hs : Reader.ShortValues (ms ++ chunks.flatten)) (hn : Reader.Numbers (ms ++ chunks.flatten)) :
    ∀ o ∈ (e.grow (word :: ms)).run.state.parseEach chunks, ∃ l, o.result = .ok l := by
  induction chunks generalizing ms with
  | nil => exact fun o ho => absurd ho List.not_mem_nil
  | cons l r ih =>
    rw [List.flatten_cons, ← List.append_assoc] at hl hs hn
    rw [List.flatten_cons] at hk
    have hparse : (e.grow (word :: ms)).run.state.parse l =
        ((e.grow (word :: ms)).run.state.grow l).run :=
      parse_of_forall (ended_run_grow e _) fun x hx => hk x (List.mem_append_left _ hx)
    have hj := h.joins hw hl.left
    have hi := @ih (ms ++ l) hl (fun x hx => hk x (List.mem_append_right _ hx)) hs hn
    rw [← List.cons_append, ← hj.state, ← hparse] at hi
    rw [← hparse] at hj
    intro o ho
    rcases List.mem_cons.1 ho with rfl | ho
    · exact hj.ok (h.ok_run_grow hw hl.left hp hs.left_of_append
        fun x hx => hn x (List.mem_append_left _ hx))
    · exact hi o ho

/-- **It makes no difference how a block is cut into chunks.**  The induction is on the chunks; as
long as they are empty nothing happens, and from the first lexeme on the rest is joined chunk by
chunk. -/
theorem Resting.amount (h : Resting e) (hw : word.kind = .blockStart b)
    {chunks : List (List Lexeme)} (hc : chunks.flatten = word :: ms)
    (hl : ClosedLast b (word :: ms)) (hk : ∀ x ∈ word :: ms, x.kind ≠ .endOfFile) :
    AmountsTo (e.parseEach chunks) (e.live (chunks.map .parse)) (e.parse (word :: ms)) ∧
      (Polite e.bench.device → Reader.ShortValues ms → Reader.Numbers ms →
        ∀ o ∈ e.parseEach chunks, ∃ l, o.result = .ok l) := by
  rw [parse_of_forall h.ended hk]
  induction chunks with
  | nil => cases hc
  | cons l r ih =>
    cases l with
    | nil =>
      -- Nothing happens until the first lexeme comes.
      have hparse : e.parse [] = ⟨.ok [], [], e⟩ := by
        rw [parse_of_forall h.ended (l := []) (fun _ hx => absurd hx List.not_mem_nil)]
        show (e.grow []).run = _
        rw [grow_nil h.ended, run_of_nil]
        exact List.drop_eq_nil_iff.2 h.index.ge
      obtain ⟨ha, hok⟩ := ih hc
      have hlive : e.live (([] :: r).map .parse) = (e.parse []).state.live (r.map .parse) := rfl
      rw [hlive, parseEach, hparse]
      refine ⟨⟨ha.state, ha.given, ha.unlogged⟩, fun hp hs hn o ho => ?_⟩
      rcases List.mem_cons.1 ho with rfl | ho
      · exact ⟨[], rfl⟩
      · exact hok hp hs hn o ho
    | cons w l =>
      obtain ⟨rfl, rfl⟩ : w = word ∧ l ++ r.flatten = ms := List.cons.inj hc
      have hk' : ∀ x ∈ r.flatten, x.kind ≠ .endOfFile := fun x hx =>
        hk x (List.mem_cons_of_mem _ (List.mem_append_right _ hx))
      have hparse : e.parse (w :: l) = (e.grow (w :: l)).run :=
        parse_of_forall h.ended fun x hx =>
          hk x (List.cons_append (a := w) ▸ List.mem_append_left _ hx)
      have hlive : e.live ((w :: l) :: r |>.map .parse) =
        (e.parse (w :: l)).state.live (r.map .parse) := rfl
      rw [hlive, parseEach, hparse]
      refine ⟨h.amount_cons hw hl hk', fun hp hs hn o ho => ?_⟩
      rcases List.mem_cons.1 ho with rfl | ho
      · exact h.ok_run_grow hw (ClosedLast.left hl) hp hs.left_of_append
          fun x hx => hn x (List.mem_append_left _ hx)
      · exact h.ok_of_mem_parseEach hw hl hk' hp hs hn o ho

/-- **A block may be cut anywhere.**  A lenient executor, whatever it was used for before, has
nothing pending, and its stream has not ended.  It is given an option block, valid or not, closed or
not, in chunks.  Then it ends in the state in which it would end if the block came at once: with the
same index, mode, stream and block to be left unread, after the same calls and complaints.  The
complaints that the parses give are together those that one parse would give, and so are the events
that are no records in the log.  No parse ends with a fault, if the plotter is polite and the
numbers are in order. -/
theorem chunks_eq_whole (p : Params) (device : σ) (site : Site) (uses : List Use)
    {chunks : List (List Lexeme)}
    (hp : ((start false p device site).live uses).pending = false)
    (he : ((start false p device site).live uses).stream.ended = false)
    (hw : word.kind = .blockStart b) (hc : chunks.flatten = word :: ms)
    (hl : ClosedLast b (word :: ms)) (hk : ∀ x ∈ word :: ms, x.kind ≠ .endOfFile) :
    let e := (start false p device site).live uses
    AmountsTo (e.parseEach chunks) (e.live (chunks.map .parse)) (e.parse (word :: ms)) ∧
      (Polite device → Reader.ShortValues ms → Reader.Numbers ms →
        (∃ l, (e.parse (word :: ms)).result = .ok l) ∧
          ∀ o ∈ e.parseEach chunks, ∃ l, o.result = .ok l) := by
  intro e
  have hrest : Resting e := .of_pending (strict_live _ uses) hp he
    ((inReach_start false p device site).live uses)
  obtain ⟨ha, hok⟩ := hrest.amount hw hc hl hk
  refine ⟨ha, fun hp hs hn => ?_⟩
  have hp : Polite e.bench.device :=
    Polite.of_leads (p := Past.start device) hp (past_live (start false p device site) uses)
  refine ⟨?_, hok hp hs hn⟩
  rw [parse_of_forall he hk]
  exact hrest.ok_run_grow hw hl hp hs hn

/-- A block with a name that is no option's, cut between names and values. -/
def cutBlock : List (List Lexeme) :=
  [[.alone (.blockStart .options) "OPTS", .alone (.setting .penDownSpeed) "PEND_SPEED"], [],
    [.alone .number "50", .alone .unknown "FAST"], [.alone (.blockEnd .options) "END_OPTS"]]

/-- A block in four chunks, with an unknown name in the third: the complaint comes there, and the
closing word in the last is passed over. -/
theorem chunks_eq_whole_cutBlock :
    let e := (start false .standard Recorder.obliging .bare).live
      [.parse [.alone .mode "MODE", .alone (.modeName .interactive) "I"]]
    AmountsTo (e.parseEach cutBlock) (e.live (cutBlock.map .parse)) (e.parse cutBlock.flatten) ∧
      (∃ l, (e.parse cutBlock.flatten).result = .ok l) ∧
        ∀ o ∈ e.parseEach cutBlock, ∃ l, o.result = .ok l := by
  intro e
  have hc : cutBlock.flatten = .alone (.blockStart .options) "OPTS" :: cutBlock.flatten.tail := rfl
  obtain ⟨ha, hok⟩ := chunks_eq_whole .standard Recorder.obliging .bare
    [.parse [.alone .mode "MODE", .alone (.modeName .interactive) "I"]]
    (by decide +kernel) (by decide +kernel) rfl hc
    (closedLast_of_dropLast (by decide)) (by decide)
  exact ⟨ha, hok Recorder.willing_obliging.polite (by decide) (by decide)⟩

end Device
end Executor
end PlotScript
