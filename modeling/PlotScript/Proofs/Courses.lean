/-
# Scripts that are carried out to their end

A course is what happens where command after command is carried out with no fault (`Course`).  What
a command does then does not depend on where it stands (`Bench.enact_eq_of_ok`), so a course
belongs to the tokens of a script alone.

A strict run that ends with no fault takes a course (`course_of_run`).  A lenient executor that is
given the lexemes of a course part by part takes it, too, if only option blocks are cut
(`OnCourse.run`): where a part ends within a block, it waits for the next part.
-/

import PlotScript.Proofs.Chunks
import PlotScript.Proofs.Sequence

namespace PlotScript

namespace Act

variable {ε σ α β : Type}

/-- An act does what another does, wherever that ends with no fault. -/
def Agrees (x y : Act ε σ α) : Prop := ∀ s a, (x s).result = .ok a → y s = x s

/-- An act agrees with itself, whatever it does. -/
theorem agrees_rfl (x : Act ε σ α) : Agrees x x := fun _ _ _ => rfl

/-- A fault agrees with every other fault: only an act that gives a result has to be matched. -/
theorem agrees_throw (e f : ε) : Agrees (throw e : Act ε σ α) (throw f) := fun _ _ h => (nomatch h)

/-- Acts that agree, one after the other, agree, since the first ones hand on the same result and
state. -/
theorem Agrees.bind {x y : Act ε σ α} {f g : α → Act ε σ β} (hx : Agrees x y)
    (h : ∀ a, Agrees (f a) (g a)) : Agrees (x >>= f) (y >>= g) := by
  intro s b hb
  obtain ⟨a, ha, hf, -⟩ := exists_of_bind_eq_ok hb
  have hy := hx s a ha
  rw [bind_of_ok ha, bind_of_ok (hy ▸ ha), hy, h a _ b hf]

end Act

namespace Reader

variable {mode : Option Mode} {word : Lexeme} {rest : List Lexeme}

/-- Where no more lexemes can come, reading a block never waits: what is missing is complained
about. -/
theorem readSettings_ne_waiting {b : Block} {interactive : Bool} {seen : List Setting} {k : Nat}
    {l : List Lexeme} :
    (readSettings b interactive false word seen k l).result ≠ .error .waiting := by
  intro h
  fun_induction readSettings b interactive false word seen k l with
  | case1 | case2 | case3 | case4 | case5 | case6 | case9 | case10 => cases h
  | case7 seen k x y rest _ s _ _ e he =>
    obtain rfl := Except.error.inj h
    exact readValue_ne_waiting he
  | case8 seen k x y rest _ s _ _ v _ _ ih =>
    refine ih ?_
    rcases hr : (readSettings b interactive false word (s :: seen) (k + 2) rest).result with e | p
    · simpa only [BlockReading.cons, hr, Except.map] using h
    · simp only [BlockReading.cons, hr, Except.map] at h
      cases h

/-- **Where no more lexemes can come, none are waited for.** -/
theorem read_ne_waiting : (read mode false word rest).result ≠ .error .waiting := by
  intro h
  by_cases hb : ∃ b, word.kind = .blockStart b
  · obtain ⟨b, hb⟩ := hb
    have hs : Stops 0 True (needBlockMode b mode word) := stops_needBlockMode
    rcases hm : needBlockMode b mode word with e | m
    · rw [hm] at hs
      simp only [read, hb, hm, Reading.of, Except.error.injEq] at h
      subst h
      cases hs
    · rcases hr : (readSettings b (m == .interactive) false word [] 1 rest).result with e | p
      · simp only [read, hb, hm, readBlock, hr, Except.error.injEq] at h
        subst h
        exact readSettings_ne_waiting hr
      · simp only [read, hb, hm, readBlock, hr] at h
        cases h
  · rw [read_eq_of_noBlock fun b hk => hb ⟨b, hk⟩] at h
    have hs : Stops rest.length (Numbers rest) (readSimple mode word rest) := stops_readSimple
    rw [show readSimple mode word rest = .error .waiting from h] at hs
    cases hs

/-- A command is read wherever its tokens stand. -/
theorem read_of_alike {more : Bool} {part v ws tail : List Lexeme} {a : Action}
    (hu : Alike (word :: part) ws) (hv : Alike v tail) (hws : Grammar.Spells ws a)
    (hs : ShortValues ws) (ht : a.EndsBefore tail) (hm : a.PermittedIn mode) :
    (read mode more word (part ++ v)).result = .ok (a, ws.length) := by
  have hb : Grammar.Begins mode (word :: (part ++ v)) a ws.length :=
    ⟨word :: part, v, rfl, hu.length_eq, hws.alike hu, Grammar.endsBefore_alike ht hv, hm⟩
  have htake : (word :: (part ++ v)).take ws.length = word :: part := by
    rw [← hu.length_eq]
    exact @List.take_left _ (word :: part) v
  exact read_of_begins hb (htake ▸ hs.alike hu)

end Reader

namespace Bench

variable {σ : Type} [Device σ]

open Act (Agrees)

omit [Device σ] in
/-- A drawing that is found in order is found so at any place: the place is only used for the
complaint. -/
theorem agrees_inspect (path : String) (x y : Lexeme) :
    Agrees (inspect path x : Act Fault (Bench σ) Unit) (inspect path y) := by
  refine (Act.agrees_rfl Act.get).bind fun b => ?_
  split
  · exact Act.agrees_throw _ _
  · rename_i hf
    intro t u h
    rw [Act.result_ofExcept] at h
    by_cases hd : b.site.IsDrawing path
    · rw [h, hd.checkDrawing_eq (some y)]
    · rcases Site.checkDrawing_of_not hd (by simpa using hf) (some x) with ⟨-, f, he⟩ | ⟨-, c, he⟩ <;>
      · rw [he] at h
        cases h

/-- **A command that is carried out does the same wherever it stands.** -/
theorem agrees_enact (p : Params) (a : Action) (x y : Lexeme) :
    Agrees (enact p x a : Act Fault (Bench σ) Unit) (enact p y a) := by
  cases a with
  | setMode m =>
    refine (Act.agrees_rfl _).bind fun _ => ?_
    cases m with
    | plot => exact Act.agrees_rfl _
    | interactive =>
      refine (Act.agrees_rfl _).bind fun _ => (Act.agrees_rfl _).bind fun entered => ?_
      split
      · exact fun s u h => (nomatch h)
      · exact Act.agrees_rfl _
  | setPlot source =>
    refine (Act.agrees_rfl _).bind fun path => ?_
    exact (agrees_inspect path x y).bind fun _ => Act.agrees_rfl _
  | plot =>
    refine (Act.agrees_rfl _).bind fun b => ?_
    split
    · exact Act.agrees_rfl _
    · exact Act.agrees_throw _ _
  | _ => exact Act.agrees_rfl _

end Bench

namespace Executor

open Grammar

variable {σ : Type} [Device σ] {e : Executor σ} {word : Lexeme} {rest : List Lexeme} {a : Action}
  {n : Nat} {es : List Event} {b : Bench σ}

/-- Command after command is carried out with no fault.  Given are the number of the first lexeme,
the bench before and after, the lexemes, and what happens besides the records of the commands. -/
inductive Course (p : Params) : Nat → Bench σ → List Lexeme → List Event → Bench σ → Prop
  | nil (n : Nat) (b : Bench σ) : Course p n b [] [] b
  | cons {n : Nat} {b c d : Bench σ} {ws tail : List Lexeme} {a : Action} {es fs : List Event} :
    Spells ws a → Reader.ShortValues ws → a.EndsBefore tail → a.PermittedIn b.mode →
      (∀ x, Bench.enact p x a (b.note (.begun n a)) = ⟨.ok (), es, c⟩) →
      Course p (n + ws.length) c tail fs d → Course p n b (ws ++ tail) (es ++ fs) d

/-- Nothing that a command does is a complaint. -/
theorem complaints_enact (p : Params) (x : Lexeme) (a : Action) (b : Bench σ) :
    Deed.complaints (Bench.enact p x a b).state.deeds = Deed.complaints b.deeds := by
  obtain ⟨cs, -, h⟩ := Bench.enacted_enact p x a b
  rw [h.deeds, Deed.complaints_append, Deed.complaints_append, a.complaints_modeDeeds,
    complaints_askAll, List.append_nil, List.append_nil]

/-- On a course, nothing is complained about. -/
theorem Course.complaints {p : Params} {l : List Lexeme} {d : Bench σ} (h : Course p n b l es d) :
    Deed.complaints d.deeds = Deed.complaints b.deeds := by
  induction h with
  | nil => rfl
  | @cons n b c d ws tail a es fs hws _ _ _ ha _ ih =>
    obtain ⟨x, _, -⟩ := List.exists_cons_of_length_pos hws.length_pos
    have hc := complaints_enact p x a (b.note (.begun n a))
    rw [ha x] at hc
    exact ih.trans (hc.trans ((Deed.complaints_append _ _).trans (List.append_nil _)))

/-- A command that does its work is passed over. -/
theorem carryOut_of_enact (h : Bench.enact e.params word a (e.begun a) = ⟨.ok (), es, b⟩) (n : Nat) :
    e.carryOut word a n = ⟨.ok (.reported []), .log .debug (Bench.record ⟨word, a⟩) :: es,
      e.passed n b⟩ := by
  have hx : Bench.execute e.params (e.index + n - 1) ⟨word, a⟩ (e.bench.note (.begun e.index a)) =
      ⟨.ok (), .log .debug (Bench.record ⟨word, a⟩) :: es, b⟩ := by
    show Outcome.mk ((Bench.enact e.params word a (e.begun a)).result.mapError _)
      (_ :: (Bench.enact e.params word a (e.begun a)).events)
      (Bench.enact e.params word a (e.begun a)).state = _
    rw [h]
    rfl
  rw [carryOut, hx]
  rfl

/-- A strict executor carries a command out, or the run ends with a fault. -/
theorem enact_of_carryOut (hs : e.strict = true) {s : Step}
    (h : (e.carryOut word a n).result = .ok s) :
    (Bench.enact e.params word a (e.begun a)).result = .ok () := by
  obtain ⟨fs, he⟩ := carryOut_eq e word a n
  rcases hr : (Bench.enact e.params word a (e.begun a)).result with f | u
  · rw [he, hr] at h
    simp only [Except.mapError] at h
    split at h
    · rename_i hf
      cases hf
    · rw [recover_of_strict (e := e.passed n _) hs] at h
      cases h
    · cases h
  · rfl

/-- A command that is read and does its work is passed over. -/
theorem step_of_read (hk : e.skipping = none)
    (hr : (Reader.read e.mode e.mayGrow word rest).result = .ok (a, n))
    (h : Bench.enact e.params word a (e.begun a) = ⟨.ok (), es, b⟩) : e.step word rest =
      ⟨.ok (.reported []), (Reader.read e.mode e.mayGrow word rest).warnings.map Event.warn ++
        .log .debug (Bench.record ⟨word, a⟩) :: es, e.passed n b⟩ := by
  simp only [step, hk, command, hr, carryOut_of_enact h]
  rfl

/-- **A step of a strict run carries out a command**, unless it ends the run with a fault. -/
theorem exists_of_step_eq_ok (hs : e.strict = true) (hk : e.skipping = none) {s : Step}
    (h : (e.step word rest).result = .ok s) : ∃ a n es b,
      (Reader.read e.mode false word rest).result = .ok (a, n) ∧
      ∀ x, Bench.enact e.params x a (e.begun a) = ⟨.ok (), es, b⟩ := by
  have hg : e.mayGrow = false := by
    rw [mayGrow, hs]
    exact Bool.and_false _
  simp only [step, hk, command, hg, after] at h
  rcases hr : (Reader.read e.mode false word rest).result with (⟨cause, x, offset⟩ | f | _) | ⟨a, n⟩
  · simp only [hr, recover_of_strict hs] at h
    cases h
  · simp only [hr] at h
    cases h
  · exact absurd hr Reader.read_ne_waiting
  · simp only [hr] at h
    have ha := enact_of_carryOut hs h
    have hx := fun x => Bench.agrees_enact e.params a word x (e.begun a) () ha
    rcases ho : Bench.enact e.params word a (e.begun a) with ⟨r, es, b⟩
    rw [ho] at ha
    obtain rfl : r = .ok () := ha
    exact ⟨a, n, es, b, rfl, fun x => (hx x).trans ho⟩

/-- The records of a command are left out. -/
theorem unlogged_command (l : List Complaint) (text : String) (es : List Event) :
    Event.unlogged (l.map Event.warn ++ .log .debug text :: es) = Event.unlogged es := by
  rw [Event.unlogged_append, Event.unlogged_warnings]
  rfl

/-- **A strict run that ends with no fault takes a course.**  Each of its steps carries a command
out, since anything else would end it, and the commands make up the course one after another. -/
theorem course_of_run {l : List Complaint} (hs : e.strict = true) (hk : e.skipping = none)
    (h : e.run.result = .ok l) : ∃ es, Course e.params e.index e.bench e.waiting es
      e.run.state.bench ∧ Event.unlogged e.run.events = Event.unlogged es := by
  have hg : e.mayGrow = false := by
    rw [mayGrow, hs]
    exact Bool.and_false _
  fun_induction run e generalizing l with
  | case1 e hw =>
    rw [hw]
    exact ⟨[], .nil _ _, rfl⟩
  | case2 => cases h
  | case3 e word rest hw es t hr =>
    obtain ⟨a, n, fs, b, hread, ha⟩ := exists_of_step_eq_ok hs hk (by rw [hr])
    rw [step_of_read hk (hg ▸ hread) (ha word)] at hr
    cases hr
  | case4 e word rest hw m es t hr _ o =>
    rename_i ih
    obtain ⟨a, n, fs, b, hread, ha⟩ := exists_of_step_eq_ok hs hk (by rw [hr])
    rw [step_of_read hk (hg ▸ hread) (ha word)] at hr
    cases hr
    obtain ⟨l', hr⟩ := exists_of_map_eq_ok h
    obtain ⟨gs, hc, hu⟩ := ih hs hk hr hg
    obtain ⟨ws, tail, hl, rfl, hws, ht, hm⟩ := Reader.begins_of_read hread
    have hshort := Reader.shortValues_of_read hread
    rw [hl, List.take_left] at hshort
    rw [waiting_passed hw, hl, List.drop_left] at hc
    refine ⟨fs ++ gs, ?_, ?_⟩
    · rw [hw, hl]
      exact .cons hws hshort ht hm ha hc
    · rw [Event.unlogged_append, unlogged_command, hu, Event.unlogged_append]

/-- An executor to which lexemes may come and which leaves none unread.  Those that wait are the
first of a course, and others of it are still to come. -/
structure OnCourse (e : Executor σ) (cut rest : List Lexeme) (es : List Event) (d : Bench σ) :
    Prop where
  strict : e.strict = false
  ended : e.stream.ended = false
  skipping : e.skipping = none
  index : e.index ≤ e.stream.size
  waiting : Alike e.waiting cut
  course : Course e.params e.index e.bench (cut ++ rest) es d
  lined : Lined (cut ++ rest)

/-- Events of which all holds that holds of all events but those of the plotter, and of those. -/
def Ordinary (σ : Type) [Device σ] (es : List Event) : Prop :=
  ∀ E, Event.Usual E → (∀ c, E (.warn c)) → Device.Leaves σ E → ∀ ev ∈ es, E ev

variable {cut rest l m : List Lexeme} {es' : List Event}

/-- No events are ordinary ones, as there is none among them to be looked at. -/
theorem ordinary_nil : Ordinary σ [] := fun _ _ _ _ _ h => absurd h List.not_mem_nil

/-- Ordinary events, one part after the other, are ordinary. -/
theorem Ordinary.append {es fs : List Event} (h : Ordinary σ es) (k : Ordinary σ fs) :
    Ordinary σ (es ++ fs) := fun E hE hw hd ev hev =>
  (List.mem_append.1 hev).elim (h E hE hw hd ev) (k E hE hw hd ev)

/-- Warnings are ordinary events: neither a request nor a call of the device is among them. -/
theorem ordinary_warnings (l : List Complaint) : Ordinary σ (l.map Event.warn) := by
  intro E _ hw _ ev hev
  obtain ⟨c, -, rfl⟩ := List.mem_map.1 hev
  exact hw c

/-- The record of a command and its events are ordinary. -/
theorem ordinary_of_enact {p : Params} {x : Lexeme} {c : Bench σ}
    (h : Bench.enact p x a b = ⟨.ok (), es, c⟩) :
    Ordinary σ (.log .debug (Bench.record ⟨x, a⟩) :: es) := by
  intro E hE _ hd
  have he : (Bench.execute p 0 ⟨x, a⟩ b).events = .log .debug (Bench.record ⟨x, a⟩) :: es := by
    show _ :: (Bench.enact p x a b).events = _
    rw [h]
  rw [← he]
  exact Bench.events_execute hE hd p 0 ⟨x, a⟩ b

/-- Two ways to cut a list: the first part of one is within the first part of the other. -/
theorem append_eq_append_cases {α : Type} {l m r s : List α} (h : l ++ m = r ++ s) :
    (∃ t, l = r ++ t ∧ s = t ++ m) ∨ ∃ t, r = l ++ t ∧ m = t ++ s ∧ t ≠ [] := by
  rcases List.append_eq_append_iff.1 h with ⟨t, rfl, rfl⟩ | ⟨t, rfl, rfl⟩
  · rcases eq_or_ne t [] with rfl | ht
    · exact .inl ⟨[], by simp, rfl⟩
    · exact .inr ⟨t, rfl, rfl, ht⟩
  · exact .inl ⟨t, rfl, rfl⟩

namespace OnCourse

variable {d : Bench σ}

/-- An executor on course has a stream that may grow, for its end has not come. -/
theorem mayGrow (h : OnCourse e cut rest es d) : e.mayGrow = true := by
  rw [Executor.mayGrow, h.ended, h.strict]
  rfl

/-- More lexemes of a course come. -/
theorem grow (h : OnCourse e cut (m ++ rest) es d) (hl : Alike l m) :
    OnCourse (e.grow l) (cut ++ m) rest es d := by
  refine ⟨h.strict, rfl, h.skipping, ?_, ?_, ?_, ?_⟩
  · rw [size_grow]
    exact h.index.trans (Nat.le_add_right _ _)
  · have hw : (e.grow l).waiting = e.waiting ++ l := List.drop_append_of_le_length h.index
    rw [hw]
    exact List.rel_append h.waiting hl
  · rw [List.append_assoc]
    exact h.course
  · rw [List.append_assoc]
    exact h.lined

/-- A block of which only a part has come is waited for. -/
theorem run_part {ws : List Lexeme} {ss : List (Setting × Value)} {k : Block}
    (h : OnCourse e cut rest es d) (hws : Spells (cut ++ ws) (.setOptions k ss)) (hc : cut ≠ [])
    (hw : ws ≠ []) (hs : Reader.ShortValues (cut ++ ws))
    (hm : (Action.setOptions k ss).PermittedIn e.mode) :
    ∃ l : List Complaint, e.run = ⟨.ok [], l.map Event.warn, e⟩ := by
  have ha : Alike (e.waiting ++ ws) (cut ++ ws) :=
    List.rel_append h.waiting (List.forall₂_refl ws)
  have hlen := h.waiting.length_eq
  rcases hr : e.waiting with _ | ⟨word, part⟩
  · rw [hr] at hlen
    exact absurd (List.length_eq_zero_iff.1 hlen.symm) hc
  · rw [hr] at ha
    have hread : (Reader.read e.mode e.mayGrow word part).result = .error .waiting := by
      rw [h.mayGrow]
      exact Reader.read_part (hws.alike ha) hw hm (hs.alike ha)
    refine ⟨(Reader.read e.mode e.mayGrow word part).warnings, ?_⟩
    have hstep : e.step word part =
        ⟨.ok .waits, (Reader.read e.mode e.mayGrow word part).warnings.map Event.warn, e⟩ := by
      simp only [step, h.skipping, command, hread, after, List.append_nil]
    rw [run_of_cons hr, hstep]

/-- A command that has come is carried out, and then the course goes on.  What waits is read as the
lexemes of the course are, since reading looks at tokens only. -/
theorem run_command {ws tail : List Lexeme} {gs : List Event} {c : Bench σ}
    (h : OnCourse e (ws ++ tail) rest es d) (hws : Spells ws a) (hs : Reader.ShortValues ws)
    (ht : a.EndsBefore (tail ++ rest)) (hm : a.PermittedIn e.mode)
    (ha : ∀ x, Bench.enact e.params x a (e.begun a) = ⟨.ok (), es', c⟩)
    (hc : Course e.params (e.index + ws.length) c (tail ++ rest) gs d) :
    OnCourse (e.passed ws.length c) tail rest gs d ∧ ∃ fs, Ordinary σ fs ∧
      Event.unlogged fs = Event.unlogged es' ∧ e.run = after fs (e.passed ws.length c).run := by
  obtain ⟨u, v, huv, hu, hv⟩ := Alike.exists_append h.waiting
  have hwait : (e.passed ws.length c).waiting = v := by
    rw [waiting_passed huv, ← hu.length_eq, List.drop_left]
  obtain ⟨-, hlined⟩ := (List.append_assoc ws tail rest ▸ h.lined).of_spells hws ht
  constructor
  · refine ⟨h.strict, h.ended, h.skipping, ?_, by rwa [hwait], hc, hlined⟩
    have hlen : e.waiting.length = e.stream.size - e.index := List.length_drop
    rw [huv, List.length_append, hu.length_eq] at hlen
    have hpos := hws.length_pos
    show e.index + ws.length ≤ e.stream.size
    omega
  · have husp := hws.alike hu
    rcases u with _ | ⟨word, part⟩
    · exact absurd husp.length_pos (Nat.lt_irrefl 0)
    · have hread : (Reader.read e.mode e.mayGrow word (part ++ v)).result =
          .ok (a, ws.length) := Reader.read_of_alike hu hv hws hs ht.of_append hm
      have hstep := step_of_read h.skipping hread (ha word)
      generalize (Reader.read e.mode e.mayGrow word (part ++ v)).warnings = l at hstep
      refine ⟨_, (ordinary_warnings l).append (ordinary_of_enact (ha word)),
        unlogged_command l _ es', ?_⟩
      have hcons : e.waiting = word :: (part ++ v) := huv
      rw [run_of_cons hcons, hstep]
      simp only [after]
      congr 1
      rcases (e.passed ws.length c).run.result with f | l <;> rfl

/-- **The course goes on as far as lexemes have come.**  The induction is on their number: a command
that has come is carried out, and one that has not come as a whole waits. -/
theorem run (h : OnCourse e cut rest es d)
    (hn : ∀ x ∈ cut, ∀ y ∈ rest, x.place.lineNumber ≠ y.place.lineNumber) :
    ∃ cut' gs, e.run.result = .ok [] ∧ OnCourse e.run.state cut' rest gs d ∧ cut' <:+ cut ∧
      (rest = [] → cut' = []) ∧
      Event.unlogged es = Event.unlogged e.run.events ++ Event.unlogged gs ∧
      Ordinary σ e.run.events := by
  induction hk : cut.length using Nat.strongRecOn generalizing e cut es with
  | _ k ih =>
  subst hk
  rcases eq_or_ne cut [] with rfl | hne
  · have hw : e.waiting = [] := List.forall₂_nil_right_iff.1 h.waiting
    rw [run_of_nil hw]
    exact ⟨[], es, rfl, h, List.suffix_rfl, fun _ => rfl, rfl, ordinary_nil⟩
  · have hc := h.course
    generalize hL : cut ++ rest = L at hc
    cases hc with
    | nil => exact absurd (List.append_eq_nil_iff.1 hL).1 hne
    | @cons _ _ c _ ws tail a es' fs hws hs ht hm ha hc =>
      rcases append_eq_append_cases hL with ⟨tail', rfl, rfl⟩ | ⟨ws', rfl, rfl, hne'⟩
      · -- The next command has come as a whole.
        obtain ⟨ht, es₁, ho, hu, hrun⟩ := h.run_command hws hs ht hm ha hc
        have hlt : tail'.length < (ws ++ tail').length := by
          rw [List.length_append]
          have hpos := hws.length_pos
          omega
        obtain ⟨cut', gs, hr, ht', hsuf, hnil, hu', ho'⟩ := ih _ hlt ht
          (fun x hx => hn x (List.mem_append_right _ hx)) rfl
        rw [hrun]
        refine ⟨cut', gs, hr, ht', hsuf.trans (List.suffix_append _ _), hnil, ?_, ho.append ho'⟩
        simp [after, hu, hu']
      · -- It has come in part, and only a block may go on in another line.
        obtain ⟨hb, -⟩ := (hL ▸ h.lined).of_spells hws ht
        obtain ⟨x, hx⟩ := List.exists_mem_of_ne_nil cut hne
        obtain ⟨y, hy⟩ := List.exists_mem_of_ne_nil ws' hne'
        obtain ⟨k, ss, rfl⟩ := hb.resolve_right fun ho => hn x hx y (List.mem_append_left _ hy)
          (ho x (List.mem_append_left _ hx) y (List.mem_append_right _ hy))
        obtain ⟨l, hrun⟩ := h.run_part hws hne hne' hs hm
        rw [hrun]
        refine ⟨cut, _, rfl, h, List.suffix_rfl, fun hr => absurd hr ?_, ?_, ordinary_warnings l⟩
        · exact fun hr => hne' (List.append_eq_nil_iff.1 hr).1
        · rw [Event.unlogged_warnings]
          rfl

end OnCourse

end Executor

end PlotScript
