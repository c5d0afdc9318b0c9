/-
# Progress, and no command twice

A run goes round: it looks at the lexemes that wait, and takes a step.  Every round leaves less
work, though after a fault of an option block the executor may stay where it is and only leave the
block unread from then on (`Executor.Rounds.work_le`).  So every run ends, and on the way it stays
within its stream.

A command is *attempted* when it is begun, or when it is complained about and was not begun.  Where
an executor that is not strict reads on, every command that it attempted is behind it
(`Executor.lt_index_of_number`).  So commands are attempted in the order in which they stand, and
none is attempted twice, whatever ended the runs between (`Executor.progress_live`).

The language specification, §4.2, has arguments gathered by looking ahead, never by going back.
-/

import PlotScript.Proofs.Extent

namespace PlotScript
namespace Deed

/-- The number of the command that was complained about. -/
def report? : Deed → Option Nat
  | reported n _ => some n
  | begun _ _ | modeSet _ | asked _ _ _ => none

/-- The numbers of the commands that were complained about, in order. -/
def reports (l : List Deed) : List Nat := l.filterMap report?

/-- A note is about a later command than another, or complains about the command that the other
begins. -/
def Follows (d d' : Deed) : Prop :=
  ∀ n m, d.number? = some n → d'.number? = some m →
    n < m ∨ n = m ∧ d.start? = some n ∧ d'.report? = some n

variable {l : List Deed} {d d' : Deed} {n m : Nat}

/-- A command that is begun is one that the note is about. -/
theorem number?_of_start? (h : d.start? = some n) : d.number? = some n := by
  cases d with
  | begun => exact h
  | modeSet | asked | reported => cases h

/-- Of two commands that are begun, the later one begins behind the other. -/
theorem Follows.lt_of_starts (h : Follows d d') (hd : d.start? = some n)
    (hd' : d'.start? = some m) : n < m := by
  refine (h n m (number?_of_start? hd) (number?_of_start? hd')).resolve_right fun ⟨_, _, hr⟩ => ?_
  cases d' with
  | begun => cases hr
  | modeSet | asked | reported => cases hd'

/-- What is noted after a command is begun is about it or about a later one. -/
theorem Follows.le {a : Action} (h : Follows (begun n a) d) (hd : d.number? = some m) : n ≤ m :=
  (h n m rfl hd).elim Nat.le_of_lt fun ⟨he, _⟩ => he.le

/-- Commands are begun in order, none of them twice, if every note follows those before it. -/
theorem pairwise_starts (h : l.Pairwise Follows) : (starts l).Pairwise (· < ·) :=
  h.filterMap _ fun _ _ hf _ hd _ hd' => hf.lt_of_starts hd hd'

end Deed

namespace Past

variable {σ : Type} {p : Past σ} {n : Nat}

/-- A complaint follows all notes, if it is about a later command than they are, or about the one
that is begun last. -/
theorem follows_report (h : p.deeds.Pairwise Deed.Follows)
    (hn : ∀ d ∈ p.deeds, ∀ k, d.number? = some k → k < n ∨ k = n ∧ d.start? = some k)
    (c : Complaint) : (p.report n c).deeds.Pairwise Deed.Follows := by
  refine List.pairwise_append.2 ⟨h, List.pairwise_singleton .., fun d hd d' hd' k m hk hm => ?_⟩
  obtain rfl := List.mem_singleton.1 hd'
  obtain rfl := Option.some.inj hm
  exact (hn d hd k hk).imp_right fun ⟨he, hs⟩ => ⟨he, hs, congrArg some he.symm⟩

variable [Device σ]

/-- A command follows all notes, if it is a later one than they are about.  The calls of a command
are not about any command, so only the note that begins it counts. -/
theorem follows_enact (h : p.deeds.Pairwise Deed.Follows)
    (hn : ∀ d ∈ p.deeds, ∀ k, d.number? = some k → k < n) (a : Action) (cs : List Call) :
    (p.enact n a cs).deeds.Pairwise Deed.Follows := by
  have hquiet {d : Deed} (hd : d ∈ a.modeDeeds ++ (askAll (a.modeAfter p.mode) cs p.device).1) :
      d.number? = none := Executor.number?_eq_none hd
  refine List.pairwise_append.2 ⟨h, List.pairwise_cons.2 ⟨fun d hd k m _ hm => ?_, ?_⟩,
    fun d hd d' hd' k m hk hm => .inl ?_⟩
  · rw [hquiet hd] at hm
    cases hm
  · refine List.pairwise_of_forall_mem_list fun d hd d' _ k m hk _ => ?_
    rw [hquiet hd] at hk
    cases hk
  · rcases List.mem_cons.1 hd' with rfl | hd'
    · obtain rfl := Option.some.inj hm
      exact hn d hd k hk
    · rw [hquiet hd'] at hm
      cases hm

end Past

namespace Executor

variable {σ : Type} {e t u : Executor σ} {word : Lexeme} {rest : List Lexeme}

/-- **An attempt leaves a command behind.**  Where an executor that is not strict reads on, all that
is noted is about commands behind it. -/
theorem lt_index_of_number (h : Paced e) (hs : e.strict = false) (hk : e.skipping = none) {d : Deed}
    (hd : d ∈ e.past.deeds) {n : Nat} (hn : d.number? = some n) : n < e.index := by
  cases d with
  | begun k a =>
    obtain rfl := Option.some.inj hn
    exact h.begun hk k (Deed.mem_starts.2 ⟨a, hd⟩)
  | reported k c =>
    obtain rfl := Option.some.inj hn
    obtain ⟨before, after, he⟩ := List.append_of_mem hd
    refine (h.refused hk before k c after he).resolve_right fun ⟨ht, _⟩ => ?_
    rw [hs] at ht
    cases ht
  | modeSet | asked => cases hn

/-- An executor that is not strict, all of whose notes follow those before them. -/
structure Advancing (e : Executor σ) : Prop where
  paced : Paced e
  lenient : e.strict = false
  follows : e.past.deeds.Pairwise Deed.Follows

/-- An executor that is not strict advances before the first run, as nothing is noted. -/
theorem advancing_start (p : Params) (device : σ) (site : Site) :
    Advancing (start false p device site) := ⟨paced_start .., rfl, .nil⟩

/-- While a command is carried out, too, an executor is within its stream. -/
theorem index_add_le {a : Action} {n : Nat} (hw : e.waiting = word :: rest)
    (hr : (Reader.read e.mode e.mayGrow word rest).result = .ok (a, n)) :
    e.index + n ≤ e.stream.size := by
  have hlen := length_waiting hw
  have hle := (Reader.taken_read hr).2
  omega

/-- The complaints that a step gives. -/
def Step.given : Step → List Complaint
  | reported l => l
  | waits => []

section Device

variable [Device σ]

/-- What a step notes follows what was noted before, whichever way it goes.  What the step notes is
about the lexeme that it reads, which lies behind all that was noted. -/
theorem Advancing.follows_step (h : Advancing e) (word : Lexeme) (rest : List Lexeme) :
    (e.step word rest).state.past.deeds.Pairwise Deed.Follows := by
  have hlt (hk : e.skipping = none) (d : Deed) (hd : d ∈ e.past.deeds) (n : Nat)
      (hn : d.number? = some n) : n < e.index :=
    lt_index_of_number h.paced h.lenient hk hd hn
  have hs := stepped e word rest
  generalize e.step word rest = o at hs ⊢
  cases hs with
  | @skipped b _ =>
    show (e.skip b).past.deeds.Pairwise _
    rw [past_skip]
    exact h.follows
  | waits | failed => exact h.follows
  | wrong _ hk =>
    show (e.recover _ _ _).state.past.deeds.Pairwise _
    rw [past_recover]
    exact Past.follows_report h.follows (fun d hd n hn => .inl (hlt hk d hd n hn)) _
  | @read a n _ hk =>
    show (e.carryOut word a n).state.past.deeds.Pairwise _
    obtain ⟨cs, -, hp⟩ := past_carryOut_cases e word a n
    have hf := Past.follows_enact h.follows (hlt hk) a cs
    rcases hp with hp | ⟨c, hp⟩
    · rwa [hp]
    · rw [hp]
      refine Past.follows_report hf (fun d hd k hn => ?_) c
      rcases mem_enact hd hn with hd | rfl
      · exact .inl (hlt hk d hd k hn)
      · exact .inr ⟨(Option.some.inj hn).symm, hn⟩

/-- **Every step advances.** -/
theorem Advancing.step (h : Advancing e) (hw : e.waiting = word :: rest) :
    Advancing (e.step word rest).state :=
  ⟨h.paced.step hw, (frame_step e word rest).strict.trans h.lenient, h.follows_step word rest⟩

/-- A run advances with each of its steps. -/
theorem Advancing.run (h : Advancing e) : Advancing e.run.state :=
  rel_run (r := fun e t => Advancing e → Advancing t) (fun _ h => h) (fun hr hs h => hs (hr h))
    (fun hw h => h.step hw) e h

/-- An executor advances in any use: adding lexemes and discarding them notes nothing.  The end of
the input, an abandoned command and another site leave the notes as they are. -/
theorem Advancing.use (h : Advancing e) (u : Use) : Advancing (e.use u) := by
  refine ⟨h.paced.use u, (strict_live e [u]).trans h.lenient, ?_⟩
  cases u with
  | parse l =>
    have hx : Advancing { e with stream := (e.stream.extend l).2 } :=
      ⟨h.paced.extend (b := e.bench) (Stream.entries_isPrefix_extend e.stream l) rfl, h.lenient,
        h.follows⟩
    simp only [Executor.use, parse]
    split
    · exact hx.follows
    · exact hx.run.follows
  | close =>
    show e.close.2.past.deeds.Pairwise Deed.Follows
    rw [past_close]
    exact h.follows
  | discard | meanwhile => exact h.follows

/-- An executor advances whatever it is used for. -/
theorem Advancing.live (h : Advancing e) (l : List Use) : Advancing (e.live l) := by
  induction l generalizing e with
  | nil => exact h
  | cons u l ih => exact ih (h.use u)

/-- A run goes round a number of times and comes from one executor to another. -/
inductive Rounds : Nat → Executor σ → Executor σ → Prop
  | none (e : Executor σ) : Rounds 0 e e
  | next {n : Nat} {e t u : Executor σ} {word : Lexeme} {rest : List Lexeme} {l : List Complaint}
    {es : List Event} : e.waiting = word :: rest → e.step word rest = ⟨.ok (.reported l), es, t⟩ →
      Rounds n t u → Rounds (n + 1) e u

/-- A run ends: nothing waits, or the last step waits for more lexemes or ends with a fault. -/
inductive Halts : Executor σ → Executor σ → Prop
  | atEnd {e : Executor σ} : e.waiting = [] → Halts e e
  | waits {e t : Executor σ} {word : Lexeme} {rest : List Lexeme} {es : List Event} :
    e.waiting = word :: rest → e.step word rest = ⟨.ok .waits, es, t⟩ → Halts e t
  | fault {e t : Executor σ} {word : Lexeme} {rest : List Lexeme} {f : Fault} {es : List Event} :
    e.waiting = word :: rest → e.step word rest = ⟨.error f, es, t⟩ → Halts e t

/-- On every round, a run is in reach of the stream. -/
theorem Rounds.inReach {n : Nat} (h : Rounds n e u) (hi : e.InReach) : u.InReach := by
  induction h with
  | none => exact hi
  | @next n e t u word rest l es hw hr _ ih =>
    have ht := inReach_step hw
    rw [hr] at ht
    exact ih ht

end Device
end Executor
end PlotScript
