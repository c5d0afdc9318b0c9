/-
# Option blocks are all or nothing

The calls that set options and commit them are made in groups, one group for each option block that
is carried out: a call for every setting, in the order of the block, and then the commit, with no
other call in between.  Only a call that is refused cuts a group short (`Deed.Grouped`).

Blocks are carried out in the order in which they stand, none of them twice, and each of them is
closed and valid in the mode of that moment (`Deed.Orderly`).  So a block that is faulty anywhere,
not closed, discarded or refused for its mode makes no call at all, however its lexemes came; and
one that reading comes to, and that is valid, makes its calls (`options_all_or_nothing`).

In the language specification this is §14: no setter runs before the whole block was validated.
-/

import PlotScript.Proofs.Recovery
import PlotScript.Proofs.Strict

namespace PlotScript

open Grammar

/-- A call that sets an option or commits options. -/
def Call.IsOption : Call → Prop
  | set _ _ | commitOptions => True
  | _ => False

/-- Only option blocks set options.  The cases are the commands with the calls that they may
make. -/
theorem eq_setOptions_of_isOption {a : Action} {cs : List Call} (h : a.MayCall cs) {c : Call}
    (hc : c ∈ cs) (ho : c.IsOption) : ∃ b settings, a = .setOptions b settings := by
  cases h with
  | stored =>
    obtain rfl := List.mem_singleton.1 hc
    exact ho.elim
  | noDrawing | notLoaded => cases hc
  | all =>
    cases a with
    | setOptions b settings => exact ⟨b, settings, rfl⟩
    | setMode m =>
      cases m with
      | plot => cases hc
      | interactive =>
        rcases List.mem_pair.1 hc with rfl | rfl
        · exact ho.elim
        · exact ho.elim
    | _ =>
      obtain rfl := List.mem_singleton.1 hc
      exact ho.elim

/-- An element of two lists one after the other is in the first or in the second. -/
theorem append_eq_append_cons {α : Type} {l new before after : List α} {x : α}
    (h : l ++ new = before ++ x :: after) :
    (∃ r, l = before ++ x :: r ∧ after = r ++ new) ∨
      ∃ mid, before = l ++ mid ∧ new = mid ++ x :: after := by
  rcases List.append_eq_append_iff.1 h with ⟨mid, hb, hn⟩ | ⟨mid, hl, hn⟩
  · exact .inr ⟨mid, hb, hn⟩
  · cases mid with
    | nil => exact .inr ⟨[], by rw [hl, List.append_nil, List.append_nil], hn.symm⟩
    | cons y r =>
      obtain ⟨rfl, rfl⟩ := List.cons.inj hn
      exact .inl ⟨r, hl, rfl⟩

namespace Deed

/-- Calls made one after the other in a mode: all are answered, or one is refused and none is made
after it. -/
inductive Made (mode : Option Mode) : List Call → List Deed → Prop
  | nil : Made mode [] []
  | refused (c : Call) (r : Refusal) (cs : List Call) :
    Made mode (c :: cs) [.asked mode c (.error r)]
  | answered {c : Call} (a : c.Answer) {cs : List Call} {l : List Deed} : Made mode cs l →
    Made mode (c :: cs) (.asked mode c (.ok a) :: l)

/-- Calls that are made one after the other are all answered, or the first that is refused is the
last. -/
theorem made_askAll {σ : Type} [Device σ] (mode : Option Mode) (cs : List Call) (d : σ) :
    Made mode cs (askAll mode cs d).1 := by
  induction cs generalizing d with
  | nil => exact .nil
  | cons c cs ih =>
    rcases h : (Device.perform c d).result with r | a
    · rw [askAll_of_error h]
      exact .refused c r cs
    · rw [askAll_of_ok h]
      exact .answered a (ih _)

/-- The mode in which notes leave a script. -/
def modeAt (l : List Deed) : Option Mode := (modes l).getLast?

/-- The number at which a command was begun. -/
def start? : Deed → Option Nat
  | begun n _ => some n
  | modeSet _ | asked _ _ _ | reported _ _ => none

/-- The number of the command that a note is about. -/
def number? : Deed → Option Nat
  | begun n _ | reported n _ => some n
  | modeSet _ | asked _ _ _ => none

/-- The numbers at which commands were begun, in order. -/
def starts (l : List Deed) : List Nat := l.filterMap start?

/-- The commands begun among notes are those among the first of them, and those among the others
after them. -/
@[simp] theorem starts_append (l m : List Deed) : starts (l ++ m) = starts l ++ starts m :=
  List.filterMap_append

/-- A number is one at which a command was begun if this is noted. -/
theorem mem_starts {l : List Deed} {n : Nat} : n ∈ starts l ↔ ∃ a, begun n a ∈ l := by
  rw [starts, List.mem_filterMap]
  constructor
  · rintro ⟨d, hd, h⟩
    cases d with
    | begun k a =>
      obtain rfl : k = n := Option.some.inj h
      exact ⟨a, hd⟩
    | modeSet | asked | reported => cases h
  · rintro ⟨a, h⟩
    exact ⟨_, h, rfl⟩

/-- Notes that are about no command begin none. -/
theorem starts_eq_nil {l : List Deed} (h : ∀ d ∈ l, d.number? = none) : starts l = [] := by
  rw [starts, List.filterMap_eq_nil_iff]
  intro d hd
  have hn := h d hd
  cases d with
  | begun | reported => cases hn
  | modeSet | asked => rfl

/-- Option calls are made in groups: each one is made for an option block, with nothing but the
block's other calls before it, and the calls for a block are its settings in order and the commit,
cut short only at a call that is refused. -/
structure Grouped (l : List Deed) : Prop where
  within : ∀ before k c r after, l = before ++ asked k c r :: after → c.IsOption →
    ∃ first n b settings made, before = first ++ begun n (.setOptions b settings) :: made ∧
      ∀ d ∈ made, d.call? ≠ none
  whole : ∀ before n b settings after, l = before ++ begun n (.setOptions b settings) :: after →
    ∃ made rest, after = made ++ rest ∧
      Made (modeAt before) (Action.setOptions b settings).calls made ∧
      ∀ d ∈ rest.head?, d.call? = none

/-- Without notes there is nothing to be grouped. -/
theorem grouped_nil : Grouped [] := ⟨by simp, by simp⟩

/-- Notes may be added that are no option calls and begin no block.  A group of calls ends with what
was noted last, since no call comes next. -/
theorem Grouped.append {l new : List Deed} (h : Grouped l) (hn : ∀ d ∈ new.head?, d.call? = none)
    (hc : ∀ k c r, asked k c r ∈ new → ¬c.IsOption)
    (hb : ∀ n b settings, begun n (.setOptions b settings) ∉ new) : Grouped (l ++ new) := by
  refine ⟨fun before k c r after he ho => ?_, fun before n b settings after he => ?_⟩
  · rcases append_eq_append_cons he with ⟨rest, hl, -⟩ | ⟨mid, -, hnew⟩
    · exact h.within before k c r rest hl ho
    · exact absurd ho (hc k c r (hnew ▸ List.mem_append_right _ List.mem_cons_self))
  · rcases append_eq_append_cons he with ⟨rest, hl, rfl⟩ | ⟨mid, -, hnew⟩
    · obtain ⟨made, rest', rfl, hm, hr⟩ := h.whole before n b settings rest hl
      refine ⟨made, rest' ++ new, List.append_assoc .., hm, ?_⟩
      cases rest' with
      | nil => exact hn
      | cons d t => exact hr
    · exact absurd (hnew ▸ List.mem_append_right _ List.mem_cons_self) (hb n b settings)

/-- The calls of a block may be added after the note that it is begun.  Notes before it are grouped
as they were, and the new ones are a group of their own. -/
theorem Grouped.append_block {l made : List Deed} (h : Grouped l) (n : Nat) {b : Block}
    {settings : List (Setting × Value)}
    (hm : Made (modeAt l) (Action.setOptions b settings).calls made)
    (hd : ∀ d ∈ made, d.call? ≠ none) :
    Grouped (l ++ begun n (.setOptions b settings) :: made) := by
  refine ⟨fun before k c r after he ho => ?_, fun before n' b' settings' after he => ?_⟩
  · rcases append_eq_append_cons he with ⟨rest, hl, -⟩ | ⟨mid, rfl, hnew⟩
    · exact h.within before k c r rest hl ho
    · cases mid with
      | nil => cases hnew
      | cons x mid =>
        obtain ⟨rfl, hmade⟩ := List.cons.inj hnew
        exact ⟨l, n, b, settings, mid, rfl, fun d hd' => hd d (hmade ▸ List.mem_append_left _ hd')⟩
  · rcases append_eq_append_cons he with ⟨rest, hl, rfl⟩ | ⟨mid, rfl, hnew⟩
    · obtain ⟨made', rest', rfl, hm', hr⟩ := h.whole before n' b' settings' rest hl
      refine ⟨made', rest' ++ begun n (.setOptions b settings) :: made, List.append_assoc .., hm', ?_⟩
      cases rest' with
      | nil =>
        intro d hd'
        obtain rfl := Option.some.inj hd'
        rfl
      | cons d t => exact hr
    · cases mid with
      | nil =>
        cases hnew
        rw [List.append_nil]
        exact ⟨made, [], (List.append_nil _).symm, hm, by simp⟩
      | cons x mid =>
        -- what is noted after the beginning of the block are calls
        obtain ⟨-, hmade⟩ := List.cons.inj hnew
        have hmem : begun n' (.setOptions b' settings') ∈ made := by
          rw [hmade]
          exact List.mem_append_right _ List.mem_cons_self
        exact absurd rfl (hd _ hmem)

end Deed

namespace Past

variable {σ : Type} [Device σ] {p q : Past σ}

omit [Device σ] in
/-- The mode in which the notes leave a script is the mode that it has. -/
theorem Safe.modeAt_eq (h : Safe p) : Deed.modeAt p.deeds = p.mode := by
  rw [Deed.modeAt, h.modes]
  cases p.mode <;> rfl

/-- **Every step makes option calls in groups.**  Only a command for a block makes calls of this
kind, and it makes them right behind the note that it is begun. -/
theorem grouped_of_step (h : Deed.Grouped p.deeds) (hp : Safe p) (hs : Step p q) :
    Deed.Grouped q.deeds := by
  cases hs with
  | reported n c =>
    refine h.append (by rintro d ⟨⟩; rfl) (fun k c' r hx => ?_) (fun k b settings hx => ?_)
    · cases List.mem_singleton.1 hx
    · cases List.mem_singleton.1 hx
  | @enacted n a cs ha hc =>
    by_cases hb : ∃ b settings, a = .setOptions b settings
    · obtain ⟨b, settings, rfl⟩ := hb
      cases hc
      refine h.append_block n ?_ fun d hd => ?_
      · rw [hp.modeAt_eq]
        exact Deed.made_askAll _ _ _
      · obtain ⟨c, r, rfl, -⟩ := asked_of_mem_askAll hd
        exact Option.some_ne_none c
    · refine h.append (by rintro d ⟨⟩; rfl) (fun k c r hx ho => ?_) (fun k b settings hx => ?_)
      · rcases List.mem_cons.1 hx with hx | hx
        · cases hx
        rcases List.mem_append.1 hx with hx | hx
        · obtain ⟨m, hx⟩ := Action.exists_of_mem_modeDeeds hx
          cases hx
        · obtain ⟨c', r', he, hc'⟩ := asked_of_mem_askAll hx
          cases he
          exact hb (eq_setOptions_of_isOption hc hc' ho)
      · rcases List.mem_cons.1 hx with hx | hx
        · cases hx
          exact hb ⟨b, settings, rfl⟩
        rcases List.mem_append.1 hx with hx | hx
        · obtain ⟨m, hx⟩ := Action.exists_of_mem_modeDeeds hx
          cases hx
        · obtain ⟨c', r', he, -⟩ := asked_of_mem_askAll hx
          cases he

/-- However the past of a script goes on, option calls are made in groups. -/
theorem grouped_of_leads (h : Deed.Grouped p.deeds) (hp : Safe p) (hl : Leads p q) :
    Deed.Grouped q.deeds := by
  induction hl with
  | refl => exact h
  | tail hl hs ih => exact grouped_of_step ih (hp.of_leads hl) hs

end Past

namespace Deed

/-- How commands are begun, for the lexemes of a stream.  None is begun twice, and they are begun in
the order in which they stand.  An option block that is begun is valid in the mode of that moment;
and if there was a complaint about it before, then the executor is strict and the block was valid in
the mode of that moment, too, so that it lacked lexemes only. -/
structure Orderly (strict : Bool) (l : List Lexeme) (ds : List Deed) : Prop where
  valid : ∀ before n b settings after, ds = before ++ begun n (.setOptions b settings) :: after →
    ∃ k, Begins (modeAt before) (l.drop n) (.setOptions b settings) k
  once : (starts ds).Pairwise (· < ·)
  refused : ∀ before n c after b settings, ds = before ++ reported n c :: after →
    begun n (.setOptions b settings) ∈ after → strict = true ∧
      ∃ k, Begins (modeAt before) (l.drop n) (.setOptions b settings) k

/-- Without notes no command was begun. -/
theorem orderly_nil (strict : Bool) : Orderly strict [] [] :=
  ⟨by simp, List.Pairwise.nil, by simp⟩

variable {strict : Bool} {l : List Lexeme} {ds new : List Deed}

/-- A block that is valid stays so when lexemes follow it. -/
theorem begins_drop_append {mode : Option Mode} {b : Block} {settings : List (Setting × Value)}
    {n k : Nat} (h : Begins mode (l.drop n) (.setOptions b settings) k) (m : List Lexeme) :
    Begins mode ((l ++ m).drop n) (.setOptions b settings) k := by
  obtain ⟨ws, tail, hl, hk, hws, -, hm⟩ := h
  refine ⟨ws, tail ++ m.drop (n - l.length), ?_, hk, hws, trivial, hm⟩
  rw [List.drop_append, hl, List.append_assoc]

/-- What was begun in order is in order when lexemes come: a block that is valid stays so. -/
theorem Orderly.append_lexemes (h : Orderly strict l ds) (m : List Lexeme) :
    Orderly strict (l ++ m) ds := by
  refine ⟨fun before n b settings after he => ?_, h.once,
    fun before n c after b settings he hb => ?_⟩
  · obtain ⟨k, hk⟩ := h.valid before n b settings after he
    exact ⟨k, begins_drop_append hk m⟩
  · obtain ⟨hs, k, hk⟩ := h.refused before n c after b settings he hb
    exact ⟨hs, k, begins_drop_append hk m⟩

/-- Notes may be added that begin no command.  So what was begun is in the old notes, and stays in
order there. -/
theorem Orderly.append_quiet (h : Orderly strict l ds) (hn : starts new = []) :
    Orderly strict l (ds ++ new) := by
  have hnew : ∀ n a, begun n a ∉ new := by
    intro n a ha
    have hs := mem_starts.2 ⟨a, ha⟩
    rw [hn] at hs
    cases hs
  refine ⟨fun before n b settings after he => ?_, ?_, fun before n c after b settings he hb => ?_⟩
  · rcases append_eq_append_cons he with ⟨rest, hl, -⟩ | ⟨mid, -, hm⟩
    · exact h.valid before n b settings rest hl
    · exact absurd (hm ▸ List.mem_append_right _ List.mem_cons_self) (hnew n _)
  · rw [starts_append, hn, List.append_nil]
    exact h.once
  · rcases append_eq_append_cons he with ⟨rest, hl, rfl⟩ | ⟨mid, -, hm⟩
    · rcases List.mem_append.1 hb with hb | hb
      · exact h.refused before n c rest b settings hl hb
      · exact absurd hb (hnew n _)
    · exact absurd (hm ▸ List.mem_append_right _ (List.mem_cons_of_mem _ hb)) (hnew n _)

/-- A command may be begun behind all others, if it is valid, and if complaints about it before came
from a strict executor in the same mode. -/
theorem Orderly.append_begun (h : Orderly strict l ds) {n : Nat} {a : Action}
    (hlt : ∀ k ∈ starts ds, k < n)
    (hv : ∀ b settings, a = .setOptions b settings → ∃ k, Begins (modeAt ds) (l.drop n) a k)
    (hr : ∀ before c after, ds = before ++ reported n c :: after →
      strict = true ∧ modeAt before = modeAt ds) : Orderly strict l (ds ++ [begun n a]) := by
  refine ⟨fun before n' b settings after he => ?_, ?_, fun before n' c after b settings he hb => ?_⟩
  · rcases append_eq_append_cons he with ⟨rest, hl, -⟩ | ⟨mid, rfl, hm⟩
    · exact h.valid before n' b settings rest hl
    · rw [List.singleton_eq_append_iff] at hm
      rcases hm with ⟨rfl, hm⟩ | ⟨-, hm⟩
      · cases hm
        rw [List.append_nil]
        exact hv b settings rfl
      · cases hm
  · rw [starts_append]
    refine List.pairwise_append.2 ⟨h.once, List.pairwise_singleton .., fun k hk j hj => ?_⟩
    obtain rfl := List.mem_singleton.1 hj
    exact hlt k hk
  · rcases append_eq_append_cons he with ⟨rest, hl, rfl⟩ | ⟨mid, rfl, hm⟩
    · rcases List.mem_append.1 hb with hb | hb
      · exact h.refused before n' c rest b settings hl hb
      · cases List.mem_singleton.1 hb
        obtain ⟨hs, hmode⟩ := hr before c rest hl
        rw [hmode]
        exact ⟨hs, hv b settings rfl⟩
    · rw [List.singleton_eq_append_iff] at hm
      rcases hm with ⟨-, hm⟩ | ⟨-, hm⟩ <;> cases hm

end Deed

namespace Executor

variable {σ : Type}

/-- How an executor keeps pace with the notes of its script: all commands that are noted are behind
it, but for two.  A block that it leaves unread may begin where it is; and a command that a strict
executor complained about may still wait. -/
structure Paced (e : Executor σ) : Prop where
  safe : e.past.Safe
  orderly : Deed.Orderly e.strict e.stream.entries e.past.deeds
  noted : ∀ d ∈ e.past.deeds, ∀ n, d.number? = some n → n < e.stream.size ∧ n ≤ e.index
  begun : e.skipping = none → ∀ n ∈ Deed.starts e.past.deeds, n < e.index
  refused : e.skipping = none → ∀ before n c after, e.past.deeds = before ++ .reported n c :: after →
    n < e.index ∨ e.strict = true ∧ Deed.modeAt before = e.past.mode

/-- An executor keeps pace before the first run, as nothing is noted. -/
theorem paced_start (strict : Bool) (p : Params) (device : σ) (site : Site) :
    Paced (start strict p device site) :=
  ⟨Past.safe_start device, Deed.orderly_nil strict, by simp [start, past, Bench.past, Bench.start],
    by simp [start, past, Bench.past, Bench.start, Deed.starts],
    by simp [start, past, Bench.past, Bench.start]⟩

variable {e t : Executor σ} {word : Lexeme} {rest : List Lexeme}

/-- The number of a command that was begun is noted. -/
theorem Paced.lt_size_of_mem_starts (h : Paced e) {n : Nat} (hn : n ∈ Deed.starts e.past.deeds) :
    n < e.stream.size ∧ n ≤ e.index := by
  obtain ⟨a, ha⟩ := Deed.mem_starts.1 hn
  exact h.noted _ ha n rfl

/-- An executor may move beyond all that is noted.  It may not go back behind a command that was
begun or complained about. -/
theorem Paced.move (h : Paced e) (hp : t.past = e.past) (hs : t.strict = e.strict)
    (he : t.stream = e.stream)
    (ht : ∀ n, n < e.stream.size → n ≤ e.index → n < t.index) : Paced t := by
  refine ⟨hp ▸ h.safe, ?_, fun d hd n hn => ?_, fun _ n hn => ?_, fun _ before n c after hd => ?_⟩
  · rw [hp, hs, he]
    exact h.orderly
  · rw [hp] at hd
    obtain ⟨hlt, hle⟩ := h.noted d hd n hn
    rw [he]
    exact ⟨hlt, (ht n hlt hle).le⟩
  · rw [hp] at hn
    obtain ⟨hlt, hle⟩ := h.lt_size_of_mem_starts hn
    exact ht n hlt hle
  · rw [hp] at hd
    obtain ⟨hlt, hle⟩ := h.noted (.reported n c) (hd ▸ by simp) n rfl
    exact .inl (ht n hlt hle)

/-- Lexemes may be added, and the site may change.  What was noted is about lexemes that were there,
and those keep their numbers. -/
theorem Paced.extend (h : Paced e) {s : Stream} (hs : e.stream.entries <+: s.entries)
    {b : Bench σ} (hb : b.past = e.past) : Paced { e with stream := s, bench := b } := by
  have hp : Executor.past { e with stream := s, bench := b } = e.past := hb
  obtain ⟨m, hm⟩ := hs
  have hsize : e.stream.size ≤ s.size := by
    rw [Stream.size, Stream.size, ← hm, List.length_append]
    exact Nat.le_add_right ..
  refine ⟨hp ▸ h.safe, ?_, fun d hd n hn => ?_, fun hk n hn => h.begun hk n (hp ▸ hn),
    fun hk before n c after hd => ?_⟩
  · rw [hp]
    show Deed.Orderly e.strict s.entries _
    rw [← hm]
    exact h.orderly.append_lexemes m
  · rw [hp] at hd
    obtain ⟨hlt, hle⟩ := h.noted d hd n hn
    exact ⟨hlt.trans_le hsize, hle⟩
  · rw [hp] at hd ⊢
    exact h.refused hk before n c after hd

/-- Passing over a block leaves a lexeme behind, if one waits. -/
theorem lt_index_skip {b : Block} (h : e.index < e.stream.size) : e.index < (e.skip b).index := by
  have ht := skipped e b
  generalize e.skip b = t at ht ⊢
  cases ht with
  | @closed front =>
    show e.index < e.index + front.length + 1
    omega
  | unclosed => exact h

/-- An executor that passes over a block keeps pace. -/
theorem Paced.skip (h : Paced e) (b : Block) (hi : e.index < e.stream.size) : Paced (e.skip b) :=
  have hf := frame_skip e b
  h.move (past_skip e b) hf.strict hf.stream fun _ _ hle => hle.trans_lt (lt_index_skip hi)

/-- An executor that discards what waits keeps pace: it moves beyond all that is noted. -/
theorem Paced.discard (h : Paced e) : Paced e.discard := h.move rfl rfl rfl fun _ hlt _ => hlt

/-- After a complaint all is behind, or a block is left unread, unless a strict executor stays where
it is. -/
theorem lt_index_recover {start : Nat} {c : Complaint}
    (hx : e.astray start word c = true → start < e.index)
    (h : (e.recover start word c).state.skipping = none) :
    start < (e.recover start word c).state.index ∨
      e.strict = true ∧ (e.recover start word c).state.index = e.index := by
  have ho := recovered e start word c
  generalize e.recover start word c = o at h ho ⊢
  cases ho with
  | ended hs => exact .inr ⟨hs, rfl⟩
  | lost _ hb hle => exact .inl (hx (astray_of_not_lt hb (Nat.not_lt.2 hle)))
  | inBlock => cases h
  | nextLine => exact .inl ((le_blamed start c).trans_lt (lt_nextLine e.stream (blamed start c)))

section Device

variable [Device σ]

/-- A complaint is noted about the last command that is noted, or about one behind all others; so
the numbers of the notes go on in order, and the executor is not before any of them. -/
theorem Paced.recover (h : Paced e) (hk : e.skipping = none) {start : Nat} (hs : start ≤ e.index)
    (hlt : start < e.stream.size)
    (hle : ∀ d ∈ e.past.deeds, ∀ n, d.number? = some n → n ≤ start) {c : Complaint}
    (hx : e.astray start word c = true → start < e.index) :
    Paced (e.recover start word c).state := by
  have hf := frame_recover e start word c
  have hi : start ≤ (e.recover start word c).state.index := le_index_recover hs c
  have hnext := @lt_index_recover σ e word start c hx
  have hp := past_recover e start word c
  generalize (e.recover start word c).state = t at hf hi hnext hp
  have hd : t.past.deeds = e.past.deeds ++ [.reported start c] := by
    rw [hp]
    rfl
  -- Safe, orderly, all noted commands within reach, and those begun or refused behind.
  refine ⟨?_, ?_, fun d hd' n hn => ?_, fun hk' n hn => ?_, fun hk' before n c' after hd' => ?_⟩
  · rw [hp]
    exact h.safe.of_step (.reported _ start c)
  · rw [hd, hf.strict, hf.stream]
    exact h.orderly.append_quiet rfl
  · rw [hd] at hd'
    rw [hf.stream]
    rcases List.mem_append.1 hd' with hd' | hd'
    · exact ⟨(h.noted d hd' n hn).1, (hle d hd' n hn).trans hi⟩
    · obtain rfl := List.mem_singleton.1 hd'
      obtain rfl := Option.some.inj hn
      exact ⟨hlt, hi⟩
  · rw [hd, Deed.starts_append] at hn
    obtain ⟨a, ha⟩ := Deed.mem_starts.1 (List.append_nil (Deed.starts _) ▸ hn)
    rcases hnext hk' with hlt' | ⟨-, he⟩
    · exact (hle _ ha n rfl).trans_lt hlt'
    · rw [he]
      exact h.begun hk n (Deed.mem_starts.2 ⟨a, ha⟩)
  · rw [hd] at hd'
    rw [hf.strict, show t.past.mode = e.past.mode by rw [hp]; rfl]
    rcases append_eq_append_cons hd' with ⟨r, he, -⟩ | ⟨mid, rfl, hm⟩
    · have hle' : n ≤ start := hle (.reported n c') (he ▸ by simp) n rfl
      rcases hnext hk' with hlt' | ⟨-, hindex⟩
      · exact .inl (hle'.trans_lt hlt')
      · rw [hindex]
        exact h.refused hk before n c' r he
    · rw [List.singleton_eq_append_iff] at hm
      obtain ⟨rfl, hm⟩ | ⟨-, hm⟩ := hm
      · cases hm
        rw [List.append_nil]
        exact (hnext hk').imp_right fun hx => ⟨hx.1, h.safe.modeAt_eq⟩
      · cases hm

/-- What a command notes after it is begun is no beginning and no complaint. -/
theorem number?_eq_none {a : Action} {mode : Option Mode} {cs : List Call} {device : σ} {d : Deed}
    (hd : d ∈ a.modeDeeds ++ (askAll mode cs device).1) : d.number? = none := by
  rcases List.mem_append.1 hd with hd | hd
  · obtain ⟨m, rfl⟩ := Action.exists_of_mem_modeDeeds hd
    rfl
  · obtain ⟨c, r, rfl, -⟩ := asked_of_mem_askAll hd
    rfl

/-- What has a number after a command is carried out had it before, or is the note that it was
begun. -/
theorem mem_enact {p : Past σ} {n k : Nat} {a : Action} {cs : List Call} {d : Deed}
    (hd : d ∈ (p.enact n a cs).deeds) (hk : d.number? = some k) : d ∈ p.deeds ∨ d = .begun n a := by
  rcases List.mem_append.1 hd with hd | hd
  · exact .inl hd
  · rcases List.mem_cons.1 hd with rfl | hd
    · exact .inr rfl
    · rw [number?_eq_none hd] at hk
      cases hk

/-- What is noted when a command is carried out is about commands before, or about it. -/
theorem forall_number_enact {p : Past σ} {q : Nat → Prop}
    (h : ∀ d ∈ p.deeds, ∀ k, d.number? = some k → q k) {n : Nat} (hn : q n) (a : Action)
    (cs : List Call) : ∀ d ∈ (p.enact n a cs).deeds, ∀ k, d.number? = some k → q k := by
  intro d hd k hk
  rcases mem_enact hd hk with hd | rfl
  · exact h d hd k hk
  · obtain rfl := Option.some.inj hk
    exact hn

/-- A command that begins where the executor is may be carried out, and the executor passes it.  It
is the first note with its number, since all earlier ones have smaller numbers. -/
theorem Paced.enact (h : Paced e) (hk : e.skipping = none) (hw : e.waiting = word :: rest)
    {a : Action} {n : Nat} (hb : Begins e.mode (word :: rest) a n) {cs : List Call}
    (hc : a.MayCall cs) {b : Bench σ} (hb' : b.past = e.past.enact e.index a cs) :
    Paced (e.passed n b) := by
  obtain ⟨ws, tail, -, rfl, hws, -, hperm⟩ := id hb
  have hpos := hws.length_pos
  have hlt := index_lt_of_waiting hw
  have hp : (e.passed ws.length b).past = e.past.enact e.index a cs := hb'
  generalize hq : a.modeDeeds ++ (askAll (a.modeAfter e.past.mode) cs e.past.device).1 = quiet
  -- The calls and the change of the mode have no numbers.
  have hquiet : ∀ d ∈ quiet, d.number? = none := fun d hd => number?_eq_none (hq ▸ hd)
  have hd : (e.passed ws.length b).past.deeds = (e.past.deeds ++ [.begun e.index a]) ++ quiet := by
    rw [hp, ← hq]
    exact (List.append_assoc _ [_] _).symm
  have hnone : Deed.starts quiet = [] := Deed.starts_eq_nil hquiet
  refine ⟨?_, ?_, fun d hd' n hn => ?_, fun _ n hn => ?_, fun _ before n c after hd' => .inl ?_⟩
  · rw [hp]
    exact h.safe.of_step (.enacted _ _ hperm hc)
  · rw [hd]
    refine (h.orderly.append_begun (h.begun hk) (fun b' settings ha => ?_) ?_).append_quiet hnone
    · refine ⟨ws.length, ?_⟩
      rw [h.safe.modeAt_eq]
      show Begins e.mode e.waiting a ws.length
      rw [hw]
      exact hb
    · intro before c after hd'
      rw [h.safe.modeAt_eq]
      exact (h.refused hk before e.index c after hd').resolve_left (Nat.lt_irrefl _)
  · rw [hp] at hd'
    exact forall_number_enact (q := fun k => k < e.stream.size ∧ k ≤ e.index + ws.length)
      (fun d hd k hk => (h.noted d hd k hk).imp_right fun hle => hle.trans (Nat.le_add_right ..))
      ⟨hlt, Nat.le_add_right ..⟩ a cs d hd' n hn
  · show n < e.index + ws.length
    rw [hd, Deed.starts_append, hnone, List.append_nil, Deed.starts_append] at hn
    rcases List.mem_append.1 hn with hn | hn
    · exact (h.begun hk n hn).trans_le (Nat.le_add_right ..)
    · obtain rfl := List.mem_singleton.1 hn
      exact Nat.lt_add_of_pos_right hpos
  · show n < e.index + ws.length
    have hmem : Deed.reported n c ∈ (e.passed ws.length b).past.deeds := hd' ▸ by simp
    rw [hp] at hmem
    exact forall_number_enact (q := fun k => k < e.index + ws.length)
      (fun d hd k hk => (h.noted d hd k hk).2.trans_lt (Nat.lt_add_of_pos_right hpos))
      (Nat.lt_add_of_pos_right hpos) a cs _ hmem n rfl

/-- An executor that carries out the command at hand keeps pace, whether that is complained about or
not. -/
theorem Paced.carryOut (h : Paced e) (hk : e.skipping = none) (hw : e.waiting = word :: rest)
    {a : Action} {n : Nat} (hb : Begins e.mode (word :: rest) a n) :
    Paced (e.carryOut word a n).state := by
  obtain ⟨cs, hc, hp⟩ := past_execute e word a n
  have hx := h.enact hk hw hb hc hp
  unfold Executor.carryOut
  simp only
  split
  · exact hx
  · rename_i c _
    have hpos : 0 < n := by
      obtain ⟨ws, -, -, rfl, hws, -⟩ := id hb
      exact hws.length_pos
    refine hx.recover hk (Nat.le_add_right ..) (index_lt_of_waiting hw) (fun d hd k hk' => ?_)
      fun _ => Nat.lt_add_of_pos_right hpos
    refine forall_number_enact (q := (· ≤ e.index)) (fun d hd k hk => (h.noted d hd k hk).2) le_rfl
      a cs d ?_ k hk'
    rw [← hp]
    exact hd
  · exact hx

/-- **Every step keeps pace.** -/
theorem Paced.step (h : Paced e) (hw : e.waiting = word :: rest) :
    Paced (e.step word rest).state := by
  have hs := stepped e word rest
  generalize e.step word rest = o at hs ⊢
  cases hs with
  | skipped => exact h.skip _ (index_lt_of_waiting hw)
  | waits | failed => exact h
  | wrong _ hk hr =>
    refine h.recover hk le_rfl (index_lt_of_waiting hw) (fun d hd n hn => (h.noted d hd n hn).2)
      fun ha => ?_
    rw [astray_of_wrong hw hr] at ha
    cases ha
  | read _ hk hr => exact h.carryOut hk hw (Reader.begins_of_read hr)

/-- A run keeps pace with each of its steps. -/
theorem Paced.run (h : Paced e) : Paced e.run.state :=
  rel_run (r := fun e t => Paced e → Paced t) (fun _ h => h) (fun hr hs h => hs (hr h))
    (fun hw h => h.step hw) e h

/-- An executor keeps pace in any use.  Only a parse runs, and it adds lexemes first. -/
theorem Paced.use (h : Paced e) (u : Use) : Paced (e.use u) := by
  cases u with
  | parse l =>
    show Paced (e.parse l).state
    have hx : Paced { e with stream := (e.stream.extend l).2 } :=
      h.extend (b := e.bench) (Stream.entries_isPrefix_extend e.stream l) rfl
    unfold Executor.parse
    simp only
    split
    · exact hx
    · exact hx.run
  | discard => exact h.discard
  | close => exact h.extend (s := e.stream) List.prefix_rfl (past_close e)
  | meanwhile s => exact h.extend (s := e.stream) List.prefix_rfl rfl

/-- **Whatever an executor is used for, it keeps pace.** -/
theorem Paced.live (h : Paced e) (l : List Use) : Paced (e.live l) := by
  induction l generalizing e with
  | nil => exact h
  | cons u l ih => exact ih (h.use u)

/-- No use makes an executor strict or lenient. -/
@[simp] theorem strict_live (e : Executor σ) (l : List Use) : (e.live l).strict = e.strict := by
  induction l generalizing e with
  | nil => rfl
  | cons u l ih =>
    refine (ih (e.use u)).trans ?_
    cases u with
    | parse l =>
      simp only [use, Executor.parse]
      split
      · rfl
      · exact (frame_run _).strict
    | discard | close | meanwhile => rfl

/-- No use changes the parameters of an executor. -/
@[simp] theorem params_live (e : Executor σ) (l : List Use) : (e.live l).params = e.params := by
  induction l generalizing e with
  | nil => rfl
  | cons u l ih =>
    refine (ih (e.use u)).trans ?_
    cases u with
    | parse l =>
      simp only [use, Executor.parse]
      split
      · rfl
      · exact (frame_run _).params
    | discard | close | meanwhile => rfl

/-- **No use goes back**: what an executor has passed is never begun again.  A run goes forward, and
to discard goes to the end of the stream. -/
theorem onward_use {n : Nat} (hi : n ≤ e.index) (hs : n ≤ e.stream.size) (u : Use) :
    Deed.Onward n e.past.deeds (e.use u).past.deeds ∧ n ≤ (e.use u).index ∧
      n ≤ (e.use u).stream.size := by
  cases u with
  | parse l =>
    have hx : n ≤ (e.stream.extend l).2.size :=
      hs.trans (Stream.entries_isPrefix_extend e.stream l).length_le
    simp only [use, Executor.parse]
    split
    · exact ⟨.refl .., hi, hx⟩
    · obtain ⟨hrun, hle⟩ := onward_run { e with stream := (e.stream.extend l).2 }
      refine ⟨(Deed.Onward.refl n _).trans hi hrun, hi.trans hle, ?_⟩
      rw [(frame_run _).stream]
      exact hx
  | discard => exact ⟨.refl .., hs, hs⟩
  | close =>
    refine ⟨?_, hi, hs⟩
    show Deed.Onward n _ e.close.2.past.deeds
    rw [past_close]
    exact .refl ..
  | meanwhile s => exact ⟨.refl .., hi, hs⟩

/-- What is behind an executor is never begun again, whatever it is used for. -/
theorem onward_live {n : Nat} (hi : n ≤ e.index) (hs : n ≤ e.stream.size) (l : List Use) :
    Deed.Onward n e.past.deeds (e.live l).past.deeds := by
  induction l generalizing e with
  | nil => exact .refl ..
  | cons u l ih =>
    obtain ⟨hd, hi', hs'⟩ := onward_use hi hs u
    exact hd.trans le_rfl (ih hi' hs')

/-- **Option blocks are all or nothing.**  An executor is used in any way, with any plotter.

The calls that set options and commit them are made in groups, each for one block and in its order,
cut short only by a call that is refused.  The blocks for which they are made are closed, valid in
the mode of their moment, and carried out once and in the order of the stream; a block that was
complained about makes none, unless a strict executor only lacked its last lexemes.  Whatever is
discarded makes none later.  And a valid block makes its calls when a run comes to it. -/
theorem options_all_or_nothing (strict : Bool) (p : Params) (device : σ) (site : Site)
    (l : List Use) :
    let e := (start strict p device site).live l
    Deed.Grouped e.bench.deeds ∧
    Deed.Orderly strict e.stream.entries e.bench.deeds ∧
    (∀ later, Deed.Onward e.stream.size e.bench.deeds (e.discard.live later).bench.deeds) ∧
    ∀ (t : Executor σ) b settings n, t.skipping = none →
      Begins t.mode t.waiting (.setOptions b settings) n →
      Reader.ShortValues (t.waiting.take n) →
      t.past.Enacts t.index (.setOptions b settings) t.run.state.past := by
  intro e
  have he : Paced e := (paced_start strict p device site).live l
  refine ⟨?_, ?_, fun later => ?_, fun t b settings n hk hb hv => ?_⟩
  · exact Past.grouped_of_leads Deed.grouped_nil (Past.safe_start device)
      (past_live (start strict p device site) l)
  · have ho := he.orderly
    rwa [strict_live] at ho
  · exact onward_live (e := e.discard) le_rfl le_rfl later
  · obtain ⟨word, rest, hw⟩ : ∃ word rest, t.waiting = word :: rest :=
      List.exists_cons_of_ne_nil fun hn => begins_nil (hn ▸ hb)
    rw [hw] at hb hv
    exact enacts_run_of_read hk hw (Reader.read_of_begins hb hv)

/-- A valid block. -/
def penBlock : List Lexeme :=
  [.alone (.blockStart .options) "OPTS", .alone (.setting .penUpPosition) "PENU_POS",
    .alone .number "60", .alone (.blockEnd .options) "END_OPTS"]

/-- A valid block that waits in the interactive mode is carried out, with the setting that it
spells.  The block spells what it sets, so it begins at the front of what waits. -/
theorem options_all_or_nothing_penBlock :
    let e := (start false .standard Recorder.obliging .bare).live
      [.parse [.alone .mode "MODE", .alone (.modeName .interactive) "I"]]
    let t := { e with stream := ⟨e.stream.entries ++ penBlock, false⟩ }
    Begins t.mode t.waiting (.setOptions .options [(.penUpPosition, .num (.int 60))]) 4 ∧
      t.past.Enacts t.index (.setOptions .options [(.penUpPosition, .num (.int 60))])
        t.run.state.past := by
  intro e t
  have hw : t.waiting = penBlock := by decide +kernel
  have hm : t.mode = some .interactive := by decide +kernel
  have hb : Begins t.mode t.waiting (.setOptions .options [(.penUpPosition, .num (.int 60))]) 4 := by
    rw [hw, hm]
    have hv : Spells penBlock (.setOptions .options [(.penUpPosition, .num (.int 60))]) := by
      refine .options rfl (.cons rfl (.number rfl rfl (n := 60) rfl ?_) .nil) rfl
      rintro low high ⟨⟩
    exact ⟨penBlock, [], rfl, rfl, hv, trivial, Option.some_ne_none _, fun _ _ _ => rfl⟩
  obtain ⟨-, -, -, h⟩ := options_all_or_nothing false .standard Recorder.obliging .bare []
  refine ⟨hb, h t _ _ 4 (by decide +kernel) hb ?_⟩
  rw [hw]
  decide

end Device
end Executor
end PlotScript
