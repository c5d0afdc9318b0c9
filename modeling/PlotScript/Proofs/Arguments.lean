/-
# Where arguments come from

A plotter does not check what it is asked: it takes the first point of a path as it is, and a whole
number where a setting needs one.  That its calls are well made is up to three others, the
classification of words, the reading of each command, and the check of a drawing:

| call | what it is asked with |
| --- | --- |
| a setting | the lexeme after the setting's keyword, within the setting's limits |
| a motion, a wait | the numbers right after the word of the command |
| a path | the numbers after `DRAW`, two by two, at least two points |
| a drawing | a path at which a file is that passes the check |

`Call.WarrantedBy` says so for a call, the lexemes of its command and the site.  Every note is made
in one step of one run (`Executor.exists_made`), and a step makes none but warranted calls
(`Executor.warranted_step`).  So a whole life makes no others, and numbers that the lexer gives are
numbers, if they are not too long (`Executor.arguments_live`).

The checks are those of the language specification, §4.2 and §14.
-/

import PlotScript.Proofs.CalmRuns
import PlotScript.Proofs.Interruption
import PlotScript.Proofs.OpenBlock

namespace PlotScript

/-- A lexeme that the lexer gives, for a text that is read as a whole or for a line that is handed
to it. -/
inductive Lexed (x : Lexeme) : Prop
  | read {lines : List String} {source : Option String} :
    x ∈ (Lexer.reading lines source).tokens.1 → Lexed x
  | handed {y z : Lexer} {text : String} {number : Option Int} {l : List Lexeme} :
    y.lexLine text number = (.ok l, z) → x ∈ l → Lexed x

/-- **A number that the lexer gives is a number.**  All the lexemes of a lexer come from words of
its lines, but for the end of the file. -/
theorem Lexed.wellFormed {x : Lexeme} (h : Lexed x) : x.WellFormed := by
  have htokens {y : Lexer} (hx : x ∈ y.tokens.1) : x.WellFormed := by
    obtain ⟨place, hl⟩ := y.tokens_eq
    rw [hl] at hx
    rcases List.mem_append.1 hx with hx | hx
    · exact (Lexer.of_mem_words hx).1
    · obtain rfl := List.mem_singleton.1 hx
      rintro ⟨⟩
  cases h with
  | read hx => exact htokens hx
  | @handed y z text number l hl hx =>
    unfold Lexer.lexLine at hl
    split at hl
    · cases hl
    · obtain rfl := Except.ok.inj (Prod.mk.inj hl).1
      exact htokens hx

namespace Grammar

/-- Among settings with their values, each stands before its value. -/
theorem Settings.exists_of_mem {r : List Lexeme} {l : List (Setting × Value)} (h : Settings r l)
    {s : Setting} {v : Value} (hv : (s, v) ∈ l) :
    ∃ front x y back, r = front ++ x :: y :: back ∧ x.kind = .setting s ∧ Gives s y v := by
  induction h with
  | nil => cases hv
  | @cons x y s' v' r l hx hy _ ih =>
    rcases List.mem_cons.1 hv with hv | hv
    · obtain ⟨rfl, rfl⟩ := Prod.mk.inj hv
      exact ⟨[], x, y, r, rfl, hx, hy⟩
    · obtain ⟨front, x', y', back, rfl, hx', hy'⟩ := ih hv
      exact ⟨x :: y :: front, x', y', back, rfl, hx', hy'⟩

end Grammar

/-- A value that a setting may be given, and the lexeme it is read from: a text for the port, a
whole number for every other setting, from 1 to 7 for the model and up to 2 for the units. -/
def Setting.Takes (s : Setting) (y : Lexeme) (v : Value) : Prop :=
  if s = .port then y.kind = .string ∧ v = .text y.text
  else y.kind = .number ∧ ∃ n, digitsValue? y.text = some n ∧ v = .num (.int n) ∧
    (s = .model → 1 ≤ n ∧ n ≤ 7) ∧ (s = .units → n ≤ 2)

/-- A lexeme that gives a setting a value is one that the setting takes, with the same value.  The
port takes a text, and every other setting a number within its range. -/
theorem Grammar.Gives.takes {s : Setting} {y : Lexeme} {v : Value} (h : Gives s y v) :
    s.Takes y v := by
  cases h with
  | text ht hk =>
    have hs : s = .port := by cases s <;> first | rfl | cases ht
    rw [Setting.Takes, if_pos hs]
    exact ⟨hk, rfl⟩
  | @number n ht hk hn hr =>
    have hs : s ≠ .port := by
      rintro rfl
      cases ht
    rw [Setting.Takes, if_neg hs]
    refine ⟨hk, n, hn, rfl, ?_, ?_⟩
    · rintro rfl
      exact hr 1 7 rfl
    · rintro rfl
      exact (hr 0 2 rfl).2

namespace Call

open Grammar

/-- A call is asked with what the lexemes of its command say, and a drawing is one that passes the
check on the site of that moment. -/
def WarrantedBy (ws : List Lexeme) (site : Site) : Call → Prop
  | set s v => ∃ front x y back, ws = front ++ x :: y :: back ∧ x.kind = .setting s ∧ s.Takes y v
  | goTo v u => ∃ w x y, ws = [w, x, y] ∧ w.kind = .goTo ∧ Coordinate x v ∧ Coordinate y u
  | goToRelative v u =>
    ∃ w x y, ws = [w, x, y] ∧ w.kind = .goToRelative ∧ Coordinate x v ∧ Coordinate y u
  | drawPath points => ∃ w r, ws = w :: r ∧ w.kind = .draw ∧ Path r points ∧ 2 ≤ points.length
  | wait v => ∃ w x, ws = [w, x] ∧ w.kind = .wait ∧ Coordinate x v
  | setupPlot path => ∃ w x, ws = [w, x] ∧ w.kind = .setPlot ∧ x.kind = .string ∧
      (Web.isUrl x.text = false → path = x.text) ∧ site.isFile path = true ∧
      site.checkDrawing path (some w) = .ok ()
  | enterInteractive | commitOptions | connect | disconnect | penUp | penDown | penToggle | home
  | getPosition | getPenDown | currentMode | runPlot => True

/-- A drawing is set up: a file that passes the check, at the path that a source gives unless it is
a URL. -/
def Loads (source : String) (anchor : Lexeme) (site : Site) (c : Call) : Prop :=
  ∃ path, c = .setupPlot path ∧ (Web.isUrl source = false → path = source) ∧
    site.isFile path = true ∧ site.checkDrawing path (some anchor) = .ok ()

/-- **The calls of a command are warranted by its lexemes.**  What its drawing needs is known only
when the drawing is at hand, so that command is left out. -/
theorem warrantedBy_of_spells {ws : List Lexeme} {a : Action} {c : Call} (site : Site)
    (h : Spells ws a) (ha : ∀ source, a ≠ .setPlot source) (hc : c ∈ a.calls) :
    c.WarrantedBy ws site := by
  cases h with
  | @mode w x m =>
    cases m with
    | plot => cases hc
    | interactive =>
      simp only [Action.calls, List.mem_cons, List.not_mem_nil, or_false] at hc
      rcases hc with rfl | rfl <;> trivial
  | @options w z r b l _ hr _ =>
    rcases List.mem_append.1 hc with hc | hc
    · obtain ⟨⟨s, v⟩, hv, rfl⟩ := List.mem_map.1 hc
      obtain ⟨front, x, y, back, rfl, hx, hy⟩ := hr.exists_of_mem hv
      exact ⟨w :: front, x, y, back ++ [z], by simp, hx, hy.takes⟩
    · obtain rfl := List.mem_singleton.1 hc
      trivial
  | @word w a hw =>
    unfold Action.ofWord? at hw
    split at hw <;> cases hw <;> obtain rfl := List.mem_singleton.1 hc <;> trivial
  | @goTo w x y v u hw hx hy =>
    obtain rfl := List.mem_singleton.1 hc
    exact ⟨w, x, y, rfl, hw, hx, hy⟩
  | @goToRelative w x y v u hw hx hy =>
    obtain rfl := List.mem_singleton.1 hc
    exact ⟨w, x, y, rfl, hw, hx, hy⟩
  | @draw w r path hw hp hlen =>
    obtain rfl := List.mem_singleton.1 hc
    exact ⟨w, r, rfl, hw, hp, hlen⟩
  | @wait w x v hw hx =>
    obtain rfl := List.mem_singleton.1 hc
    exact ⟨w, x, rfl, hw, hx⟩
  | @setPlot w x => exact absurd rfl (ha x.text)
  | plot =>
    obtain rfl := List.mem_singleton.1 hc
    trivial

end Call

namespace Reader

variable {mode : Option Mode} {word : Lexeme} {rest l : List Lexeme} {more : Bool} {f : Failure}

/-- **Numbers are read, if they are not too long**: nothing but a number with too many digits makes
the reading of a command break down. -/
theorem exists_overlong_of_failed (hn : Numbers rest)
    (h : (read mode more word rest).result = .error (.failed f)) :
    ∃ y ∈ rest, y.kind = .number ∧ digitLimit < y.text.length ∧
      f = .tooManyDigits y.text.length := by
  unfold read at h
  split at h
  · rename_i b _
    split at h
    · rename_i e he
      obtain rfl : e = .failed f := Except.error.inj h
      have hb : Stops 0 True (needBlockMode b mode word) := stops_needBlockMode
      rw [he] at hb
      cases hb with
      | failed _ hf => exact absurd trivial hf
    · unfold readBlock at h
      simp only at h
      split at h
      · rename_i e he
        obtain rfl : e = .failed f := Except.error.inj h
        obtain ⟨r, settings, x, s, y, tail, rfl, -, -, -, -, -, -, hy, hlong, hf⟩ :=
          overlong_of_readSettings hn he
        exact ⟨y, by simp, hy, hlong, hf⟩
      · cases h
  · exact absurd h (readSimple_ne_failed hn f)

end Reader

namespace Stream

/-- A stream grows by what is added to it.  The induction is on what is added; after the end of the
file the rest is refused. -/
theorem mem_extend {s : Stream} {l : List Lexeme} {x : Lexeme} (h : x ∈ (s.extend l).2.entries) :
    x ∈ s.entries ∨ x ∈ l := by
  induction l generalizing s with
  | nil => exact .inl h
  | cons y l ih =>
    rw [extend_cons] at h
    split at h
    · exact .inl h
    · rename_i s' hs
      rcases ih h with h | h
      · rw [(ended_of_append hs).2.2, List.mem_append] at h
        refine h.imp_right fun h => ?_
        exact List.mem_singleton.1 (List.mem_of_mem_filter h) ▸ List.mem_cons_self
      · exact .inr (List.mem_cons_of_mem y h)

end Stream

namespace Bench

variable {σ : Type} [Device σ]

/-- The calls noted between two benches. -/
def Notes (P : Call → Prop) (b t : Bench σ) : Prop :=
  ∃ new, t.deeds = b.deeds ++ new ∧ ∀ m c r, Deed.asked m c r ∈ new → P c

omit [Device σ] in
/-- Where nothing was noted, only calls of any kind were noted. -/
theorem Notes.of_deeds_eq {P : Call → Prop} {b t : Bench σ} (h : t.deeds = b.deeds) :
    Notes P b t := ⟨[], h.trans (List.append_nil _).symm, by simp⟩

omit [Device σ] in
/-- Calls noted by two acts, one after the other, are of the kind that both of them note. -/
theorem Notes.trans {P : Call → Prop} {b t u : Bench σ} (h : Notes P b t) (k : Notes P t u) :
    Notes P b u := by
  obtain ⟨l, hl, hP⟩ := h
  obtain ⟨m, hm, hQ⟩ := k
  refine ⟨l ++ m, by rw [hm, hl, List.append_assoc], fun mode c r hc => ?_⟩
  rcases List.mem_append.1 hc with hc | hc
  · exact hP mode c r hc
  · exact hQ mode c r hc

omit [Device σ] in
/-- Calls of one kind are calls of every wider kind. -/
theorem Notes.imp {P Q : Call → Prop} {b t : Bench σ} (h : Notes P b t) (hPQ : ∀ c, P c → Q c) :
    Notes Q b t := by
  obtain ⟨new, hd, hP⟩ := h
  exact ⟨new, hd, fun m c r hc => hPQ c (hP m c r hc)⟩

/-- What carrying out an action that sets no drawing notes are its calls.  Only the command for a
drawing asks the plotter with something that it does not spell. -/
theorem notes_enact {a : Action} (ha : ∀ source, a ≠ .setPlot source) (p : Params)
    (anchor : Lexeme) (b : Bench σ) :
    Notes (fun c => c ∈ a.calls) b (enact p anchor a b).state := by
  obtain ⟨cs, hcs, h⟩ := enacted_enact p anchor a b
  refine ⟨a.modeDeeds ++ (askAll _ cs b.device).1, by rw [h.deeds, List.append_assoc],
    fun m c r hc => ?_⟩
  rcases List.mem_append.1 hc with hc | hc
  · obtain ⟨_, hm⟩ := Action.exists_of_mem_modeDeeds hc
    cases hm
  · obtain ⟨c', r', he, hc'⟩ := asked_of_mem_askAll hc
    cases he
    cases hcs with
    | all => exact hc'
    | stored source | noDrawing source => exact absurd rfl (ha source)
    | notLoaded => cases hc'

omit [Device σ] in
/-- A drawing passes where a file is that passes the check. -/
theorem of_result_inspect {path : String} {anchor : Lexeme} {b : Bench σ} {u : Unit}
    (h : (inspect path anchor b).result = .ok u) :
    b.site.isFile path = true ∧ b.site.checkDrawing path (some anchor) = .ok () := by
  rw [inspect_eq] at h
  rcases hf : b.site.isFile path with _ | _
  · rw [hf, Bool.not_false, if_pos rfl] at h
    cases h
  · rw [hf, Bool.not_true, if_neg Bool.false_ne_true, Act.result_ofExcept] at h
    exact ⟨rfl, h⟩

/-- What setting a drawing notes is that one is set up.  The source comes to a path, the path is
checked, and only then the plotter is asked; any earlier end notes nothing. -/
theorem notes_enact_setPlot (p : Params) (anchor : Lexeme) (source : String) (b : Bench σ) :
    Notes (Call.Loads source anchor (enact p anchor (.setPlot source) b).state.site) b
      (enact p anchor (.setPlot source) b).state := by
  have hquiet : (obtain p source b).state.deeds = b.deeds :=
    (asks_obtain p source b).deeds.trans (List.append_nil _)
  rw [enact]
  rcases hr : (obtain p source b).result with f | path
  · rw [Act.bind_of_error hr]
    exact .of_deeds_eq hquiet
  · have hpath : Web.isUrl source = false → path = source := fun hu => by
      rw [obtain_of_local p hu] at hr
      exact (Except.ok.inj hr).symm
    rw [Act.bind_of_ok hr]
    rcases hc : (inspect path anchor (obtain p source b).state).result with f | u
    · rw [Act.bind_of_error hc, state_inspect]
      exact .of_deeds_eq hquiet
    · obtain ⟨hfile, hcheck⟩ := of_result_inspect hc
      rw [Act.bind_of_ok hc, state_inspect]
      set t := (obtain p source b).state
      have hask : (ask (.setupPlot path) t).state.site = t.site ∧
          (ask (.setupPlot path) t).state.deeds = b.deeds ++ [.asked t.mode (.setupPlot path)
            (Device.perform (.setupPlot path) t.device).result] :=
        ⟨rfl, by rw [deeds_ask, hquiet]⟩
      suffices h : ∀ u : Bench σ, u.site = t.site →
          u.deeds = (ask (.setupPlot path) t).state.deeds →
          Notes (Call.Loads source anchor u.site) b u by
        rcases hp : (ask (.setupPlot path) t).result with f | a
        · rw [Act.bind_of_error hp]
          exact h _ hask.1 rfl
        · rw [Act.bind_of_ok hp]
          exact h _ hask.1 rfl
      intro u hs hd
      refine ⟨_, hd.trans hask.2, fun m c r hc => ?_⟩
      cases List.mem_singleton.1 hc
      exact ⟨path, rfl, hpath, hs ▸ hfile, hs ▸ hcheck⟩

/-- **The calls of a command that is carried out are warranted.**  A drawing is handed to the
plotter by the path where it was stored and checked. -/
theorem notes_enact_of_spells {word : Lexeme} {ws : List Lexeme} {a : Action}
    (h : Grammar.Spells (word :: ws) a) (p : Params) (b : Bench σ) :
    Notes (Call.WarrantedBy (word :: ws) (enact p word a b).state.site) b
      (enact p word a b).state := by
  by_cases ha : ∃ source, a = .setPlot source
  · obtain ⟨source, rfl⟩ := ha
    refine (notes_enact_setPlot p word source b).imp fun c hc => ?_
    obtain ⟨path, rfl, hpath, hfile, hcheck⟩ := hc
    cases h with
    | word hw =>
      unfold Action.ofWord? at hw
      split at hw <;> cases hw
    | @setPlot _ x hw hk _ => exact ⟨word, x, rfl, hw, hk, hpath, hfile, hcheck⟩
  · refine (notes_enact (fun source hs => ha ⟨source, hs⟩) p word b).imp fun c hc => ?_
    exact Call.warrantedBy_of_spells _ h (fun source hs => ha ⟨source, hs⟩) hc

end Bench

namespace Executor

open Grammar

variable {σ : Type} [Device σ] {e t u : Executor σ} {word : Lexeme} {rest : List Lexeme}

/-- The calls that a command makes are warranted, however it ends.  The note that the command is
begun is no call, nor is a complaint about it. -/
theorem notes_carryOut {ws : List Lexeme} {a : Action} (n : Nat) (hws : ws <+: word :: rest)
    (h : Spells ws a) :
    Bench.Notes (Call.WarrantedBy ws (e.carryOut word a n).state.bench.site) e.bench
      (e.carryOut word a n).state.bench := by
  obtain ⟨w, ws', rfl⟩ := List.exists_cons_of_length_pos h.length_pos
  obtain ⟨rfl, -⟩ := List.cons_prefix_cons.1 hws
  have hx := Bench.notes_enact_of_spells h e.params (e.bench.note (.begun e.index a))
  set b := (Bench.enact e.params w a (e.bench.note (.begun e.index a))).state
  have hb : Bench.Notes (Call.WarrantedBy (w :: ws') b.site) e.bench b := by
    refine Bench.Notes.trans ⟨[.begun e.index a], rfl, fun m c r hc => ?_⟩ hx
    cases List.mem_singleton.1 hc
  unfold carryOut
  simp only
  split
  · exact hb
  · rename_i c _
    show Bench.Notes (Call.WarrantedBy _ (recover _ _ _ _).state.bench.site) _
      (recover _ _ _ _).state.bench
    rw [site_recover]
    refine hb.trans ⟨[.reported e.index c], deeds_recover .., fun m c r hc => ?_⟩
    cases List.mem_singleton.1 hc
  · exact hb

/-- What a step may call: the calls of the command at the front, warranted by its lexemes and by
the site. -/
def Warrants (e : Executor σ) (site : Site) (c : Call) : Prop :=
  ∃ ws tail a, e.waiting = ws ++ tail ∧ Spells ws a ∧ c.WarrantedBy ws site

/-- **A step makes no call but those that its command warrants.**  The cases are those of a step:
without a command that was read there is no call. -/
theorem warranted_step (hw : e.waiting = word :: rest) :
    Bench.Notes (e.Warrants (e.step word rest).state.bench.site) e.bench
      (e.step word rest).state.bench := by
  have hs := stepped e word rest
  generalize e.step word rest = o at hs ⊢
  cases hs with
  | @skipped b _ => exact .of_deeds_eq (congrArg Past.deeds (past_skip e b))
  | waits | failed => exact .of_deeds_eq rfl
  | wrong =>
    refine ⟨_, deeds_recover .., fun m c r hc => ?_⟩
    cases List.mem_singleton.1 hc
  | @read a n _ _ hr =>
    obtain ⟨ws, tail, hl, -, hws, -⟩ := Reader.begins_of_read hr
    exact (notes_carryOut n ⟨tail, hl.symm⟩ hws).imp fun c hc => ⟨ws, tail, a, hw.trans hl, hws, hc⟩

/-- A note is made in the step at a word, after the notes before it. -/
structure Makes (t : Executor σ) (word : Lexeme) (rest : List Lexeme) (before : List Deed)
    (d : Deed) : Prop where
  waiting : t.waiting = word :: rest
  start : t.bench.deeds <+: before
  stop : before ++ [d] <+: (t.step word rest).state.bench.deeds

/-- Notes are only added in a run. -/
theorem deeds_isPrefix_run (e : Executor σ) : e.bench.deeds <+: e.run.state.bench.deeds :=
  (past_run e).deeds_isPrefix

/-- A step adds to the notes and takes none away. -/
theorem deeds_isPrefix_step (e : Executor σ) (word : Lexeme) (rest : List Lexeme) :
    e.bench.deeds <+: (e.step word rest).state.bench.deeds :=
  (past_step e word rest).deeds_isPrefix

/-- A note that is not there before a step and that is there after it is made in the step. -/
theorem makes_of_isPrefix {before : List Deed} {d : Deed} (hw : e.waiting = word :: rest)
    (he : e.bench.deeds.length ≤ before.length)
    (h : before ++ [d] <+: (e.step word rest).state.bench.deeds) : e.Makes word rest before d :=
  ⟨hw, List.prefix_of_prefix_length_le (deeds_isPrefix_step e word rest)
    ((List.prefix_append _ _).trans h) he, h⟩

/-- **Every note of a run is made in one of its steps.**  The induction is on the run; the step is
the first one after which the note is there. -/
theorem exists_rounds_of_note {before : List Deed} {d : Deed}
    (he : e.bench.deeds.length ≤ before.length) (h : before ++ [d] <+: e.run.state.bench.deeds) :
    ∃ n t word rest, Rounds n e t ∧ t.Makes word rest before d := by
  fun_induction run e with
  | case1 e hw =>
    have hlt : before.length + 1 ≤ e.bench.deeds.length := by simpa using h.length_le
    exact absurd he (Nat.not_le_of_lt hlt)
  | case2 e word rest hw f es t hr | case3 e word rest hw es t hr =>
    exact ⟨0, e, word, rest, .none e, makes_of_isPrefix hw he (by rw [hr]; exact h)⟩
  | case4 e word rest hw l es t hr _ o ih =>
    by_cases ht : t.bench.deeds.length ≤ before.length
    · obtain ⟨n, u, word', rest', hn, hu⟩ := ih ht h
      exact ⟨n + 1, u, word', rest', .next hw hr hn, hu⟩
    · refine ⟨0, e, word, rest, .none e, makes_of_isPrefix hw he ?_⟩
      rw [hr]
      exact List.prefix_of_prefix_length_le h (deeds_isPrefix_run t)
        (List.length_append.le.trans (Nat.lt_of_not_ge ht))

/-- An executor as it begins to run when lexemes are parsed. -/
def fed (e : Executor σ) (l : List Lexeme) : Executor σ :=
  { e with stream := (e.stream.extend l).2 }

/-- Where all lexemes are added, they are run. -/
theorem parse_eq_run {l : List Lexeme} (h : (e.stream.extend l).1 = .ok ()) :
    e.parse l = (e.fed l).run := by
  simp only [parse, h, fed]

/-- The executors that another comes to on the rounds of its runs while it is used. -/
def ComesTo (e : Executor σ) (us : List Use) (t : Executor σ) : Prop :=
  ∃ before l after n, us = before ++ .parse l :: after ∧
    ((e.live before).stream.extend l).1 = .ok () ∧ Rounds n ((e.live before).fed l) t

/-- What the uses that are left come to is what all of them come to, with the first one made. -/
theorem ComesTo.cons {us : List Use} (v : Use) (h : ComesTo (e.use v) us t) :
    ComesTo e (v :: us) t := by
  obtain ⟨before, l, after, n, rfl, hl, hn⟩ := h
  exact ⟨v :: before, l, after, n, rfl, hl, hn⟩

/-- **Every note of a life is made in a step of one of its runs.**  The induction is on the uses:
the note is made in the first one, or in the rest. -/
theorem exists_made {us : List Use} {before : List Deed} {d : Deed}
    (he : e.bench.deeds.length ≤ before.length)
    (h : before ++ [d] <+: (e.live us).bench.deeds) :
    ∃ t word rest, ComesTo e us t ∧ t.Makes word rest before d := by
  induction us generalizing e with
  | nil =>
    have hlt : before.length + 1 ≤ (e.live []).bench.deeds.length := by simpa using h.length_le
    exact absurd he (Nat.not_le_of_lt hlt)
  | cons v us ih =>
    by_cases hv : (e.use v).bench.deeds.length ≤ before.length
    · obtain ⟨t, word, rest, ht, hm⟩ := ih hv h
      exact ⟨t, word, rest, ht.cons v, hm⟩
    have hlater : (e.use v).bench.deeds <+: (e.live (v :: us)).bench.deeds :=
      (past_live (e.use v) us).deeds_isPrefix
    -- The notes that were made up to here include this one, and earlier ones do not.
    have hmade : before ++ [d] <+: (e.use v).bench.deeds :=
      List.prefix_of_prefix_length_le h hlater
        (List.length_append.le.trans (Nat.lt_of_not_ge hv))
    cases v with
    | parse l =>
      rcases hl : (e.stream.extend l).1 with f | ⟨⟩
      · have hp : (e.use (.parse l)).bench = e.bench := by
          simp only [use, parse, hl]
        rw [hp] at hv
        exact absurd he hv
      · have hp : (e.use (.parse l)).bench = (e.fed l).run.state.bench := by
          rw [use, parse_eq_run hl]
        rw [hp] at hmade
        obtain ⟨n, t, word, rest, hn, hm⟩ := exists_rounds_of_note (e := e.fed l) he hmade
        exact ⟨t, word, rest, ⟨[], l, us, n, rfl, hl, hn⟩, hm⟩
    | discard | meanwhile => exact absurd he hv
    | close =>
      have hp : (e.use .close).bench.deeds = e.bench.deeds := congrArg Past.deeds (past_close e)
      rw [hp] at hv
      exact absurd he hv

/-- A use of the executor extends its stream with what is given, and what is carried out of it
changes the stream no more. -/
theorem stream_parse (e : Executor σ) (l : List Lexeme) :
    (e.parse l).state.stream = (e.stream.extend l).2 := by
  unfold parse
  simp only
  split
  · rfl
  · exact (frame_run _).stream

/-- The lexemes of a stream are those that were parsed. -/
theorem mem_live {us : List Use} {x : Lexeme} (h : x ∈ (e.live us).stream.entries) :
    x ∈ e.stream.entries ∨ ∃ l, .parse l ∈ us ∧ x ∈ l := by
  induction us generalizing e with
  | nil => exact .inl h
  | cons v us ih =>
    rcases ih h with h | ⟨l, hl, hx⟩
    · cases v with
      | parse l =>
        rw [use, stream_parse] at h
        exact (Stream.mem_extend h).imp_right fun hx => ⟨l, List.mem_cons_self, hx⟩
      | discard | close | meanwhile => exact .inl h
    · exact .inr ⟨l, List.mem_cons_of_mem v hl, hx⟩

/-- The stream does not change from round to round: every step of a run reads it and none extends
it. -/
theorem Rounds.stream_eq {n : Nat} (h : Rounds n e u) : u.stream = e.stream := by
  induction h with
  | none => rfl
  | @next n e t u word rest l es hw hr _ ih =>
    have hf := (frame_step e word rest).stream
    rw [hr] at hf
    exact ih.trans hf

/-- What waits for an executor that was started was parsed. -/
theorem exists_parse_of_waiting {strict : Bool} {p : Params} {device : σ} {site : Site}
    {us : List Use} (h : ComesTo (start strict p device site) us t) {x : Lexeme}
    (hx : x ∈ t.waiting) : ∃ l, .parse l ∈ us ∧ x ∈ l := by
  obtain ⟨before, l, after, n, rfl, -, hn⟩ := h
  have hx : x ∈ t.stream.entries := List.mem_of_mem_drop hx
  rw [hn.stream_eq] at hx
  rcases Stream.mem_extend hx with hx | hx
  · rcases mem_live hx with hx | ⟨l', hl', hx⟩
    · cases hx
    · exact ⟨l', List.mem_append_left _ hl', hx⟩
  · exact ⟨l, List.mem_append_right _ List.mem_cons_self, hx⟩

/-- **No malformed argument reaches the plotter.**  An executor, strict or not, is used in any way
with lexemes that the lexer gives, with any plotter.

Each call that is noted was made in a step of one of its runs, and there it is warranted: by the
lexemes of the command that stands at the front, and, where a drawing is set up, by the site of that
moment.  And wherever the executor comes to read a command, no number that it converts makes the
reading break down, but one with more than 4300 digits as the value of a setting. -/
theorem arguments_live (strict : Bool) (p : Params) (device : σ) (site : Site) (us : List Use)
    (h : ∀ l, .parse l ∈ us → ∀ x ∈ l, Lexed x) :
    let e := start strict p device site
    (∀ before mode c answer, before ++ [Deed.asked mode c answer] <+: (e.live us).bench.deeds →
      ∃ t word rest, ComesTo e us t ∧ t.Makes word rest before (.asked mode c answer) ∧
        t.Warrants (t.step word rest).state.bench.site c) ∧
    ∀ t word rest f, ComesTo e us t → t.waiting = word :: rest →
      (Reader.read t.mode t.mayGrow word rest).result = .error (.failed f) →
        ∃ y ∈ rest, y.kind = .number ∧ 4300 < y.text.length ∧
          f = .tooManyDigits y.text.length := by
  intro e
  refine ⟨fun before mode c answer hc => ?_, fun t word rest f ht hw hr => ?_⟩
  · obtain ⟨t, word, rest, ht, hm⟩ := exists_made (Nat.zero_le _) hc
    refine ⟨t, word, rest, ht, hm, ?_⟩
    obtain ⟨new, hnew, hall⟩ := warranted_step hm.waiting
    refine hall mode c answer ?_
    obtain ⟨mid, rfl⟩ := hm.start
    have hpre := hm.stop
    rw [hnew, List.append_assoc, List.prefix_append_right_inj] at hpre
    exact hpre.subset (List.mem_append_right _ List.mem_cons_self)
  · refine Reader.exists_overlong_of_failed (fun x hx => ?_) hr
    obtain ⟨l, hl, hx⟩ := exists_parse_of_waiting ht (hw ▸ List.mem_cons_of_mem word hx)
    exact (h l hl x hx).wellFormed

/-- A model that is set in a block, by a script that is parsed as a whole.  The model is the value
behind its word, within the block that is read. -/
theorem arguments_live_model :
    let l := (Lexer.reading ["MODE I", "OPTS MODEL 3 END_OPTS GOTO 1 2"] none).tokens.1
    let e := start true .standard Recorder.obliging .bare
    let us := [Use.parse l]
    let model := Call.set .model (.num (.int 3))
    ((e.live us).bench.deeds[5]?).bind Deed.call? = some model ∧
      ∃ t word rest, ComesTo e us t ∧ t.waiting = word :: rest ∧
        t.Warrants (t.step word rest).state.bench.site model := by
  intro l e us model
  have hcall : ((e.live us).bench.deeds[5]?).bind Deed.call? = some model := by decide +kernel
  refine ⟨hcall, ?_⟩
  obtain ⟨d, hd, hc⟩ := Option.bind_eq_some_iff.1 hcall
  have hlexed : ∀ m, Use.parse m ∈ us → ∀ x ∈ m, Lexed x := by
    intro m hm x hx
    cases List.mem_singleton.1 hm
    exact .read hx
  have hpre : (e.live us).bench.deeds.take 5 ++ [d] <+: (e.live us).bench.deeds := by
    have htake := List.take_prefix (5 + 1) (e.live us).bench.deeds
    rwa [List.take_add_one, hd] at htake
  cases d with
  | asked mode c answer =>
    obtain rfl : c = model := Option.some.inj hc
    obtain ⟨t, word, rest, ht, hm, hw⟩ :=
      (arguments_live true .standard Recorder.obliging .bare us hlexed).1 _ mode _ answer hpre
    exact ⟨t, word, rest, ht, hm.waiting, hw⟩
  | begun | modeSet | reported => cases hc

end Executor
end PlotScript
