/-
# Blocks with unknown words

The words of a session pass two filters.  A line of which no word is known is reported and skipped,
with whatever is on it; and a block that holds an unknown word when it is read is complained about
and passed over.  So an unknown word spoils the block in which it stands, on whatever line of the
block, if there is a known word on its line (`Session.unknown_word_spoils`).  If there is none, the
block takes effect as if the line had not been there (`Session.unknown_line_spoils_nothing`).

The filter for lines is that of the language specification, §4.3.
-/

import PlotScript.Proofs.HeardLines

namespace PlotScript

open Grammar

namespace Session

open Executor

variable {σ : Type}

/-- A word of a session, and whether it is parsed. -/
structure Word where
  lexeme : Lexeme
  parsed : Bool
  deriving DecidableEq

/-- The words of a line. -/
def wordsOfLine (l : List Lexeme) : List Word := l.map fun x => ⟨x, hasKnown l⟩

/-- The lexemes that are parsed of some words. -/
def lexemes (ws : List Word) : List Lexeme := (ws.filter Word.parsed).map Word.lexeme

/-- Of some words, one opens a block behind the words `before`, and the words `inside` come next and
do not close it. -/
structure Inside (b : Block) (words before : List Word) (opening : Word) (inside : List Word) :
    Prop where
  part : ∃ after, words = before ++ opening :: (inside ++ after)
  opens : opening.lexeme.kind = .blockStart b
  unclosed : ∀ x ∈ inside, x.lexeme.kind ≠ .blockEnd b

/-- The lexemes of words are those of each part, in order. -/
@[simp]
theorem lexemes_append (ws vs : List Word) : lexemes (ws ++ vs) = lexemes ws ++ lexemes vs := by
  rw [lexemes, List.filter_append, List.map_append]
  rfl

/-- All words of a line are parsed, or none. -/
theorem lexemes_wordsOfLine (l : List Lexeme) :
    lexemes (wordsOfLine l) = if hasKnown l then l else [] := by
  unfold lexemes wordsOfLine
  generalize hasKnown l = known
  cases known <;> simp [List.filter_map, Function.comp_def]

/-- The words of lines hold the lexemes of those lines that hold a known one. -/
theorem lexemes_flatMap (ls : List (List Lexeme)) :
    lexemes (ls.flatMap wordsOfLine) = (ls.filter hasKnown).flatten := by
  induction ls with
  | nil => rfl
  | cons l ls ih =>
    rw [List.flatMap_cons, lexemes_append, lexemes_wordsOfLine, ih]
    by_cases hk : hasKnown l = true <;> simp [hk]

/-- A word that is known is parsed. -/
theorem parsed_of_mem {ls : List (List Lexeme)} {x : Word} (hx : x ∈ ls.flatMap wordsOfLine)
    (hk : x.lexeme.kind ≠ .unknown) : x.parsed = true := by
  obtain ⟨l, -, hx⟩ := List.mem_flatMap.1 hx
  obtain ⟨y, hy, rfl⟩ := List.mem_map.1 hx
  show hasKnown l = true
  unfold hasKnown
  simp only [Bool.not_eq_true', List.all_eq_false]
  exact ⟨y, hy, by simpa using hk⟩

section Inside

variable {b : Block} {words before inside : List Word} {opening x : Word}

/-- What is parsed from the opening word of a block on. -/
theorem Inside.drop_lexemes (h : Inside b words before opening inside)
    (hp : opening.parsed = true) : ∃ after,
      (lexemes words).drop (before.countP Word.parsed) =
        opening.lexeme :: (lexemes inside ++ after) := by
  obtain ⟨after, rfl⟩ := h.part
  refine ⟨lexemes after, ?_⟩
  have hlen : (lexemes before).length = before.countP Word.parsed := by
    rw [lexemes, List.length_map, List.countP_eq_length_filter]
  have hcons (ws : List Word) : lexemes (opening :: ws) = opening.lexeme :: lexemes ws := by
    simp [lexemes, hp]
  rw [lexemes_append, ← hlen, List.drop_left, hcons, lexemes_append]

/-- **A block in which an unknown word is parsed is no valid one.** -/
theorem Inside.not_begins (h : Inside b words before opening inside)
    (hp : opening.parsed = true) (hx : x ∈ inside) (hu : x.lexeme.kind = .unknown)
    (hxp : x.parsed = true) {mode : Option Mode} {b' : Block}
    {settings : List (Setting × Value)} {k : Nat} :
    ¬Begins mode ((lexemes words).drop (before.countP Word.parsed)) (.setOptions b' settings)
      k := by
  rintro ⟨ws, tail, hl, -, hws, -, -⟩
  obtain ⟨after, hdrop⟩ := h.drop_lexemes hp
  obtain ⟨w, r, z, rfl, hw, hr, hz⟩ := hws.exists_blockStart
  rw [hdrop] at hl
  obtain ⟨rfl, hl⟩ := List.cons.inj hl
  obtain rfl : b' = b := Kind.blockStart.inj (hw.symm.trans h.opens)
  have hmem : x.lexeme ∈ lexemes inside :=
    List.mem_map_of_mem (List.mem_filter.2 ⟨hx, hxp⟩)
  have hne : x.lexeme ∉ r := fun hxr => by
    rcases hr.kind_cases _ hxr with ⟨s, hk⟩ | hk | hk <;> rw [hu] at hk <;> cases hk
  have hend : ∀ y ∈ lexemes inside, y.kind ≠ .blockEnd b' := fun y hy => by
    obtain ⟨v, hv, rfl⟩ := List.mem_map.1 hy
    exact h.unclosed v (List.mem_filter.1 hv).1
  -- The closing word that was read is not inside, so all that is inside is among the settings.
  have hl : lexemes inside ++ after = r ++ z :: tail := by simpa using hl
  rcases List.append_eq_append_iff.1 hl with ⟨mid, rfl, -⟩ | ⟨mid, hi, hmid⟩
  · exact hne (List.mem_append_left _ hmem)
  · rw [hi] at hmem hend
    cases mid with
    | nil => exact hne (List.append_nil r ▸ hmem)
    | cons y mid =>
      obtain ⟨rfl, -⟩ := List.cons.inj hmid
      exact hend z (by simp) hz

end Inside

section Device

variable [Device σ]

/-- The words of all lines that are carried out: those of a script that is sourced first, if there
is one, and those that come with the inputs. -/
def heardWords (s : Session σ) (script : Option String) (inputs : List Input) : List Word :=
  (s.heardFirst script ++ (s.opened script).heardIn inputs).flatMap wordsOfLine

/-- The words of lines that are parsed are all that the executor of a session is fed. -/
theorem fedAll_heardWords (p : Params) (device : σ) (site : Site) (script : Option String)
    {inputs : List Input} {s : Session σ}
    (hs : ((start p device site).opened script).after? inputs = some s) (i : Input) :
    FedAll (lexemes ((start p device site).heardWords script (inputs ++ [i])))
      (start p device site).executor (respond i s).state.executor := by
  have hup := (upright_opened p device site script).1
  have hall := ((fedAll_opened (start p device site) script).trans
    (fedAll_after hup hs)).trans (fedAll_respond (hup.after hs).unread i)
  rw [heardWords, lexemes_flatMap, heardIn_append hs]
  simpa using hall

/-- **Lines without a known word leave the executor as it is**, and each word is reported. -/
theorem feedAll_of_unknown {ls : List (List Lexeme)} (h : ∀ l ∈ ls, hasKnown l = false)
    (e : Executor σ) : feedAll ls e =
      ⟨.ok (), (ls.flatMap Lexer.unknowns).map (Event.report .command), e⟩ := by
  induction ls with
  | nil => rfl
  | cons l ls ih =>
    have hl : (l.all fun x => decide (x.kind = .unknown)) = true := by
      simpa [hasKnown] using h l List.mem_cons_self
    have hfeed : feed l (Lexer.unknowns l) e =
        ⟨.ok (), (Lexer.unknowns l).map (Event.report .command), e⟩ := by
      rw [feed_state, if_pos hl]
    rw [feedAll, Act.forEach_cons, Act.bind_of_ok (congrArg Outcome.result hfeed), hfeed]
    have hrest : Act.forEach ls (fun l => feed l (Lexer.unknowns l)) e = _ :=
      ih fun m hm => h m (List.mem_cons_of_mem l hm)
    simp only [hrest, List.flatMap_cons, List.map_append]

/-- **An input without a known word leaves the executor as it is**, and each of its words is
reported, in their order. -/
theorem respond_of_unknown {s : Session σ} (h : s.lexer.unread = none) {text : String}
    (hl : ∀ l ∈ s.linesWith (.typed text), hasKnown l = false) :
    (respond (.typed text) s).state.executor = s.executor ∧
      (((s.linesWith (.typed text)).flatMap Lexer.unknowns).map
        (Event.report .command)).Sublist (respond (.typed text) s).events := by
  obtain ⟨hresult, hevents, hstate⟩ := handle_feedAll h text
  have hlines : s.linesWith (.typed text) = s.linesHeard (hear text) := rfl
  rw [hlines] at hl ⊢
  generalize s.linesHeard (hear text) = ls at hl hresult hevents hstate ⊢
  rw [feedAll_of_unknown hl s.executor] at hresult hevents hstate
  dsimp only at hresult hevents hstate
  have hresult : (handle text s).result = .ok () := hresult.elim id And.left
  rw [respond_typed]
  generalize handle text s = o at hresult hevents hstate ⊢
  rw [hresult]
  exact ⟨hstate, hevents⟩

/-- **An unknown word spoils the block in which it stands**, if there is a known word on its line,
however the words of the block are distributed over lines.

It is so after every input to a session, with any parameters, plotter and site, and with or without
a script sourced first.  The executor has parsed all words of lines with a known word, and no
others; the block is not carried out, and every call that sets an option or commits options is made
for another block.  A line without a known word leaves the executor, and the block with it, as it
was; but each of its words is reported. -/
theorem unknown_word_spoils (p : Params) (device : σ) (site : Site) (script : Option String)
    {inputs : List Input} {s : Session σ} {i : Input} {b : Block} {before inside : List Word}
    {opening x : Word}
    (hs : ((start p device site).opened script).after? inputs = some s)
    (h : Inside b ((start p device site).heardWords script (inputs ++ [i])) before opening inside)
    (hx : x ∈ inside) (hu : x.lexeme.kind = .unknown) (hp : x.parsed = true) :
    let e := (respond i s).state.executor
    let n := before.countP Word.parsed
    e.stream.entries = lexemes ((start p device site).heardWords script (inputs ++ [i])) ∧
    e.stream.entries[n]? = some opening.lexeme ∧
    (∀ b' settings, .begun n (.setOptions b' settings) ∉ e.bench.deeds) ∧
    (∀ l k c r m, e.bench.deeds = l ++ .asked k c r :: m → c.IsOption →
      ∃ l' n' b' settings made, l = l' ++ .begun n' (.setOptions b' settings) :: made ∧ n' ≠ n ∧
        ∀ d ∈ made, d.call? ≠ none) ∧
    ∀ text, (∀ l ∈ s.linesWith (.typed text), hasKnown l = false) →
      (respond (.typed text) s).state.executor = s.executor ∧
        (((s.linesWith (.typed text)).flatMap Lexer.unknowns).map
          (Event.report .command)).Sublist (respond (.typed text) s).events := by
  intro e n
  have hfed := fedAll_heardWords p device site script hs i
  have hentries : e.stream.entries =
      lexemes ((start p device site).heardWords script (inputs ++ [i])) :=
    congrArg Stream.entries (hfed.stream_eq rfl)
  obtain ⟨us, -, -, he⟩ := hfed
  have hpaced : Paced e := by
    rw [show e = _ from he]
    exact (paced_start false p device site).live us
  have hgrouped : Deed.Grouped e.bench.deeds := by
    rw [show e = _ from he]
    exact Past.grouped_of_leads Deed.grouped_nil (Past.safe_start device)
      (past_live (Executor.start false p device site) us)
  have hopening : opening.parsed = true := by
    obtain ⟨after, hpart⟩ := h.part
    have hmem : opening ∈ (start p device site).heardWords script (inputs ++ [i]) := by
      rw [hpart]
      simp
    exact parsed_of_mem hmem (by rw [h.opens]; rintro ⟨⟩)
  have hbegun : ∀ b' settings, .begun n (.setOptions b' settings) ∉ e.bench.deeds := by
    intro b' settings hmem
    obtain ⟨l, m, hl⟩ := List.append_of_mem hmem
    obtain ⟨k, hk⟩ := hpaced.orderly.valid l n b' settings m hl
    rw [hentries] at hk
    exact h.not_begins hopening hx hu hp hk
  have hunread : s.lexer.unread = none :=
    ((upright_opened p device site script).1.after hs).unread
  refine ⟨hentries, ?_, hbegun, fun l k c r m hl ho => ?_,
    fun _ hl => respond_of_unknown hunread hl⟩
  · obtain ⟨after, hdrop⟩ := h.drop_lexemes hopening
    rw [← hentries] at hdrop
    have hhead : (e.stream.entries.drop n)[0]? = some opening.lexeme := by rw [hdrop]; rfl
    rwa [List.getElem?_drop] at hhead
  · obtain ⟨l', n', b', settings, made, rfl, hmade⟩ := hgrouped.within l k c r m hl ho
    refine ⟨l', n', b', settings, made, rfl, ?_, hmade⟩
    rintro rfl
    refine hbegun b' settings ?_
    rw [hl]
    simp

end Device

/-- The unknown word is on the line of a setting. -/
theorem unknown_word_spoils_accel :
    let first := start .standard Recorder.obliging .bare
    let inputs := [.typed "MODE P", .typed "OPTS", .typed "ACCEL 50 FOO"]
    let words := first.heardWords none (inputs ++ [.typed "END_OPTS"])
    let opening : Word := ⟨⟨⟨.blockStart .options, "OPTS"⟩, ⟨"OPTS", 2, 0, 4, none⟩⟩, true⟩
    let unknown : Word := ⟨⟨⟨.unknown, "FOO"⟩, ⟨"ACCEL 50 FOO", 3, 9, 12, none⟩⟩, true⟩
    ∃ s, first.after? inputs = some s ∧
      Inside .options words (words.take 2) opening ((words.drop 3).take 3) ∧
      unknown ∈ (words.drop 3).take 3 ∧
      ∀ b settings, .begun 2 (.setOptions b settings) ∉
        (respond (.typed "END_OPTS") s).state.executor.bench.deeds := by
  intro first inputs words opening unknown
  have hsome : (first.after? inputs).isSome = true := by decide +kernel
  obtain ⟨s, hs⟩ := Option.isSome_iff_exists.1 hsome
  have hin : Inside .options words (words.take 2) opening ((words.drop 3).take 3) :=
    ⟨⟨words.drop 6, by decide +kernel⟩, rfl, by decide +kernel⟩
  have hmem : unknown ∈ (words.drop 3).take 3 := by decide +kernel
  have hcount : (words.take 2).countP Word.parsed = 2 := by decide +kernel
  obtain ⟨-, -, hbegun, -, -⟩ := unknown_word_spoils .standard Recorder.obliging .bare none hs hin
    hmem rfl rfl
  rw [hcount] at hbegun
  exact ⟨s, hs, hin, hmem, hbegun⟩

/-- The unknown word is alone on its line, and the block takes effect. -/
theorem unknown_line_spoils_nothing :
    let first := start .standard Recorder.obliging .bare
    let inputs := [.typed "MODE P", .typed "OPTS", .typed "ACCEL 50", .typed "FOO"]
    let words := first.heardWords none (inputs ++ [.typed "END_OPTS"])
    let opening : Word := ⟨⟨⟨.blockStart .options, "OPTS"⟩, ⟨"OPTS", 2, 0, 4, none⟩⟩, true⟩
    let unknown : Word := ⟨⟨⟨.unknown, "FOO"⟩, ⟨"FOO", 4, 0, 3, none⟩⟩, false⟩
    Inside .options words (words.take 2) opening ((words.drop 3).take 3) ∧
      unknown ∈ (words.drop 3).take 3 ∧
      (first.after? inputs).map (fun s =>
        Deed.calls (respond (.typed "END_OPTS") s).state.executor.bench.deeds) =
      some [.set .acceleration (.num (.int 50)), .commitOptions] := by
  intro first inputs words opening unknown
  exact ⟨⟨⟨words.drop 6, by decide +kernel⟩, rfl, by decide +kernel⟩, by decide +kernel,
    by decide +kernel⟩

end Session
end PlotScript
