/-
# Comments that stay open

A lexer remembers the `%=` of the block comment that is open.  It is used in any way, asked for one
word after another or handed one line after another:

| of the lines that it has come to | it remembers |
| --- | --- |
| the last is read up to a word | nothing: no comment is open behind a word |
| the last is read to its end, outside of a block comment | nothing |
| the last is read to its end, inside of one | the `%=` of that comment, on its line |

A comment is open where the parts of the lines say so (`Part.Inside`); its `%=` is the one behind
which there is no `=%` (`Part.Opening`).  At the end of the file a lexer that reads its lines stays
as it is, whatever it is asked for (`Lexer.Done.useAll`), and it warns when it comes there for the
first time (`Lexer.Reads.warningsAll`).

The language specification, §14, says what a block comment does that is not closed.
-/

import PlotScript.Proofs.UnknownWords
import PlotScript.Proofs.Layout

namespace PlotScript
namespace Part

open Lexer

variable {o o₁ o₂ : Bool} {cs r s : List Char} {ps qs : List Part} {source : Option String}

/-- The parts at the front of a text, what is left behind them, and whether a block comment is open
there. -/
inductive Reaches : Bool → List Char → List Part → List Char → Bool → Prop
  | nil (o : Bool) (cs : List Char) : Reaches o cs [] cs o
  | cons {o o₁ o₂ : Bool} {cs r s : List Char} {p : Part} {ps : List Part} :
    First o cs p r o₁ → Reaches o₁ r ps s o₂ → Reaches o cs (p :: ps) s o₂

/-- Parts that reach a rest, and parts that go on from there, reach what the latter reach. -/
theorem Reaches.trans (h : Reaches o cs ps r o₁) (k : Reaches o₁ r qs s o₂) :
    Reaches o cs (ps ++ qs) s o₂ := by
  induction h with
  | nil => exact k
  | cons hf _ ih => exact .cons hf (ih k)

/-- A text is made up of the parts that are reached and of the rest behind them. -/
theorem Reaches.eq_append (h : Reaches o cs ps s o₁) : cs = ps.flatMap text ++ s := by
  induction h with
  | nil => rfl
  | cons hf _ ih => rw [hf.eq_append, ih, List.flatMap_cons, List.append_assoc]

/-- Parts that leave nothing are all of them. -/
theorem reaches_nil_iff : Reaches o cs ps [] o₁ ↔ Parts o cs ps o₁ := by
  constructor
  · intro h
    generalize hs : ([] : List Char) = s at h
    induction h with
    | nil =>
      subst hs
      exact .nil _
    | cons hf _ ih => exact .cons hf (ih hs)
  · intro h
    induction h with
    | nil => exact .nil _ _
    | cons hf _ ih => exact .cons hf ih

/-- Behind a part a text does not come again. -/
theorem First.not_reaches {p : Part} (hf : First o cs p r o₁) : ¬Reaches o₁ r ps cs o₂ := by
  intro h
  have hlen := congrArg List.length (hf.eq_append.trans (congrArg _ h.eq_append))
  have hpos := List.length_pos_of_ne_nil hf.text_ne_nil
  simp only [List.length_append] at hlen
  omega

/-- Whether a comment is open is determined by what is left. -/
theorem Reaches.unique (h : Reaches o cs ps s o₁) (k : Reaches o cs qs s o₂) : o₁ = o₂ := by
  induction h generalizing qs with
  | nil =>
    cases k with
    | nil => rfl
    | cons kf k => exact absurd k kf.not_reaches
  | cons hf h ih =>
    cases k with
    | nil => exact absurd h hf.not_reaches
    | cons kf k =>
      obtain ⟨-, rfl, rfl⟩ := hf.unique kf rfl
      exact ih k

/-- The parts of lines are those of the first of them, and those of the others from there on. -/
theorem Layout.append {ls ms : List (List Char)} {pss qss : List (List Part)}
    (h : Layout o ls pss o₁) (k : Layout o₁ ms qss o₂) :
    Layout o (ls ++ ms) (pss ++ qss) o₂ := by
  induction h with
  | nil => exact k
  | cons hp _ ih => exact .cons hp (ih k)

/-- Lines with their numbers. -/
abbrev Numbered := List (Int × String)

/-- Lines that are numbered from a number on. -/
def numbered (k : Int) : List String → Numbered
  | [] => []
  | line :: lines => (k, line) :: numbered (k + 1) lines

/-- Lines that follow others are numbered from behind those. -/
@[simp] theorem numbered_append (k : Int) (l m : List String) :
    numbered k (l ++ m) = numbered k l ++ numbered (k + l.length) m := by
  induction l generalizing k with
  | nil => rw [List.nil_append, List.length_nil, Int.natCast_zero, Int.add_zero]; rfl
  | cons line l ih =>
    rw [List.cons_append, numbered, ih, List.length_cons,
      show k + 1 + (l.length : Int) = k + ((l.length + 1 : Nat) : Int) by omega]
    rfl

/-- The characters of lines without their ends. -/
def allChars (ls : Numbered) : List (List Char) := ls.map fun x => chars x.2

/-- Whether a block comment is open in lines of which the last is read up to a rest. -/
inductive Inside : Numbered → List Char → Bool → Prop
  | nothing : Inside [] [] false
  | line {ls : Numbered} {k : Int} {line : String} {pss : List (List Part)} {o o₁ : Bool}
    {ps : List Part} {s : List Char} : Layout false (allChars ls) pss o →
    Reaches o (chars line) ps s o₁ → Inside (ls ++ [(k, line)]) s o₁

/-- The `%=` of the block comment that is open behind lines: it stands where a part of its line
begins, outside of a block comment, and no `=%` comes after it. -/
inductive Opening (source : Option String) : Numbered → Lexeme → Prop
  | intro {before after : Numbered} {k : Int} {line : String} {pss : List (List Part)} {o : Bool}
    {ps : List Part} {post : List Char} : Layout false (allChars before) pss o →
    Reaches o (chars line) ps ('%' :: '=' :: post) false → Unclosed post →
    (∀ x ∈ after, Unclosed (chars x.2)) →
    Opening source (before ++ (k, line) :: after)
      (opener (columns (Text.dropLineEnd line) k source) (ps.flatMap text).length)

/-- The characters of lines and one more are theirs, and then those of the one more. -/
@[simp] theorem allChars_concat (ls : Numbered) (k : Int) (line : String) :
    allChars (ls ++ [(k, line)]) = allChars ls ++ [chars line] := List.map_append

/-- Before the first line nothing is left, and no comment is open. -/
theorem inside_nil_iff : Inside [] s o ↔ s = [] ∧ o = false := by
  constructor
  · intro h
    generalize hls : ([] : Numbered) = ls at h
    cases h with
    | nothing => exact ⟨rfl, rfl⟩
    | line => exact absurd hls (by simp)
  · rintro ⟨rfl, rfl⟩
    exact .nothing

/-- Whether a comment is open in the last of some lines is told by the parts of the lines before it,
and by the parts of it that are reached. -/
theorem inside_concat_iff {ls : Numbered} {k : Int} {line : String} :
    Inside (ls ++ [(k, line)]) s o₁ ↔
      ∃ pss o ps, Layout false (allChars ls) pss o ∧ Reaches o (chars line) ps s o₁ := by
  constructor
  · intro h
    generalize hls : ls ++ [(k, line)] = ls' at h
    cases h with
    | nothing => exact absurd hls (by simp)
    | line hl hr =>
      obtain ⟨rfl, hlast⟩ := List.append_inj' hls rfl
      obtain ⟨⟨rfl, rfl⟩, -⟩ := List.cons.inj hlast
      exact ⟨_, _, _, hl, hr⟩
  · rintro ⟨pss, o, ps, hl, hr⟩
    exact .line hl hr

/-- Where lines are read to their end, a comment is open if one is open behind their parts. -/
theorem inside_of_layout {ls : Numbered} {pss : List (List Part)}
    (h : Layout false (allChars ls) pss o) : Inside ls [] o := by
  rcases List.eq_nil_or_concat ls with rfl | ⟨ls, ⟨k, line⟩, rfl⟩
  · obtain ⟨-, rfl⟩ := h.unique (.nil false)
    exact .nothing
  · rw [List.concat_eq_append] at h ⊢
    obtain ⟨qss, o₁, hl⟩ := exists_layout false (allChars ls)
    obtain ⟨qs, o₂, hq⟩ := exists_parts o₁ (chars line)
    rw [allChars_concat] at h
    obtain ⟨-, rfl⟩ := h.unique (hl.append (.cons hq (.nil _)))
    exact .line hl (reaches_nil_iff.2 hq)

/-- Lines that are read to their end have parts. -/
theorem Inside.layout {ls : Numbered} (h : Inside ls [] o) :
    ∃ pss, Layout false (allChars ls) pss o := by
  rcases List.eq_nil_or_concat ls with rfl | ⟨ls, ⟨k, line⟩, rfl⟩
  · obtain ⟨-, rfl⟩ := inside_nil_iff.1 h
    exact ⟨[], .nil false⟩
  · rw [List.concat_eq_append] at h ⊢
    obtain ⟨pss, o₁, ps, hl, hr⟩ := inside_concat_iff.1 h
    rw [allChars_concat]
    exact ⟨_, hl.append (.cons (reaches_nil_iff.1 hr) (.nil _))⟩

/-- It is determined whether a comment is open. -/
theorem Inside.unique {ls : Numbered} (h : Inside ls s o₁) (k : Inside ls s o₂) : o₁ = o₂ := by
  cases h with
  | nothing => exact (inside_nil_iff.1 k).2.symm
  | line hl hr =>
    obtain ⟨qss, o', qs, kl, kr⟩ := inside_concat_iff.1 k
    obtain ⟨-, rfl⟩ := hl.unique kl
    exact hr.unique kr

/-- A comment stays open on a line more if no `=%` is on it, and its `%=` stays the same. -/
theorem Opening.extend {ls : Numbered} {l : Lexeme} (h : Opening source ls l) (k : Int)
    {line : String} (hu : Unclosed (chars line)) : Opening source (ls ++ [(k, line)]) l := by
  cases h with
  | intro hl hr hp ha =>
    rw [List.append_assoc, List.cons_append]
    exact .intro hl hr hp fun x hx => (List.mem_append.1 hx).elim (ha x) fun hx => by
      rw [List.mem_singleton.1 hx]
      exact hu

/-- What is remembered of a comment are the columns of its `%=`. -/
theorem Opening.marks {ls : Numbered} {l : Lexeme} (h : Opening source ls l) :
    ∃ x ∈ ls, l.token = ⟨.unknown, "%="⟩ ∧
      ∃ start : Nat, l.place = columns (Text.dropLineEnd x.2) x.1 source start (start + 2) ∧
        (l.place.line.toList.drop start).take 2 = ['%', '='] := by
  cases h with
  | @intro before after k line pss o ps post hl hr hp ha =>
    refine ⟨(k, line), by simp, rfl, _, rfl, ?_⟩
    show ((chars line).drop _).take 2 = _
    rw [hr.eq_append, List.drop_left]
    rfl

/-- Nothing is reached behind the end of a text. -/
theorem not_reaches_nil {c : Char} : ¬Reaches o [] ps (c :: s) o₁ := fun h =>
  absurd (congrArg List.length h.eq_append) (by simp)

/-- In a comment that is not closed no comment opens. -/
theorem not_reaches_of_unclosed (hu : Unclosed cs) {c : Char} :
    ¬Reaches true cs ps (c :: s) false := by
  intro h
  cases h with
  | cons hf h =>
    cases hf with
    | closed hc => exact hc.not_unclosed _ hu
    | unclosed => exact not_reaches_nil h

/-- On a line only one comment stays open.  The parts in front are determined by the characters, so
both are reached through the same parts. -/
theorem Reaches.length_eq {post post' : List Char}
    (h : Reaches o cs ps ('%' :: '=' :: post) false) (hp : Unclosed post)
    (k : Reaches o cs qs ('%' :: '=' :: post') false) (kp : Unclosed post') :
    (ps.flatMap text).length = (qs.flatMap text).length := by
  generalize hs : '%' :: '=' :: post = s at h
  generalize ho : false = o₁ at h
  induction h generalizing qs with
  | nil =>
    subst hs ho
    cases k with
    | nil => rfl
    | cons hf k =>
      obtain ⟨-, rfl, -⟩ := hf.unique (.opened hp) rfl
      exact absurd k not_reaches_nil
  | cons hf h ih =>
    subst hs ho
    cases k with
    | nil =>
      obtain ⟨-, rfl, -⟩ := hf.unique (.opened kp) rfl
      exact absurd h not_reaches_nil
    | cons kf k =>
      obtain ⟨rfl, rfl, rfl⟩ := hf.unique kf rfl
      rw [List.flatMap_cons, List.flatMap_cons, List.length_append, List.length_append,
        ih k rfl rfl]

/-- A comment stays open in lines without `=%`. -/
theorem exists_layout_of_unclosed {ls : List (List Char)} (h : ∀ cs ∈ ls, Unclosed cs) :
    ∃ pss, Layout true ls pss true := by
  induction ls with
  | nil => exact ⟨[], .nil true⟩
  | cons cs ls ih =>
    obtain ⟨hcs, hls⟩ := List.forall_mem_cons.1 h
    obtain ⟨pss, hl⟩ := ih hls
    by_cases hnil : cs = []
    · subst hnil
      exact ⟨[] :: pss, .cons (.nil true) hl⟩
    · exact ⟨[.blockComment cs] :: pss, .cons (.cons (.unclosed hnil hcs) (.nil true)) hl⟩

/-- A comment that opens on a line without `=%` behind it stays open in lines without `=%`. -/
theorem exists_layout_of_opened {before after : Numbered} {k : Int} {line : String}
    {pss : List (List Part)} {post : List Char} (hl : Layout false (allChars before) pss o)
    (hr : Reaches o (chars line) ps ('%' :: '=' :: post) false) (hp : Unclosed post)
    (ha : ∀ x ∈ after, Unclosed (chars x.2)) :
    ∃ qss, Layout false (allChars (before ++ (k, line) :: after)) qss true := by
  have hafter : ∀ cs ∈ allChars after, Unclosed cs := List.forall_mem_map.2 ha
  obtain ⟨mss, hm⟩ := exists_layout_of_unclosed hafter
  have hline := reaches_nil_iff.1 (hr.trans (.cons (.opened hp) (.nil _ _)))
  rw [allChars, List.map_append]
  exact ⟨_, hl.append (.cons hline hm)⟩

/-- Of two comments that stay open the first one to open is the second one as well.  The second one
would have opened within the first, if it were another one. -/
theorem opener_eq {before after after' mid : Numbered} {k k' : Int} {line line' : String}
    {pss qss : List (List Part)} {post post' : List Char}
    (hl : Layout false (allChars before) pss o)
    (hr : Reaches o (chars line) ps ('%' :: '=' :: post) false) (hp : Unclosed post)
    (ha : ∀ x ∈ after, Unclosed (chars x.2)) (kl : Layout false (allChars (before ++ mid)) qss o₁)
    (kr : Reaches o₁ (chars line') qs ('%' :: '=' :: post') false) (kp : Unclosed post')
    (he : (k, line) :: after = mid ++ (k', line') :: after') :
    opener (columns (Text.dropLineEnd line) k source) (ps.flatMap text).length =
      opener (columns (Text.dropLineEnd line') k' source) (qs.flatMap text).length := by
  cases mid with
  | nil =>
    rw [List.append_nil] at kl
    obtain ⟨⟨rfl, rfl⟩, -⟩ := List.cons.inj he
    obtain ⟨-, rfl⟩ := hl.unique kl
    rw [hr.length_eq hp kr kp]
  | cons x mid =>
    obtain ⟨rfl, rfl⟩ := List.cons.inj he
    have hmid : ∀ x ∈ mid, Unclosed (chars x.2) := fun x hx => ha x (List.mem_append_left _ hx)
    obtain ⟨mss, hm⟩ := exists_layout_of_opened hl hr hp hmid
    obtain ⟨-, rfl⟩ := kl.unique hm
    exact absurd kr (not_reaches_of_unclosed (ha _ (List.mem_append_right _ List.mem_cons_self)))

/-- Behind lines in which a comment stays open one is open. -/
theorem Opening.inside {ls : Numbered} {l : Lexeme} (h : Opening source ls l) :
    Inside ls [] true := by
  cases h with
  | @intro before after k line pss o ps post hl hr hp ha =>
    obtain ⟨qss, hall⟩ := exists_layout_of_opened hl hr hp ha
    exact inside_of_layout hall

/-- **At most one comment is open.** -/
theorem Opening.unique {ls : Numbered} {l l' : Lexeme} (h : Opening source ls l)
    (k : Opening source ls l') : l = l' := by
  cases h with
  | intro hl hr hp ha =>
    generalize hls : _ ++ _ :: _ = ls at k
    cases k with
    | intro kl kr kp ka =>
      rcases List.append_eq_append_iff.1 hls with ⟨mid, rfl, he⟩ | ⟨mid, rfl, he⟩
      · exact opener_eq hl hr hp ha kl kr kp he
      · exact (opener_eq kl kr kp ka hl hr hp he).symm

end Part

namespace Lexer

open PlotScript.Part

variable {place : Nat → Nat → Place} {o o₁ : Bool} {cs r : List Char} {ps : List Part}
  {source : Option String} {x y : Lexer} {ls : Numbered}

/-- **What is found on the rest of a line:** a word that is one of its parts, or none; and then a
comment that is open is the one from before, or one that begins there. -/
theorem scan_of_parts (place : Nat → Nat → Place) (h : Parts o cs ps o₁) {c : Option Lexeme}
    (hc : c.isSome = o) (n : Nat) :
    (∃ start w r qs, scan place c n cs = ⟨some (start, w, r), none⟩ ∧ Reaches o cs qs r false ∧
      start + w.length = n + (qs.flatMap text).length) ∨
    ∃ c', scan place c n cs = ⟨none, c'⟩ ∧ c'.isSome = o₁ ∧
      ∀ l, c' = some l → c = some l ∧ Unclosed cs ∨
        ∃ qs post, Reaches o cs qs ('%' :: '=' :: post) false ∧ Unclosed post ∧
          l = opener place (n + (qs.flatMap text).length) := by
  induction h generalizing c n with
  | nil o => exact .inr ⟨c, scan_nil c n, hc, fun l hl => .inl ⟨hl, by simp [Unclosed]⟩⟩
  | @cons o o₁ o₂ cs r p ps hf _ ih =>
    rcases scan_of_first place hf hc n with ⟨w, rfl, rfl, hs⟩ | ⟨-, c', hc', hs, hopen⟩
    · exact .inl ⟨n, w, r, [.word w], hs, .cons hf (.nil _ _), by simp [text]⟩
    · rw [hs]
      rcases ih hc' (n + p.text.length) with ⟨start, w, r', qs, hs', hr, hlen⟩ | ⟨c'', hs', ho, hl⟩
      · refine .inl ⟨start, w, r', p :: qs, hs', .cons hf hr, ?_⟩
        rw [hlen, List.flatMap_cons, List.length_append, Nat.add_assoc]
      · refine .inr ⟨c'', hs', ho, fun l hc'' => ?_⟩
        rcases hl l hc'' with ⟨hl, -⟩ | ⟨qs, post, hr, hp, rfl⟩
        · obtain ⟨rfl, h | ⟨rfl, rfl, post, rfl, hp⟩⟩ := hopen l hl
          · exact .inl h
          · obtain rfl : o = false := hc.symm
            exact .inr ⟨[], post, .nil _ _, hp, rfl⟩
        · refine .inr ⟨p :: qs, post, .cons hf hr, hp, ?_⟩
          rw [List.flatMap_cons, List.length_append, Nat.add_assoc]

/-- Passing over blanks and comments with two variables, each changed by itself: whether a block
comment is open, and the `%=` that is remembered. -/
def scanBoth (place : Nat → Nat → Place) : Bool → Option Lexeme → Nat → List Char →
    Option (Nat × List Char × List Char) × Bool × Option Lexeme
  | o, c, _, [] => (none, o, c)
  | true, _, n, '=' :: '%' :: r => scanBoth place false none (n + 2) r
  | true, c, n, _ :: r => scanBoth place true c (n + 1) r
  | false, _, n, '%' :: '=' :: r => scanBoth place true (some (opener place n)) (n + 2) r
  | false, c, _, '%' :: _ => (none, false, c)
  | false, c, n, d :: r =>
    if Text.isBlank d then scanBoth place false c (n + 1) r
    else (some (n, d :: r.takeWhile (!Text.isBlank ·), r.dropWhile (!Text.isBlank ·)), false, c)

/-- **A `%=` is remembered exactly while a comment is open**, so the two are one variable.  The
cases are those of the scan. -/
theorem scanBoth_eq (place : Nat → Nat → Place) (c : Option Lexeme) (n : Nat) (cs : List Char) :
    scanBoth place c.isSome c n cs =
      let s := scan place c n cs
      (s.word, s.comment.isSome, s.comment) := by
  fun_induction scan place c n cs with
  | case1 c n => cases c <;> rw [scanBoth.eq_def]
  | case2 _ n r ih | case4 n r ih =>
    rw [scanBoth.eq_def]
    exact ih
  | case3 _ n d r hd ih =>
    rw [scanBoth.eq_def]
    split <;> simp_all
  | case5 n r hr =>
    rw [scanBoth.eq_def]
    split <;> grind
  | case6 n d r hb hp hblank ih =>
    rw [scanBoth.eq_def]
    split <;> simp_all
  | case7 n d r hb hp hblank =>
    rw [scanBoth.eq_def]
    split <;> simp_all

/-- The line that a lexer is on, with its number, when it has come to some lines. -/
def lastLine (ls : Numbered) : Int × String :=
  (ls.getLast?.map fun x => (x.1, Text.dropLineEnd x.2)).getD (0, "")

/-- The lexer is on the line that it came to last. -/
theorem lastLine_concat (ls : Numbered) (k : Int) (line : String) :
    lastLine (ls ++ [(k, line)]) = (k, Text.dropLineEnd line) := by
  rw [lastLine, List.getLast?_concat]
  rfl

/-- A lexer has read lines to their end. -/
structure Through (source : Option String) (ls : Numbered) (x : Lexer) : Prop where
  source_eq : x.source = source
  last : lastLine ls = (x.lineNumber, x.line)
  rest_eq : x.rest = []
  column_eq : x.column = x.line.toList.length
  inside : Inside ls [] x.comment.isSome
  opening : ∀ l, x.comment = some l → Opening source ls l

/-- A lexer is within a line that comes after others; a comment that is open was open before it. -/
structure Within (source : Option String) (ls : Numbered) (k : Int) (line : String) (x : Lexer) :
    Prop where
  source_eq : x.source = source
  number_eq : x.lineNumber = k
  line_eq : x.line = Text.dropLineEnd line
  reached : ∃ pss o ps, Layout false (allChars ls) pss o ∧
    Reaches o (chars line) ps x.rest x.comment.isSome ∧ x.column = (ps.flatMap text).length ∧
    ∀ l, x.comment = some l → ps = [] ∧ Opening source ls l

/-- From the end of a line the lexer comes to the beginning of the next one, with the comment that
is open. -/
theorem Through.load (h : Through source ls x) (k : Int) (line : String) :
    Within source ls k line (x.load line k) := by
  obtain ⟨pss, hl⟩ := h.inside.layout
  have hr : (x.load line k).rest = chars line := by simp only [Lexer.load, chars]
  exact ⟨h.source_eq, rfl, rfl, pss, _, [], hl, hr ▸ .nil _ _, rfl,
    fun l hc => ⟨rfl, h.opening l hc⟩⟩

/-- At the end of a line nothing is found, and nothing changes. -/
theorem Through.scan (h : Through source ls x) :
    scan x.place x.comment x.column x.rest = ⟨none, x.comment⟩ ∧ x.atLineEnd x.comment = x := by
  constructor
  · rw [h.rest_eq, scan_nil]
  · rw [atLineEnd, ← h.column_eq, ← h.rest_eq]

/-- Within a line a word is found, behind which no comment is open, or the end of the line.  The
parts of what is left of the line tell which of the two it is. -/
theorem Within.scan {k : Int} {line : String} (h : Within source ls k line x) :
    (∃ start w r, scan x.place x.comment x.column x.rest = ⟨some (start, w, r), none⟩ ∧
      Within source ls k line (x.take start w r).2) ∨
    ∃ c, scan x.place x.comment x.column x.rest = ⟨none, c⟩ ∧
      Through source (ls ++ [(k, line)]) (x.atLineEnd c) := by
  obtain ⟨pss, o, ps, hl, hr, hcolumn, hopen⟩ := h.reached
  obtain ⟨qs, o₁, hq⟩ := exists_parts x.comment.isSome x.rest
  have hplace : x.place = columns (Text.dropLineEnd line) k source := by
    funext start stop
    simp only [Lexer.place, h.line_eq, h.number_eq, h.source_eq]
    rfl
  rcases scan_of_parts x.place hq rfl x.column with
    ⟨start, w, r, rs, hs, hw, hlen⟩ | ⟨c, hs, hc, hend⟩
  · refine .inl ⟨start, w, r, hs, h.source_eq, h.number_eq, h.line_eq, pss, o, ps ++ rs, hl,
      hr.trans hw, ?_, fun _ => nofun⟩
    rw [List.flatMap_append, List.length_append, ← hcolumn, ← hlen]
    rfl
  · refine .inr ⟨c, hs, h.source_eq, ?_, rfl, rfl, ?_, fun l hcl => ?_⟩
    · rw [lastLine_concat, ← h.line_eq, ← h.number_eq]
      rfl
    · exact .line hl (hr.trans (reaches_nil_iff.2 (hc ▸ hq)))
    · rcases hend l hcl with ⟨hx, hu⟩ | ⟨rs, post, hq, hp, rfl⟩
      · obtain ⟨rfl, ho⟩ := hopen l hx
        rw [← hr.eq_append.trans (List.nil_append _)] at hu
        exact ho.extend k hu
      · rw [hplace, hcolumn, ← List.length_append, ← List.flatMap_append]
        exact .intro hl (hr.trans hq) hp (List.forall_mem_nil _)

/-- What is still to be read does not matter for where a lexer is. -/
theorem Through.withUnread (h : Through source ls x) (u : Option (List String)) (finished : Bool) :
    Through source ls { x with unread := u, finished := finished } :=
  ⟨h.source_eq, h.last, h.rest_eq, h.column_eq, h.inside, h.opening⟩

/-- A lexer has come to lines, and may be within the last of them. -/
inductive Underway (source : Option String) : Numbered → Lexer → Prop
  | through {ls : Numbered} {x : Lexer} : Through source ls x → Underway source ls x
  | within {ls : Numbered} {k : Int} {line : String} {x : Lexer} :
    Within source ls k line x → Underway source (ls ++ [(k, line)]) x

/-- A lexer finds a word and is underway behind it, with no comment open, or it comes to the end of
its line. -/
theorem Underway.scan (h : Underway source ls x) :
    (∃ start w r, scan x.place x.comment x.column x.rest = ⟨some (start, w, r), none⟩ ∧
      Underway source ls (x.take start w r).2) ∨
    ∃ c, scan x.place x.comment x.column x.rest = ⟨none, c⟩ ∧
      Through source ls (x.atLineEnd c) := by
  cases h with
  | through h => exact .inr ⟨x.comment, h.scan.1, by rw [h.scan.2]; exact h⟩
  | within h =>
    rcases h.scan with ⟨start, w, r, hs, hy⟩ | ⟨c, hs, hy⟩
    · exact .inl ⟨start, w, r, hs, .within hy⟩
    · exact .inr ⟨c, hs, hy⟩

/-- At the end of its line a lexer goes on to the next. -/
theorem Through.nextLine {c : Option Lexeme} (h : Through source ls (x.atLineEnd c))
    (line : String) (lines : List String) :
    Underway source (ls ++ [(x.lineNumber + 1, line)]) (x.nextLine c line lines) :=
  .within ((h.withUnread (some lines) x.finished).load (x.lineNumber + 1) line)

/-- Behind a word no comment is open.  The induction is on the lines that are still to be loaded: a
word is in the line at hand, or in a later one. -/
theorem Underway.of_search_word {texts : List String} {l : Lexeme} (h : Underway source ls x)
    (hx : x.lines = texts) (hw : x.search texts = .word l y) : y.comment = none ∧
      ∃ new, texts = new ++ y.lines ∧
        Underway source (ls ++ numbered (x.lineNumber + 1) new) y := by
  induction texts generalizing x ls with
  | nil =>
    rcases h.scan with ⟨start, w, r, hs, hy⟩ | ⟨c, hs, -⟩
    · rw [search_take hs] at hw
      cases hw
      exact ⟨rfl, [], hx.symm, by rwa [numbered, List.append_nil]⟩
    · rw [search, hs] at hw
      cases hw
  | cons line texts ih =>
    rcases h.scan with ⟨start, w, r, hs, hy⟩ | ⟨c, hs, hy⟩
    · rw [search_take hs] at hw
      cases hw
      exact ⟨rfl, [], hx.symm, by rwa [numbered, List.append_nil]⟩
    · rw [search, hs] at hw
      obtain ⟨hc, new, rfl, hu⟩ := ih (x := x.nextLine c line texts) (hy.nextLine line texts) rfl hw
      refine ⟨hc, line :: new, rfl, ?_⟩
      rw [List.append_assoc] at hu
      exact hu

/-- A lexer stops at the end of its last line.  No line held a word, so all of them were scanned to
their ends. -/
theorem Underway.of_search_stop {texts : List String} {l : Lexeme} {w : Option Complaint}
    (h : Underway source ls x) (hx : x.lines = texts) (hs : x.search texts = .stop l w y) :
    Through source (ls ++ numbered (x.lineNumber + 1) texts) y ∧ y.finished = true ∧
      l = ⟨⟨.endOfFile, ""⟩, y.place y.line.toList.length y.line.toList.length⟩ := by
  induction texts generalizing x ls with
  | nil =>
    rcases h.scan with ⟨start, w, r, hscan, -⟩ | ⟨c, hscan, hy⟩
    · rw [search_take hscan] at hs
      cases hs
    · rw [search, hscan] at hs
      cases hs
      rw [numbered, List.append_nil]
      exact ⟨hy.withUnread _ true, rfl, rfl⟩
  | cons line texts ih =>
    rcases h.scan with ⟨start, w, r, hscan, -⟩ | ⟨c, hscan, hy⟩
    · rw [search_take hscan] at hs
      cases hs
    · rw [search, hscan] at hs
      obtain ⟨ht, hf, hl⟩ := ih (x := x.nextLine c line texts) (hy.nextLine line texts) rfl hs
      rw [List.append_assoc] at ht
      exact ⟨ht, hf, hl⟩

/-- A lexer that is on its last line gives the end of the file. -/
theorem Through.next (h : Through source ls x) (hx : x.lines = []) :
    x.next = .stop ⟨⟨.endOfFile, ""⟩, x.place x.line.toList.length x.line.toList.length⟩
      (if x.unread.isSome && !x.finished then x.comment.map (.about .commentNotClosed) else none)
      { x with finished := true } := by
  have hn : x.next = x.search x.lines := rfl
  rw [hn, hx, search, h.scan.1]
  simp only [h.scan.2]
  rfl

/-- What a lexer is on and what it knows of comments, between two uses. -/
structure Tracks (source : Option String) (ls : Numbered) (x : Lexer) : Prop where
  last : lastLine ls = (x.lineNumber, x.line)
  /-- It remembers a comment exactly if one is open where it is. -/
  inside : ∀ o, Inside ls x.rest o ↔ x.comment.isSome = o
  /-- Then its line is read to the end, and what it remembers is the `%=` of that comment. -/
  opening : ∀ l, x.comment = some l ↔ x.rest = [] ∧ Opening source ls l
  /-- The columns that it remembers are those of a `%=` on one of the lines. -/
  marks : ∀ l, x.comment = some l → ∃ y ∈ ls, l.token = ⟨.unknown, "%="⟩ ∧
    ∃ start : Nat, l.place = columns (Text.dropLineEnd y.2) y.1 source start (start + 2) ∧
      (l.place.line.toList.drop start).take 2 = ['%', '=']

/-- A lexer between two uses: with a comment open it is at the end of its line. -/
structure Rests (source : Option String) (ls : Numbered) (x : Lexer) : Prop where
  underway : Underway source ls x
  through : x.comment.isSome = true → Through source ls x

/-- At the end of a line the lexer rests. -/
theorem Through.rests (h : Through source ls x) : Rests source ls x := ⟨.through h, fun _ => h⟩

/-- A lexer that rests knows whether a comment is open, and remembers its `%=` if so.  It rests
where a part ends, and there the layout of the lines tells what is open. -/
theorem Rests.tracks (h : Rests source ls x) : Tracks source ls x := by
  have hin : Inside ls x.rest x.comment.isSome := by
    cases h.underway with
    | through h => exact h.rest_eq ▸ h.inside
    | within h =>
      obtain ⟨pss, o, ps, hl, hr, -⟩ := h.reached
      exact .line hl hr
  have hopen {l : Lexeme} (hl : x.comment = some l) : x.rest = [] ∧ Opening source ls l := by
    have ht := h.through (by rw [hl]; rfl)
    exact ⟨ht.rest_eq, ht.opening l hl⟩
  constructor
  · cases h.underway with
    | through h => exact h.last
    | within h => rw [lastLine_concat, h.number_eq, h.line_eq]
  · exact fun o => ⟨hin.unique, fun ho => ho ▸ hin⟩
  · refine fun l => ⟨hopen, fun ⟨hrest, ho⟩ => ?_⟩
    obtain ⟨l', hl'⟩ := Option.isSome_iff_exists.1 ((hrest ▸ hin).unique ho.inside)
    rw [hl', (hopen hl').2.unique ho]
  · exact fun l hl => (hopen hl).2.marks

section Reading

variable {lines : List String}

/-- A lexer that reads lines has come to some of them. -/
def Reads (source : Option String) (lines : List String) (x : Lexer) : Prop :=
  x.unread.isSome = true ∧ ∃ read, lines = read ++ x.lines ∧ x.lineNumber = read.length ∧
    Rests source (numbered 1 read) x

/-- A lexer that reads lines has come to none of them at first. -/
theorem reads_reading (source : Option String) (lines : List String) :
    Reads source lines (reading lines source) :=
  ⟨rfl, [], rfl, rfl, Through.rests ⟨rfl, rfl, rfl, rfl, .nothing, fun _ => nofun⟩⟩

/-- A lexer that reads lines refuses a line that is handed over, and stays as it is. -/
theorem lexLine_of_reads (hx : x.unread.isSome = true) (text : String) (number : Option Int) :
    x.use (.line text number) = ([], x) := by
  simp only [use, lexLine, hx, if_true]

/-- **Reading goes from line to line**, and refuses lines that are handed over.  What is read so far
grows by the lines that the next word needed. -/
theorem Reads.use (h : Reads source lines x) (u : Use) : Reads source lines (x.use u).2 := by
  obtain ⟨hsome, read, hlines, hnumber, hrests⟩ := h
  have hall (new : List String) : numbered 1 (read ++ new) =
      numbered 1 read ++ numbered (x.lineNumber + 1) new := by
    simp [hnumber, Int.add_comm]
  cases u with
  | line text number =>
    rw [lexLine_of_reads hsome]
    exact ⟨hsome, read, hlines, hnumber, hrests⟩
  | next =>
    rcases hn : x.next with ⟨l, y⟩ | ⟨l, w, y⟩
    · obtain ⟨-, hk, -⟩ := Lexer.of_search_word rfl hn
      obtain ⟨hc, new, hnew, hy⟩ := hrests.underway.of_search_word rfl hn
      simp only [Lexer.use, hn]
      refine ⟨hk.isSome.trans hsome, read ++ new, ?_, ?_, ?_⟩
      · rw [List.append_assoc, ← hnew]
        exact hlines
      · have hnumbers := hk.number
        rw [show x.lines = _ from hnew] at hnumbers
        simp only [List.length_append] at hnumbers ⊢
        omega
      · rw [hall]
        refine ⟨hy, fun hs => ?_⟩
        rw [hc] at hs
        cases hs
    · obtain ⟨-, -, hk, hend, -⟩ := Lexer.of_search_stop rfl hn
      obtain ⟨ht, -, -⟩ := hrests.underway.of_search_stop rfl hn
      simp only [Lexer.use, hn]
      refine ⟨hk.isSome.trans hsome, lines, ?_, ?_, ?_⟩
      · rw [hend, List.append_nil]
      · have hnumbers : y.lineNumber + (y.lines.length : Int) = x.lineNumber + x.lines.length :=
          hk.number
        rw [hend] at hnumbers
        rw [hlines, List.length_append]
        simp only [List.length_nil] at hnumbers
        omega
      · rw [hlines, hall]
        exact ht.rests

/-- However often a lexer is used, it goes on from line to line. -/
theorem Reads.useAll (h : Reads source lines x) (us : List Use) :
    Reads source lines (x.useAll us).2 := by
  induction us generalizing x with
  | nil => exact h
  | cons u us ih => exact ih (h.use u)

/-- A lexer that has come to the end of its lines, and has said so. -/
structure Done (source : Option String) (lines : List String) (x : Lexer) : Prop where
  through : Through source (numbered 1 lines) x
  isSome : x.unread.isSome = true
  lines_eq : x.lines = []
  finished_eq : x.finished = true

/-- The end of the file behind lines. -/
def endBehind (source : Option String) (ls : Numbered) : Lexeme :=
  let n := (lastLine ls).2.toList.length
  ⟨⟨.endOfFile, ""⟩, columns (lastLine ls).2 (lastLine ls).1 source n n⟩

/-- A lexer that stops has come to the end of its lines. -/
theorem Reads.done (h : Reads source lines x) {l : Lexeme} {w : Option Complaint}
    (hs : x.next = .stop l w y) :
    Done source lines y ∧ l = endBehind source (numbered 1 lines) := by
  obtain ⟨hsome, read, hlines, hnumber, hrests⟩ := h
  obtain ⟨-, -, hk, hend, -⟩ := Lexer.of_search_stop rfl hs
  obtain ⟨ht, hf, hl⟩ := hrests.underway.of_search_stop rfl hs
  have hall : numbered 1 lines = numbered 1 read ++ numbered (x.lineNumber + 1) x.lines := by
    simp [hlines, hnumber, Int.add_comm]
  have ht' : Through source (numbered 1 lines) y := hall ▸ ht
  refine ⟨⟨ht', hk.isSome.trans hsome, hend, hf⟩, hl.trans ?_⟩
  rw [endBehind, ht'.last, Lexer.place, ht'.source_eq]
  rfl

/-- A use that asks for the next lexeme. -/
def Use.isNext : Use → Bool
  | .next => true
  | .line _ _ => false

/-- A lexer at the start of a line that is handed to it. -/
def atHanded (x : Lexer) (text : String) (number : Option Int) : Lexer :=
  { x.load text (number.getD (x.lineNumber + 1)) with finished := false }

/-- The warnings that a use leaves in the log. -/
def warnings (x : Lexer) : Use → List Complaint
  | .next =>
    match x.next with
    | .word _ _ => []
    | .stop _ w _ => w.toList
  | .line text number =>
    if x.unread.isSome then [] else (x.atHanded text number).tokens.2.1.toList

/-- The warnings that some uses leave, one after the other. -/
def warningsAll (x : Lexer) : List Use → List Complaint
  | [] => []
  | u :: us => x.warnings u ++ (x.use u).2.warningsAll us

/-- At the end of the file the lexer gives the end of the file again, without a warning. -/
theorem Done.next (h : Done source lines x) :
    x.next = .stop (endBehind source (numbered 1 lines)) none x := by
  rw [h.through.next h.lines_eq, endBehind, h.through.last, h.finished_eq, h.isSome]
  have hx : { x with finished := true } = x := by rw [← h.finished_eq]
  rw [hx, Lexer.place, h.through.source_eq]
  rfl

/-- **At the end of the file a lexer stays as it is.**  Asking for words gives the end of the file
again, and lines are refused. -/
theorem Done.useAll (h : Done source lines x) (us : List Use) :
    x.useAll us =
        (List.replicate (us.countP Use.isNext) (endBehind source (numbered 1 lines)), x) ∧
      x.warningsAll us = [] := by
  induction us with
  | nil => exact ⟨rfl, rfl⟩
  | cons u us ih =>
    cases u with
    | next =>
      have hu : x.use .next = ([endBehind source (numbered 1 lines)], x) := by
        simp only [use, h.next]
      rw [Lexer.useAll, warningsAll, hu]
      simp only [ih.1, ih.2, warnings, h.next]
      rw [List.countP_cons_of_pos rfl, List.replicate_succ]
      exact ⟨rfl, rfl⟩
    | line text number =>
      rw [Lexer.useAll, warningsAll, lexLine_of_reads h.isSome]
      simp only [ih.1, ih.2, warnings, h.isSome, if_true]
      rw [List.countP_cons_of_neg Bool.false_ne_true]
      exact ⟨rfl, rfl⟩

/-- A lexer that reads lines warns when it comes to their end, of the comment that is open there.
Before the end there is no warning, and after it the lexer does not change any more. -/
theorem Reads.warningsAll (h : Reads source lines x) (hf : x.finished = false) (us : List Use) :
    ((∀ l ∈ (x.useAll us).1, l.kind ≠ .endOfFile) → x.warningsAll us = []) ∧
    ((∃ l ∈ (x.useAll us).1, l.kind = .endOfFile) → ∃ y, Done source lines y ∧
      x.warningsAll us = (y.comment.map (.about .commentNotClosed)).toList) := by
  induction us generalizing x with
  | nil => exact ⟨fun _ => rfl, fun ⟨l, hl, _⟩ => nomatch hl⟩
  | cons u us ih =>
    have hall : (x.useAll (u :: us)).1 = (x.use u).1 ++ ((x.use u).2.useAll us).1 := rfl
    have hws : x.warningsAll (u :: us) = x.warnings u ++ (x.use u).2.warningsAll us := rfl
    rw [hall, hws]
    have hnext := h.use u
    cases u with
    | line text number =>
      have hw : x.warnings (.line text number) = [] := by simp only [warnings, h.1, if_true]
      rw [lexLine_of_reads h.1, hw]
      exact ih h hf
    | next =>
      rcases hn : x.next with ⟨l, y⟩ | ⟨l, w, y⟩
      · have hk : l.kind ≠ .endOfFile := by
          rcases search_cases x x.lines with ⟨word, place, z, -, hs⟩ | ⟨_, _, _, hs⟩
          · cases hn.symm.trans hs
            exact kind_classify_ne word
          · cases hn.symm.trans hs
        have hy : y.finished = false := (of_search_word rfl hn).2.1.finished.trans hf
        simp only [Lexer.use, hn, warnings, List.nil_append] at hnext ⊢
        obtain ⟨hnone, hsome⟩ := ih hnext hy
        refine ⟨fun hm => hnone fun l' hl' => hm l' (List.mem_append_right _ hl'), ?_⟩
        rintro ⟨l', hl', hk'⟩
        rcases List.mem_append.1 hl' with hl' | hl'
        · exact absurd hk' (List.mem_singleton.1 hl' ▸ hk)
        · exact hsome ⟨l', hl', hk'⟩
      · obtain ⟨hy, rfl⟩ := h.done hn
        have hw := warning_search rfl hn
        rw [h.1, hf] at hw
        simp only [Lexer.use, hn, warnings, (hy.useAll us).2, List.append_nil]
        refine ⟨fun hm => absurd rfl (hm _ (List.mem_append_left _ List.mem_cons_self)),
          fun _ => ⟨y, hy, ?_⟩⟩
        rw [hw]
        rfl

end Reading

section Handed

/-- The lines that are handed to a lexer, with the numbers that it gives them; the line before them
has the number `k`. -/
def handedOver (k : Int) : List Use → Numbered
  | [] => []
  | .next :: us => handedOver k us
  | .line text number :: us =>
    (number.getD (k + 1), text) :: handedOver (number.getD (k + 1)) us

/-- A lexer that has no lines to go on to comes to the end of the line that it is on. -/
theorem Underway.tokens (h : Underway source ls x) (hx : x.lines = []) :
    Through source ls x.tokens.2.2 := by
  fun_induction Lexer.tokens x with
  | case1 x l warning y hn =>
    obtain ⟨ht, -⟩ := h.of_search_stop rfl hn
    rwa [hx, numbered, List.append_nil] at ht
  | case2 x l y hn _ ms warning z heq ih =>
    obtain ⟨-, new, hnew, hy⟩ := h.of_search_word rfl hn
    obtain ⟨rfl, hlines⟩ := List.append_eq_nil_iff.1 (hnew.symm.trans hx)
    rw [numbered, List.append_nil] at hy
    have hz := ih hy hlines
    rwa [heq] at hz

/-- A line that is handed over is read from its start to its end. -/
theorem use_line (hx : x.unread = none) (text : String) (number : Option Int) :
    x.use (.line text number) =
      ((x.atHanded text number).tokens.1, (x.atHanded text number).tokens.2.2) := by
  rw [use, lexLine, hx, if_neg (by decide)]
  rfl

/-- Whether the end of the file was told does not matter for where the lexer is. -/
theorem Within.withFinished {k : Int} {line : String} (h : Within source ls k line x)
    (finished : Bool) : Within source ls k line { x with finished := finished } :=
  ⟨h.source_eq, h.number_eq, h.line_eq, h.reached⟩

/-- A line that is handed over stands behind those that are read, with the number that it is given
or else the next one. -/
theorem Through.atHanded (h : Through source ls x) (text : String) (number : Option Int) :
    Within source ls (number.getD (x.lineNumber + 1)) text (x.atHanded text number) :=
  (h.load (number.getD (x.lineNumber + 1)) text).withFinished false

/-- **Lines that are handed over are read to their ends**, without a warning.  Between two lines
nothing is left to read, so asking for the next word changes nothing. -/
theorem Through.useAll (h : Through source ls x) (hx : x.unread = none) (us : List Use) :
    Through source (ls ++ handedOver x.lineNumber us) (x.useAll us).2 ∧ x.warningsAll us = [] := by
  have hlines : x.lines = [] := by
    rw [Lexer.lines, hx]
    rfl
  induction us generalizing x ls with
  | nil => exact ⟨by rwa [handedOver, List.append_nil], rfl⟩
  | cons u us ih =>
    cases u with
    | next =>
      have hn := h.next hlines
      rw [hx] at hn
      obtain ⟨ht, hws⟩ := ih (h.withUnread none true) rfl rfl
      simp only [Lexer.useAll, Lexer.use, warningsAll, warnings, hn]
      exact ⟨ht, hws⟩
    | line text number =>
      -- A line that is handed over is loaded and lexed as a whole.
      have he := (x.atHanded text number).ends_tokens
      have ht := (Underway.within (h.atHanded text number)).tokens hlines
      have hnumber : (x.atHanded text number).tokens.2.2.lineNumber =
          number.getD (x.lineNumber + 1) := by
        rw [he.number, show (x.atHanded text number).lines = [] from hlines]
        exact Int.add_zero _
      have hunread : (x.atHanded text number).tokens.2.2.unread = none := by
        have hs := he.isSome
        rw [show (x.atHanded text number).unread = none from hx] at hs
        simpa using hs
      have hw : x.warnings (.line text number) = [] := by
        rw [warnings, hx, if_neg (by decide), warning_tokens]
        rw [show (x.atHanded text number).unread = none from hx]
        rfl
      obtain ⟨hus, hws⟩ := ih ht hunread (by rw [Lexer.lines, hunread]; rfl)
      rw [Lexer.useAll, warningsAll, use_line hx, hw]
      rw [hnumber, List.append_assoc] at hus
      exact ⟨hus, hws⟩

end Handed

/-- **A lexer remembers the comment that is open, and warns of it once.**  On a line, a `%=` is
remembered exactly while a comment is open.  A lexer is used in any way.  If it reads lines, it has
come to the first of them, and it remembers a comment exactly where one is open, by its `%=`.  Once
it has stopped it stays as it is and gives the end of the file, as often as it is asked.  The
warning that a comment is open at the end of the lines is left once if one is, when the lexer stops
for the first time, and not at all if none is.  If it is handed its lines, it remembers a comment in
the same way, and warns of nothing. -/
theorem comments_remembered (source : Option String) :
    (∀ (place : Nat → Nat → Place) (c : Option Lexeme) (n : Nat) (cs : List Char),
      scanBoth place c.isSome c n cs =
        let s := scan place c n cs
        (s.word, s.comment.isSome, s.comment)) ∧
    (∀ (lines : List String) (us : List Use),
      let o := (reading lines source).useAll us
      let whole := numbered 1 lines
      let ws := (reading lines source).warningsAll us
      (∃ read, lines = read ++ o.2.lines ∧ Tracks source (numbered 1 read) o.2) ∧
      (∀ l w y, o.2.next = .stop l w y → l = endBehind source whole ∧ y.rest = [] ∧
        Tracks source whole y ∧ ∀ vs,
          y.useAll vs = (List.replicate (vs.countP Use.isNext) l, y) ∧ y.warningsAll vs = []) ∧
      ((∀ l ∈ o.1, l.kind ≠ .endOfFile) → ws = []) ∧
      ((∃ l ∈ o.1, l.kind = .endOfFile) →
        (Inside whole [] true → ∃ l, Opening source whole l ∧ ws = [.about .commentNotClosed l]) ∧
        (Inside whole [] false → ws = []))) ∧
    ∀ us : List Use,
      let x := ((handed source).useAll us).2
      Tracks source (handedOver 0 us) x ∧ x.rest = [] ∧ (handed source).warningsAll us = [] := by
  refine ⟨scanBoth_eq, fun lines us => ?_, fun us => ?_⟩
  · have hreads := (reads_reading source lines).useAll us
    obtain ⟨hnone, hsome⟩ := (reads_reading source lines).warningsAll rfl us
    refine ⟨?_, fun l w y hs => ?_, hnone, fun hl => ?_⟩
    · obtain ⟨-, read, hlines, -, hrests⟩ := hreads
      exact ⟨read, hlines, hrests.tracks⟩
    · obtain ⟨hy, rfl⟩ := hreads.done hs
      exact ⟨rfl, hy.through.rest_eq, hy.through.rests.tracks, hy.useAll⟩
    · obtain ⟨y, hy, hws⟩ := hsome hl
      refine ⟨fun hin => ?_, fun hin => ?_⟩
      · obtain ⟨l, hl⟩ := Option.isSome_iff_exists.1 (hy.through.inside.unique hin)
        exact ⟨l, hy.through.opening l hl, by rw [hws, hl]; rfl⟩
      · have hc := Option.isSome_eq_false_iff.1 (hy.through.inside.unique hin)
        rw [hws, Option.isNone_iff_eq_none.1 hc]
        rfl
  · have hstart : Through source [] (handed source) :=
      ⟨rfl, rfl, rfl, rfl, .nothing, fun _ => nofun⟩
    obtain ⟨ht, hws⟩ := hstart.useAll rfl us
    exact ⟨ht.rests.tracks, ht.rest_eq, hws⟩

example : ((reading ["PENUP %= a", "=% %= b %=", "c"] none).warningsAll
    [.next, .next, .line "=%" none, .next]).map (fun c => c.lexeme.map Lexeme.place) =
      [some ⟨"=% %= b %=", 2, 3, 5, none⟩] := by
  decide +kernel

end Lexer
end PlotScript
