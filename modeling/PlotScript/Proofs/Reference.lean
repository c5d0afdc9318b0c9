/-
# What a script means

A script is split into commands from the front, each valid in what the ones before it have
established: a mode, and perhaps a drawing (`Grammar.Splits`).  `Grammar.Longest` is the split
that goes furthest.  There is exactly one, since a command that lexemes begin with is the only one
(`begins_unique`), and it is the split after which no valid command follows (`Splits.longest`).
-/

import PlotScript.Proofs.Reading
import PlotScript.Proofs.Enactment

namespace PlotScript

namespace Site

variable {s : Site} {path : String}

/-- A path leads to a readable file with an `svg` root. -/
def IsDrawing (s : Site) (path : String) : Prop :=
  path.toList.contains '\x00' = false ∧ ∃ bytes, (s.lookup path).bind Entry.bytes? = some bytes ∧
    Markup.rootName bytes = .ok "svg".toList

/-- A file at which the check of a drawing breaks down: its root has a name with colons, or the
path is none that a file can be opened by. -/
def Breaks (s : Site) (path : String) : Prop :=
  s.isFile path = true ∧ (path.toList.contains '\x00' = true ∨
    ∃ bytes name, (s.lookup path).bind Entry.bytes? = some bytes ∧
      Markup.rootName bytes = .ok name ∧ Markup.isPlainName name = false)

/-- A drawing is a file, and one that can be read. -/
theorem IsDrawing.isFile (h : s.IsDrawing path) : s.isFile path = true := by
  obtain ⟨-, bytes, hb, -⟩ := h
  obtain ⟨e, he, hb⟩ := Option.bind_eq_some_iff.1 hb
  rw [Site.isFile, he]
  cases e with
  | file => rfl
  | folder => cases hb

/-- The check of a path without a zero character is the specification of it: no other fault is
possible. -/
theorem checkDrawing_eq (hc : path.toList.contains '\x00' = false) (anchor : Option Lexeme) :
    s.checkDrawing path anchor = match s.drawingFault? path anchor with
      | none => .ok ()
      | some fault => .error fault := by
  rw [checkDrawing, checkPath, hc]
  rfl

/-- A drawing passes the check. -/
theorem IsDrawing.checkDrawing_eq (h : s.IsDrawing path) (anchor : Option Lexeme) :
    s.checkDrawing path anchor = .ok () := by
  obtain ⟨hc, bytes, hb, hn⟩ := h
  have hp : Markup.isPlainName "svg".toList = true := by decide +kernel
  rw [Site.checkDrawing_eq hc, drawingFault?, hb]
  simp only [hn, hp]
  rfl

/-- What is no drawing does not pass the check, and is complained about unless the check breaks
down. -/
theorem checkDrawing_of_not (h : ¬s.IsDrawing path) (hf : s.isFile path = true)
    (anchor : Option Lexeme) :
    (s.Breaks path ∧ ∃ f, s.checkDrawing path anchor = .error (.failure f)) ∨
      (¬s.Breaks path ∧ ∃ c, s.checkDrawing path anchor = .error (.command c)) := by
  by_cases hc : path.toList.contains '\x00' = true
  · refine .inl ⟨⟨hf, .inl hc⟩, .pathWithNull, ?_⟩
    rw [checkDrawing, checkPath, hc]
    rfl
  rw [Bool.not_eq_true] at hc
  have hbreaks : s.Breaks path ↔ ∃ bytes name, (s.lookup path).bind Entry.bytes? = some bytes ∧
      Markup.rootName bytes = .ok name ∧ Markup.isPlainName name = false := by
    rw [Breaks, hf, hc]
    simp
  rw [hbreaks, Site.checkDrawing_eq hc, drawingFault?]
  rcases hb : (s.lookup path).bind Entry.bytes? with _ | bytes
  · exact .inr ⟨by simp, _, rfl⟩
  rcases hn : Markup.rootName bytes with (_ | _) | name
  · exact .inr ⟨by simp [hn], ⟨.fileUnreadable path, anchor, none⟩, by simp only [hn]⟩
  · exact .inr ⟨by simp [hn], ⟨.svgMalformed path, anchor, none⟩, by simp only [hn]⟩
  rcases hp : Markup.isPlainName name with _ | _
  · refine .inl ⟨⟨bytes, name, rfl, hn, hp⟩, .badRootName (String.ofList name), ?_⟩
    simp only [hn, hp]
    rfl
  · refine .inr ⟨by simp [hn, hp], ⟨.svgOtherRoot path, anchor, none⟩, ?_⟩
    have hne : name ≠ "svg".toList := by
      rintro rfl
      exact h ⟨hc, bytes, hb, hn⟩
    simp only [hn, hp, if_neg hne]
    rfl

end Site

/-- What the commands of a script have established. -/
structure Phase where
  mode : Option Mode
  /-- A drawing was set. -/
  plotLoaded : Bool

namespace Action

/-- A command that sets a drawing. -/
def loads : Action → Bool
  | setPlot _ => true
  | _ => false

/-- What a command needs besides its mode: a drawing that can be set, or one that was. -/
def Achievable (site : Site) (plotLoaded : Bool) : Action → Prop
  | setPlot path => site.IsDrawing path
  | plot => plotLoaded = true
  | _ => True

/-- A command is valid where its mode permits it and it has what it needs. -/
def ValidIn (site : Site) (s : Phase) (a : Action) : Prop :=
  a.PermittedIn s.mode ∧ a.Achievable site s.plotLoaded

end Action

namespace Phase

/-- Nothing is established. -/
def start : Phase := ⟨none, false⟩

/-- What is established after a command. -/
def after (s : Phase) (a : Action) : Phase := ⟨a.modeAfter s.mode, s.plotLoaded || a.loads⟩

/-- What is established after some commands. -/
def afterAll (s : Phase) (l : List Action) : Phase := l.foldl after s

end Phase

namespace Grammar

/-- Lexemes split into commands, each valid after the ones before it, and the rest. -/
inductive Splits (site : Site) : Phase → List Lexeme → List Action → List Lexeme → Prop
  | nil (s : Phase) (l : List Lexeme) : Splits site s l [] l
  | cons {s : Phase} {ws tail rest : List Lexeme} {a : Action} {cs : List Action} :
    Spells ws a → a.EndsBefore tail → a.ValidIn site s → Splits site (s.after a) tail cs rest →
      Splits site s (ws ++ tail) (a :: cs) rest

/-- The split of a script that goes furthest. -/
def Longest (site : Site) (l : List Lexeme) (cs : List Action) (rest : List Lexeme) : Prop :=
  Splits site .start l cs rest ∧
    ∀ cs' rest', Splits site .start l cs' rest' → rest.length ≤ rest'.length

/-- No valid command follows. -/
def Stuck (site : Site) (s : Phase) (l : List Lexeme) : Prop :=
  ∀ a n, Begins s.mode l a n → ¬a.Achievable site s.plotLoaded

/-- **Lexemes begin with one command only.** -/
theorem begins_unique {mode : Option Mode} {l : List Lexeme} {a a' : Action} {n n' : Nat}
    (hs : Reader.ShortValues l) (h : Begins mode l a n) (h' : Begins mode l a' n') :
    a = a' ∧ n = n' := by
  cases l with
  | nil =>
    obtain ⟨ws, tail, hl, -, hws, -, -⟩ := h
    have hpos := hws.length_pos
    rw [(List.append_eq_nil_iff.1 hl.symm).1] at hpos
    exact absurd hpos (Nat.lt_irrefl 0)
  | cons word rest =>
    have hr : (Reader.read mode false word rest).result = .ok (a, n) :=
      Reader.read_of_begins h (hs.take n)
    rw [Reader.read_of_begins h' (hs.take n')] at hr
    obtain ⟨rfl, rfl⟩ := Prod.mk.inj (Except.ok.inj hr)
    exact ⟨rfl, rfl⟩

variable {site : Site} {s : Phase} {l rest rest' : List Lexeme} {cs cs' : List Action}

/-- What is behind a name is no longer than the whole. -/
theorem Splits.length_le (h : Splits site s l cs rest) : rest.length ≤ l.length := by
  induction h with
  | nil => exact le_rfl
  | cons _ _ _ _ ih =>
    rw [List.length_append]
    omega

/-- A split that is stuck goes on from any other. -/
theorem Splits.append (hs : Reader.ShortValues l) (h : Splits site s l cs rest)
    (hst : Stuck site (s.afterAll cs) rest) (h' : Splits site s l cs' rest') :
    ∃ ds, cs = cs' ++ ds ∧ Splits site (s.afterAll cs') rest' ds rest := by
  induction h' generalizing cs with
  | nil s l => exact ⟨cs, rfl, h⟩
  | @cons s ws' tail' rest' a' cs' hws' ht' hv' _ ih =>
    generalize hl : ws' ++ tail' = l at h hs
    have hb' : Begins s.mode l a' ws'.length := ⟨ws', tail', hl.symm, rfl, hws', ht', hv'.1⟩
    cases h with
    | nil => exact absurd hv'.2 (hst a' ws'.length hb')
    | @cons _ ws tail _ a cs hws ht hv h =>
      have hb : Begins s.mode (ws ++ tail) a ws.length := ⟨ws, tail, rfl, rfl, hws, ht, hv.1⟩
      obtain ⟨rfl, hn⟩ := begins_unique hs hb hb'
      obtain ⟨rfl, rfl⟩ := List.append_inj hl hn.symm
      obtain ⟨ds, rfl, hd⟩ := ih hs.right_of_append h hst
      exact ⟨ds, rfl, hd⟩

/-- **A split that is stuck is the one that goes furthest,** and the only such. -/
theorem Splits.longest (hs : Reader.ShortValues l) (h : Splits site .start l cs rest)
    (hst : Stuck site (Phase.start.afterAll cs) rest) :
    Longest site l cs rest ∧ ∀ cs' rest', Longest site l cs' rest' → cs' = cs ∧ rest' = rest := by
  refine ⟨⟨h, fun cs' rest' h' => ?_⟩, fun cs' rest' h' => ?_⟩
  · obtain ⟨ds, -, hd⟩ := h.append hs hst h'
    exact hd.length_le
  · obtain ⟨ds, rfl, hd⟩ := h.append hs hst h'.1
    have hle := h'.2 _ _ h
    cases hd with
    | nil => exact ⟨(List.append_nil _).symm, rfl⟩
    | cons hws _ _ hd =>
      have hpos := hws.length_pos
      have hlt := hd.length_le
      rw [List.length_append] at hle
      omega

end Grammar
end PlotScript
