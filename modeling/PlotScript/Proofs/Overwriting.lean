/-
# A file with another content

A run looks at the content of a file only to check a drawing, and the check asks for the name of its
root alone.  So a file may be overwritten by another content of which the same is known: the run is
the same (`Executor.run_overwritten`).  The other content stays where it is, for nothing is stored
where something lies.

`Act.Mirrors` says so of single acts, for any image of their states and any property of them that
they keep.
-/

import PlotScript.Proofs.Life
import PlotScript.Proofs.NewFiles

namespace PlotScript

namespace Act

variable {ε σ τ α β : Type} {P : σ → Prop} {image : σ → σ}

/-- What one act does on a state with a property, the other does on the state's image; and the
property is kept. -/
def Mirrors (P : σ → Prop) (image : σ → σ) (x y : Act ε σ α) : Prop := ∀ s, P s →
  y (image s) = ⟨(x s).result, (x s).events, image (x s).state⟩ ∧ P (x s).state

/-- A result is given on the image as well. -/
theorem mirrors_pure (a : α) : Mirrors P image (pure a : Act ε σ α) (pure a) := fun _ h => ⟨rfl, h⟩

/-- A fault ends the act on the image as well. -/
theorem mirrors_throw (e : ε) : Mirrors P image (throw e : Act ε σ α) (throw e) :=
  fun _ h => ⟨rfl, h⟩

/-- The same events are left on the image. -/
theorem mirrors_tell (es : List Event) : Mirrors P image (tell es : Act ε σ Unit) (tell es) :=
  fun _ h => ⟨rfl, h⟩

/-- What was worked out is given on both sides. -/
theorem mirrors_ofExcept (x : Except ε α) : Mirrors P image (ofExcept x) (ofExcept x) := by
  cases x with
  | error e => exact mirrors_throw e
  | ok a => exact mirrors_pure a

/-- A change that agrees with the image and keeps the property is mirrored. -/
theorem mirrors_modify {g : σ → σ} (h : ∀ s, g (image s) = image (g s)) (hP : ∀ s, P s → P (g s)) :
    Mirrors P image (modify g : Act ε σ Unit) (modify g) := fun s hs => by
  rw [modify, h]
  exact ⟨rfl, hP s hs⟩

/-- Acts that mirror each other, one after the other, do so as a whole: the property is there for
the second one. -/
theorem Mirrors.bind {x y : Act ε σ α} {k l : α → Act ε σ β} (h : Mirrors P image x y)
    (hk : ∀ a, Mirrors P image (k a) (l a)) : Mirrors P image (x >>= k) (y >>= l) := by
  intro s hs
  obtain ⟨hy, hx⟩ := h s hs
  rcases hr : (x s).result with e | a
  · rw [hr] at hy
    rw [bind_of_error hr, bind_of_error (by rw [hy]), hy]
    exact ⟨rfl, hx⟩
  · rw [hr] at hy
    obtain ⟨hl, hk⟩ := hk a _ hx
    rw [bind_of_ok hr, bind_of_ok (by rw [hy]), hy, hl]
    exact ⟨rfl, hk⟩

/-- An act may look at the state, if what it then does is mirrored. -/
theorem mirrors_get_bind {k l : σ → Act ε σ β}
    (h : ∀ s, P s → Mirrors P image (k s) (l (image s))) :
    Mirrors P image (get >>= k) (get >>= l) := fun s hs => h s hs s hs

/-- Acts for each element mirror each other if the single acts do. -/
theorem Mirrors.forEach {f g : α → Act ε σ Unit} (h : ∀ a, Mirrors P image (f a) (g a))
    (l : List α) : Mirrors P image (forEach l f) (forEach l g) := by
  induction l with
  | nil => exact mirrors_pure ()
  | cons a l ih => exact (h a).bind fun _ => ih

/-- Acts mirror each other however their faults are told. -/
theorem Mirrors.mapError {ε' : Type} {x y : Act ε σ α} (h : Mirrors P image x y) (f : ε → ε') :
    Mirrors P image (x.mapError f) (y.mapError f) := by
  intro s hs
  obtain ⟨hy, hx⟩ := h s hs
  refine ⟨?_, hx⟩
  show Outcome.mk ((y (image s)).result.mapError f) _ _ = _
  rw [hy]
  rfl

/-- An act on a part of the state. -/
theorem Mirrors.on {Q : τ → Prop} {image' : τ → τ} {part : σ → τ} {put : τ → σ → σ}
    {x y : Act ε τ α} (h : Mirrors Q image' x y) (hpart : ∀ s, part (image s) = image' (part s))
    (hput : ∀ t s, put (image' t) (image s) = image (put t s)) (hQ : ∀ s, P s → Q (part s))
    (hP : ∀ t s, Q t → P s → P (put t s)) : Mirrors P image (x.on part put) (y.on part put) := by
  intro s hs
  obtain ⟨hy, hx⟩ := h (part s) (hQ s hs)
  refine ⟨?_, hP _ _ hx hs⟩
  simp only [Act.on, hpart, hy, hput]

end Act

section Files

variable {f g : Files} {place p : List String} {path : String} {bytes content body : List UInt8}

/-- The same entry, with another content if it is a regular file. -/
def Entry.withBytes (bytes : List UInt8) : Entry → Entry
  | file _ => file bytes
  | folder => folder

/-- A regular file stays one with another content. -/
@[simp] theorem Entry.isFile_withBytes (e : Entry) : (e.withBytes bytes).isFile = e.isFile := by
  cases e <;> rfl

namespace Files

/-- The tree in which a regular file at a place has another content. -/
def withBytes (f : Files) (place : List String) (bytes : List UInt8) : Files :=
  { f with entries := f.entries.map fun x =>
      (x.1, if x.1 = place then x.2.withBytes bytes else x.2) }

/-- **The same lies everywhere**, but for the content at that place.  The directories are those
above the places, which are as they were. -/
theorem at?_withBytes (f : Files) (p : List String) : (f.withBytes place bytes).at? p =
    (f.at? p).map fun e => if p = place then e.withBytes bytes else e := by
  unfold at?
  have hfind : (f.withBytes place bytes).entries.find? (fun x => x.1 = p) =
      (f.entries.find? fun x => x.1 = p).map fun x =>
        (x.1, if x.1 = place then x.2.withBytes bytes else x.2) := List.find?_map
  have hany : (f.withBytes place bytes).entries.any (fun x => p.isPrefixOf x.1) =
      f.entries.any fun x => p.isPrefixOf x.1 := List.any_map
  rw [hfind, hany]
  rcases hx : f.entries.find? (fun x => x.1 = p) with _ | x
  · rw [hx]
    show (if p.isPrefixOf f.here || _ then _ else _) = Option.map _ (if _ then _ else _)
    by_cases hr : (p.isPrefixOf f.here || f.entries.any fun x => p.isPrefixOf x.1) = true
    · rw [if_pos hr]
      show _ = some (if _ then _ else _)
      split <;> rfl
    · rw [if_neg hr]
      rfl
  · obtain rfl : x.1 = p := by simpa using List.find?_some hx
    rw [hx]
    rfl

/-- Folders lie where they lay: only a regular file gets another content. -/
theorem at?_withBytes_eq_folder :
    (f.withBytes place bytes).at? p = some .folder ↔ f.at? p = some .folder := by
  rw [at?_withBytes]
  rcases f.at? p with _ | e
  · rfl
  · cases e with
    | folder =>
      show some (if _ then _ else _) = _ ↔ _
      split <;> rfl
    | file =>
      show some (if _ then _ else _) = _ ↔ _
      split <;> exact ⟨nofun, nofun⟩

/-- Components lead where they led, as only folders are gone through. -/
theorem follow_withBytes (f : Files) (cs : List String) :
    (f.withBytes place bytes).follow p cs = f.follow p cs := by
  induction cs generalizing p with
  | nil => rfl
  | cons c cs ih => simp only [follow, at?_withBytes_eq_folder, ih]

/-- A path leads to the same place. -/
theorem place?_withBytes (f : Files) (path : String) :
    (f.withBytes place bytes).place? path = f.place? path := by
  unfold place?
  rw [follow_withBytes]
  rfl

/-- A path leads to the same as before, with the other content if it leads to that place. -/
theorem lookup_withBytes (f : Files) (path : String) : (f.withBytes place bytes).lookup path =
    (f.lookup path).map fun e => if f.place? path = some place then e.withBytes bytes else e := by
  rw [lookup, lookup, place?_withBytes]
  rcases f.place? path with _ | q
  · rfl
  · simp only [Option.bind_some, at?_withBytes, Option.some.injEq]

/-- A file is stored in the tree with another content as in the tree, if something lies at the place
of that content. -/
theorem create?_withBytes (h : f.at? place = some (.file content)) :
    (f.withBytes place bytes).create? path body =
      (f.create? path body).map (·.withBytes place bytes) := by
  unfold create?
  rw [place?_withBytes]
  rcases f.place? path with _ | q
  · rfl
  · simp only [Option.bind_eq_bind, Option.bind_some, at?_withBytes, Option.isSome_map]
    by_cases hq : (f.at? q).isSome = true
    · rw [if_pos hq, if_pos hq]
      rfl
    · have hne : q ≠ place := by
        rintro rfl
        rw [h] at hq
        exact hq rfl
      rw [if_neg hq, if_neg hq]
      simp only [Option.map_some, withBytes, List.map_cons, if_neg hne]

/-- What lies somewhere stays when a file is stored. -/
theorem at?_of_create? (h : f.at? place = some (.file content))
    (hc : f.create? path body = some g) : g.at? place = some (.file content) := by
  obtain ⟨q, -, hn, rfl⟩ := of_create? hc
  exact at?_insert _ hn h

/-- The tree in which the file at a path has another content. -/
def overwrite (f : Files) (path : String) (bytes : List UInt8) : Files :=
  match f.place? path with
  | some place => f.withBytes place bytes
  | none => f

/-- A path whose file is overwritten leads to the other content. -/
theorem lookup_overwrite (h : f.lookup path = some (.file content)) :
    (f.overwrite path bytes).lookup path = some (.file bytes) := by
  obtain ⟨place, hp, -⟩ := Option.bind_eq_some_iff.1 h
  rw [overwrite, hp]
  show (f.withBytes place bytes).lookup path = _
  rw [lookup_withBytes, h, hp]
  simp [Entry.withBytes]

end Files

/-- The next temporary file has the same number, as the same paths are taken. -/
theorem Temporary.nextNumber_withBytes (t : Temporary) (f : Files) (before after : String) :
    t.nextNumber (f.withBytes place bytes) before after = t.nextNumber f before after := by
  have hlength : (f.withBytes place bytes).entries.length = f.entries.length := List.length_map _
  unfold nextNumber
  simp only [hlength, Files.lookup_withBytes, Option.isNone_map]
  rfl

namespace Site

/-- The site on which the regular file at a place has another content. -/
def withBytes (place : List String) (bytes : List UInt8) (s : Site) : Site :=
  { s with files := s.files.withBytes place bytes }

/-- A regular file with a content lies at a place. -/
def HasFile (place : List String) (content : List UInt8) (s : Site) : Prop :=
  s.files.at? place = some (.file content)

/-- A path leads to a regular file whatever the content of one is. -/
theorem isFile_withBytes (s : Site) (path : String) :
    (s.withBytes place bytes).isFile path = s.isFile path := by
  have hl : (s.withBytes place bytes).lookup path = _ := s.files.lookup_withBytes path
  unfold isFile
  rw [hl, lookup]
  rcases s.files.lookup path with _ | e
  · rfl
  · show Entry.isFile (if _ then _ else _) = e.isFile
    split
    · exact e.isFile_withBytes
    · rfl

/-- A check of a drawing asks for the name of its root alone.  So it comes to the same if both
contents have the same name there, whatever else they hold. -/
theorem checkDrawing_withBytes {s : Site} (h : s.HasFile place content)
    (hroot : Markup.rootName content = Markup.rootName bytes) (path : String)
    (anchor : Option Lexeme) :
    (s.withBytes place bytes).checkDrawing path anchor = s.checkDrawing path anchor := by
  have hl : (s.withBytes place bytes).lookup path = _ := s.files.lookup_withBytes path
  have hd : (s.withBytes place bytes).drawingFault? path anchor = s.drawingFault? path anchor := by
    unfold drawingFault?
    rw [hl, lookup]
    by_cases hp : s.files.place? path = some place
    · have hf : s.files.lookup path = some (.file content) := by
        rw [Files.lookup, hp]
        exact h
      simp only [hf, if_pos hp, Option.map_some, Entry.withBytes, Option.bind_some, Entry.bytes?,
        hroot]
    · simp only [if_neg hp, Option.map_id']
  unfold checkDrawing
  rw [hd]

end Site

end Files

section Run

variable {place : List String} {bytes content : List UInt8}

namespace Web

open Act (Mirrors)

/-- What a server answers does not depend on the files. -/
theorem mirrors_request (p : Params) (url : String) :
    Mirrors (Site.HasFile place content) (.withBytes place bytes) (request p url)
      (request p url) := fun _ h => ⟨rfl, h⟩

/-- A body is stored at the same path: where it goes something must not lie yet, so the file that is
overwritten is not in the way. -/
theorem mirrors_store (p : Params) (suffix : String) (body : List UInt8) :
    Mirrors (Site.HasFile place content) (.withBytes place bytes) (store p suffix body)
      (store p suffix body) := by
  intro s h
  have hn (front : String) : s.temp.nextNumber (s.withBytes place bytes).files front suffix =
      s.temp.nextNumber s.files front suffix := s.temp.nextNumber_withBytes s.files front suffix
  have hc (path : String) : (s.withBytes place bytes).files.create? path body =
      (s.files.create? path body).map (·.withBytes place bytes) := Files.create?_withBytes h
  have ht : (s.withBytes place bytes).temp = s.temp := rfl
  unfold store
  simp only [hn, hc, ht]
  split
  · exact ⟨rfl, h⟩
  split
  · exact ⟨rfl, h⟩
  split
  · exact ⟨rfl, h⟩
  · rename_i front _ _
    rcases hg : s.files.create? (s.temp.numbered front suffix
        (s.temp.nextNumber s.files front suffix)) body with _ | files
    · exact ⟨rfl, h⟩
    · simp only [Option.map_some]
      split
      · exact ⟨rfl, h⟩
      · exact ⟨rfl, Files.at?_of_create? h hg⟩

/-- A body is saved at the same path, with the same records. -/
theorem mirrors_save (p : Params) (hops : Nat) (url : String) (body : List UInt8) :
    Mirrors (Site.HasFile place content) (.withBytes place bytes) (save p hops url body)
      (save p hops url body) :=
  (Act.mirrors_tell _).bind fun _ => (Act.mirrors_ofExcept _).bind fun suffix =>
    (mirrors_store p suffix body).bind fun _ => (Act.mirrors_tell _).bind fun _ =>
      Act.mirrors_pure _

/-- The same redirects are followed, and the last body is saved at the same path.  The induction is
on the redirects that are left, since a request asks nothing of the files. -/
theorem mirrors_follow (p : Params) (hops : Nat) (url : String) (left : Nat) :
    Mirrors (Site.HasFile place content) (.withBytes place bytes) (follow p hops url left)
      (follow p hops url left) := by
  induction left using Nat.strongRecOn generalizing hops url with
  | _ left ih =>
    rw [follow]
    refine (Act.mirrors_tell _).bind fun _ => (mirrors_request p url).bind fun r => ?_
    split
    · exact Act.mirrors_throw _
    · split
      · split
        · exact Act.mirrors_throw _
        · exact Act.mirrors_throw _
        · split
          · unfold refuseRedirect
            split <;> exact Act.mirrors_throw _
          · exact (Act.mirrors_ofExcept _).bind fun target => (Act.mirrors_tell _).bind fun _ =>
              ih _ (Nat.lt_succ_self _) _ _
      · split
        · exact mirrors_save p hops url _
        · exact Act.mirrors_throw _

end Web

variable {σ : Type}

namespace Bench

open Act (Mirrors)

/-- The bench on whose site the regular file at a place has another content. -/
def withBytes (place : List String) (bytes : List UInt8) (b : Bench σ) : Bench σ :=
  { b with site := b.site.withBytes place bytes }

/-- A regular file with a content lies at a place of the site. -/
def HasFile (place : List String) (content : List UInt8) (b : Bench σ) : Prop :=
  b.site.HasFile place content

/-- A drawing is obtained from the same path, be it a local one or that of a new file. -/
theorem mirrors_obtain (p : Params) (source : String) :
    Mirrors (HasFile place content) (withBytes place bytes)
      (obtain p source : Act Fault (Bench σ) String) (obtain p source) := by
  unfold obtain
  split
  · refine Mirrors.bind (x := onSite (Web.fetch p source)) ?_ fun path =>
      Mirrors.bind (Act.mirrors_modify ?_ ?_) fun _ => Act.mirrors_pure path
    · exact (Web.mirrors_follow p 0 source p.redirectLimit).on (fun _ => rfl) (fun _ _ => rfl)
        (fun _ h => h) fun _ _ h _ => h
    · exact fun _ => rfl
    · exact fun _ h => h
  · exact Act.mirrors_pure source

/-- A drawing is found to be one or not in the same way, if the roots of both contents have the same
name. -/
theorem mirrors_inspect (hroot : Markup.rootName content = Markup.rootName bytes) (path : String)
    (anchor : Lexeme) : Mirrors (HasFile place content) (withBytes place bytes)
      (inspect path anchor : Act Fault (Bench σ) Unit) (inspect path anchor) := by
  refine Act.mirrors_get_bind fun b h => ?_
  have hf : (b.withBytes place bytes).site.isFile path = b.site.isFile path :=
    b.site.isFile_withBytes path
  have hd : (b.withBytes place bytes).site.checkDrawing path (some anchor) =
      b.site.checkDrawing path (some anchor) := Site.checkDrawing_withBytes h hroot path _
  rw [hf, hd]
  split
  · exact Act.mirrors_throw _
  · exact Act.mirrors_ofExcept _

variable [Device σ]

/-- A plotter is asked the same and answers the same, as it sees no files. -/
theorem mirrors_ask (c : Call) : Mirrors (HasFile place content) (withBytes place bytes)
    (ask c : Act Fault (Bench σ) c.Answer) (ask c) := fun _ h => ⟨rfl, h⟩

/-- **A command does the same**, whatever the content of that file.  Only the check of a drawing
reads files, and it looks at the root of the document alone. -/
theorem mirrors_enact (hroot : Markup.rootName content = Markup.rootName bytes) (p : Params)
    (anchor : Lexeme) (a : Action) : Mirrors (HasFile place content) (withBytes place bytes)
      (enact p anchor a : Act Fault (Bench σ) Unit) (enact p anchor a) := by
  cases a with
  | setMode m =>
    have hset : Mirrors (HasFile place content) (withBytes place bytes)
        (Act.modify (setMode m) : Act Fault (Bench σ) Unit) (Act.modify (setMode m)) :=
      Act.mirrors_modify (fun _ => rfl) fun _ h => h
    refine hset.bind fun _ => ?_
    cases m with
    | plot => exact Act.mirrors_tell _
    | interactive =>
      refine (mirrors_ask .enterInteractive).bind fun _ =>
        (mirrors_ask .currentMode).bind fun entered => ?_
      split
      · exact Act.mirrors_throw _
      · exact Act.mirrors_tell _
  | setOptions b settings =>
    exact (Mirrors.forEach (fun x : Setting × Value => mirrors_ask (.set x.1 x.2)) settings).bind
      fun _ => mirrors_ask .commitOptions
  | getPosition => exact (mirrors_ask .getPosition).bind fun _ => Act.mirrors_tell _
  | getPen => exact (mirrors_ask .getPenDown).bind fun _ => Act.mirrors_tell _
  | setPlot source =>
    refine (mirrors_obtain p source).bind fun path => (mirrors_inspect hroot path anchor).bind
      fun _ => (mirrors_ask (.setupPlot path)).bind fun _ => Act.mirrors_modify ?_ ?_
    · exact fun _ => rfl
    · exact fun _ h => h
  | plot =>
    refine Act.mirrors_get_bind fun b _ => ?_
    show Mirrors _ _ (if _ then _ else _) (if b.plotLoaded then _ else _)
    split
    · exact mirrors_ask .runPlot
    · exact Act.mirrors_throw _
  | _ => exact mirrors_ask _

end Bench

namespace Executor

variable {e : Executor σ} {word : Lexeme} {rest : List Lexeme}

/-- The executor on whose site the regular file at a place has another content. -/
def withBytes (place : List String) (bytes : List UInt8) (e : Executor σ) : Executor σ :=
  { e with bench := e.bench.withBytes place bytes }

/-- What one turn comes to, the other comes to with another content of a file, which stays. -/
structure Overwritten {α : Type} (place : List String) (content bytes : List UInt8)
    (o o' : Turn σ α) : Prop where
  eq : o' = ⟨o.result, o.events, o.state.withBytes place bytes⟩
  kept : o.state.bench.HasFile place content

/-- Turns that come to the same still do with the same events before them. -/
theorem Overwritten.after {α : Type} {o o' : Turn σ α} (h : Overwritten place content bytes o o')
    (es : List Event) : Overwritten place content bytes (after es o) (after es o') := by
  refine ⟨?_, h.kept⟩
  rw [h.eq]
  rfl

/-- A complaint is reported and recovered from in the same way.  Whether it is fatal, and where
reading goes on, are matters of the lexemes alone. -/
theorem recover_overwritten (h : e.bench.HasFile place content) (start : Nat) (word : Lexeme)
    (c : Complaint) : Overwritten place content bytes (e.recover start word c)
      ((e.withBytes place bytes).recover start word c) := by
  have hs : ((e.withBytes place bytes).note (.reported start c)).strict =
      (e.note (.reported start c)).strict := rfl
  have ha : ((e.withBytes place bytes).note (.reported start c)).astray start word c =
      (e.note (.reported start c)).astray start word c := rfl
  have hr : ((e.withBytes place bytes).note (.reported start c)).resume start word c =
        ((e.note (.reported start c)).resume start word c).withBytes place bytes ∧
      ((e.note (.reported start c)).resume start word c).bench =
        e.bench.note (.reported start c) := by
    unfold resume
    split <;> exact ⟨rfl, rfl⟩
  unfold recover
  simp only [hs, ha, hr.1]
  split
  · exact ⟨rfl, h⟩
  · split
    · exact ⟨rfl, h⟩
    · refine ⟨rfl, ?_⟩
      rw [hr.2]
      exact h

/-- A block is passed over in the same way, and nothing is done at the bench. -/
theorem skip_overwritten (e : Executor σ) (b : Block) :
    (e.withBytes place bytes).skip b = (e.skip b).withBytes place bytes ∧
      (e.skip b).bench = e.bench := by
  have hw : (e.withBytes place bytes).waiting = e.waiting := rfl
  unfold skip
  rw [hw]
  split <;> exact ⟨rfl, rfl⟩

variable [Device σ]

/-- A command that was read is carried out in the same way, whether it ends with a fault or not.
The note that it is begun is made first, and what the command then does to the site mirrors. -/
theorem carryOut_overwritten (hroot : Markup.rootName content = Markup.rootName bytes)
    (h : e.bench.HasFile place content) (word : Lexeme) (a : Action) (n : Nat) :
    Overwritten place content bytes (e.carryOut word a n)
      ((e.withBytes place bytes).carryOut word a n) := by
  have hx : Act.Mirrors (Bench.HasFile place content) (.withBytes place bytes)
      (Bench.execute e.params (e.index + n - 1) ⟨word, a⟩ : Act Fault (Bench σ) Unit)
      (Bench.execute e.params (e.index + n - 1) ⟨word, a⟩) :=
    (Act.mirrors_tell _).bind fun _ => (Bench.mirrors_enact hroot e.params word a).mapError _
  obtain ⟨hy, hb⟩ := hx (e.bench.note (.begun e.index a)) h
  have ho' : Bench.execute (e.withBytes place bytes).params
      ((e.withBytes place bytes).index + n - 1) ⟨word, a⟩
      ((e.withBytes place bytes).bench.note (.begun (e.withBytes place bytes).index a)) = _ := hy
  unfold carryOut
  simp only [ho']
  generalize Bench.execute e.params (e.index + n - 1) ⟨word, a⟩
    (e.bench.note (.begun e.index a)) = o at hb ⊢
  obtain ⟨r, es, b⟩ := o
  rcases r with ⟨⟨⟩, c⟩ | text | failure | u
  case error.complaint.command =>
    have hn : ({ e with index := e.index + n, bench := b } : Executor σ).bench.HasFile place
      content := hb
    exact (recover_overwritten hn e.index word c).after es
  all_goals exact ⟨rfl, hb⟩

/-- **A step comes to the same**, whatever the content of that file.  Reading depends on the mode
and the lexemes, and only what is read is carried out. -/
theorem step_overwritten (hroot : Markup.rootName content = Markup.rootName bytes)
    (h : e.bench.HasFile place content) (word : Lexeme) (rest : List Lexeme) :
    Overwritten place content bytes (e.step word rest)
      ((e.withBytes place bytes).step word rest) := by
  have hk : (e.withBytes place bytes).skipping = e.skipping := rfl
  unfold step
  rw [hk]
  split
  · rename_i b _
    obtain ⟨hs, hb⟩ := @skip_overwritten place bytes σ e b
    exact ⟨by rw [hs], by rw [hb]; exact h⟩
  · have hread : Reader.read (e.withBytes place bytes).mode (e.withBytes place bytes).mayGrow word
        rest = Reader.read e.mode e.mayGrow word rest := rfl
    simp only [command, hread]
    refine Overwritten.after ?_ _
    rcases (Reader.read e.mode e.mayGrow word rest).result with
      (⟨cause, x, offset⟩ | failure | _) | ⟨a, n⟩
    · exact recover_overwritten h e.index word ⟨cause, some x, some (e.index + offset)⟩
    · exact ⟨rfl, h⟩
    · exact ⟨rfl, h⟩
    · exact carryOut_overwritten hroot h word a n

/-- **A run comes to the same**, whatever the content of that file.  The induction is on the run,
and each step keeps the file where it is. -/
theorem run_overwritten (hroot : Markup.rootName content = Markup.rootName bytes)
    (h : e.bench.HasFile place content) :
    Overwritten place content bytes e.run (e.withBytes place bytes).run := by
  fun_induction run e with
  | case1 e hw =>
    rw [run_of_nil (e := e.withBytes place bytes) hw]
    exact ⟨rfl, h⟩
  | case2 e word rest hw fault es t hr =>
    have hs := step_overwritten hroot h word rest
    rw [hr] at hs
    rw [run_of_cons (e := e.withBytes place bytes) hw, hs.eq]
    exact ⟨rfl, hs.kept⟩
  | case3 e word rest hw es t hr =>
    have hs := step_overwritten hroot h word rest
    rw [hr] at hs
    rw [run_of_cons (e := e.withBytes place bytes) hw, hs.eq]
    exact ⟨rfl, hs.kept⟩
  | case4 e word rest hw l es t hr _ o ih =>
    have hs := step_overwritten hroot h word rest
    rw [hr] at hs
    obtain ⟨ht, hkept⟩ := ih hs.kept
    rw [run_of_cons (e := e.withBytes place bytes) hw, hs.eq]
    simp only
    rw [ht]
    exact ⟨rfl, hkept⟩

end Executor

end Run

end PlotScript
