/-
# Where lexemes stand

Whatever is done to the places of lexemes, the same commands are read from them, and the same is
wrong with them (`Reader.read_moved`); and the same is done for a command, wherever its word stands
(`Bench.follows_enact`).  A place is there for what is said of a lexeme, and moves along with it.
-/

import PlotScript.Command.Reader
import PlotScript.Proofs.Conduct

namespace PlotScript

variable {σ : Type} (f : Place → Place)

/-- The same token at another place. -/
def Lexeme.moved (x : Lexeme) : Lexeme := ⟨x.token, f x.place⟩

/-- The same complaint about a lexeme at another place. -/
def Complaint.moved (c : Complaint) : Complaint := { c with lexeme := c.lexeme.map (.moved f) }

/-- The same fault, about a lexeme at another place if it is about one. -/
def Fault.moved : Fault → Fault
  | .complaint g c => .complaint g (c.moved f)
  | .interrupt text => .interrupt text
  | .failure f => .failure f

/-- The same note, about a lexeme at another place if it is about one. -/
def Deed.moved : Deed → Deed
  | .reported n c => .reported n (c.moved f)
  | .begun n a => .begun n a
  | .modeSet m => .modeSet m
  | .asked m c answer => .asked m c answer

/-- The same bench, with notes about lexemes at other places. -/
def Bench.moved (b : Bench σ) : Bench σ := { b with deeds := b.deeds.map (.moved f) }

-- Proved by cases, so that `simp` also rewrites what decides about a kind or a text.
/-- A lexeme keeps its kind wherever it stands. -/
@[simp] theorem Lexeme.kind_moved (x : Lexeme) : (x.moved f).kind = x.kind := by cases x; rfl

/-- A lexeme keeps its text wherever it stands. -/
@[simp] theorem Lexeme.text_moved (x : Lexeme) : (x.moved f).text = x.text := by cases x; rfl

/-- Noting a moved note at a moved bench is the same as moving after noting. -/
theorem Bench.note_moved (b : Bench σ) (d : Deed) :
    (b.moved f).note (d.moved f) = (b.note d).moved f := by
  simp only [note, moved, List.map_append, List.map_singleton]

/-- A result has no fault that could be told otherwise. -/
@[simp] theorem mapError_ok {ε ε' α : Type} (g : ε → ε') (a : α) :
    (Except.ok a : Except ε α).mapError g = .ok a := rfl

/-- A fault that is told otherwise is the other fault. -/
@[simp] theorem mapError_error {ε ε' α : Type} (g : ε → ε') (e : ε) :
    (Except.error e : Except ε α).mapError g = .error (g e) := rfl

/-- The faults of two readings, one after the other, are told otherwise by telling those of each
otherwise. -/
theorem mapError_bind {ε ε' α β : Type} (g : ε → ε') (x : Except ε α) (k : α → Except ε β) :
    (x >>= k).mapError g = x.mapError g >>= fun a => (k a).mapError g := by
  cases x <;> rfl

/-- What is made of a result does not depend on how faults are told. -/
theorem mapError_map {ε ε' α β : Type} (g : ε → ε') (x : Except ε α) (k : α → β) :
    (x.map k).mapError g = (x.mapError g).map k := by
  cases x <;> rfl

namespace Reader

/-- The same reason, with the lexeme that is wrong at another place. -/
def Stop.moved : Stop → Stop
  | .wrong cause x offset => .wrong cause (x.moved f) offset
  | .failed f => .failed f
  | .waiting => .waiting

/-- The same reading, with complaints about lexemes at other places. -/
def Reading.moved (r : Reading) : Reading :=
  ⟨r.warnings.map (.moved f), r.result.mapError (.moved f)⟩

/-- The same reading of a block, with complaints about lexemes at other places. -/
def BlockReading.moved (r : BlockReading) : BlockReading :=
  ⟨r.warnings.map (.moved f), r.result.mapError (.moved f)⟩

variable (mode : Option Mode) (word : Lexeme) (rest : List Lexeme)

/-- That a mode is missing is blamed on the moved word. -/
theorem needMode_moved :
    needMode mode (word.moved f) = (needMode mode word).mapError (.moved f) := by
  cases mode <;> rfl

/-- That the mode is not the interactive one is blamed on the moved word. -/
theorem needInteractive_moved :
    needInteractive mode (word.moved f) = (needInteractive mode word).mapError (.moved f) := by
  rcases mode with _ | m
  · rfl
  · cases m <;> rfl

/-- That the mode is not the one for plots is blamed on the moved word. -/
theorem needPlot_moved : needPlot mode (word.moved f) =
    (needPlot mode word).mapError (.moved f) := by
  rcases mode with _ | m
  · rfl
  · cases m <;> rfl

/-- The same mode is read from moved lexemes, or the same lexeme, moved, is wrong. -/
theorem readMode_moved : readMode mode (word.moved f) (rest.map (.moved f)) =
    (readMode mode word rest).mapError (.moved f) := by
  cases rest with
  | nil => rfl
  | cons x rest =>
    simp only [List.map_cons, readMode, Lexeme.kind_moved]
    split <;> rfl

/-- The same coordinate is read from a moved lexeme, or the moved lexeme is wrong. -/
theorem coordinate_moved (x : Lexeme) :
    coordinate (x.moved f) = (coordinate x).mapError (.moved f) := by
  simp only [coordinate, Lexeme.text_moved]
  split <;> rfl

/-- The same number is read as an argument from a moved lexeme.  If the lexeme is missing, the moved
word is blamed. -/
theorem readNumber_moved (a : Argument) (offset : Nat) (x : Option Lexeme) :
    readNumber a (word.moved f) offset (x.map (.moved f)) =
      (readNumber a word offset x).mapError (.moved f) := by
  cases x with
  | none => rfl
  | some x =>
    simp only [Option.map_some, readNumber, Lexeme.kind_moved, coordinate_moved]
    split <;> rfl

/-- The same point is read from moved lexemes. -/
theorem readMotion_moved : readMotion (word.moved f) (rest.map (.moved f)) =
    (readMotion word rest).mapError (.moved f) := by
  simp only [readMotion, List.getElem?_map, readNumber_moved, mapError_bind]
  rfl

/-- The same coordinates are read from moved lexemes, or the first that is wrong is the same. -/
theorem mapM_coordinate_moved (l : List Lexeme) :
    (l.map (.moved f)).mapM coordinate = (l.mapM coordinate).mapError (.moved f) := by
  induction l with
  | nil => rfl
  | cons x l ih =>
    simp only [List.map_cons, List.mapM_cons, coordinate_moved, ih, mapError_bind]
    rfl

/-- The same path is read from moved lexemes, which stand as far behind the word as before. -/
theorem readDraw_moved : readDraw (word.moved f) (rest.map (.moved f)) =
    (readDraw word rest).mapError (.moved f) := by
  have hrun : (rest.map (.moved f)).takeWhile (fun x : Lexeme => decide (x.kind = .number)) =
      (rest.takeWhile fun x => decide (x.kind = .number)).map (.moved f) := List.takeWhile_map
  have hlast (l : List Lexeme) : (l.map (.moved f)).getLast?.getD (word.moved f) =
      (l.getLast?.getD word).moved f := by
    rw [List.getLast?_map, Option.getD_map]
  simp only [readDraw, hrun, mapM_coordinate_moved, mapError_bind, List.length_map]
  refine congrArg (Bind.bind _) (funext fun values => ?_)
  rw [hlast, List.getElem?_map]
  split
  · cases rest[(rest.takeWhile fun x => decide (x.kind = .number)).length]? <;> rfl
  · split <;> rfl

/-- The same drawing is read from moved lexemes. -/
theorem readSetPlot_moved : readSetPlot (word.moved f) (rest.map (.moved f)) =
    (readSetPlot word rest).mapError (.moved f) := by
  cases rest with
  | nil => rfl
  | cons x rest =>
    simp only [List.map_cons, readSetPlot, Lexeme.kind_moved, Lexeme.text_moved]
    split <;> rfl

/-- The same value is read for a setting from a moved lexeme, or the moved lexeme is wrong. -/
theorem readValue_moved (s : Setting) (x : Lexeme) (offset : Nat) :
    readValue s (x.moved f) offset = (readValue s x offset).mapError (.moved f) := by
  simp only [readValue, Lexeme.kind_moved, Lexeme.text_moved]
  split
  · rfl
  · split
    · rfl
    · split
      · rfl
      · split
        · rfl
        · split
          · split <;> rfl
          · rfl

/-- A setting in front of a moved reading: warnings that are moved with it make the moved whole. -/
theorem cons_moved (ws : List Complaint) (x : Setting × Value) (r : BlockReading) :
    BlockReading.cons (ws.map (.moved f)) x (r.moved f) = (r.cons ws x).moved f := by
  simp only [BlockReading.cons, BlockReading.moved, List.map_append, mapError_map]

/-- The same settings are read from moved lexemes, with the same warnings about moved lexemes.  The
induction is the one along which they are read. -/
theorem readSettings_moved (b : Block) (interactive more : Bool) (seen : List Setting) (k : Nat)
    (l : List Lexeme) : readSettings b interactive more (word.moved f) seen k (l.map (.moved f)) =
      (readSettings b interactive more word seen k l).moved f := by
  fun_induction readSettings b interactive more word seen k l with
  | case1 seen k => cases more <;> rfl
  | case2 seen k x hx | case6 seen k x y rest hx =>
    simp only [List.map_cons, List.map_nil, readSettings, Lexeme.kind_moved, hx, if_true]
    rfl
  | case3 seen k x hx s hs ha =>
    simp only [List.map_cons, List.map_nil, readSettings, Lexeme.kind_moved, hs, ha, if_true]
    cases more <;> rfl
  | case4 seen k x hx s hs ha | case9 seen k x y rest hx s hs ha =>
    simp only [List.map_cons, List.map_nil, readSettings, Lexeme.kind_moved, hs, ha]
    rfl
  | case5 seen k x hx hs | case10 seen k x y rest hx hs =>
    simp only [List.map_cons, List.map_nil, readSettings, Lexeme.kind_moved, hx, if_false]
    rfl
  | case7 seen k x y rest hx s hs ha e he =>
    simp only [List.map_cons, readSettings, Lexeme.kind_moved, hs, ha, readValue_moved, he]
    rfl
  | case8 seen k x y rest hx s hs ha v hv warnings ih =>
    simp only [List.map_cons, readSettings, Lexeme.kind_moved, hs, ha, readValue_moved, hv, ih]
    rw [← cons_moved]
    by_cases hseen : s ∈ seen
    · simp only [warnings, hseen, if_true]
      rfl
    · simp only [warnings, hseen, if_false]
      rfl

/-- The same block is read from moved lexemes. -/
theorem readBlock_moved (b : Block) (m : Mode) (more : Bool) :
    readBlock b m more (word.moved f) (rest.map (.moved f)) =
      (readBlock b m more word rest).moved f := by
  simp only [readBlock, readSettings_moved]
  generalize readSettings b (m == .interactive) more word [] 1 rest = r
  obtain ⟨ws, e | ⟨settings, taken⟩⟩ := r
  · rfl
  · by_cases hs : settings.isEmpty = true
    · simp only [BlockReading.moved, Reading.moved, mapError_ok, hs, if_true, List.map_append]
      rfl
    · simp only [BlockReading.moved, Reading.moved, mapError_ok, hs, List.map_append]
      rfl

/-- That a block does not suit the mode is blamed on the moved word. -/
theorem needBlockMode_moved (b : Block) :
    needBlockMode b mode (word.moved f) = (needBlockMode b mode word).mapError (.moved f) := by
  cases b with
  | options => exact needMode_moved f mode word
  | update =>
    simp only [needBlockMode, needInteractive_moved, mapError_bind]
    rfl

/-- The same command without a block is read from moved lexemes. -/
theorem readSimple_moved : readSimple mode (word.moved f) (rest.map (.moved f)) =
    (readSimple mode word rest).mapError (.moved f) := by
  unfold readSimple
  rw [Lexeme.kind_moved]
  split
  · exact readMode_moved f mode word rest
  · simp only [needInteractive_moved, readMotion_moved, mapError_bind]
    rfl
  · simp only [needInteractive_moved, readMotion_moved, mapError_bind]
    rfl
  · simp only [needInteractive_moved, readDraw_moved, mapError_bind]
  · simp only [needInteractive_moved, List.getElem?_map, readNumber_moved, mapError_bind]
    rfl
  · simp only [needPlot_moved, readSetPlot_moved, mapError_bind]
  · simp only [needPlot_moved, mapError_bind]
    rfl
  · rfl
  · split
    · simp only [needInteractive_moved, mapError_bind]
      rfl
    · rfl

/-- **The same is read, wherever the lexemes stand.** -/
theorem read_moved (more : Bool) : read mode more (word.moved f) (rest.map (.moved f)) =
    (read mode more word rest).moved f := by
  unfold read
  rw [Lexeme.kind_moved]
  split
  · rename_i b hb
    rw [needBlockMode_moved]
    rcases needBlockMode b mode word with e | m
    · rfl
    · exact readBlock_moved f word rest b m more
  · rw [readSimple_moved]
    rfl

end Reader

namespace Act

/-- What one act does on a state, the other does on the state's image, and ends with the image of
the fault. -/
def Follows {ε σ α : Type} (fault : ε → ε) (image : σ → σ) (x y : Act ε σ α) : Prop :=
  ∀ s, y (image s) = ⟨(x s).result.mapError fault, (x s).events, image (x s).state⟩

variable {ε σ τ α β : Type} {fault : ε → ε} {image : σ → σ}

/-- A result is given in the image as well. -/
theorem follows_pure (a : α) : Follows fault image (pure a) (pure a) := fun _ => rfl

/-- A fault and its image end the acts on a state and on its image. -/
theorem follows_throw (e : ε) :
    Follows fault image (throw e : Act ε σ α) (throw (fault e)) := fun _ => rfl

/-- The same events are left in the image. -/
theorem follows_tell (es : List Event) : Follows fault image (tell es) (tell es) := fun _ => rfl

/-- Changes that agree with the image make the same change on both sides. -/
theorem follows_modify {g : σ → σ} (h : ∀ s, g (image s) = image (g s)) :
    Follows fault image (modify g) (modify g) := fun s => by rw [modify, h]; rfl

/-- What was worked out is given on one side, and the same with the fault's image on the other. -/
theorem follows_ofExcept (x : Except ε α) :
    Follows fault image (ofExcept x) (ofExcept (x.mapError fault)) := by
  cases x with
  | error e => exact follows_throw e
  | ok a => exact follows_pure a

/-- Acts that follow each other, one after the other, follow as a whole. -/
theorem Follows.bind {x y : Act ε σ α} {k l : α → Act ε σ β} (h : Follows fault image x y)
    (hk : ∀ a, Follows fault image (k a) (l a)) : Follows fault image (x >>= k) (y >>= l) := by
  intro s
  have hs := h s
  rcases hx : (x s).result with e | a
  · rw [hx] at hs
    rw [bind_of_error hx, bind_of_error (by rw [hs]; rfl), hs]
    rfl
  · rw [hx] at hs
    rw [bind_of_ok hx, bind_of_ok (by rw [hs]; rfl), hs, hk a (x s).state]

/-- An act may look at what the image leaves as it is. -/
theorem follows_get_bind {k l : σ → Act ε σ β} (h : ∀ s, Follows fault image (k s) (l (image s))) :
    Follows fault image (get >>= k) (get >>= l) := fun s => h s s

/-- For each element acts follow each other, so they follow as a whole. -/
theorem Follows.forEach {f g : α → Act ε σ Unit} (h : ∀ a, Follows fault image (f a) (g a))
    (l : List α) : Follows fault image (forEach l f) (forEach l g) := by
  induction l with
  | nil => exact follows_pure ()
  | cons a l ih => exact (h a).bind fun _ => ih

/-- An act on a part that the image leaves as it is, if its faults are their own images. -/
theorem follows_on {part : σ → τ} {put : τ → σ → σ} {x : Act ε τ α}
    (hpart : ∀ s, part (image s) = part s) (hput : ∀ t s, put t (image s) = image (put t s))
    (hx : ∀ t e, (x t).result = .error e → fault e = e) :
    Follows fault image (x.on part put) (x.on part put) := by
  intro s
  simp only [on, hpart, hput]
  rcases hr : (x (part s)).result with e | a
  · simp [hx _ e hr]
  · rfl

end Act

/-- A fault that is about no lexeme. -/
def Fault.Placeless : Fault → Prop
  | .complaint _ c => c.lexeme = none
  | .interrupt _ | .failure _ => True

/-- A fault that is about no lexeme is left as it is when lexemes are moved. -/
theorem Fault.moved_of_placeless {fault : Fault} (h : fault.Placeless) :
    fault.moved f = fault := by
  rcases fault with ⟨g, cause, x, i⟩ | _ | _
  · obtain rfl : x = none := h
    rfl
  · rfl
  · rfl

/-- A refusal of a plotter is about no lexeme of the stream: a lexeme that it names is part of its
cause. -/
theorem Refusal.placeless_toFault (r : Refusal) : r.toFault.Placeless := by
  cases r
  · rfl
  · trivial
  · trivial

/-- A drawing is checked in the same way, whatever the place of the word that is blamed for it. -/
theorem Site.checkDrawing_moved (s : Site) (path : String) (anchor : Lexeme) :
    s.checkDrawing path (some (anchor.moved f)) =
      (s.checkDrawing path (some anchor)).mapError (.moved f) := by
  have hd : s.drawingFault? path (some (anchor.moved f)) =
      (s.drawingFault? path (some anchor)).map (.moved f) := by
    unfold drawingFault?
    split
    · rfl
    · split
      · rfl
      · rfl
      · split
        · rfl
        · split <;> rfl
  have hp : (checkPath path).mapError (Fault.moved f) = checkPath path := by
    unfold checkPath
    split <;> rfl
  simp only [checkDrawing, mapError_bind, hd, hp]
  refine congrArg (Bind.bind (checkPath path)) (funext fun _ => ?_)
  cases s.drawingFault? path (some anchor) <;> rfl

namespace Bench

open Act (Follows)

variable [Device σ]

/-- A plotter is asked the same, and notes about lexemes do not matter to it. -/
theorem follows_ask (c : Call) :
    Follows (.moved f) (moved f) (ask c : Act Fault (Bench σ) c.Answer) (ask c) := by
  intro b
  have hr : ((Device.perform c b.device).result.mapError Refusal.toFault).mapError (Fault.moved f) =
      (Device.perform c b.device).result.mapError Refusal.toFault := by
    rcases (Device.perform c b.device).result with r | a
    · exact congrArg Except.error (Fault.moved_of_placeless f r.placeless_toFault)
    · rfl
  show Outcome.mk _ _ _ = Outcome.mk (((Device.perform c b.device).result.mapError
    Refusal.toFault).mapError (Fault.moved f)) _ _
  rw [hr]
  exact congrArg (Outcome.mk _ _)
    (note_moved f { b with device := (Device.perform c b.device).state } (.asked b.mode c _))

omit [Device σ] in
/-- A drawing is obtained in the same way: no lexeme takes part. -/
theorem follows_obtain (p : Params) (source : String) : Follows (.moved f) (moved f)
    (obtain p source : Act Fault (Bench σ) String) (obtain p source) := by
  have hfetch : Act.Within Fault.Placeless (fun _ => True) (Web.fetch p source) :=
    Web.within_fetch ⟨fun _ _ => rfl, fun _ _ => trivial⟩
      ⟨fun _ => trivial, fun _ => trivial, fun _ => trivial, fun _ _ _ => trivial⟩ p source
  unfold obtain
  split
  · refine Follows.bind (Act.follows_on ?_ ?_ ?_) fun path => (Act.follows_modify ?_).bind
      fun _ => Act.follows_pure path
    · exact fun _ => rfl
    · exact fun _ _ => rfl
    · exact fun s e h => Fault.moved_of_placeless f (hfetch.faults s e h)
    · exact fun _ => rfl
  · exact Act.follows_pure source

omit [Device σ] in
/-- A drawing is looked into in the same way, and what is wrong is blamed on the moved word. -/
theorem follows_inspect (path : String) (anchor : Lexeme) : Follows (.moved f) (moved f)
    (inspect path anchor : Act Fault (Bench σ) Unit) (inspect path (anchor.moved f)) := by
  refine Act.follows_get_bind fun b => ?_
  show Follows _ _ (if _ then _ else _) (if !b.site.isFile path then _ else _)
  split
  · exact Act.follows_throw _
  · have hm : (b.moved f).site.checkDrawing path (some (anchor.moved f)) = _ :=
      Site.checkDrawing_moved f b.site path anchor
    rw [hm]
    exact Act.follows_ofExcept _

/-- **The same is done for a command, wherever its word stands.** -/
theorem follows_enact (p : Params) (anchor : Lexeme) (a : Action) : Follows (.moved f) (moved f)
    (enact p anchor a : Act Fault (Bench σ) Unit) (enact p (anchor.moved f) a) := by
  cases a with
  | setMode m =>
    have hset : ∀ b : Bench σ, setMode m (b.moved f) = (setMode m b).moved f :=
      fun b => note_moved f { b with mode := some m } (.modeSet m)
    refine (Act.follows_modify hset).bind fun _ => ?_
    cases m with
    | plot => exact Act.follows_tell _
    | interactive =>
      refine (follows_ask f .enterInteractive).bind fun _ =>
        (follows_ask f .currentMode).bind fun entered => ?_
      split
      · exact Act.follows_throw _
      · exact Act.follows_tell _
  | setOptions b settings =>
    exact (Follows.forEach (fun x : Setting × Value => follows_ask f (.set x.1 x.2)) settings).bind
      fun _ => follows_ask f .commitOptions
  | getPosition => exact (follows_ask f .getPosition).bind fun _ => Act.follows_tell _
  | getPen => exact (follows_ask f .getPenDown).bind fun _ => Act.follows_tell _
  | setPlot source =>
    exact (follows_obtain f p source).bind fun path => (follows_inspect f path anchor).bind
      fun _ => (follows_ask f (.setupPlot path)).bind fun _ => Act.follows_modify fun _ => rfl
  | plot =>
    refine Act.follows_get_bind fun b => ?_
    show Follows _ _ (if _ then _ else _) (if b.plotLoaded then _ else _)
    split
    · exact follows_ask f .runPlot
    · exact Act.follows_throw _
  | _ => exact follows_ask f _

end Bench
end PlotScript
