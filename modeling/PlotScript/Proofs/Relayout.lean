/-
# The layout of a script does not matter

Where a word of a script stands is told in records and complaints, and decides nothing.  So two
scripts with the same words, whatever blanks, comments and ends of lines are between them, come to
the same if the one is stored in the place of the other (`Script.execute_relaid`).

Both runs are compared with runs on words that stand nowhere (`Executor.shifted_run_strict`).  Those
are on the same words, and what is left is that the file of the script has another content.  A run
looks at it only to check a drawing, and either script is malformed as one
(`Script.rootName_eq_malformed`).
-/

import PlotScript.Proofs.NoDrawing
import PlotScript.Proofs.Overwriting
import PlotScript.Proofs.Renumbering
import PlotScript.Proofs.UnknownWords

namespace PlotScript

/-- What is no record is observed wherever the lexemes stand. -/
theorem Event.unlogged_of_moved {f : Place → Place} {es es' : List Event}
    (h : List.Forall₂ (Moved f) es es') : unlogged es' = unlogged es := by
  induction h with
  | nil => rfl
  | @cons ev _ es es' hev _ ih =>
    cases hev with
    | same =>
      show unlogged ([ev] ++ es') = unlogged ([ev] ++ es)
      rw [unlogged_append, unlogged_append, ih]
    | _ => exact ih

/-- The place of what stands nowhere. -/
def Place.forgotten (_ : Place) : Place := ⟨"", 0, 0, 0, none⟩

/-- Lexemes with the same tokens are the same if they stand nowhere. -/
theorem Lexeme.map_forgotten {l l' : List Lexeme} (h : l'.map token = l.map token) :
    l'.map (moved .forgotten) = l.map (moved .forgotten) := by
  have hmap (l : List Lexeme) : l.map (moved .forgotten) =
      (l.map token).map fun t => ⟨t, "", 0, 0, 0, none⟩ := by
    rw [List.map_map]
    rfl
  rw [hmap, hmap, h]

namespace Fault

/-- The number of the lexeme that a fault is about. -/
def index? : Fault → Option Int
  | complaint _ c => c.index
  | interrupt _ | failure _ => none

/-- The same fault, about the same token if it is about one, wherever that stands. -/
def SameButPlace (f f' : Fault) : Prop := f'.moved .forgotten = f.moved .forgotten

variable {f f' : Fault}

/-- Faults that differ only in their places have the same message. -/
theorem SameButPlace.message (h : f.SameButPlace f') : f'.message = f.message := by
  have hmoved (f : Fault) : (f.moved .forgotten).message = f.message := by cases f <;> rfl
  rw [← hmoved, h, hmoved]

/-- Faults that differ only in their places are about the same position of the stream. -/
theorem SameButPlace.index? (h : f.SameButPlace f') : f'.index? = f.index? := by
  have hmoved (f : Fault) : (f.moved .forgotten).index? = f.index? := by cases f <;> rfl
  rw [← hmoved, h, hmoved]

end Fault

/-- Lexemes with the same tokens have the same unknown words. -/
theorem Lexer.unknowns_of_tokens {l l' : List Lexeme}
    (h : l'.map Lexeme.token = l.map Lexeme.token) :
    unknowns l = [] ∧ unknowns l' = [] ∨ ∃ c r c' r', unknowns l = c :: r ∧
      unknowns l' = c' :: r' ∧ (Fault.command c).SameButPlace (.command c') := by
  have hmap : (unknowns l').map (Complaint.moved .forgotten) =
      (unknowns l).map (Complaint.moved .forgotten) := by
    rw [← unknowns_moved, ← unknowns_moved, Lexeme.map_forgotten h]
  rcases hu : unknowns l with _ | ⟨c, r⟩ <;> rcases hu' : unknowns l' with _ | ⟨c', r'⟩ <;>
    rw [hu, hu'] at hmap
  · exact .inl ⟨rfl, rfl⟩
  · cases hmap
  · cases hmap
  · exact .inr ⟨c, r, c', r', rfl, rfl, congrArg Fault.command (List.cons.inj hmap).1⟩

namespace Executor

variable {σ : Type} {e : Executor σ} {l l' : List Lexeme} {place : List String}
  {bytes content : List UInt8}

/-- What one turn comes to, the other comes to on words at other places, with another content of a
file. -/
structure Relaid {α : Type} (place : List String) (bytes : List UInt8) (o o' : Turn σ α) :
    Prop where
  unlogged : Event.unlogged o'.events = Event.unlogged o.events
  result : (o'.result.map fun _ => ()).mapError (Fault.moved .forgotten) =
    (o.result.map fun _ => ()).mapError (Fault.moved .forgotten)
  state : o'.state.moved .forgotten = (o.state.moved .forgotten).withBytes place bytes

variable [Device σ]

/-- **A strict run on other words with the same tokens**, with another content of a file of which a
check of drawings tells the same, comes to the same but for where its words stand. -/
theorem run_relaid (hs : e.strict = true) (hroot : Markup.rootName content = Markup.rootName bytes)
    (h : e.bench.HasFile place content) (hw : l'.map Lexeme.token = l.map Lexeme.token) :
    Relaid place bytes { e with stream := ⟨l, true⟩ }.run
      ({ e with stream := ⟨l', true⟩ }.withBytes place bytes).run := by
  have hl : Shifted .forgotten (List.map (.moved .forgotten))
      { e with stream := ⟨l, true⟩ }.run _ := shifted_run_strict hs
  have hl' : Shifted .forgotten (List.map (.moved .forgotten))
      ({ e with stream := ⟨l', true⟩ }.withBytes place bytes).run _ := shifted_run_strict hs
  -- on words that stand nowhere the runs differ in the content of the file alone
  have hsame : ({ e with stream := ⟨l', true⟩ }.withBytes place bytes).moved .forgotten =
      ({ e with stream := ⟨l, true⟩ }.moved .forgotten).withBytes place bytes := by
    show Executor.mk _ _ (Stream.mk (l'.map _) true) _ _ _ = _
    rw [Lexeme.map_forgotten hw]
    rfl
  have hfile : ({ e with stream := ⟨l, true⟩ }.moved .forgotten).bench.HasFile place content := h
  rw [hsame, (run_overwritten hroot hfile).eq] at hl'
  refine ⟨?_, ?_, ?_⟩
  · rw [← Event.unlogged_of_moved hl'.events, ← Event.unlogged_of_moved hl.events]
  · have hdrop (r : Except Fault (List Complaint)) :
        ((r.map (List.map (Complaint.moved .forgotten))).mapError (Fault.moved .forgotten)).map
          (fun _ => ()) = (r.map fun _ => ()).mapError (Fault.moved .forgotten) := by
      cases r <;> rfl
    rw [← hdrop, ← hl'.result, ← hdrop, ← hl.result]
  · rw [← hl'.state, ← hl.state]

end Executor

namespace Script

variable {σ : Type} {path : String} {site : Site} {bytes bytes' : List UInt8} {cs cs' : List Char}

/-- Two runs that come to the same: the same is asked of the plotter and of web servers and told to
the user, in the same order, the same is left, and both end, or both end with the same fault. -/
structure Agree (o o' : Executor.Turn σ Unit) : Prop where
  unlogged : Event.unlogged o'.events = Event.unlogged o.events
  mode : o'.state.mode = o.state.mode
  index : o'.state.index = o.state.index
  plotLoaded : o'.state.bench.plotLoaded = o.state.bench.plotLoaded
  device : o'.state.bench.device = o.state.bench.device
  result : o'.result.mapError (Fault.moved .forgotten) =
    o.result.mapError (Fault.moved .forgotten)

/-- Turns that agree both succeed, or fail with faults that differ only in their places. -/
theorem Agree.ends {o o' : Executor.Turn σ Unit} (h : Agree o o') :
    (o.result = .ok () ∧ o'.result = .ok ()) ∨
      ∃ f f', o.result = .error f ∧ o'.result = .error f' ∧ f.SameButPlace f' := by
  have hr := h.result
  rcases ho : o.result with f | ⟨⟩ <;> rcases ho' : o'.result with f' | ⟨⟩ <;> rw [ho, ho'] at hr
  · exact .inr ⟨f, f', rfl, rfl, Except.error.inj hr⟩
  · cases hr
  · cases hr
  · exact .inl ⟨rfl, rfl⟩

variable [Device σ] {device : σ} {p : Params} {place : List String}

/-- Removing what was fetched leaves records only. -/
theorem agree_perform {e e' : Executor σ} {l l' : List Lexeme}
    (h : Executor.Relaid place bytes (e.parse l) (e'.parse l')) :
    Agree (perform l e) (perform l' e') := by
  have hunlogged (e : Executor σ) (l : List Lexeme) :
      Event.unlogged (perform l e).events = Event.unlogged (e.parse l).events := by
    show Event.unlogged ((e.parse l).events ++ ((e.parse l).state.bench.close _).1) = _
    simp [(quiet_close _ _).1]
  have hpast (e : Executor σ) (l : List Lexeme) :
      (perform l e).state.past = (e.parse l).state.past := Executor.past_close _
  have hloaded (e : Executor σ) (l : List Lexeme) : (perform l e).state.bench.plotLoaded =
      (e.parse l).state.bench.plotLoaded := (quiet_close _ _).2
  refine ⟨?_, ?_, ?_, ?_, ?_, h.result⟩
  · rw [hunlogged, hunlogged, h.unlogged]
  · exact (congrArg Past.mode (hpast e' l')).trans ((congrArg Executor.mode h.state).trans
      (congrArg Past.mode (hpast e l)).symm)
  · have hindex := congrArg Executor.index h.state
    exact hindex
  · rw [hloaded, hloaded]
    exact congrArg (·.bench.plotLoaded) h.state
  · exact (congrArg Past.device (hpast e' l')).trans ((congrArg (·.bench.device) h.state).trans
      (congrArg Past.device (hpast e l)).symm)

/-- The commands of scripts with the same tokens come to the same, if the one is stored in the place
of the other and a check of drawings tells the same of both. -/
theorem agree_perform_tokens (p : Params) (device : σ) {x x' : Lexer}
    (hroot : Markup.rootName bytes = Markup.rootName bytes') (hfile : site.HasFile place bytes)
    (htokens : x'.tokens.1.map Lexeme.token = x.tokens.1.map Lexeme.token) :
    Agree (perform x.tokens.1 (Executor.start true p device site))
      (perform x'.tokens.1 (Executor.start true p device (site.withBytes place bytes'))) := by
  have hwords : x'.words.map Lexeme.token = x.words.map Lexeme.token := by
    obtain ⟨q, h⟩ := x.tokens_eq
    obtain ⟨q', h'⟩ := x'.tokens_eq
    rw [h, h', List.map_append, List.map_append] at htokens
    exact List.append_cancel_right htokens
  have hrun : Executor.Relaid place bytes' ((Executor.start true p device site).parse x.tokens.1)
      ((Executor.start true p device (site.withBytes place bytes')).parse x'.tokens.1) := by
    rw [parse_tokens, parse_tokens]
    exact Executor.run_relaid (e := Executor.start true p device site) rfl hroot hfile hwords
  exact agree_perform hrun

/-- A script that is read comes to what its commands come to. -/
theorem Agree.execute {e e' : Executor σ} {l l' : List Lexeme}
    (h : Agree (perform l e) (perform l' e')) (hl : (load path e.bench.site).result = .ok l)
    (hl' : (load path e'.bench.site).result = .ok l') :
    Agree (execute path e) (execute path e') := by
  rw [execute_of_load hl, execute_of_load hl']
  refine ⟨?_, h.mode, h.index, h.plotLoaded, h.device, h.result⟩
  rw [Event.unlogged_append, Event.unlogged_append, (quiet_load path _).2, (quiet_load path _).2,
    h.unlogged]

/-- Scripts that are not read for the same fault leave everything as it was. -/
theorem agree_of_load_error {site' : Site} {f f' : Fault} (hf : f.SameButPlace f')
    (h : (load path site).result = .error f) (h' : (load path site').result = .error f') :
    Agree (execute path (Executor.start true p device site))
      (execute path (Executor.start true p device site')) := by
  rw [execute_of_load_error (e := Executor.start true p device site) h,
    execute_of_load_error (e := Executor.start true p device site') h']
  exact ⟨(quiet_load path site').2.trans (quiet_load path site).2.symm, rfl, rfl, rfl, rfl,
    congrArg Except.error hf⟩

/-- **The layout of a script does not matter.**  If a script is stored in the place of another with
the same tokens, its run asks the same of the plotter and of web servers and tells the user the
same, in the same order, and leaves the same mode, number of words read and plotter.  Both runs
end, or both end with a fault of the same kind, with the same message, about the same token of the
same number. -/
theorem execute_relaid (p : Params) (device : σ) (hfile : site.lookup path = some (.file bytes))
    (hne : bytes ≠ []) (hne' : bytes' ≠ []) (htext : Text.Utf8.decode? bytes = some cs)
    (htext' : Text.Utf8.decode? bytes' = some cs')
    (htokens : (Lexer.reading (Text.fileLines cs') (some path)).tokens.1.map Lexeme.token =
      (Lexer.reading (Text.fileLines cs) (some path)).tokens.1.map Lexeme.token) :
    let site' := { site with files := site.files.overwrite path bytes' }
    let o := execute path (Executor.start true p device site)
    let o' := execute path (Executor.start true p device site')
    Event.unlogged o'.events = Event.unlogged o.events ∧
    (o'.state.mode = o.state.mode ∧ o'.state.index = o.state.index ∧
      o'.state.bench.plotLoaded = o.state.bench.plotLoaded ∧
      o'.state.bench.device = o.state.bench.device) ∧
    ((o.result = .ok () ∧ o'.result = .ok ()) ∨
      ∃ f f', o.result = .error f ∧ o'.result = .error f' ∧ f.SameButPlace f' ∧
        f'.message = f.message ∧ f'.index? = f.index?) := by
  intro site' o o'
  suffices h : Agree o o' by
    refine ⟨h.unlogged, ⟨h.mode, h.index, h.plotLoaded, h.device⟩, h.ends.imp_right ?_⟩
    rintro ⟨f, f', ho, ho', hf⟩
    exact ⟨f, f', ho, ho', hf, hf.message, hf.index?⟩
  obtain ⟨place, hplace, hcontent⟩ := Option.bind_eq_some_iff.1 hfile
  have hsite : site' = site.withBytes place bytes' := by
    have hfiles : site.files.overwrite path bytes' = site.files.withBytes place bytes' := by
      rw [Files.overwrite, hplace]
    exact congrArg (fun f => { site with files := f }) hfiles
  obtain ⟨ws, hload⟩ := load_eq hfile hne htext
  have hfile' : site'.lookup path = some (.file bytes') := Files.lookup_overwrite hfile
  obtain ⟨ws', hload'⟩ := load_eq hfile' hne' htext'
  -- Both scripts have the same unknown words, so both are run or neither is.
  rcases Lexer.unknowns_of_tokens htokens with ⟨hu, hu'⟩ | ⟨c, r, c', r', hu, hu', hc⟩ <;>
    rw [hu] at hload <;> rw [hu'] at hload'
  · have hroot : Markup.rootName bytes = Markup.rootName bytes' := by
      rw [Lexer.unknowns_tokens] at hu hu'
      rw [rootName_eq_malformed htext hu, rootName_eq_malformed htext' hu']
    have hagree := agree_perform_tokens p device hroot hcontent htokens
    rw [← hsite] at hagree
    exact hagree.execute (congrArg Outcome.result hload) (congrArg Outcome.result hload')
  · exact agree_of_load_error hc (congrArg Outcome.result hload) (congrArg Outcome.result hload')

/-- A script with comments and a blank line, which sets a drawing in the wrong mode. -/
def spacious : String := "MODE\n  I %= PLOT\n=% GETPOS\n\nSETPLOT \"a.svg\" % no\n"

/-- The same words on two lines. -/
def dense : String := "MODE I GETPOS\rSETPLOT \"a.svg\""

/-- Both tell where the plotter is, and end with the same fault. -/
theorem execute_relaid_dense :
    let site := Program.withScript spacious []
    let site' := { site with files := site.files.overwrite "s.axi" dense.toUTF8.toList }
    let o := execute "s.axi" (Executor.start true .standard Preview.start site)
    let o' := execute "s.axi" (Executor.start true .standard Preview.start site')
    site.lookup "s.axi" = some (.file spacious.toUTF8.toList) ∧
    spacious.toUTF8.toList ≠ [] ∧ dense.toUTF8.toList ≠ [] ∧
    Text.Utf8.decode? spacious.toUTF8.toList = some spacious.toList ∧
    Text.Utf8.decode? dense.toUTF8.toList = some dense.toList ∧
    (Lexer.reading (Text.fileLines dense.toList) (some "s.axi")).tokens.1.map Lexeme.token =
      (Lexer.reading (Text.fileLines spacious.toList) (some "s.axi")).tokens.1.map
        Lexeme.token ∧
    Event.unlogged o'.events = Event.unlogged o.events ∧
    ∃ f, o'.result = .error f ∧ f.message = "SETPLOT can only be used in plot mode." := by
  intro site site' o o'
  have hfile : site.lookup "s.axi" = some (.file spacious.toUTF8.toList) := by decide +kernel
  have hne : spacious.toUTF8.toList ≠ [] := by decide +kernel
  have hne' : dense.toUTF8.toList ≠ [] := by decide +kernel
  have htext : Text.Utf8.decode? spacious.toUTF8.toList = some spacious.toList := by
    decide +kernel
  have htext' : Text.Utf8.decode? dense.toUTF8.toList = some dense.toList := by decide +kernel
  have htokens : (Lexer.reading (Text.fileLines dense.toList) (some "s.axi")).tokens.1.map
      Lexeme.token = (Lexer.reading (Text.fileLines spacious.toList) (some "s.axi")).tokens.1.map
        Lexeme.token := by decide +kernel
  obtain ⟨hes, -, hends⟩ :=
    execute_relaid .standard Preview.start hfile hne hne' htext htext' htokens
  have hm : o.result.mapError Fault.message =
      .error "SETPLOT can only be used in plot mode." := by decide +kernel
  refine ⟨hfile, hne, hne', htext, htext', htokens, hes, ?_⟩
  -- The run of the first script is known to end with that message, so both do.
  rcases hends with ⟨ho, -⟩ | ⟨f, f', ho, ho', -, hmessage, -⟩
  · exact absurd (hm.symm.trans (congrArg _ ho)) nofun
  · have hf : Except.error f.message = _ := (congrArg _ ho).symm.trans hm
    exact ⟨f', ho', hmessage.trans (Except.error.inj hf)⟩

end Script
end PlotScript
