/-
# What a command may come to

A command that is carried out ends with a fault of its own, or with the plotter's answer to the
call that is noted last (`Bench.faults_enact`).  Fetching a drawing and checking it come to faults
of their own (`Web.own_fetch`, `Site.own_checkDrawing`).  These are about no number of the stream;
a number is given to a fault where it is blamed on the command, and then it is the number of the
command's last lexeme, unless the plotter's complaint had one before (`Bench.index_of_execute`).

The events of a command are records for debugging, messages to the user, calls of the plotter and
requests for drawings, and besides these only what the plotter leaves itself (`within_enact`).
-/

import PlotScript.Proofs.Enactment
import PlotScript.Proofs.Origins

namespace PlotScript

/-- What holds of all faults of a download. -/
structure Fault.OfWeb (F : Fault → Prop) : Prop where
  fatal : ∀ cause, cause.Own → F (.fatal (.plain cause))
  failure : ∀ f, f.Own → F (.failure f)

/-- What holds of all events that come from no plotter. -/
structure Event.Usual (E : Event → Prop) : Prop where
  debug : ∀ text, E (.log .debug text)
  out : ∀ text, E (.out text)
  call : ∀ c, E (.call c)
  get : ∀ url agent timeout, E (.get url agent timeout)

/-- What holds of all events that a plotter leaves. -/
def Device.Leaves (σ : Type) [Device σ] (E : Event → Prop) : Prop :=
  ∀ (c : Call) (d : σ), ∀ ev ∈ (Device.perform c d).events, E ev

namespace Web

variable {F : Fault → Prop} {E : Event → Prop} {α : Type}

open Act (Within)

/-- Giving a download up is a fatal complaint, and leaves no event. -/
theorem within_giveUp (hF : Fault.OfWeb F) {cause : Cause} (h : cause.Own) :
    Within F E (giveUp cause : Act Fault Site α) := Act.within_throw (hF.fatal cause h)

/-- A record of a download is one for debugging. -/
theorem within_note (hE : Event.Usual E) (hops : Nat) (text : String) :
    Within F E (note hops text) := by
  refine Act.within_tell fun ev h => ?_
  rw [List.mem_singleton.1 h]
  exact hE.debug _

/-- A request is the event that it leaves, and it comes to no fault of its own. -/
theorem within_request (hE : Event.Usual E) (p : Params) (url : String) :
    Within F E (request p url) := by
  refine ⟨fun s f h => (nomatch h), fun s ev h => ?_⟩
  rw [List.mem_singleton.1 h]
  exact hE.get _ _ _

/-- Storing a body comes to a fault of a download, if it cannot be done, and leaves no event. -/
theorem within_store (hF : Fault.OfWeb F) (p : Params) (suffix : String) (body : List UInt8) :
    Within F E (store p suffix body) := by
  refine ⟨fun s f h => ?_, fun s ev h => ?_⟩
  · have hs := stored p suffix body s
    generalize store p suffix body s = o at h hs
    cases hs with
    | created => cases h
    | noCreation | notCreated | notWritten =>
      cases h
      exact hF.fatal _ trivial
    | noFront _ hp =>
      cases h
      exact hF.failure _ (own_tempPrefixText _ hp)
    | null =>
      cases h
      exact hF.failure _ trivial
  · rw [events_store] at h
    cases h

/-- What cannot be found out for a download is a fault of it. -/
theorem within_ofExcept (hF : Fault.OfWeb F) {x : Except Failure α} (h : ErrorsIn Failure.Own x) :
    Within F E (Act.ofExcept (x.mapError Fault.failure) : Act Fault Site α) :=
  Act.within_ofExcept (h.mapError hF.failure)

/-- Saving a body comes to faults of a download, and leaves records for debugging. -/
theorem within_save (hF : Fault.OfWeb F) (hE : Event.Usual E) (p : Params) (hops : Nat)
    (url : String) (body : List UInt8) : Within F E (save p hops url body) := by
  refine (within_note hE _ _).bind fun _ => ?_
  refine (within_ofExcept hF own_urlExtension).bind fun suffix => ?_
  refine (within_store hF p suffix body).bind fun path => ?_
  exact (within_note hE _ _).bind fun _ => Act.within_pure path

/-- Refusing a redirect comes to a fault of a download, be it that the limit is reached or that
there is no limit to tell of. -/
theorem within_refuseRedirect (hF : Fault.OfWeb F) (p : Params) :
    Within F E (refuseRedirect p : Act Fault Site α) := by
  unfold refuseRedirect
  split
  · exact within_giveUp hF trivial
  · exact Act.within_throw (hF.failure _ trivial)

/-- Following redirects comes to faults of a download, and leaves requests and records for
debugging.  The induction is on the redirects that are left. -/
theorem within_follow (hF : Fault.OfWeb F) (hE : Event.Usual E) (p : Params) (hops : Nat)
    (url : String) (left : Nat) : Within F E (follow p hops url left) := by
  induction left using Nat.strongRecOn generalizing hops url with
  | _ left ih =>
    rw [follow]
    refine (within_note hE _ _).bind fun _ => (within_request hE p url).bind fun r => ?_
    split
    · exact within_giveUp hF trivial
    · split
      · split
        · exact within_giveUp hF trivial
        · exact within_giveUp hF trivial
        · split
          · exact within_refuseRedirect hF p
          · refine (within_ofExcept hF own_join).bind fun target => ?_
            exact (within_note hE _ _).bind fun _ => ih _ (Nat.lt_succ_self _) _ _
      · split
        · exact within_save hF hE p hops url _
        · exact within_giveUp hF trivial

/-- A download comes to faults of its own, and leaves requests and records for debugging. -/
theorem within_fetch (hF : Fault.OfWeb F) (hE : Event.Usual E) (p : Params) (url : String) :
    Within F E (fetch p url) := within_follow hF hE p 0 url _

/-- **A download comes to faults of its own.** -/
theorem own_fetch {p : Params} {url : String} : Within Fault.Own (fun _ => True) (fetch p url) :=
  within_fetch ⟨fun _ h => ⟨h, rfl⟩, fun _ h => h⟩
    ⟨fun _ => trivial, fun _ => trivial, fun _ => trivial, fun _ _ _ => trivial⟩ p url

end Web

namespace Site

variable {s : Site} {path : String} {anchor : Option Lexeme} {f : Fault}

/-- A drawing is refused for its path, or for what is wrong with its content. -/
theorem checkDrawing_eq_error (h : s.checkDrawing path anchor = .error f) :
    f = .failure .pathWithNull ∨ s.drawingFault? path anchor = some f := by
  unfold checkDrawing at h
  by_cases hc : path.toList.contains '\x00' = true
  · rw [checkPath, if_pos hc] at h
    cases h
    exact .inl rfl
  · rw [checkPath, if_neg hc] at h
    rcases hd : s.drawingFault? path anchor with _ | g
    · rw [hd] at h
      cases h
    · rw [hd] at h
      cases h
      exact .inr rfl

/-- **The check of a drawing comes to faults of its own.** -/
theorem own_checkDrawing : ErrorsIn Fault.Own (s.checkDrawing path anchor) := by
  intro f h
  rcases checkDrawing_eq_error h with rfl | hf
  · trivial
  · unfold drawingFault? at hf
    simp only at hf
    split at hf
    · cases hf
      exact ⟨trivial, rfl⟩
    · split at hf
      · cases hf
        exact ⟨trivial, rfl⟩
      · cases hf
        exact ⟨trivial, rfl⟩
      · split at hf
        · cases hf
          trivial
        · split at hf <;> cases hf
          exact ⟨trivial, rfl⟩

end Site

namespace Bench

variable {σ : Type}

section Faults

open Act (Faults)

/-- A fault is the command's own, or the answer to the call that is noted last, which was made in
the mode of this moment. -/
def EndsWith (f : Fault) (b : Bench σ) : Prop :=
  f.Own ∨ ∃ before c r, b.deeds = before ++ [.asked b.mode c (.error r)] ∧ r.toFault = f

/-- A drawing that cannot be obtained is a fault of the command's own. -/
theorem faults_obtain (p : Params) (source : String) :
    Faults EndsWith (obtain p source : Act Fault (Bench σ) String) := by
  unfold obtain
  split
  · refine Faults.bind ?_ fun path => (Act.faults_modify _).bind fun _ => Act.faults_pure path
    exact Act.Within.toFaults Web.own_fetch.on fun f b hf => .inl hf
  · exact Act.faults_pure source

/-- A drawing that does not pass is a fault of the command's own. -/
theorem faults_inspect (path : String) (anchor : Lexeme) :
    Faults EndsWith (inspect path anchor : Act Fault (Bench σ) Unit) := by
  refine Act.faults_get.bind fun b => ?_
  split
  · exact Act.faults_throw fun _ => .inl ⟨trivial, rfl⟩
  · intro t f h
    rw [Act.result_ofExcept] at h
    exact .inl (Site.own_checkDrawing f h)

variable [Device σ]

/-- A call ends with the plotter's answer, which is noted last. -/
theorem faults_ask (c : Call) : Faults EndsWith (ask c : Act Fault (Bench σ) c.Answer) := by
  intro b f h
  rw [result_ask] at h
  rcases hr : (Device.perform c b.device).result with r | a
  · rw [hr] at h
    exact .inr ⟨b.deeds, c, r, by rw [deeds_ask, hr]; rfl, Except.error.inj h⟩
  · rw [hr] at h
    cases h

/-- **What a command may end with**: a fault of its own, or the answer to its last call. -/
theorem faults_enact (p : Params) (anchor : Lexeme) (a : Action) :
    Faults EndsWith (enact p anchor a : Act Fault (Bench σ) Unit) := by
  cases a with
  | setMode m =>
    refine (Act.faults_modify _).bind fun _ => ?_
    cases m with
    | plot => exact Act.faults_tell _
    | interactive =>
      refine (faults_ask .enterInteractive).bind fun _ => (faults_ask .currentMode).bind fun m => ?_
      split
      · exact Act.faults_throw fun _ => .inl ⟨trivial, rfl⟩
      · exact Act.faults_tell _
  | setOptions b settings =>
    refine Faults.bind ?_ fun _ => faults_ask .commitOptions
    exact Act.Faults.forEach fun x : Setting × Value => faults_ask (.set x.1 x.2)
  | getPosition => exact (faults_ask .getPosition).bind fun _ => Act.faults_tell _
  | getPen => exact (faults_ask .getPenDown).bind fun _ => Act.faults_tell _
  | setPlot source =>
    refine (faults_obtain p source).bind fun path => (faults_inspect path anchor).bind fun _ => ?_
    exact (faults_ask (.setupPlot path)).bind fun _ => Act.faults_modify _
  | plot =>
    refine Act.faults_get.bind fun b => ?_
    split
    · exact faults_ask .runPlot
    · exact Act.faults_throw fun _ => .inl ⟨trivial, rfl⟩
  | _ => exact faults_ask _

/-- The fault of a command before it is blamed on the command. -/
theorem exists_of_execute_eq_error {p : Params} {last : Nat} {command : Command} {b : Bench σ}
    {f : Fault} (h : (execute p last command b).result = .error f) :
    ∃ g, (enact p command.anchor command.action b).result = .error g ∧
      blame command.anchor last g = f := by
  have hl : (execute p last command b).result =
      (enact p command.anchor command.action b).result.mapError (blame command.anchor last) := rfl
  rw [hl] at h
  rcases hr : (enact p command.anchor command.action b).result with g | u
  · rw [hr] at h
    exact ⟨g, rfl, Except.error.inj h⟩
  · rw [hr] at h
    cases h

/-- **The number in a complaint about a command** is that of its last lexeme, unless the plotter
made the complaint with this number when it was asked last. -/
theorem index_of_execute {p : Params} {last : Nat} {command : Command} {b : Bench σ} {c : Complaint}
    (h : (execute p last command b).result = .error (.command c)) :
    (c.index = none ∨ c.index = some (last : Int)) ∨
      ∃ before mode call, c.lexeme = none ∧ (execute p last command b).state.deeds =
        before ++ [.asked mode call (.error (.complaint .command c.cause c.index))] := by
  obtain ⟨g, hr, hg⟩ := exists_of_execute_eq_error h
  unfold blame at hg
  split at hg
  · cases hg
    exact .inl (.inr rfl)
  · subst hg
    rcases faults_enact p command.anchor command.action b _ hr with
      hown | ⟨before, call, r, hd, hr⟩
    · exact .inl (.inl hown.2)
    · rcases r with ⟨grade, cause, index⟩ | _ | _
      · cases hr
        exact .inr ⟨before, _, call, rfl, hd⟩
      · cases hr
      · cases hr

end Faults

variable [Device σ] {E : Event → Prop}

open Act (Within)

/-- A call leaves the event of the call, and what the plotter leaves itself. -/
theorem within_ask (hE : Event.Usual E) (hd : Device.Leaves σ E) (c : Call) :
    Within (fun _ => True) E (ask c : Act Fault (Bench σ) c.Answer) := by
  refine ⟨fun _ _ _ => trivial, fun b ev h => ?_⟩
  rcases List.mem_cons.1 h with rfl | h
  · exact hE.call c
  · exact hd c _ ev h

omit [Device σ] in
/-- Obtaining a drawing leaves what a download leaves, or nothing. -/
theorem within_obtain (hE : Event.Usual E) (p : Params) (source : String) :
    Within (fun _ => True) E (obtain p source : Act Fault (Bench σ) String) := by
  unfold obtain
  split
  · refine ((Web.within_fetch ⟨fun _ _ => trivial, fun _ _ => trivial⟩ hE p source).on).bind
      fun path => ?_
    exact (Act.within_modify _).bind fun _ => Act.within_pure path
  · exact Act.within_pure source

omit [Device σ] in
/-- Looking into a drawing leaves no event. -/
theorem within_inspect (path : String) (anchor : Lexeme) :
    Within (fun _ => True) E (inspect path anchor : Act Fault (Bench σ) Unit) := by
  refine Act.within_get.bind fun b => ?_
  split
  · exact Act.within_throw trivial
  · exact Act.within_ofExcept fun _ _ => trivial

/-- **What a command may leave.** -/
theorem within_enact (hE : Event.Usual E) (hd : Device.Leaves σ E) (p : Params) (anchor : Lexeme)
    (a : Action) : Within (fun _ => True) E (enact p anchor a : Act Fault (Bench σ) Unit) := by
  have hask : ∀ c, Within (fun _ => True) E (ask c : Act Fault (Bench σ) c.Answer) :=
    within_ask hE hd
  cases a with
  | setMode m =>
    refine (Act.within_modify _).bind fun _ => ?_
    have hlog : Within (fun _ => True) E
        (Act.log .debug ("Mode is set to " ++ m.name ++ ".") : Act Fault (Bench σ) Unit) := by
      refine Act.within_tell fun ev h => ?_
      rw [List.mem_singleton.1 h]
      exact hE.debug _
    cases m with
    | plot => exact hlog
    | interactive =>
      refine (hask .enterInteractive).bind fun _ => (hask .currentMode).bind fun entered => ?_
      split
      · exact Act.within_throw trivial
      · exact hlog
  | setOptions b settings =>
    exact (Act.Within.forEach fun x : Setting × Value => hask (.set x.1 x.2)).bind fun _ =>
      hask .commitOptions
  | getPosition =>
    refine (hask .getPosition).bind fun at' => Act.within_tell fun ev h => ?_
    rw [List.mem_singleton.1 h]
    exact hE.out _
  | getPen =>
    refine (hask .getPenDown).bind fun down => Act.within_tell fun ev h => ?_
    rw [List.mem_singleton.1 h]
    exact hE.out _
  | setPlot source =>
    refine (within_obtain hE p source).bind fun path => (within_inspect path anchor).bind fun _ => ?_
    exact (hask (.setupPlot path)).bind fun _ => Act.within_modify _
  | plot =>
    refine Act.within_get.bind fun b => ?_
    split
    · exact hask .runPlot
    · exact Act.within_throw trivial
  | _ => exact hask _

/-- What a command leaves when it is carried out. -/
theorem events_execute (hE : Event.Usual E) (hd : Device.Leaves σ E) (p : Params) (last : Nat)
    (command : Command) (b : Bench σ) : ∀ ev ∈ (execute p last command b).events, E ev := by
  intro ev h
  rcases List.mem_cons.1 (show ev ∈ Event.log .debug (record command) ::
    (enact p command.anchor command.action b).events from h) with rfl | h
  · exact hE.debug _
  · exact (within_enact hE hd p command.anchor command.action).events b ev h

end Bench
end PlotScript
