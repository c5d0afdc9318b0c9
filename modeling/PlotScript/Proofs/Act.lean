/-
# How acts end

Acts are taken apart at their first part: `bind_of_ok` and `bind_of_error` say what is done after
it, and the equations of the other acts say what they come to.
-/

import PlotScript.Act

namespace PlotScript
namespace Act

variable {ε σ α β γ : Type}

/-- Where the first of two acts gives a result, the second one goes on from the state it leaves, and
the events of both are kept in order. -/
theorem bind_of_ok {x : Act ε σ α} {s : σ} {a : α} (h : (x s).result = .ok a)
    (f : α → Act ε σ β) : (x >>= f) s =
      ⟨(f a (x s).state).result, (x s).events ++ (f a (x s).state).events,
        (f a (x s).state).state⟩ := by
  show Act.bind x f s = _
  unfold Act.bind
  generalize x s = o at h ⊢
  obtain ⟨r, es, t⟩ := o
  obtain rfl : r = .ok a := h
  rfl

/-- Where the first of two acts ends with a fault, nothing of the second one is done: the fault, the
events and the state are those of the first. -/
theorem bind_of_error {x : Act ε σ α} {s : σ} {e : ε} (h : (x s).result = .error e)
    (f : α → Act ε σ β) : (x >>= f) s = ⟨.error e, (x s).events, (x s).state⟩ := by
  show Act.bind x f s = _
  unfold Act.bind
  generalize x s = o at h ⊢
  obtain ⟨r, es, t⟩ := o
  obtain rfl : r = .error e := h
  rfl

/-- What two acts come to, one after the other. -/
theorem bind_eq {x : Act ε σ α} {f : α → Act ε σ β} {s t u : σ} {a : α} {r : Except ε β}
    {es fs : List Event} (hx : x s = ⟨.ok a, es, t⟩) (hf : f a t = ⟨r, fs, u⟩) :
    (x >>= f) s = ⟨r, es ++ fs, u⟩ := by
  rw [bind_of_ok (a := a) (by rw [hx]), hx, hf]

/-- An act that ends with no fault is one whose parts do. -/
theorem exists_of_bind_eq_ok {x : Act ε σ α} {f : α → Act ε σ β} {s : σ} {b : β}
    (h : ((x >>= f) s).result = .ok b) : ∃ a, (x s).result = .ok a ∧
      (f a (x s).state).result = .ok b ∧
      (x >>= f) s = ⟨.ok b, (x s).events ++ (f a (x s).state).events, (f a (x s).state).state⟩ := by
  rcases hr : (x s).result with e | a
  · rw [bind_of_error hr] at h
    cases h
  · have he := bind_of_ok hr f
    rw [he] at h
    exact ⟨a, rfl, h, h ▸ he⟩

/-- Acts may be grouped either way. -/
theorem bind_assoc (x : Act ε σ α) (f : α → Act ε σ β) (g : β → Act ε σ γ) :
    (x >>= f) >>= g = x >>= fun a => f a >>= g := by
  funext s
  rcases hx : (x s).result with e | a
  · rw [bind_of_error hx, bind_of_error (e := e) (by rw [bind_of_error hx]), bind_of_error hx]
  · rw [bind_of_ok hx]
    rcases hf : (f a (x s).state).result with e | b
    · rw [bind_of_error (e := e) (by rw [bind_of_ok hx, hf]), bind_of_error hf, bind_of_ok hx]
    · rw [bind_of_ok (a := b) (by rw [bind_of_ok hx, hf]), bind_of_ok hf, bind_of_ok hx]
      simp only [List.append_assoc]

/-- An act for each of several elements is the act for the first one, and then that for the
others. -/
theorem forEach_cons (a : α) (r : List α) (f : α → Act ε σ Unit) :
    forEach (a :: r) f = f a >>= fun _ => forEach r f := rfl

/-- An act that ends with no fault is not followed by another one. -/
theorem rescue_of_ok {x : Act ε σ α} {s : σ} {a : α} (h : (x s).result = .ok a)
    (after : ε → Option (Act ε σ α)) : x.rescue after s = x s := by
  unfold rescue
  simp only [h]

/-- A fault that there is no act for ends the act. -/
theorem rescue_of_none {x : Act ε σ α} {s : σ} {e : ε} {after : ε → Option (Act ε σ α)}
    (h : (x s).result = .error e) (ha : after e = none) : x.rescue after s = x s := by
  unfold rescue
  simp only [h, ha]

/-- After a fault that there is an act for, that act is done. -/
theorem rescue_of_some {x y : Act ε σ α} {s : σ} {e : ε} {after : ε → Option (Act ε σ α)}
    (h : (x s).result = .error e) (ha : after e = some y) : x.rescue after s =
      ⟨(y (x s).state).result, (x s).events ++ (y (x s).state).events,
        (y (x s).state).state⟩ := by
  unfold rescue
  simp only [h, ha]

/-- What comes after a change of the state starts in the changed state. -/
theorem modify_bind (g : σ → σ) (f : Unit → Act ε σ β) (s : σ) :
    (modify g >>= f) s = f () (g s) := rfl

/-- Giving what was worked out leaves the state as it is, whether that is a result or a fault. -/
@[simp] theorem state_ofExcept (x : Except ε α) (s : σ) : (ofExcept x s).state = s := by
  cases x <;> rfl

/-- Giving what was worked out ends with it. -/
@[simp] theorem result_ofExcept (x : Except ε α) (s : σ) : (ofExcept x s).result = x := by
  cases x <;> rfl

/-- An act ends with no other faults than those, and leaves no other events. -/
structure Within (F : ε → Prop) (E : Event → Prop) (x : Act ε σ α) : Prop where
  faults : ∀ s f, (x s).result = .error f → F f
  events : ∀ s, ∀ ev ∈ (x s).events, E ev

section Within

variable {F : ε → Prop} {E : Event → Prop}

/-- Giving a result ends with no fault and leaves no events, so it is within any bounds. -/
theorem within_pure (a : α) : Within F E (pure a : Act ε σ α) :=
  ⟨fun _ _ h => (nomatch h), fun _ _ h => (nomatch h)⟩

/-- Ending with a fault is within bounds that allow the fault. -/
theorem within_throw {e : ε} (h : F e) : Within F E (throw e : Act ε σ α) :=
  ⟨fun _ _ hf => Except.error.inj hf ▸ h, fun _ _ h => (nomatch h)⟩

/-- Looking at the state is within any bounds. -/
theorem within_get : Within F E (get : Act ε σ σ) :=
  ⟨fun _ _ h => (nomatch h), fun _ _ h => (nomatch h)⟩

/-- Changing the state is within any bounds: they are about faults and events only. -/
theorem within_modify (g : σ → σ) : Within F E (modify g : Act ε σ Unit) :=
  ⟨fun _ _ h => (nomatch h), fun _ _ h => (nomatch h)⟩

/-- Leaving events is within bounds that allow each of them. -/
theorem within_tell {es : List Event} (h : ∀ ev ∈ es, E ev) :
    Within F E (tell es : Act ε σ Unit) :=
  ⟨fun _ _ hf => (nomatch hf), fun _ => h⟩

/-- Giving what was worked out is within bounds that allow its fault, if it has one. -/
theorem within_ofExcept {x : Except ε α} (h : ∀ e, x = .error e → F e) :
    Within F E (ofExcept x : Act ε σ α) := by
  cases x with
  | error e => exact within_throw (h e rfl)
  | ok a => exact within_pure a

/-- Two acts within bounds, one after the other, are within them. -/
theorem Within.bind {x : Act ε σ α} {f : α → Act ε σ β} (hx : Within F E x)
    (hf : ∀ a, Within F E (f a)) : Within F E (x >>= f) := by
  refine ⟨fun s e h => ?_, fun s ev h => ?_⟩
  · rcases hr : (x s).result with e' | a
    · rw [bind_of_error hr] at h
      cases h
      exact hx.faults s e hr
    · rw [bind_of_ok hr] at h
      exact (hf a).faults _ e h
  · rcases hr : (x s).result with e' | a
    · rw [bind_of_error hr] at h
      exact hx.events s ev h
    · rw [bind_of_ok hr] at h
      exact (List.mem_append.1 h).elim (hx.events s ev) ((hf a).events _ ev)

/-- An act for each element is within the bounds of the single acts. -/
theorem Within.forEach {l : List α} {f : α → Act ε σ Unit} (h : ∀ a, Within F E (f a)) :
    Within F E (forEach l f) := by
  induction l with
  | nil => exact within_pure ()
  | cons a l ih => exact (h a).bind fun _ => ih

/-- An act on a part of the state is within the bounds of the act itself. -/
theorem Within.on {τ : Type} {part : τ → σ} {put : σ → τ → τ} {x : Act ε σ α}
    (h : Within F E x) : Within F E (x.on part put) :=
  ⟨fun t => h.faults (part t), fun t => h.events (part t)⟩

end Within

/-- Where an act ends with a fault, the fault and the state it leaves fit together. -/
def Faults (P : ε → σ → Prop) (x : Act ε σ α) : Prop :=
  ∀ s f, (x s).result = .error f → P f (x s).state

section Faults

variable {P : ε → σ → Prop}

/-- Where the faults that an act is bounded to fit with any state, they fit with the one that the
act leaves. -/
theorem Within.toFaults {F : ε → Prop} {E : Event → Prop} {x : Act ε σ α} (h : Within F E x)
    (hP : ∀ f s, F f → P f s) : Faults P x := fun s f hf => hP f _ (h.faults s f hf)

/-- Giving a result ends with no fault, so nothing has to fit. -/
theorem faults_pure (a : α) : Faults P (pure a : Act ε σ α) := fun _ _ h => (nomatch h)

/-- A fault that fits with any state may end an act anywhere. -/
theorem faults_throw {e : ε} (h : ∀ s, P e s) : Faults P (throw e : Act ε σ α) := by
  intro s f hf
  obtain rfl := Except.error.inj hf
  exact h s

/-- Looking at the state ends with no fault. -/
theorem faults_get : Faults P (get : Act ε σ σ) := fun _ _ h => (nomatch h)

/-- Changing the state ends with no fault. -/
theorem faults_modify (g : σ → σ) : Faults P (modify g : Act ε σ Unit) := fun _ _ h => (nomatch h)

/-- Leaving events ends with no fault. -/
theorem faults_tell (es : List Event) : Faults P (tell es : Act ε σ Unit) :=
  fun _ _ h => (nomatch h)

/-- If the fault of each of two acts fits with the state it leaves, so it is for one after the
other: the first fault ends both. -/
theorem Faults.bind {x : Act ε σ α} {f : α → Act ε σ β} (hx : Faults P x)
    (hf : ∀ a, Faults P (f a)) : Faults P (x >>= f) := by
  intro s e h
  rcases hr : (x s).result with e' | a
  · rw [bind_of_error hr] at h ⊢
    obtain rfl := Except.error.inj h
    exact hx s e' hr
  · rw [bind_of_ok hr] at h ⊢
    exact hf a _ e h

/-- If the fault of each single act fits with the state it leaves, so it is for an act for each
element. -/
theorem Faults.forEach {l : List α} {f : α → Act ε σ Unit} (h : ∀ a, Faults P (f a)) :
    Faults P (forEach l f) := by
  induction l with
  | nil => exact faults_pure ()
  | cons a l ih => exact (h a).bind fun _ => ih

end Faults

/-- An act keeps a property of its state, however it ends. -/
def Keeps (P : σ → Prop) (x : Act ε σ α) : Prop := ∀ s, P s → P (x s).state

section Keeps

variable {P : σ → Prop}

/-- Giving a result keeps any property of the state. -/
theorem keeps_pure (a : α) : Keeps P (pure a : Act ε σ α) := fun _ h => h

/-- Ending with a fault keeps any property of the state. -/
theorem keeps_throw (e : ε) : Keeps P (throw e : Act ε σ α) := fun _ h => h

/-- Looking at the state keeps any property of it. -/
theorem keeps_get : Keeps P (get : Act ε σ σ) := fun _ h => h

/-- A change of the state keeps a property, if the changed state has it. -/
theorem keeps_modify {g : σ → σ} (h : ∀ s, P s → P (g s)) : Keeps P (modify g : Act ε σ Unit) := h

/-- Leaving events keeps any property of the state. -/
theorem keeps_tell (es : List Event) : Keeps P (tell es : Act ε σ Unit) := fun _ h => h

/-- Giving what was worked out keeps any property of the state. -/
theorem keeps_ofExcept (x : Except ε α) : Keeps P (ofExcept x : Act ε σ α) := by
  cases x with
  | error e => exact keeps_throw e
  | ok a => exact keeps_pure a

/-- Two acts that keep a property, one after the other, keep it. -/
theorem Keeps.bind {x : Act ε σ α} {f : α → Act ε σ β} (hx : Keeps P x)
    (hf : ∀ a, Keeps P (f a)) : Keeps P (x >>= f) := by
  intro s h
  rcases hr : (x s).result with e | a
  · rw [bind_of_error hr]
    exact hx s h
  · rw [bind_of_ok hr]
    exact hf a _ (hx s h)

/-- An act for each element keeps what each single act keeps. -/
theorem Keeps.forEach {l : List α} {f : α → Act ε σ Unit} (h : ∀ a, Keeps P (f a)) :
    Keeps P (forEach l f) := by
  induction l with
  | nil => exact keeps_pure ()
  | cons a l ih => exact (h a).bind fun _ => ih

/-- What an act keeps does not depend on how its faults are told. -/
theorem Keeps.mapError {ε' : Type} {f : ε → ε'} {x : Act ε σ α} (h : Keeps P x) :
    Keeps P (x.mapError f) := h

/-- An act that is followed by another one after some faults keeps a property, if it does and every
such other act does. -/
theorem Keeps.rescue {x : Act ε σ α} (hx : Keeps P x) {after : ε → Option (Act ε σ α)}
    (hf : ∀ e y, after e = some y → Keeps P y) : Keeps P (x.rescue after) := by
  intro s h
  unfold Act.rescue
  simp only
  split
  · exact hx s h
  · split
    · exact hx s h
    · rename_i y hy
      exact hf _ y hy _ (hx s h)

/-- An act on a part keeps a property of the whole, if it keeps one of the part that goes with
it. -/
theorem Keeps.on {τ : Type} {Q : τ → Prop} {part : τ → σ} {put : σ → τ → τ} {x : Act ε σ α}
    (h : Keeps P x) (hpart : ∀ t, Q t → P (part t)) (hput : ∀ s t, P s → Q t → Q (put s t)) :
    Keeps Q (x.on part put) := fun t ht => hput _ t (h _ (hpart t ht)) ht

end Keeps

/-- Where a state has a property, an act keeps it and ends with no other faults than those. -/
def Confined (P : σ → Prop) (F : ε → Prop) (x : Act ε σ α) : Prop :=
  ∀ s, P s → (∀ f, (x s).result = .error f → F f) ∧ P (x s).state

section Confined

variable {P : σ → Prop} {F : ε → Prop}

/-- An act that keeps a property and ends with no other faults than those is confined to both. -/
theorem Keeps.confined {x : Act ε σ α} (h : Keeps P x) (hF : ∀ s f, (x s).result = .error f → F f) :
    Confined P F x := fun s hs => ⟨hF s, h s hs⟩

/-- Ending with one of the faults is confined to them. -/
theorem confined_throw {e : ε} (h : F e) : Confined P F (throw e : Act ε σ α) :=
  (keeps_throw e).confined fun _ _ hf => Except.error.inj hf ▸ h

/-- Looking at the state is confined to any property and any faults. -/
theorem confined_get : Confined P F (get : Act ε σ σ) :=
  keeps_get.confined fun _ _ h => (nomatch h)

/-- A change that keeps the property is confined to it, whatever the faults. -/
theorem confined_modify {g : σ → σ} (h : ∀ s, P s → P (g s)) :
    Confined P F (modify g : Act ε σ Unit) := (keeps_modify h).confined fun _ _ h => (nomatch h)

/-- Leaving events is confined to any property and any faults. -/
theorem confined_tell (es : List Event) : Confined P F (tell es : Act ε σ Unit) :=
  (keeps_tell es).confined fun _ _ h => (nomatch h)

/-- Two confined acts, one after the other, are confined: the second one starts where the first one
kept the property. -/
theorem Confined.bind {x : Act ε σ α} {f : α → Act ε σ β} (hx : Confined P F x)
    (hf : ∀ a, Confined P F (f a)) : Confined P F (x >>= f) := by
  intro s hs
  obtain ⟨hr, hp⟩ := hx s hs
  rcases h : (x s).result with e | a
  · rw [bind_of_error h]
    exact ⟨fun f' hf' => Except.error.inj hf' ▸ hr e h, hp⟩
  · rw [bind_of_ok h]
    exact hf a _ hp

/-- An act for each element is confined as each single act is. -/
theorem Confined.forEach {l : List α} {f : α → Act ε σ Unit} (h : ∀ a, Confined P F (f a)) :
    Confined P F (forEach l f) := by
  induction l with
  | nil => exact (keeps_pure ()).confined fun _ _ h => (nomatch h)
  | cons a l ih => exact (h a).bind fun _ => ih

end Confined

end Act
end PlotScript
