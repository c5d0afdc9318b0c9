/-
# New files

A file that is made where nothing lay can be removed again, and then the files are as they were
(`Files.remove?_of_create?`).  A download is such a file: it makes one and gives its path, or it
ends with a fault and makes none (`Web.creates_fetch`).
-/

import PlotScript.Proofs.Act
import PlotScript.Web.Download

namespace PlotScript
namespace Files

variable {f g : Files} {place p q : List String} {path : String} {bytes : List UInt8}

/-- A tree with something at a place. -/
def insert (f : Files) (place : List String) (e : Entry) : Files :=
  { f with entries := (place, e) :: f.entries }

/-- What lies in a tree stays there when something is new in it. -/
theorem at?_insert {x : Entry} (e : Entry) (h : f.at? place = none) (hp : f.at? p = some x) :
    (f.insert place e).at? p = some x := by
  have hne : place ≠ p := by
    rintro rfl
    rw [h] at hp
    cases hp
  unfold at? at hp ⊢
  rw [insert, List.find?_cons_of_neg (by simpa using hne)]
  split at hp
  · exact hp
  · split at hp
    · rename_i hany
      refine (if_pos ?_).trans hp
      rw [List.any_cons, Bool.or_left_comm, hany, Bool.or_true]
    · cases hp

/-- Components lead where they led before, when something new lies where nothing lay: only folders
are gone through, and these stay. -/
theorem follow_insert (e : Entry) (h : f.at? place = none) {cs : List String}
    (hf : f.follow p cs = some q) : (f.insert place e).follow p cs = some q := by
  induction cs generalizing p with
  | nil => exact hf
  | cons c cs ih =>
    unfold follow at hf ⊢
    split at hf
    · rename_i hp
      rw [if_pos (at?_insert e h hp)]
      by_cases hdot : c = "" ∨ c = "."
      · rw [if_pos hdot] at hf ⊢
        exact ih hf
      rw [if_neg hdot] at hf ⊢
      by_cases hup : c = ".."
      · rw [if_pos hup] at hf ⊢
        exact ih hf
      rw [if_neg hup] at hf ⊢
      by_cases hlong : nameLimit < Text.Utf8.size c
      · rw [if_pos hlong] at hf
        cases hf
      · rw [if_neg hlong] at hf ⊢
        exact ih hf
    · cases hf

/-- A new file lies where nothing lay. -/
theorem of_create? (hc : f.create? path bytes = some g) : ∃ place,
    f.place? path = some place ∧ f.at? place = none ∧ g = f.insert place (.file bytes) := by
  obtain ⟨place, hp, hc⟩ := Option.bind_eq_some_iff.1 hc
  split at hc
  · cases hc
  · rename_i hn
    exact ⟨place, hp, Option.not_isSome_iff_eq_none.1 hn, (Option.some.inj hc).symm⟩

/-- A path leads where it led before, when something new lies where nothing lay. -/
theorem place?_insert (e : Entry) (hn : f.at? place = none) (hp : f.place? path = some q) :
    (f.insert place e).place? path = some q := by
  unfold place? at hp ⊢
  split at hp
  · rename_i hpath
    rw [if_pos hpath]
    exact follow_insert e hn hp
  · cases hp

/-- What is put at a place lies there, whatever lay there before. -/
theorem at?_insert_self (e : Entry) : (f.insert place e).at? place = some e := by
  rw [at?, insert, List.find?_cons_of_pos (by simp)]

/-- Where nothing lies, no file has that place. -/
theorem ne_of_mem_entries (hn : f.at? place = none) {x : List String × Entry}
    (hx : x ∈ f.entries) : x.1 ≠ place := by
  unfold at? at hn
  split at hn
  · cases hn
  · rename_i hf
    simpa using List.find?_eq_none.1 hf x hx

/-- **Removing a new file undoes making it.** -/
theorem remove?_of_create? (hc : f.create? path bytes = some g) : g.remove? path = some f := by
  obtain ⟨place, hp, hn, rfl⟩ := of_create? hc
  have hplace := place?_insert (.file bytes) hn hp
  have hfile : ((f.insert place (.file bytes)).at? place).any Entry.isFile = true := by
    rw [at?_insert_self]
    rfl
  have hrest : f.entries.filter (fun x => x.1 ≠ place) = f.entries :=
    List.filter_eq_self.2 fun x hx => decide_eq_true (ne_of_mem_entries hn hx)
  refine Option.bind_eq_some_iff.2 ⟨place, hplace, ?_⟩
  rw [if_pos hfile, insert, List.filter_cons_of_neg (by simp), hrest]

/-- A tree with new files, each of them made on top of those before it. -/
inductive Stacked (f : Files) : List String → Files → Prop
  | nil : Stacked f [] f
  | snoc {paths : List String} {g h : Files} {path : String} {bytes : List UInt8} :
    Stacked f paths g → g.create? path bytes = some h → Stacked f (paths ++ [path]) h

/-- A tree has one entry more for each new file, so the number of them can be read off it. -/
theorem Stacked.length {paths : List String} (hs : f.Stacked paths g) :
    g.entries.length = f.entries.length + paths.length := by
  induction hs with
  | nil => rfl
  | snoc _ hc ih =>
    obtain ⟨place, -, -, rfl⟩ := of_create? hc
    rw [List.length_append, ← Nat.add_assoc, ← ih]
    rfl

/-- New files make a difference. -/
theorem Stacked.eq_iff {paths : List String} (hs : f.Stacked paths g) : g = f ↔ paths = [] := by
  constructor
  · rintro rfl
    exact List.length_eq_zero_iff.1 (Nat.left_eq_add.1 hs.length)
  · rintro rfl
    generalize hp : ([] : List String) = paths at hs
    cases hs with
    | nil => rfl
    | snoc => exact absurd hp (List.append_ne_nil_of_right_ne_nil _ (List.cons_ne_nil _ _)).symm

end Files

namespace Web

/-- An act makes one file and gives its path; or it makes none, and ends with a fault. -/
def Creates (x : Act Fault Site String) : Prop := ∀ s,
  (∃ path bytes, (x s).result = .ok path ∧ s.files.create? path bytes = some (x s).state.files) ∨
    ∃ f, (x s).result = .error f ∧ (x s).state.files = s.files

variable {α : Type}

/-- An act that ends with a fault at once makes no file. -/
theorem creates_throw (f : Fault) : Creates (.throw f) := fun _ => .inr ⟨f, rfl, rfl⟩

/-- A download that is given up makes no file. -/
theorem creates_giveUp (c : Cause) : Creates (giveUp c) := creates_throw _

/-- Something that leaves the files as they are may be done first. -/
theorem Creates.after {y : Act Fault Site α} (hy : ∀ s, (y s).state.files = s.files)
    {f : α → Act Fault Site String} (hf : ∀ a, Creates (f a)) : Creates (y >>= f) := by
  intro s
  rcases hr : (y s).result with e | a
  · rw [Act.bind_of_error hr]
    exact .inr ⟨e, rfl, hy s⟩
  · rw [Act.bind_of_ok hr, ← hy s]
    exact hf a (y s).state

/-- A body that is stored makes one file, at the path that is given back, or there is a fault. -/
theorem creates_store (p : Params) (suffix : String) (body : List UInt8) :
    Creates (store p suffix body) := by
  intro s
  have hs := stored p suffix body s
  generalize store p suffix body s = o at hs ⊢
  cases hs with
  | noCreation | noFront => exact .inr ⟨_, rfl, rfl⟩
  | null h | notCreated h | notWritten h => exact .inr ⟨_, rfl, h.files_eq⟩
  | created _ _ hf => exact .inl ⟨_, body, rfl, hf⟩

/-- A body that is saved makes one file, as it is stored after its extension was found out. -/
theorem creates_save (p : Params) (hops : Nat) (url : String) (body : List UInt8) :
    Creates (save p hops url body) := by
  refine Creates.after (fun _ => rfl) fun _ => ?_
  refine Creates.after (fun s => by rw [Act.state_ofExcept]) fun suffix s => ?_
  rcases creates_store p suffix body s with ⟨path, bytes, hr, hc⟩ | ⟨f, hr, hc⟩
  · rw [Act.bind_of_ok hr]
    exact .inl ⟨path, bytes, rfl, hc⟩
  · rw [Act.bind_of_error hr]
    exact .inr ⟨f, rfl, hc⟩

/-- A redirect too many makes no file. -/
theorem creates_refuseRedirect (p : Params) : Creates (refuseRedirect p) := by
  unfold refuseRedirect
  split
  · exact creates_giveUp _
  · exact creates_throw _

/-- A download makes one file however many redirects it follows: only the last response is saved.
The induction is on the redirects that are left. -/
theorem creates_follow (p : Params) (hops : Nat) (url : String) (left : Nat) :
    Creates (follow p hops url left) := by
  induction left using Nat.strongRecOn generalizing hops url with
  | _ left ih =>
    rw [follow]
    refine Creates.after (fun _ => rfl) fun _ => Creates.after (fun _ => rfl) fun r => ?_
    split
    · exact creates_giveUp _
    · split
      · split
        · exact creates_giveUp _
        · exact creates_giveUp _
        · split
          · exact creates_refuseRedirect p
          · refine Creates.after (fun s => by rw [Act.state_ofExcept]) fun target => ?_
            exact Creates.after (fun _ => rfl) fun _ => ih _ (Nat.lt_succ_self _) _ _
      · split
        · exact creates_save p hops url _
        · exact creates_giveUp _

/-- **A download makes one file**, or none if it ends with a fault. -/
theorem creates_fetch (p : Params) (url : String) : Creates (fetch p url) :=
  creates_follow p 0 url _

end Web

end PlotScript
