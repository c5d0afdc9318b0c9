/-
# Harmless URLs

The target of a redirect is text of a server.  Three kinds of characters in it may stop a download
where nothing foresees it:

| character | where it counts |
| --- | --- |
| `[`, `]` | in a host: it must hold an address |
| one that stands for reserved ones | in a host: it must not be there |
| the null character | in an extension: no file has such a name |

A URL and a reference without them are taken apart and joined (`join_of_harmless`), and what is made
of them has none of them either: besides their own characters it holds letters and separators.
-/

import PlotScript.Proofs.Redirects

namespace PlotScript
namespace Web

variable {c : Char} {cs ds base path : List Char} {l : List (List Char)}

/-- A character that may stop a download. -/
def isHarmful (c : Char) : Bool := c == '\x00' || c == '[' || c == ']' || standsForReserved c

/-- Text without characters that may stop a download. -/
def Harmless (cs : List Char) : Prop := ∀ c ∈ cs, isHarmful c = false

/-- No text has nothing in it. -/
@[simp] theorem harmless_nil : Harmless [] := List.forall_mem_nil _

/-- A text of one character is harmless if the character is. -/
@[simp] theorem harmless_singleton : Harmless [c] ↔ isHarmful c = false := List.forall_mem_singleton

/-- A text in two parts is harmless if both are. -/
@[simp]
theorem harmless_append : Harmless (cs ++ ds) ↔ Harmless cs ∧ Harmless ds := List.forall_mem_append

/-- A text is harmless if its first character and the others are. -/
@[simp] theorem harmless_cons : Harmless (c :: cs) ↔ isHarmful c = false ∧ Harmless cs :=
  List.forall_mem_cons

/-- What is made of characters of a harmless text is harmless. -/
theorem Harmless.of_subset (h : Harmless cs) (hs : ds ⊆ cs) : Harmless ds := fun c hc => h c (hs hc)

/-- Two harmless texts, one after the other, are harmless. -/
theorem Harmless.append (hc : Harmless cs) (hd : Harmless ds) : Harmless (cs ++ ds) :=
  harmless_append.2 ⟨hc, hd⟩

/-- A harmless text with a harmless character in front is harmless. -/
theorem Harmless.cons (hc : isHarmful c = false) (hs : Harmless cs) : Harmless (c :: cs) :=
  harmless_cons.2 ⟨hc, hs⟩

/-- A character that may stop a download is in no harmless text. -/
theorem Harmless.not_mem (h : Harmless cs) (hc : isHarmful c = true) : c ∉ cs := fun hm => by
  rw [h c hm] at hc
  cases hc

/-- A letter that is made small does not begin to do harm. -/
theorem isHarmful_lowerLetter (h : isHarmful c = false) : isHarmful (lowerLetter c) = false := by
  have hletters : ∀ n < 26, isHarmful (Char.ofNat (n + 65 + 32)) = false := by decide
  unfold lowerLetter
  split
  · rename_i hc
    rw [Bool.and_eq_true, decide_eq_true_iff, decide_eq_true_iff] at hc
    have hlow : 65 ≤ c.toNat := hc.1
    have hhigh : c.toNat ≤ 90 := hc.2
    have := hletters (c.toNat - 65) (by omega)
    rwa [Nat.sub_add_cancel hlow] at this
  · exact h

/-- The parts of a URL without characters that may stop a download. -/
structure Url.IsHarmless (u : Url) : Prop where
  scheme : Harmless u.scheme
  host : Harmless u.host
  path : Harmless u.path
  params : Harmless u.params
  query : Harmless u.query
  fragment : Harmless u.fragment

/-- A harmless text is harmless in front of a separator and behind it. -/
theorem harmless_cut (h : Harmless cs) (sep : Char) :
    Harmless (cut sep cs).1 ∧ Harmless ((cut sep cs).2.getD []) := by
  refine ⟨h.of_subset (subset_cut sep), ?_⟩
  rcases hcut : (cut sep cs).2 with _ | after
  · exact harmless_nil
  · exact h.of_subset (subset_of_cut hcut)

/-- A harmless path is harmless without its parameters, and so are these. -/
theorem harmless_takeParams (h : Harmless cs) :
    Harmless (takeParams cs).1 ∧ Harmless (takeParams cs).2 := by
  refine ⟨h.of_subset subset_takeParams, (harmless_cut (h.of_subset fun c hc => ?_) ';').2⟩
  exact List.mem_reverse.1 ((List.takeWhile_sublist _).subset (List.mem_reverse.1 hc))

/-- A harmless URL has a harmless scheme, its own or the one that is given, and what follows is
harmless. -/
theorem harmless_takeScheme (h : Harmless cs) (hd : Harmless ds) :
    Harmless ((takeScheme cs).getD (ds, cs)).1 ∧ Harmless ((takeScheme cs).getD (ds, cs)).2 := by
  refine ⟨?_, h.of_subset (subset_of_getD_takeScheme cs ds)⟩
  unfold takeScheme
  split
  · rename_i scheme rest _ hcut
    split
    · intro c hc
      obtain ⟨a, ha, rfl⟩ := List.mem_map.1 hc
      exact isHarmful_lowerLetter (h a (subset_cut ':' (hcut ▸ ha)))
    · exact hd
  · exact hd

/-- A host without brackets is not refused for them. -/
theorem checkBrackets_of_harmless (h : Harmless cs) : checkBrackets cs = .ok () := by
  have hopen : cs.contains '[' = false :=
    Bool.eq_false_iff.2 fun hc => h.not_mem (by decide) (List.contains_iff_mem.1 hc)
  have hclose : cs.contains ']' = false :=
    Bool.eq_false_iff.2 fun hc => h.not_mem (by decide) (List.contains_iff_mem.1 hc)
  unfold checkBrackets
  rw [hopen, hclose]
  rfl

/-- A host without characters that stand for reserved ones is not refused for them. -/
theorem checkReserved_of_harmless (h : Harmless cs) : checkReserved cs = .ok () := by
  refine if_neg fun hany => ?_
  obtain ⟨c, hc, hr⟩ := List.any_eq_true.1 hany
  exact h.not_mem (by rw [isHarmful, hr, Bool.or_true]) hc

/-- **A harmless URL can be taken apart**, into harmless parts. -/
theorem parse_of_harmless (h : Harmless cs) (hd : Harmless ds) :
    ∃ u, Url.parse cs ds = .ok u ∧ u.IsHarmless := by
  have hscheme := harmless_takeScheme (h.of_subset (subset_counting cs)) hd
  have hhost := hscheme.2.of_subset (subset_takeHost _).1
  have hfragment := harmless_cut (hscheme.2.of_subset (subset_takeHost _).2) '#'
  have hquery := harmless_cut hfragment.1 '?'
  have hparams := harmless_takeParams hquery.1
  rw [parse_eq]
  dsimp only
  rw [checkBrackets_of_harmless hhost, checkReserved_of_harmless hhost]
  refine ⟨_, rfl, hscheme.1, hhost, ?_, ?_, hquery.2, hfragment.2⟩
  · dsimp only
    split
    · exact hparams.1
    · exact hquery.1
  · dsimp only
    split
    · exact hparams.2
    · exact harmless_nil

/-- A harmless URL stays harmless when it is put together. -/
theorem harmless_render {u : Url} (h : u.IsHarmless) : Harmless u.render := by
  have hscheme : Harmless (if u.scheme.isEmpty then [] else u.scheme ++ [':']) := by
    split
    · exact harmless_nil
    · exact h.scheme.append (harmless_singleton.2 rfl)
  have hpath : Harmless (if u.params.isEmpty then u.path else u.path ++ ';' :: u.params) := by
    split
    · exact h.path
    · exact h.path.append (h.params.cons rfl)
  have hquery : Harmless (if u.query.isEmpty then [] else '?' :: u.query) := by
    split
    · exact harmless_nil
    · exact h.query.cons rfl
  have hfragment : Harmless (if u.fragment.isEmpty then [] else '#' :: u.fragment) := by
    split
    · exact harmless_nil
    · exact h.fragment.cons rfl
  unfold Url.render
  refine ((hscheme.append ?_).append hquery).append hfragment
  revert hpath
  generalize (if u.params.isEmpty then u.path else u.path ++ ';' :: u.params) = path
  intro hpath
  split
  · refine .cons rfl (.cons rfl (h.host.append ?_))
    split
    · exact hpath
    · exact hpath.cons rfl
  · exact hpath

/-- A piece of a text is made of characters of the text. -/
theorem subset_of_mem_splitAt {sep : Char} (h : ds ∈ splitAt sep cs) : ds ⊆ cs := by
  induction cs generalizing ds with
  | nil =>
    obtain rfl := List.mem_singleton.1 h
    exact List.Subset.refl _
  | cons a r ih =>
    rw [splitAt] at h
    split at h
    · rcases List.mem_cons.1 h with rfl | h
      · exact List.nil_subset _
      · exact List.subset_cons_of_subset a (ih h)
    · split at h
      · obtain rfl := List.mem_singleton.1 h
        exact List.cons_subset_cons a (List.nil_subset _)
      · rename_i hsplit
        rcases List.mem_cons.1 h with rfl | h
        · exact List.cons_subset_cons a (ih (hsplit ▸ List.mem_cons_self))
        · exact List.subset_cons_of_subset a (ih (hsplit ▸ List.mem_cons_of_mem _ h))

/-- Leaving out segments adds none. -/
theorem dropEmptyInside_subset (l : List (List Char)) : dropEmptyInside l ⊆ l := by
  unfold dropEmptyInside
  split
  · exact List.nil_subset _
  · rename_i a r
    split
    · exact List.cons_subset_cons a (List.nil_subset _)
    · rename_i z hz
      have hinside : (r.dropLast.filter fun cs => !cs.isEmpty) ⊆ r :=
        (List.filter_sublist.trans (List.dropLast_sublist r)).subset
      exact List.cons_subset_cons a
        (List.append_subset.2 ⟨hinside,
          List.cons_subset.2 ⟨List.mem_of_getLast? hz, List.nil_subset _⟩⟩)

/-- A segment of a path that is resolved is one of those that there were. -/
theorem mem_of_mem_resolveSegments {done : List (List Char)} (h : cs ∈ resolveSegments done l) :
    cs ∈ done ∨ cs ∈ l := by
  induction l generalizing done with
  | nil => exact .inl (List.mem_reverse.1 h)
  | cons s r ih =>
    rw [resolveSegments] at h
    split at h
    · exact (ih h).imp List.mem_of_mem_drop (List.mem_cons_of_mem s)
    split at h
    · exact (ih h).imp_right (List.mem_cons_of_mem s)
    · rcases ih h with h | h
      · rcases List.mem_cons.1 h with rfl | h
        · exact .inr List.mem_cons_self
        · exact .inl h
      · exact .inr (List.mem_cons_of_mem s h)

/-- Harmless texts with a harmless one between any two are harmless together. -/
theorem harmless_intercalate (hs : Harmless ds) (h : ∀ cs ∈ l, Harmless cs) :
    Harmless (List.intercalate ds l) := by
  induction l with
  | nil => exact harmless_nil
  | cons a r ih =>
    have ha := h a List.mem_cons_self
    cases r with
    | nil => rwa [List.intercalate_singleton]
    | cons b r =>
      rw [List.intercalate_cons_cons]
      exact (ha.append hs).append (ih fun cs hcs => h cs (List.mem_cons_of_mem a hcs))

/-- A harmless path that is resolved against a harmless one is harmless: besides their segments it
has separators only. -/
theorem harmless_joinPaths (hb : Harmless base) (hp : Harmless path) :
    Harmless (joinPaths base path) := by
  have hparts : ∀ cs ∈ splitAt '/' path, Harmless cs := fun _ h =>
    hp.of_subset (subset_of_mem_splitAt h)
  have hbase : ∀ cs ∈ splitAt '/' base, Harmless cs := fun _ h =>
    hb.of_subset (subset_of_mem_splitAt h)
  unfold joinPaths
  dsimp only
  generalize hs : (if path.head? = some '/' then splitAt '/' path
    else dropEmptyInside ((if (splitAt '/' base).getLast? = some [] then splitAt '/' base
      else (splitAt '/' base).dropLast) ++ splitAt '/' path)) = segments
  have hsegments : ∀ cs ∈ segments, Harmless cs := by
    rw [← hs]
    intro cs hcs
    split at hcs
    · exact hparts cs hcs
    · rcases List.mem_append.1 (dropEmptyInside_subset _ hcs) with hcs | hcs
      · split at hcs
        · exact hbase cs hcs
        · exact hbase cs ((List.dropLast_sublist _).subset hcs)
      · exact hparts cs hcs
  have hresolved : ∀ cs ∈ resolveSegments [] segments, Harmless cs := fun cs hcs =>
    hsegments cs ((mem_of_mem_resolveSegments hcs).resolve_left List.not_mem_nil)
  have hended : ∀ cs ∈ resolveSegments [] segments ++ [[]], Harmless cs :=
    List.forall_mem_append.2 ⟨hresolved, List.forall_mem_singleton.2 harmless_nil⟩
  have hroot : Harmless ['/'] := harmless_singleton.2 rfl
  split <;> split
  · exact hroot
  · exact harmless_intercalate hroot hended
  · exact hroot
  · exact harmless_intercalate hroot hresolved

/-- **A harmless reference can be resolved** against a harmless URL, and leads to a harmless one. -/
theorem join_of_harmless {url reference : String} (hu : Harmless url.toList)
    (hr : Harmless reference.toList) :
    ∃ target, join url reference = .ok target ∧ Harmless target.toList := by
  obtain ⟨b, hb, hbase⟩ := parse_of_harmless hu harmless_nil
  obtain ⟨u, hp, hparts⟩ := parse_of_harmless hr hbase.scheme
  unfold join
  rw [hb]
  simp only [bind, Except.bind, hp]
  have hhost : Harmless (if hostSchemes.contains (String.ofList u.scheme) then b.host
      else u.host) := by
    split
    · exact hbase.host
    · exact hparts.host
  have hquery : Harmless (if u.query.isEmpty then b.query else u.query) := by
    split
    · exact hbase.query
    · exact hparts.query
  have hrender : ∀ v : Url, v.IsHarmless → Harmless (String.ofList v.render).toList := by
    intro v hv
    rw [String.toList_ofList]
    exact harmless_render hv
  split
  · exact ⟨_, rfl, hr⟩
  split
  · exact ⟨_, rfl, hu⟩
  split
  · exact ⟨_, rfl, hr⟩
  split
  · exact ⟨_, rfl, hrender _ hparts⟩
  split
  · exact ⟨_, rfl, hrender _
      ⟨hparts.scheme, hhost, hbase.path, hbase.params, hquery, hparts.fragment⟩⟩
  · have hpath : Harmless (joinPaths b.path u.path) := harmless_joinPaths hbase.path hparts.path
    exact ⟨_, rfl, hrender _ { hparts with host := hhost, path := hpath }⟩

/-- A harmless URL has an extension, which is harmless. -/
theorem urlExtension_of_harmless {url : String} (h : Harmless url.toList) :
    ∃ suffix, urlExtension url = .ok suffix ∧ Harmless suffix.toList := by
  obtain ⟨u, hu, hparts⟩ := parse_of_harmless h harmless_nil
  refine ⟨String.ofList (extension u.path), by rw [urlExtension, hu]; rfl, ?_⟩
  rw [String.toList_ofList]
  intro c hc
  rcases mem_of_mem_extension hc with rfl | hc
  · rfl
  · exact hparts.path c hc

end Web
end PlotScript
