/-
# Downloads that break off

A download that comes to no file ends the run with a complaint.  Five things break it off with a
failure instead, at the last response:

| the last response | what is in the way |
| --- | --- |
| redirects, and a redirect is left | a host that is refused, in the URL or in the target |
| redirects, and none is left | a configuration without a number of redirects |
| holds a body | a host that is refused, in the URL |
| holds a body | a configuration without a text for the names of temporary files |
| holds a body | a null character in the path of the temporary file |

The targets are text of the servers, so a server can break a download off.  One that sends no
harmful characters cannot (`not_breaksOff_of_harmless`).

The language specification, §4.4 and §14, knows Fatal ends of a fetch only.
-/

import PlotScript.Proofs.HarmlessUrls

namespace PlotScript
namespace Web

variable {p : Params} {t : Temporary} {f : Files} {url : String} {left : Nat} {s : Site}
  {x : Exchange} {r : Response} {rest : Pages} {talk : List Exchange} {e : Failure}
  {body : List UInt8}

/-- A download breaks off at its last exchange, with a failure, when `left` redirects are left. -/
inductive BreaksOff (p : Params) (t : Temporary) (f : Files) (left : Nat) (x : Exchange) :
    Failure → Prop
  /-- The target of a redirect that may be followed cannot be resolved. -/
  | target {reference : String} {e : Failure} : x.response.Redirects reference → 0 < left →
    join x.url reference = .error e → BreaksOff p t f left x e
  /-- Whether a redirect may be followed cannot be told. -/
  | limit {reference : String} : x.response.Redirects reference → left = 0 →
    p.maxRedirects.floor? = none → BreaksOff p t f left x (.badRedirectLimit p.maxRedirects)
  /-- The extension of the URL cannot be told. -/
  | extension {body : List UInt8} {e : Failure} : x.response.Holds body →
    urlExtension x.url = .error e → BreaksOff p t f left x e
  /-- The body cannot be stored under a name with that extension. -/
  | file {body : List UInt8} {suffix : String} {e : Failure} : x.response.Holds body →
    urlExtension x.url = .ok suffix → Unstorable p t f suffix e → BreaksOff p t f left x e

/-- A download that gives a path, or ends the run with a complaint. -/
def FatalAtWorst (o : Outcome Fault Site String) : Prop :=
  (∃ path, o.result = .ok path) ∨ ∃ c, o.result = .error (.fatal c)

instance (o : Outcome Fault Site String) : Decidable (FatalAtWorst o) :=
  match h : o.result with
  | .ok path => .isTrue (.inl ⟨path, h⟩)
  | .error (.complaint .fatal c) => .isTrue (.inr ⟨c, h⟩)
  | .error (.complaint .general _) | .error (.complaint .command _)
  | .error (.complaint .device _) | .error (.interrupt _) | .error (.failure _) =>
    .isFalse fun
      | .inl ⟨_, hp⟩ => nomatch h.symm.trans hp
      | .inr ⟨_, hc⟩ => nomatch h.symm.trans hc

/-- A download, or a part of one, that fails exactly with these failures, and is fatal at worst
besides.  Without a path no file is made. -/
structure FailsBy (failing : Failure → Prop) (f : Files) (o : Outcome Fault Site String) :
    Prop where
  result_iff : ∀ e, o.result = .error (.failure e) ↔ failing e
  otherwise : FatalAtWorst o ∨ ∃ e, failing e
  files : (∃ path, o.result = .ok path) ∨ o.state.files = f

variable {failing : Failure → Prop} {o : Outcome Fault Site String}

/-- A fatal complaint is none of the failures that break a download off, so nothing is failing where
it is the result. -/
theorem failsBy_of_fatal {c : Complaint} (hr : o.result = .error (.fatal c))
    (hs : o.state.files = f) (h : ∀ e, ¬failing e) : FailsBy failing f o where
  result_iff e := ⟨fun he => absurd (hr.symm.trans he) nofun, fun he => absurd he (h e)⟩
  otherwise := .inl (.inr ⟨c, hr⟩)
  files := .inr hs

/-- An outcome that is a failure is characterised where exactly this failure is the failing one. -/
theorem failsBy_of_failure {e : Failure} (hr : o.result = .error (.failure e))
    (hs : o.state.files = f) (h : ∀ e', failing e' ↔ e' = e) : FailsBy failing f o where
  result_iff e' := by
    rw [hr, h e', Except.error.injEq, Fault.failure.injEq, eq_comm]
  otherwise := .inr ⟨e, (h e).2 rfl⟩
  files := .inr hs

/-- Where a path is the result, nothing is failing. -/
theorem failsBy_of_path {path : String} (hr : o.result = .ok path) (h : ∀ e, ¬failing e) :
    FailsBy failing f o where
  result_iff e := ⟨fun he => absurd (hr.symm.trans he) nofun, fun he => absurd he (h e)⟩
  otherwise := .inl (.inl ⟨path, hr⟩)
  files := .inl ⟨path, hr⟩

/-- A failure is no complaint and no path. -/
theorem FailsBy.fatalAtWorst_iff (h : FailsBy failing f o) : FatalAtWorst o ↔ ∀ e, ¬failing e := by
  refine ⟨fun ho e he => ?_, fun hn => h.otherwise.resolve_right fun ⟨e, he⟩ => hn e he⟩
  have hr := (h.result_iff e).2 he
  rcases ho with ⟨path, hp⟩ | ⟨c, hc⟩
  · exact absurd (hr.symm.trans hp) nofun
  · exact absurd (hr.symm.trans hc) nofun

/-- The characterisation depends on the result, the state and the condition alone, so it holds of
any outcome that shares them. -/
theorem FailsBy.congr {failing' : Failure → Prop} {o' : Outcome Fault Site String}
    (h : FailsBy failing f o) (hr : o'.result = o.result) (hs : o'.state = o.state)
    (hf : ∀ e, failing' e ↔ failing e) : FailsBy failing' f o' where
  result_iff e := by rw [hr, h.result_iff e, hf e]
  otherwise := by
    unfold FatalAtWorst
    rw [hr]
    exact h.otherwise.imp_right fun ⟨e, he⟩ => ⟨e, (hf e).2 he⟩
  files := by
    rw [hr, hs]
    exact h.files

/-- An answer that neither redirects nor holds a body is told of in a message, and never breaks the
download off. -/
theorem not_breaksOff_of_neither (hr : ∀ reference, ¬x.response.Redirects reference)
    (hh : ∀ body, ¬x.response.Holds body) : ¬BreaksOff p t f left x e := by
  intro h
  cases h with
  | target h _ _ | limit h _ _ => exact hr _ h
  | extension h _ | file h _ _ => exact hh _ h

/-- Where no more redirects are allowed, one more breaks off only if the limit is no number that
could be counted to. -/
theorem breaksOff_zero_iff {reference : String} (h : x.response.Redirects reference) :
    BreaksOff p t f 0 x e ↔
      p.maxRedirects.floor? = none ∧ e = .badRedirectLimit p.maxRedirects := by
  constructor
  · intro hb
    cases hb with
    | target _ hl _ => exact absurd hl (Nat.lt_irrefl 0)
    | limit _ _ hn => exact ⟨hn, rfl⟩
    | extension h' _ | file h' _ _ => exact absurd h' h.not_holds
  · rintro ⟨hn, rfl⟩
    exact .limit h rfl hn

/-- Where more redirects are allowed, one breaks off if and only if its reference cannot be joined
to the address. -/
theorem breaksOff_succ_iff {reference : String} (h : x.response.Redirects reference) :
    BreaksOff p t f (left + 1) x e ↔ join x.url reference = .error e := by
  constructor
  · intro hb
    cases hb with
    | target h' _ hj => exact h.eq h' ▸ hj
    | limit _ hl _ => exact absurd hl (Nat.succ_ne_zero left)
    | extension h' _ | file h' _ _ => exact absurd h' h.not_holds
  · exact .target h (Nat.succ_pos left)

/-- A body breaks off if its address has no extension that can be told, or if no file can be named
after the one that it has. -/
theorem breaksOff_iff_of_holds (h : x.response.Holds body) :
    BreaksOff p t f left x e ↔ urlExtension x.url = .error e ∨
      ∃ suffix, urlExtension x.url = .ok suffix ∧ Unstorable p t f suffix e := by
  constructor
  · intro hb
    cases hb with
    | target h' _ _ | limit h' _ _ => exact absurd h h'.not_holds
    | extension _ hu => exact .inl hu
    | file _ hu hs => exact .inr ⟨_, hu, hs⟩
  · rintro (hu | ⟨suffix, hu, hs⟩)
    · exact .extension h hu
    · exact .file h hu hs

/-- Storing fails for what makes the file unstorable, and for nothing else; then the files are as
before. -/
theorem failsBy_store (p : Params) (s : Site) (suffix : String) (body : List UInt8) :
    FailsBy (Unstorable p s.temp s.files suffix) s.files (store p suffix body s) := by
  rcases store_cases p s suffix body with ⟨e, he, hr, hs⟩ | ⟨hn, ⟨path, hr, -⟩ | ⟨cause, hr, hs⟩⟩
  · exact failsBy_of_failure hr hs he
  · exact failsBy_of_path hr hn
  · exact failsBy_of_fatal hr hs hn

/-- What is saved is stored, if the URL has an extension. -/
theorem failsBy_save (p : Params) (hops left : Nat) (s : Site) (h : x.response.Holds body) :
    FailsBy (BreaksOff p s.temp s.files left x) s.files (save p hops x.url body s) := by
  rcases hu : urlExtension x.url with e | suffix
  · have hsave : save p hops x.url body s =
        ⟨.error (.failure e), [.log .debug (indent hops ++ "Creating temporary file.")], s⟩ := by
      unfold save
      rw [hu]
      rfl
    rw [hsave]
    refine failsBy_of_failure rfl rfl fun e' => ?_
    simp [breaksOff_iff_of_holds h, hu, eq_comm]
  · obtain ⟨hresult, hstate⟩ := save_eq p hops s body hu
    refine (failsBy_store p s suffix body).congr hresult hstate fun e => ?_
    simp [breaksOff_iff_of_holds h, hu]

/-- No request follows an exchange: what it comes to is no target, or no redirect is left. -/
def Halts (left : Nat) (x : Exchange) : Prop :=
  0 < left → ∀ reference, x.response.Redirects reference → ∃ e, join x.url reference = .error e

/-- A response behind which no request follows ends a download. -/
theorem failsBy_proceed (p : Params) (hops : Nat) (s : Site) (h : Halts left x) :
    FailsBy (BreaksOff p s.temp s.files left x) s.files (proceed p hops x.url left x.response s) ∧
      Quiet (proceed p hops x.url left x.response) := by
  by_cases hr : ∃ reference, x.response.Redirects reference
  · obtain ⟨reference, hr⟩ := hr
    cases left with
    | zero =>
      have hbreaks {e : Failure} := @breaksOff_zero_iff p s.temp s.files x e reference hr
      rw [proceed_zero_of_redirects hr]
      unfold refuseRedirect
      rcases hn : p.maxRedirects.floor? with _ | n
      · exact ⟨failsBy_of_failure rfl rfl fun e => hbreaks.trans (and_iff_right hn),
          fun _ => ⟨rfl, rfl⟩⟩
      · refine ⟨failsBy_of_fatal rfl rfl fun e he => ?_, fun _ => ⟨rfl, rfl⟩⟩
        rw [(hbreaks.1 he).1] at hn
        cases hn
    | succ left =>
      obtain ⟨e, he⟩ := h (Nat.succ_pos left) reference hr
      rw [proceed_succ_of_redirects hr, he]
      refine ⟨failsBy_of_failure (e := e) rfl rfl fun e' => ?_, fun _ => ⟨rfl, rfl⟩⟩
      rw [breaksOff_succ_iff hr]
      simp [he, eq_comm]
  by_cases hh : ∃ body, x.response.Holds body
  · obtain ⟨body, hh⟩ := hh
    rw [proceed_of_holds hh]
    exact ⟨failsBy_save p hops left s hh, quiet_save p hops x.url body⟩
  · obtain ⟨cause, hp, -⟩ := proceed_of_neither (p := p) (not_exists.1 hr) (not_exists.1 hh)
    rw [hp]
    exact ⟨failsBy_of_fatal rfl rfl fun e =>
      not_breaksOff_of_neither (not_exists.1 hr) (not_exists.1 hh), fun _ => ⟨rfl, rfl⟩⟩

/-- What a download leaves before its last response is gone into. -/
inductive Underway (p : Params) : Event → Prop
  | asking (hops : Nat) (url : String) :
    Underway p (.log .debug (indent hops ++ ("Downloading file from \"" ++ Text.escape url ++ "\".")))
  | asked (url : String) : Underway p (.get url p.userAgent p.fetchTimeout)
  | redirected (hops : Nat) (url : String) :
    Underway p (.log .debug (indent hops ++ ("Redirecting to \"" ++ Text.escape url ++ "\".")))

/-- A download from a URL ends at an exchange, the last of its conversation: it comes to what it
makes of that response, and before that it left records of the requests alone. -/
structure EndsAt (p : Params) (url : String) (left : Nat) (s : Site) (talk : List Exchange)
    (x : Exchange) (o : Outcome Fault Site String) : Prop where
  last : talk.getLast? = some x
  halts : Halts (left + 1 - talk.length) x
  converses : Converses url left s talk o
  eq : ∃ hops pages before, (∀ ev ∈ before, Underway p ev) ∧
    let o' := proceed p hops x.url (left + 1 - talk.length) x.response { s with pages := pages }
    o = ⟨o'.result, before ++ o'.events, o'.state⟩

/-- A fetch that halts at its first answer ends there: the talk is that one exchange. -/
theorem endsAt_of_halts (p : Params) (hops : Nat) (h : s.pages.request url = (r, rest))
    (hl : Halts left ⟨url, r⟩) :
    EndsAt p url left s [⟨url, r⟩] ⟨url, r⟩ (follow p hops url left s) := by
  have hq := (failsBy_proceed p hops { s with pages := rest } hl).2 { s with pages := rest }
  refine ⟨rfl, hl, converses_last h hq.1 hq.2, hops, rest, [_, _], ?_, follow_eq h⟩
  exact List.forall_mem_cons.2 ⟨.asking hops url, List.forall_mem_singleton.2 (.asked url)⟩

/-- A redirect that can be followed puts its exchange in front of the talk, and the fetch ends where
the rest of it ends. -/
theorem EndsAt.redirect {hops : Nat} (h : s.pages.request url = (r, rest)) {reference : String}
    (hr : r.Redirects reference) {target : String} (hj : join url reference = .ok target)
    (he : EndsAt p target left { s with pages := rest } talk x
      (follow p (hops + 1) target left { s with pages := rest })) :
    EndsAt p url (left + 1) s (⟨url, r⟩ :: talk) x (follow p hops url (left + 1) s) := by
  obtain ⟨n, pages, before, hb, ho⟩ := he.eq
  have hleft : left + 1 + 1 - (talk.length + 1) = left + 1 - talk.length := by omega
  refine ⟨(he.converses.chained.getLast?_cons _).trans he.last, ?_,
    converses_of_redirects h hr hj he.converses, n, pages,
    .log .debug (indent hops ++ ("Downloading file from \"" ++ Text.escape url ++ "\"."))
      :: .get url p.userAgent p.fetchTimeout
      :: .log .debug (indent hops ++ ("Redirecting to \"" ++ Text.escape target ++ "\"."))
      :: before, ?_, ?_⟩
  · rw [List.length_cons, hleft]
    exact he.halts
  · exact List.forall_mem_cons.2 ⟨.asking hops url, List.forall_mem_cons.2 ⟨.asked url,
      List.forall_mem_cons.2 ⟨.redirected hops target, hb⟩⟩⟩
  · rw [follow_of_redirects h hr hj, ho, List.length_cons, hleft]
    rfl

/-- **Every download ends at the last exchange of its conversation.** -/
theorem exists_endsAt (p : Params) (hops : Nat) (url : String) (left : Nat) (s : Site) :
    ∃ talk x, EndsAt p url left s talk x (follow p hops url left s) := by
  -- A redirect uses up one of those that are left, and a request changes nothing but the pages.
  induction left generalizing hops url s with
  | zero =>
    rcases h : s.pages.request url with ⟨r, rest⟩
    exact ⟨_, _, endsAt_of_halts p hops h fun hl => absurd hl (Nat.lt_irrefl 0)⟩
  | succ left ih =>
    rcases h : s.pages.request url with ⟨r, rest⟩
    by_cases hgo : ∃ reference target, r.Redirects reference ∧ join url reference = .ok target
    · obtain ⟨reference, target, hr, hj⟩ := hgo
      obtain ⟨talk, x, he⟩ := ih (hops + 1) target { s with pages := rest }
      exact ⟨_, x, he.redirect h hr hj⟩
    · refine ⟨_, _, endsAt_of_halts p hops h fun _ reference hr => ?_⟩
      rcases hj : join url reference with e | target
      · exact ⟨e, rfl⟩
      · exact absurd ⟨reference, target, hr, hj⟩ hgo

/-- **A download fails exactly where it breaks off**, at the last exchange of its conversation. -/
theorem EndsAt.failsBy {o : Outcome Fault Site String} (h : EndsAt p url left s talk x o) :
    FailsBy (BreaksOff p s.temp s.files (left + 1 - talk.length) x) s.files o := by
  obtain ⟨hops, pages, before, -, ho⟩ := h.eq
  have hf := (failsBy_proceed p hops { s with pages := pages } h.halts).1
  exact hf.congr (by rw [ho]) (by rw [ho]) fun _ => Iff.rfl

/-- A configuration and a folder that break no download off. -/
structure Orderly (p : Params) (t : Temporary) : Prop where
  limit : p.maxRedirects.floor? ≠ none
  front : ∃ front, p.tempPrefixText = .ok front ∧ '\x00' ∉ front.toList
  path : '\x00' ∉ t.path.toList

example : Orderly .standard (.fresh "/tmp") := ⟨by decide, ⟨_, rfl, by decide⟩, by decide⟩

/-- Harmless text breaks no download off. -/
theorem not_breaksOff_of_harmless (ho : Orderly p t) (hu : Harmless x.url.toList)
    (hr : ∀ reference, x.response.Redirects reference → Harmless reference.toList) :
    ¬BreaksOff p t f left x e := by
  obtain ⟨suffix, hsuffix, hplain⟩ := urlExtension_of_harmless hu
  intro h
  cases h with
  | target hred _ hj =>
    obtain ⟨target, htarget, -⟩ := join_of_harmless hu (hr _ hred)
    exact absurd (hj.symm.trans htarget) nofun
  | limit _ _ hn => exact ho.limit hn
  | extension _ he => exact absurd (he.symm.trans hsuffix) nofun
  | file _ he hs =>
    obtain rfl := Except.ok.inj (he.symm.trans hsuffix)
    obtain ⟨front, hfront, hnull⟩ := ho.front
    cases hs with
    | front _ he => exact absurd (he.symm.trans hfront) nofun
    | path _ he hn =>
      obtain rfl := Except.ok.inj (he.symm.trans hfront)
      exact Temporary.not_mem_numbered ho.path hnull (hplain.not_mem rfl) _ hn

/-- In a conversation that begins with a harmless URL and where all targets are harmless, all URLs
are. -/
theorem Chained.harmless (h : Chained url talk) (hu : Harmless url.toList)
    (hr : ∀ x ∈ talk, ∀ reference, x.response.Redirects reference →
      Harmless reference.toList) : ∀ x ∈ talk, Harmless x.url.toList := by
  induction h with
  | last url r => exact List.forall_mem_singleton.2 hu
  | @redirect url reference target r talk hred hj _ ih =>
    obtain ⟨hfirst, hrest⟩ := List.forall_mem_cons.1 hr
    obtain ⟨target', ht, htarget⟩ := join_of_harmless hu (hfirst reference hred)
    obtain rfl := Except.ok.inj (hj.symm.trans ht)
    exact List.forall_mem_cons.2 ⟨hu, ih htarget hrest⟩

/-- **A download gives a path or ends the run with a complaint, unless its last exchange breaks it
off.**  Whatever the pages answer, there is a conversation by the rules whose requests are those
that were sent, and the last exchange of it tells how the download ends: with a failure if and only
if it breaks the download off, and with that failure.  Without a path no file is made.  If neither
the URL nor the targets that the pages sent have harmful characters, nothing breaks the download
off. -/
theorem fetch_fatalAtWorst_iff (p : Params) (url : String) (s : Site) :
    ∃ talk x, talk.getLast? = some x ∧
      Converses url p.redirectLimit s talk (fetch p url s) ∧
      let breaks := BreaksOff p s.temp s.files (p.redirectLimit + 1 - talk.length) x
      FailsBy breaks s.files (fetch p url s) ∧
      (FatalAtWorst (fetch p url s) ↔ ∀ e, ¬breaks e) ∧
      (Orderly p s.temp → Harmless url.toList →
        (∀ y ∈ talk, ∀ reference, y.response.Redirects reference → Harmless reference.toList) →
        FatalAtWorst (fetch p url s)) := by
  obtain ⟨talk, x, he⟩ := exists_endsAt p 0 url p.redirectLimit s
  have hf := he.failsBy
  obtain ⟨hx, -, hc, -⟩ := he
  refine ⟨talk, x, hx, hc, hf, hf.fatalAtWorst_iff, fun ho hu hr => ?_⟩
  have hmem : x ∈ talk := List.mem_of_getLast? hx
  exact hf.fatalAtWorst_iff.2 fun e =>
    not_breaksOff_of_harmless ho (hc.chained.harmless hu hr x hmem) (hr x hmem)

/-- A site with two drawings that have moved: one to a URL with an open bracket, the other to a file
with a null character in its extension. -/
def hostileSite : Site where
  files := .ofList [] []
  temp := .fresh "/t"
  pages := [("http://a/x", [.answered 302 (some "http://[") []]),
    ("http://a/y", [.answered 302 (some "y.\x00") []]),
    ("http://a/y.\x00", [.answered 200 none []])]
  ports := []
  evaluator := .plain

/-- Neither download gives a path or ends the run with a complaint. -/
theorem not_fatalAtWorst_hostileSite :
    (isUrl "http://a/x" = true ∧ ¬FatalAtWorst (fetch .standard "http://a/x" hostileSite)) ∧
      isUrl "http://a/y" = true ∧ ¬FatalAtWorst (fetch .standard "http://a/y" hostileSite) := by
  decide +kernel

end Web
end PlotScript
