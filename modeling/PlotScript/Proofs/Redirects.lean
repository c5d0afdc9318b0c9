/-
# Redirects

A download is a conversation: each request gets a response, and a response with one of five statuses
and a target is followed by a request for that target.

| the last response | what the download comes to |
| --- | --- |
| 200 … 299 | one file more, with the body of that response |
| 200 … 299, but no file can be made | an end of the run, and no file |
| any other | an end of the run, and no file |

A server may answer each request as it likes: what it sends is read off the pages, in the order of
the requests (`Pages.Gives`).  Whatever it sends, no more than the allowed redirects are followed
(`Web.fetch_follows_redirects`).

The bound on redirects and what is written are those of the language specification, §4.4, §8 and
§14.
-/

import PlotScript.Proofs.NewFiles

namespace PlotScript

/-- The URLs that are requested. -/
def Event.requests (es : List Event) : List String := es.filterMap fun
  | get url _ _ => some url
  | _ => none

namespace Event

/-- The requests among events are those among the first of them, and those among the others after
them. -/
@[simp] theorem requests_append (es fs : List Event) :
    requests (es ++ fs) = requests es ++ requests fs := List.filterMap_append

/-- A record in the log is no request. -/
@[simp] theorem requests_log (severity : Severity) (text : String) (es : List Event) :
    requests (.log severity text :: es) = requests es := rfl

/-- A request is the first of those that are sent, if nothing else was sent before. -/
@[simp] theorem requests_get (url : String) (agent timeout : Constant) (es : List Event) :
    requests (.get url agent timeout :: es) = url :: requests es := rfl

end Event

namespace Files

variable {f : Files} {p q new : List String} {path : String}

/-- A place on the way to something. -/
def Reached (f : Files) (p : List String) : Prop := p <+: f.here ∨ ∃ x ∈ f.entries, p <+: x.1

/-- What is on the way to a place on the way to something is itself on that way. -/
theorem Reached.of_isPrefix (h : f.Reached p) (hq : q <+: p) : f.Reached q := by
  rcases h with h | ⟨x, hx, h⟩
  · exact .inl (hq.trans h)
  · exact .inr ⟨x, hx, hq.trans h⟩

/-- A place is on the way to something exactly if the tree is told to hold a folder there. -/
theorem reached_iff : f.Reached p ↔
    (p.isPrefixOf f.here || f.entries.any fun x => p.isPrefixOf x.1) = true := by
  rw [Bool.or_eq_true, List.any_eq_true, List.isPrefixOf_iff_prefix]
  simp only [List.isPrefixOf_iff_prefix]
  rfl

instance (f : Files) (p : List String) : Decidable (f.Reached p) :=
  decidable_of_iff _ reached_iff.symm

/-- Where no entry has a place, a folder lies there if it is on the way to something, and else
nothing does. -/
theorem at?_of_find?_eq_none (h : f.entries.find? (fun x => x.1 = p) = none) :
    f.at? p = if f.Reached p then some .folder else none := by
  rw [at?, h]
  exact ite_congr (propext reached_iff.symm) (fun _ => rfl) fun _ => rfl

/-- Something lies just on the ways to something. -/
theorem at?_ne_none_iff : f.at? p ≠ none ↔ f.Reached p := by
  rcases hf : f.entries.find? (fun x => x.1 = p) with _ | x
  · rw [at?_of_find?_eq_none hf]
    simp
  · have hx : x.1 = p := by simpa using List.find?_some hf
    refine ⟨fun _ => .inr ⟨x, List.mem_of_find?_eq_some hf, hx ▸ List.prefix_rfl⟩, fun _ => ?_⟩
    rw [at?, hf]
    exact Option.some_ne_none _

/-- The folder of the place that components lead to is there, if that of the first place is: each
component but the last must lead to a folder. -/
theorem reached_of_follow {cs : List String} (hf : f.follow p cs = some q)
    (hp : f.Reached p.dropLast) : f.Reached q.dropLast := by
  induction cs generalizing p with
  | nil =>
    obtain rfl := Option.some.inj hf
    exact hp
  | cons c cs ih =>
    rw [follow] at hf
    split at hf
    · rename_i hfolder
      have hr : f.Reached p := at?_ne_none_iff.1 (by rw [hfolder]; exact Option.some_ne_none _)
      split at hf
      · exact ih hf hp
      split at hf
      · exact ih hf ((hr.of_isPrefix (List.dropLast_prefix p)).of_isPrefix (List.dropLast_prefix _))
      split at hf
      · cases hf
      · exact ih hf (List.dropLast_concat ▸ hr)
    · cases hf

/-- A path leads to a place whose folder is there. -/
theorem reached_of_place? (h : f.place? path = some q) : f.Reached q.dropLast := by
  unfold place? at h
  split at h
  · have ho : f.Reached (origin f.here path) := by
      unfold origin
      split
      · exact .inl List.nil_prefix
      · exact .inl List.prefix_rfl
    exact reached_of_follow h (ho.of_isPrefix (List.dropLast_prefix _))
  · cases h

/-- A new file in a folder that is there is on the way to nothing else, and puts nothing else on the
way. -/
theorem reached_insert_iff (e : Entry) (hd : f.Reached new.dropLast) (hne : q ≠ new) :
    (f.insert new e).Reached q ↔ f.Reached q := by
  constructor
  · rintro (h | ⟨x, hx, h⟩)
    · exact .inl h
    · rcases List.mem_cons.1 hx with rfl | hx
      · rcases List.eq_nil_or_concat new with rfl | ⟨l, a, rfl⟩
        · exact absurd (List.prefix_nil.1 h) hne
        · rw [List.concat_eq_append] at h hne hd
          rw [List.dropLast_concat] at hd
          exact hd.of_isPrefix ((List.prefix_concat_iff.1 h).resolve_left hne)
      · exact .inr ⟨x, hx, h⟩
  · rintro (h | ⟨x, hx, h⟩)
    · exact .inl h
    · exact .inr ⟨x, List.mem_cons_of_mem _ hx, h⟩

/-- A new file in a folder that is there moves nothing else. -/
theorem at?_insert_of_ne (e : Entry) (hd : f.Reached new.dropLast) (hne : q ≠ new) :
    (f.insert new e).at? q = f.at? q := by
  have hskip : (f.insert new e).entries.find? (fun x => x.1 = q) =
      f.entries.find? fun x => x.1 = q :=
    List.find?_cons_of_neg (by simpa using hne.symm)
  rcases hf : f.entries.find? (fun x => x.1 = q) with _ | x
  · rw [at?_of_find?_eq_none hf, at?_of_find?_eq_none (hskip.trans hf)]
    exact ite_congr (propext (reached_insert_iff e hd hne)) (fun _ => rfl) fun _ => rfl
  · rw [at?, at?, hskip, hf]

/-- A tree with one file more than another: the file lies at a path that led to nothing, and
everything else lies where it lay. -/
structure Adds (f : Files) (path : String) (bytes : List UInt8) (g : Files) : Prop where
  missing : f.lookup path = none
  present : g.lookup path = some (.file bytes)
  rest : ∃ new, f.place? path = some new ∧ g.entries = (new, .file bytes) :: f.entries ∧
    ∀ q, q ≠ new → g.at? q = f.at? q

/-- A file that is created is what the new tree has more than the old one. -/
theorem adds_of_create? {g : Files} {bytes : List UInt8} (h : f.create? path bytes = some g) :
    f.Adds path bytes g := by
  obtain ⟨new, hp, hn, rfl⟩ := of_create? h
  refine ⟨?_, ?_, new, hp, rfl, fun q => at?_insert_of_ne _ (reached_of_place? hp)⟩
  · rw [lookup, hp]
    exact hn
  · rw [lookup, place?_insert _ hn hp]
    exact at?_insert_self _

end Files
/-- No null character is in the path for a number, if none is in its parts. -/
theorem Temporary.not_mem_numbered {t : Temporary} {before after : String}
    (ht : '\x00' ∉ t.path.toList) (hb : '\x00' ∉ before.toList) (ha : '\x00' ∉ after.toList)
    (n : Nat) : '\x00' ∉ (t.numbered before after n).toList := by
  have hn : '\x00' ∉ (toString n).toList := fun h =>
    absurd (Text.isPlain_of_mem_natToString h) (by decide)
  have hname : '\x00' ∉ (before ++ toString n ++ after).toList := by
    simp only [String.toList_append, List.mem_append, hb, hn, ha, or_self, not_false_eq_true]
  unfold numbered pathOf
  split
  · exact hname
  · simpa [ht] using hname

namespace Web

variable {c : Char} {cs : List Char} {url : String}

/-- What stands before a separator is made of the characters of the whole. -/
theorem subset_cut (sep : Char) : (cut sep cs).1 ⊆ cs := by
  induction cs with
  | nil => exact List.nil_subset _
  | cons a r ih =>
    rw [cut]
    split
    · exact List.nil_subset _
    · exact List.cons_subset_cons a ih

/-- What stands behind a separator is made of the characters of the whole. -/
theorem subset_of_cut {sep : Char} {after : List Char} (h : (cut sep cs).2 = some after) :
    after ⊆ cs := by
  induction cs with
  | nil => cases h
  | cons a r ih =>
    rw [cut] at h
    split at h
    · obtain rfl := Option.some.inj h
      exact List.subset_cons_self a r
    · exact List.subset_cons_of_subset a (ih h)

/-- What follows the scheme is made of the characters of the whole. -/
theorem subset_of_takeScheme {scheme rest : List Char} (h : takeScheme cs = some (scheme, rest)) :
    rest ⊆ cs := by
  unfold takeScheme at h
  split at h
  · rename_i hcut
    split at h
    · cases h
      exact subset_of_cut (by rw [hcut])
    · cases h
  · cases h

/-- What is left in front of the parameters is made of the characters of the whole. -/
theorem subset_takeParams : (takeParams cs).1 ⊆ cs := by
  refine List.append_subset.2 ⟨List.take_subset _ _, ?_⟩
  refine List.Subset.trans (subset_cut _) fun c hc => ?_
  exact List.mem_reverse.1 ((List.takeWhile_sublist _).subset (List.mem_reverse.1 hc))

/-- What follows the scheme, if there is one, is made of the characters of the whole. -/
theorem subset_of_getD_takeScheme (cs scheme : List Char) :
    ((takeScheme cs).getD (scheme, cs)).2 ⊆ cs := by
  rcases h : takeScheme cs with _ | ⟨_, rest⟩
  · exact List.Subset.refl cs
  · exact subset_of_takeScheme h

/-- What follows the host leaves a path when it is cut. -/
theorem subset_pathOf (b : Bool) (cs : List Char) :
    (if b then takeParams (cut '?' (cut '#' cs).1).1 else ((cut '?' (cut '#' cs).1).1, [])).1 ⊆
      cs := by
  have hcut : (cut '?' (cut '#' cs).1).1 ⊆ cs := List.Subset.trans (subset_cut _) (subset_cut _)
  split
  · exact List.Subset.trans subset_takeParams hcut
  · exact hcut

/-- The characters of a URL that count. -/
def counting (cs : List Char) : List Char :=
  (cs.dropWhile fun c => c.toNat ≤ 0x20).filter fun c => c != '\t' && c != '\r' && c != '\n'

/-- The characters that count are some of those that there are. -/
theorem subset_counting (cs : List Char) : counting cs ⊆ cs :=
  (List.filter_sublist.trans (List.dropWhile_sublist _)).subset

/-- The host that stands in front of a path, and what follows it. -/
def takeHost : List Char → List Char × List Char
  | '/' :: '/' :: r =>
    (r.takeWhile fun c => c != '/' && c != '?' && c != '#',
      r.dropWhile fun c => c != '/' && c != '?' && c != '#')
  | r => ([], r)

/-- The host and what follows it are made of the characters of the whole. -/
theorem subset_takeHost (cs : List Char) : (takeHost cs).1 ⊆ cs ∧ (takeHost cs).2 ⊆ cs := by
  unfold takeHost
  split
  · have hrest {ds r : List Char} (h : ds.Sublist r) : ds ⊆ '/' :: '/' :: r :=
      List.subset_cons_of_subset _ (List.subset_cons_of_subset _ h.subset)
    exact ⟨hrest (List.takeWhile_sublist _), hrest (List.dropWhile_sublist _)⟩
  · exact ⟨List.nil_subset _, List.Subset.refl _⟩

/-- The parts of a URL, if its host is not refused. -/
theorem parse_eq (cs scheme : List Char) :
    Url.parse cs scheme =
      let front := (takeScheme (counting cs)).getD (scheme, counting cs)
      let after := takeHost front.2
      let hierarchy := cut '?' (cut '#' after.2).1
      let path := if paramSchemes.contains (String.ofList front.1) then takeParams hierarchy.1
        else (hierarchy.1, [])
      checkBrackets after.1 >>= fun _ => checkReserved after.1 >>= fun _ => .ok
        ⟨front.1, after.1, path.1, path.2, hierarchy.2.getD [], (cut '#' after.2).2.getD []⟩ :=
  rfl

/-- The path of a URL is made of its characters. -/
theorem subset_of_parse {u : Url} (h : Url.parse cs [] = .ok u) : u.path ⊆ cs := by
  rw [parse_eq] at h
  simp only [bind, Except.bind] at h
  split at h
  · cases h
  split at h
  · cases h
  cases h
  exact List.Subset.trans (subset_pathOf _ _) (List.Subset.trans (subset_takeHost _).2
    (List.Subset.trans (subset_of_getD_takeScheme _ _) (subset_counting cs)))

/-- The extension of a name is made of its characters, besides the dot that it begins with. -/
theorem mem_of_mem_extension (h : c ∈ extension cs) : c = '.' ∨ c ∈ cs := by
  have hname : (cs.reverse.takeWhile (· != '/')).reverse ⊆ cs := fun c hc =>
    List.mem_reverse.1 ((List.takeWhile_sublist _).subset (List.mem_reverse.1 hc))
  unfold extension at h
  simp only at h
  split at h
  · cases h
  split at h
  · cases h
  refine (List.mem_cons.1 h).imp_right fun hc => hname ?_
  exact List.mem_reverse.1 ((List.takeWhile_sublist _).subset (List.mem_reverse.1 hc))

/-- The extension of a URL is made of its characters, besides the dot. -/
theorem mem_of_mem_urlExtension {suffix : String} (h : urlExtension url = .ok suffix)
    (hc : c ∈ suffix.toList) : c = '.' ∨ c ∈ url.toList := by
  unfold urlExtension at h
  rcases hu : Url.parse url.toList [] with e | u
  · rw [hu] at h
    cases h
  · rw [hu] at h
    obtain rfl := Except.ok.inj h
    rw [String.toList_ofList] at hc
    exact (mem_of_mem_extension hc).imp_right fun hc => subset_of_parse hu hc

end Web

namespace Response

/-- A response that sends the request on to a target. -/
def Redirects (r : Response) (reference : String) : Prop :=
  reference ≠ "" ∧ ∃ status body, r = .answered status (some reference) body ∧
    status ∈ [301, 302, 303, 307, 308]

/-- A response that holds what was asked for. -/
def Holds (r : Response) (body : List UInt8) : Prop :=
  ∃ status location, r = .answered status location body ∧ 200 ≤ status ∧ status < 300

variable {r : Response} {reference other : String} {body : List UInt8}

/-- A status of success is not one that redirects. -/
theorem not_mem_of_success {status : Int} (h : 200 ≤ status ∧ status < 300) :
    status ∉ [301, 302, 303, 307, 308] := fun hs => by
  simp only [List.mem_cons, List.not_mem_nil, or_false] at hs
  omega

/-- A response redirects to one target at most. -/
theorem Redirects.eq (h : r.Redirects reference) (h' : r.Redirects other) : reference = other := by
  obtain ⟨-, status, body, rfl, -⟩ := h
  obtain ⟨-, _, _, heq, -⟩ := h'
  cases heq
  rfl

/-- A response holds one body at most. -/
theorem Holds.eq {other : List UInt8} (h : r.Holds body) (h' : r.Holds other) : body = other := by
  obtain ⟨status, location, rfl, -⟩ := h
  obtain ⟨_, _, heq, -⟩ := h'
  cases heq
  rfl

/-- A response that redirects holds nothing that would be saved. -/
theorem Redirects.not_holds (h : r.Redirects reference) : ¬r.Holds body := by
  rintro ⟨status, location, heq, hok⟩
  obtain ⟨-, _, _, rfl, hs⟩ := h
  cases heq
  exact not_mem_of_success hok hs

end Response

namespace Web

/-- A request, and what came back for it. -/
structure Exchange where
  url : String
  response : Response

/-- Pages that give these responses to these requests, one after another, and those that are left
then. -/
inductive Pages.Gives : Pages → List Exchange → Pages → Prop
  | nil {pages : Pages} : Gives pages [] pages
  | cons {pages rest last : Pages} {url : String} {r : Response} {talk : List Exchange} :
    pages.request url = (r, rest) → Gives rest talk last → Gives pages (⟨url, r⟩ :: talk) last

/-- The responses of a conversation follow from the pages and the URLs that are requested. -/
theorem Pages.Gives.eq {pages last last' : Pages} {talk talk' : List Exchange}
    (h : Gives pages talk last) (h' : Gives pages talk' last')
    (hurl : talk.map Exchange.url = talk'.map Exchange.url) : talk = talk' := by
  induction h generalizing talk' with
  | nil => exact (List.map_eq_nil_iff.1 hurl.symm).symm
  | @cons pages rest last url r talk hr _ ih =>
    cases h' with
    | nil => cases hurl
    | @cons _ rest' _ url' r' talk' hr' h' =>
      obtain ⟨hhead, hrest⟩ := List.cons.inj hurl
      obtain rfl : url = url' := hhead
      obtain ⟨rfl, rfl⟩ := Prod.mk.inj (hr.symm.trans hr')
      rw [ih h' hrest]

/-- A conversation that begins with a URL, and goes on with the target of each redirect. -/
inductive Chained : String → List Exchange → Prop
  | last (url : String) (r : Response) : Chained url [⟨url, r⟩]
  | redirect {url reference target : String} {r : Response} {talk : List Exchange} :
    r.Redirects reference → join url reference = .ok target → Chained target talk →
      Chained url (⟨url, r⟩ :: talk)

/-- The URLs of a conversation can be read and have no null characters, and while a redirect is
left, its target can be found. -/
structure Legible (limit : Nat) (talk : List Exchange) : Prop where
  plain : ∀ x ∈ talk, '\x00' ∉ x.url.toList
  parsed : ∀ x ∈ talk, ∃ u, Url.parse x.url.toList [] = .ok u
  joined : talk.length ≤ limit → ∀ x ∈ talk, ∀ reference, x.response.Redirects reference →
    ∃ target, join x.url reference = .ok target

/-- A download from a URL that has a conversation, with a limit for the redirects. -/
structure Converses (url : String) (limit : Nat) (s : Site) (talk : List Exchange)
    (o : Outcome Fault Site String) : Prop where
  sent : Event.requests o.events = talk.map Exchange.url
  answered : s.pages.Gives talk o.state.pages
  chained : Chained url talk
  bounded : talk.length ≤ limit + 1

/-- A download either makes one file, with the body of the last response, or ends the run and makes
none.  It does not stop at a redirect while one is left. -/
structure Ends (limit : Nat) (s : Site) (talk : List Exchange)
    (o : Outcome Fault Site String) : Prop where
  spent : ∀ x ∈ talk.getLast?, ∀ reference, x.response.Redirects reference →
    talk.length = limit + 1
  result : (∃ x ∈ talk.getLast?, ∃ path body, x.response.Holds body ∧ o.result = .ok path ∧
      s.files.Adds path body o.state.files) ∨
    ∃ cause, o.result = .error (.fatal (.plain cause)) ∧ o.state.files = s.files

variable {p : Params} {front target : String} {hops left : Nat} {s : Site} {r : Response}
  {rest : Pages} {talk : List Exchange}

/-- What a download does with a response. -/
def proceed (p : Params) (hops : Nat) (url : String) (left : Nat) :
    Response → Act Fault Site String
  | .failed => giveUp (.downloadFailed url)
  | .answered status location body =>
    if isRedirect status then
      match location with
      | none | some "" => giveUp (.redirectWithoutTarget url)
      | some reference =>
        match left with
        | 0 => refuseRedirect p
        | left + 1 => do
          let target ← Act.ofExcept ((join url reference).mapError Fault.failure)
          note hops ("Redirecting to \"" ++ Text.escape target ++ "\".")
          follow p (hops + 1) target left
    else if 200 ≤ status ∧ status < 300 then save p hops url body
    else giveUp (.downloadRefused url status)

/-- A download sends a request and goes on with the response.  The record comes first, then the
request, and then what the response leads to. -/
theorem follow_eq (h : s.pages.request url = (r, rest)) :
    follow p hops url left s =
      let o := proceed p hops url left r { s with pages := rest }
      ⟨o.result,
        .log .debug (indent hops ++ ("Downloading file from \"" ++ Text.escape url ++ "\"."))
        :: .get url p.userAgent p.fetchTimeout :: o.events, o.state⟩ := by
  have hfollow : follow p hops url left =
      note hops ("Downloading file from \"" ++ Text.escape url ++ "\".") >>= fun _ =>
        request p url >>= proceed p hops url left := by
    rw [follow]
    rfl
  have hrequest : request p url s =
      ⟨.ok r, [.get url p.userAgent p.fetchTimeout], { s with pages := rest }⟩ := by
    rw [request, h]
  rw [hfollow]
  exact Act.bind_eq rfl (Act.bind_eq hrequest rfl)

/-- The statuses that redirect are these five. -/
theorem isRedirect_iff {status : Int} :
    isRedirect status = true ↔ status ∈ [301, 302, 303, 307, 308] := List.contains_iff_mem

/-- A redirect without a target, or with an empty one, is given up. -/
theorem proceed_of_no_target {status : Int} {location : Option String} {body : List UInt8}
    (hs : isRedirect status = true) (hl : location = none ∨ location = some "") :
    proceed p hops url left (.answered status location body) =
      giveUp (.redirectWithoutTarget url) := by
  unfold proceed
  rcases hl with rfl | rfl <;> simp only [hs, if_true]

/-- A redirect is refused when none is left. -/
theorem proceed_zero_of_redirects {reference : String} (h : r.Redirects reference) :
    proceed p hops url 0 r = refuseRedirect p := by
  obtain ⟨hne, status, body, rfl, hs⟩ := h
  unfold proceed
  simp only [isRedirect_iff.2 hs, if_true]

/-- While a redirect is left, its target is found from the URL, recorded, and asked for; one
redirect less is left then. -/
theorem proceed_succ_of_redirects {reference : String} (h : r.Redirects reference) :
    proceed p hops url (left + 1) r =
      (Act.ofExcept ((join url reference).mapError Fault.failure) >>= fun target =>
        note hops ("Redirecting to \"" ++ Text.escape target ++ "\".") >>= fun _ =>
          follow p (hops + 1) target left) := by
  obtain ⟨hne, status, body, rfl, hs⟩ := h
  unfold proceed
  simp only [isRedirect_iff.2 hs, if_true]

/-- A response that holds what was asked for is saved. -/
theorem proceed_of_holds {body : List UInt8} (h : r.Holds body) :
    proceed p hops url left r = save p hops url body := by
  obtain ⟨status, location, rfl, hok⟩ := h
  have hs : ¬isRedirect status = true := fun hs =>
    Response.not_mem_of_success hok (isRedirect_iff.1 hs)
  unfold proceed
  exact (if_neg hs).trans (if_pos hok)

/-- The causes for which a download from a URL is given up at a response. -/
inductive GivesUp (url : String) : Cause → Prop
  | failed : GivesUp url (.downloadFailed url)
  | refused (status : Int) : GivesUp url (.downloadRefused url status)
  | noTarget : GivesUp url (.redirectWithoutTarget url)

/-- A response that neither redirects nor holds anything ends the run.  There was no response, or a
redirect without a target, or another status. -/
theorem proceed_of_neither (hr : ∀ reference, ¬r.Redirects reference)
    (hh : ∀ body, ¬r.Holds body) :
    ∃ cause, proceed p hops url left r = giveUp cause ∧ GivesUp url cause := by
  cases r with
  | failed => exact ⟨_, rfl, .failed⟩
  | answered status location body =>
    by_cases hs : isRedirect status = true
    · refine ⟨_, proceed_of_no_target hs ?_, .noTarget⟩
      rcases location with _ | reference
      · exact .inl rfl
      · refine .inr (congrArg some (Decidable.not_not.1 fun hne => hr reference ?_))
        exact ⟨hne, status, body, rfl, isRedirect_iff.1 hs⟩
    · refine ⟨.downloadRefused url status, ?_, .refused status⟩
      unfold proceed
      exact (if_neg hs).trans (if_neg fun hok => hh body ⟨status, location, rfl, hok⟩)

/-- A conversation that ends with the first response. -/
theorem converses_last (h : s.pages.request url = (r, rest))
    (he : Event.requests (proceed p hops url left r { s with pages := rest }).events = [])
    (hp : (proceed p hops url left r { s with pages := rest }).state.pages = rest) :
    Converses url left s [⟨url, r⟩] (follow p hops url left s) := by
  rw [follow_eq h]
  refine ⟨?_, .cons h ?_, .last url r, Nat.le_add_left 1 left⟩
  · rw [Event.requests_log, Event.requests_get, he]
    rfl
  · show rest.Gives [] (proceed p hops url left r { s with pages := rest }).state.pages
    rw [hp]
    exact .nil

/-- A response that ends the run. -/
theorem ends_of_giveUp (h : s.pages.request url = (r, rest)) {cause : Cause}
    (hp : proceed p hops url left r = giveUp cause)
    (hr : ∀ reference, r.Redirects reference → left = 0) :
    Converses url left s [⟨url, r⟩] (follow p hops url left s) ∧
      Ends left s [⟨url, r⟩] (follow p hops url left s) := by
  refine ⟨converses_last h (by rw [hp]; rfl) (by rw [hp]; rfl), ?_, .inr ⟨cause, ?_⟩⟩
  · rintro x hx reference hred
    obtain rfl := Option.some.inj hx
    rw [hr reference hred]
    rfl
  · rw [follow_eq h, hp]
    exact ⟨rfl, rfl⟩

/-- A body that cannot be stored, with a failure. -/
inductive Unstorable (p : Params) (t : Temporary) (f : Files) (suffix : String) : Failure → Prop
  | front {e : Failure} : t.fault ≠ some .creation → p.tempPrefixText = .error e →
    Unstorable p t f suffix e
  | path {front : String} : t.fault ≠ some .creation → p.tempPrefixText = .ok front →
    '\x00' ∈ (t.numbered front suffix (t.nextNumber f front suffix)).toList →
      Unstorable p t f suffix .pathWithNull

/-- A body is stored in one new file, or the run ends with a complaint, or there is a failure.  The
failures are exactly those of the relation `Unstorable`, and no file changes with them. -/
theorem store_cases (p : Params) (s : Site) (suffix : String) (body : List UInt8) :
    (∃ e, (∀ e', Unstorable p s.temp s.files suffix e' ↔ e' = e) ∧
      (store p suffix body s).result = .error (.failure e) ∧
      (store p suffix body s).state.files = s.files) ∨
    (∀ e, ¬Unstorable p s.temp s.files suffix e) ∧
      ((∃ path, (store p suffix body s).result = .ok path ∧
        s.files.Adds path body (store p suffix body s).state.files) ∨
      ∃ cause, (store p suffix body s).result = .error (.fatal (.plain cause)) ∧
        (store p suffix body s).state.files = s.files) := by
  have hplanned {front path : String} {t : Site} (h : Planned p suffix s front path t) (e : Failure)
      (hu : Unstorable p s.temp s.files suffix e) : '\x00' ∈ path.toList ∧ e = .pathWithNull := by
    cases hu with
    | front _ hp => exact absurd (h.front_eq.symm.trans hp) nofun
    | path _ hp hn =>
      obtain rfl := Except.ok.inj (h.front_eq.symm.trans hp)
      exact ⟨h.path_eq ▸ hn, rfl⟩
  have hs := stored p suffix body s
  generalize store p suffix body s = o at hs ⊢
  cases hs with
  | noCreation hc =>
    refine .inr ⟨fun e hu => ?_, .inr ⟨_, rfl, rfl⟩⟩
    cases hu with
    | front hn _ | path hn _ _ => exact hn hc
  | @noFront e hc hp =>
    refine .inl ⟨e, fun e' => ⟨fun hu => ?_, fun h => h ▸ .front hc hp⟩, rfl, rfl⟩
    cases hu with
    | front _ hp' => exact Except.error.inj (hp'.symm.trans hp)
    | path _ hp' _ => exact absurd (hp.symm.trans hp') nofun
  | null h hn =>
    have hpath := Unstorable.path h.noFault h.front_eq (h.path_eq ▸ hn)
    exact .inl ⟨_, fun e => ⟨fun hu => (hplanned h e hu).2, fun he => he ▸ hpath⟩, rfl, h.files_eq⟩
  | notCreated h hn | notWritten h hn =>
    exact .inr ⟨fun e hu => hn (hplanned h e hu).1, .inr ⟨_, rfl, h.files_eq⟩⟩
  | created h hn hf =>
    exact .inr ⟨fun e hu => hn (hplanned h e hu).1, .inl ⟨_, rfl, Files.adds_of_create? hf⟩⟩

/-- A body that comes in the end is stored in one new file, or the run ends. -/
theorem store_spec (hf : p.tempPrefixText = .ok front) {suffix : String} (body : List UInt8)
    (hpath : ∀ n, '\x00' ∉ (s.temp.numbered front suffix n).toList) :
    (∃ path, (store p suffix body s).result = .ok path ∧
      s.files.Adds path body (store p suffix body s).state.files) ∨
    ∃ cause, (store p suffix body s).result = .error (.fatal (.plain cause)) ∧
      (store p suffix body s).state.files = s.files := by
  rcases store_cases p s suffix body with ⟨e, he, -⟩ | ⟨-, h⟩
  · cases (he e).2 rfl with
    | front _ hp => exact absurd (hf.symm.trans hp) nofun
    | path _ hp hn =>
      obtain rfl := Except.ok.inj (hf.symm.trans hp)
      exact absurd hn (hpath _)
  · exact h

/-- An act that sends no requests. -/
def Quiet {α : Type} (x : Act Fault Site α) : Prop :=
  ∀ s, Event.requests (x s).events = [] ∧ (x s).state.pages = s.pages

/-- Two acts that send no requests, one after the other, send none. -/
theorem Quiet.bind {α β : Type} {x : Act Fault Site α} {f : α → Act Fault Site β}
    (hx : Quiet x) (hf : ∀ a, Quiet (f a)) : Quiet (x >>= f) := by
  intro s
  rcases hr : (x s).result with e | a
  · rw [Act.bind_of_error hr]
    exact hx s
  · rw [Act.bind_of_ok hr]
    have hfa := hf a (x s).state
    exact ⟨by rw [Event.requests_append, (hx s).1, hfa.1]; rfl, hfa.2.trans (hx s).2⟩

/-- A record for debugging sends no request. -/
theorem quiet_note (hops : Nat) (text : String) : Quiet (note hops text) := fun _ => ⟨rfl, rfl⟩

/-- Giving what was worked out sends no request. -/
theorem quiet_ofExcept {α : Type} (x : Except Fault α) : Quiet (Act.ofExcept x) := by
  intro s
  cases x <;> exact ⟨rfl, rfl⟩

/-- Storing a body sends no request, whether a file can be made or not. -/
theorem quiet_store (p : Params) (suffix : String) (body : List UInt8) :
    Quiet (store p suffix body) := by
  intro s
  refine ⟨by rw [events_store]; rfl, ?_⟩
  have hs := stored p suffix body s
  generalize store p suffix body s = o at hs ⊢
  cases hs with
  | noCreation | noFront => rfl
  | null h | notCreated h | notWritten h | created h => rw [h.state_eq]

/-- Saving a body sends no request. -/
theorem quiet_save (p : Params) (hops : Nat) (url : String) (body : List UInt8) :
    Quiet (save p hops url body) :=
  (quiet_note _ _).bind fun _ => (quiet_ofExcept _).bind fun _ =>
    (quiet_store p _ body).bind fun _ => (quiet_note _ _).bind fun _ _ => ⟨rfl, rfl⟩

/-- Where a URL has an extension, what is saved is the body under a name with this extension. -/
theorem save_of_ok (p : Params) (hops : Nat) (s : Site) {suffix : String} (body : List UInt8)
    (hu : urlExtension url = .ok suffix) :
    save p hops url body s =
      let o := (store p suffix body >>= fun path =>
        note hops ("Saved to: " ++ path) >>= fun _ => Act.pure path) s
      ⟨o.result, .log .debug (indent hops ++ "Creating temporary file.") :: o.events, o.state⟩ := by
  unfold save
  rw [hu]
  rfl

/-- What is saved is stored, and notes are left besides. -/
theorem save_eq (p : Params) (hops : Nat) (s : Site) {suffix : String} (body : List UInt8)
    (hu : urlExtension url = .ok suffix) :
    (save p hops url body s).result = (store p suffix body s).result ∧
      (save p hops url body s).state = (store p suffix body s).state := by
  rw [save_of_ok p hops s body hu]
  rcases hr : (store p suffix body s).result with e | path
  · rw [Act.bind_of_error hr]
    exact ⟨rfl, rfl⟩
  · rw [Act.bind_of_ok hr]
    exact ⟨rfl, rfl⟩

/-- A conversation ends with a response that does not redirect.  It holds a body, which is saved, or
the run is given up. -/
theorem ends_of_not_redirects (h : s.pages.request url = (r, rest))
    (hr : ∀ reference, ¬r.Redirects reference) (hf : p.tempPrefixText = .ok front)
    (hfront : '\x00' ∉ front.toList) (ht : '\x00' ∉ s.temp.path.toList) :
    Converses url left s [⟨url, r⟩] (follow p hops url left s) ∧
      (Legible left [⟨url, r⟩] → Ends left s [⟨url, r⟩] (follow p hops url left s)) := by
  by_cases hh : ∃ body, r.Holds body
  · obtain ⟨body, hh⟩ := hh
    have hp : proceed p hops url left r = save p hops url body := proceed_of_holds hh
    have hq := quiet_save p hops url body { s with pages := rest }
    refine ⟨converses_last h (hp ▸ hq.1) (hp ▸ hq.2), fun hl => ⟨?_, ?_⟩⟩
    · rintro x hx reference hred
      obtain rfl := Option.some.inj hx
      exact absurd hred (hr reference)
    · obtain ⟨u, hu⟩ := hl.parsed _ (List.mem_singleton_self _)
      have hsuffix : urlExtension url = .ok (String.ofList (extension u.path)) := by
        rw [urlExtension, hu]
        rfl
      have hnull : '\x00' ∉ (String.ofList (extension u.path)).toList := fun hc =>
        (mem_of_mem_urlExtension hsuffix hc).elim (by decide)
          (hl.plain _ (List.mem_singleton_self _))
      have hstore := store_spec (s := { s with pages := rest }) hf body
        (Temporary.not_mem_numbered ht hfront hnull)
      have hsave := save_eq p hops { s with pages := rest } body hsuffix
      rw [follow_eq h, hp]
      dsimp only
      rw [hsave.1, hsave.2]
      refine hstore.imp_left fun ⟨path, hresult, hadds⟩ => ?_
      exact ⟨_, rfl, path, body, hh, hresult, hadds⟩
  · obtain ⟨cause, hp, -⟩ := proceed_of_neither hr (not_exists.1 hh)
    exact (ends_of_giveUp h hp fun reference hred => absurd hred (hr reference)).imp_right
      fun he _ => he

/-- A conversation has at least one request. -/
theorem Chained.ne_nil (h : Chained url talk) : talk ≠ [] := by
  cases h <;> exact List.cons_ne_nil _ _

/-- A download goes on with the target of a redirect. -/
theorem follow_of_redirects (h : s.pages.request url = (r, rest)) {reference : String}
    (hr : r.Redirects reference) (hj : join url reference = .ok target) :
    follow p hops url (left + 1) s =
      let o := follow p (hops + 1) target left { s with pages := rest }
      ⟨o.result,
        .log .debug (indent hops ++ ("Downloading file from \"" ++ Text.escape url ++ "\"."))
        :: .get url p.userAgent p.fetchTimeout
        :: .log .debug (indent hops ++ ("Redirecting to \"" ++ Text.escape target ++ "\"."))
        :: o.events, o.state⟩ := by
  rw [follow_eq h, proceed_succ_of_redirects hr, hj]
  rfl

/-- A conversation goes on with the target of a redirect. -/
theorem converses_of_redirects (h : s.pages.request url = (r, rest)) {reference : String}
    (hr : r.Redirects reference) (hj : join url reference = .ok target)
    (hc : Converses target left { s with pages := rest } talk
      (follow p (hops + 1) target left { s with pages := rest })) :
    Converses url (left + 1) s (⟨url, r⟩ :: talk) (follow p hops url (left + 1) s) := by
  rw [follow_of_redirects h hr hj]
  refine ⟨?_, .cons h hc.answered, .redirect hr hj hc.chained, Nat.succ_le_succ hc.bounded⟩
  rw [Event.requests_log, Event.requests_get, Event.requests_log, hc.sent]
  rfl

/-- What stands before a conversation does not change its last response. -/
theorem Chained.getLast?_cons (h : Chained url talk) (x : Exchange) :
    (x :: talk).getLast? = talk.getLast? := by
  rw [List.getLast?_cons, List.getLast?_eq_some_getLast h.ne_nil]
  rfl

/-- A download ends as it does from the target of a redirect on. -/
theorem ends_of_redirects (h : s.pages.request url = (r, rest)) {reference : String}
    (hr : r.Redirects reference) (hj : join url reference = .ok target)
    (hc : Chained target talk)
    (he : Ends left { s with pages := rest } talk
      (follow p (hops + 1) target left { s with pages := rest })) :
    Ends (left + 1) s (⟨url, r⟩ :: talk) (follow p hops url (left + 1) s) := by
  rw [follow_of_redirects h hr hj]
  refine ⟨fun x hx reference hred => ?_, ?_⟩
  · rw [List.length_cons, he.spent x (hc.getLast?_cons _ ▸ hx) reference hred]
  · rw [hc.getLast?_cons]
    exact he.result

/-- If the URLs of a conversation can be read, so can those from the second one on, with one
redirect less. -/
theorem Legible.tail {x : Exchange} (h : Legible (left + 1) (x :: talk)) : Legible left talk :=
  ⟨fun y hy => h.plain y (List.mem_cons_of_mem _ hy),
    fun y hy => h.parsed y (List.mem_cons_of_mem _ hy),
    fun hn y hy => h.joined (Nat.succ_le_succ hn) y (List.mem_cons_of_mem _ hy)⟩

/-- **A download converses by the rules, and comes to what its last response says.**  The induction
is on the redirects that are left: a response that is followed comes in front of the conversation
that it leads to. -/
theorem follow_spec {n : Int} (hm : p.maxRedirects.floor? = some n)
    (hf : p.tempPrefixText = .ok front) (hfront : '\x00' ∉ front.toList)
    (ht : '\x00' ∉ s.temp.path.toList) : ∃ talk,
      Converses url left s talk (follow p hops url left s) ∧
        (Legible left talk → Ends left s talk (follow p hops url left s)) := by
  induction left generalizing hops url s with
  | zero =>
    rcases h : s.pages.request url with ⟨r, rest⟩
    refine ⟨[⟨url, r⟩], ?_⟩
    by_cases hr : ∃ reference, r.Redirects reference
    · obtain ⟨reference, hr⟩ := hr
      have hp : proceed p hops url 0 r = giveUp .redirectTooOften := by
        rw [proceed_zero_of_redirects hr, refuseRedirect, hm]
      exact (ends_of_giveUp h hp fun _ _ => rfl).imp_right fun he _ => he
    · exact ends_of_not_redirects h (not_exists.1 hr) hf hfront ht
  | succ left ih =>
    rcases h : s.pages.request url with ⟨r, rest⟩
    by_cases hr : ∃ reference, r.Redirects reference
    · obtain ⟨reference, hr⟩ := hr
      rcases hj : join url reference with e | target
      · refine ⟨[⟨url, r⟩], ?_⟩
        have hp : proceed p hops url (left + 1) r = .throw (.failure e) := by
          rw [proceed_succ_of_redirects hr, hj]
          rfl
        refine ⟨converses_last h (by rw [hp]; rfl) (by rw [hp]; rfl), fun hl => ?_⟩
        obtain ⟨target, ht⟩ := hl.joined (Nat.le_add_left 1 left) _ (List.mem_singleton_self _)
          reference hr
        rw [hj] at ht
        cases ht
      · obtain ⟨talk, hc, he⟩ : ∃ talk,
            Converses target left { s with pages := rest } talk
              (follow p (hops + 1) target left { s with pages := rest }) ∧
            (Legible left talk → Ends left { s with pages := rest } talk
              (follow p (hops + 1) target left { s with pages := rest })) := ih ht
        exact ⟨_, converses_of_redirects h hr hj hc,
          fun hl => ends_of_redirects h hr hj hc.chained (he hl.tail)⟩
    · exact ⟨_, ends_of_not_redirects h (not_exists.1 hr) hf hfront ht⟩

/-- **A download follows no more redirects than are allowed, each to its target, and saves the body
of the last response or nothing.**  Whatever the pages answer, there is a conversation by the rules
whose requests are those that were sent; and if its URLs can be read, then one file is made, with
the body of a last response of success, or the run ends with a complaint and no file is made. -/
theorem fetch_follows_redirects {m : Int} (hm : p.maxRedirects = .int m)
    (hf : p.tempPrefixText = .ok front) (hfront : '\x00' ∉ front.toList)
    (ht : '\x00' ∉ s.temp.path.toList) : ∃ talk,
      Converses url m.toNat s talk (fetch p url s) ∧
        (Legible m.toNat talk → Ends m.toNat s talk (fetch p url s)) := by
  have hfloor : p.maxRedirects.floor? = some m := by
    rw [hm]
    rfl
  have hlimit : p.redirectLimit = m.toNat := by
    rw [Params.redirectLimit, hfloor]
    rfl
  rw [fetch, hlimit]
  exact follow_spec hfloor hf hfront ht

/-- A site where a drawing has moved, and has a new version each time it is asked for. -/
def movedSite : Site where
  files := .ofList [] [("/t/axilang-1.svg", .file [])]
  temp := .fresh "/t"
  pages := [("http://a/x/", [.answered 302 (some "../b.svg") []]),
    ("http://a/b.svg", [.answered 308 (some "?v=2") [], .answered 200 none [0x3C]]),
    ("http://a/b.svg?v=2", [.answered 307 (some "b.svg") [0x3E]])]
  ports := []
  evaluator := .plain

/-- What is said until the new drawing is found. -/
def movedTalk : List Exchange := [
  ⟨"http://a/x/", .answered 302 (some "../b.svg") []⟩,
  ⟨"http://a/b.svg", .answered 308 (some "?v=2") []⟩,
  ⟨"http://a/b.svg?v=2", .answered 307 (some "b.svg") [0x3E]⟩,
  ⟨"http://a/b.svg", .answered 200 none [0x3C]⟩]

/-- What is read without a fault has a value. -/
theorem exists_of_isOk {α : Type} {x : Except Failure α} (h : x.isOk = true) : ∃ a, x = .ok a := by
  cases x with
  | ok a => exact ⟨a, rfl⟩
  | error e => cases h

/-- All URLs on the way can be read.  Each reference is joined to the URL before it, and the last
response has none. -/
theorem legible_movedTalk : Legible 5 movedTalk where
  plain := by decide +kernel
  parsed := by
    have h : ∀ x ∈ movedTalk, (Url.parse x.url.toList []).isOk = true := by decide +kernel
    exact fun x hx => exists_of_isOk (h x hx)
  joined := by
    intro _ x hx reference hr
    simp only [movedTalk, List.mem_cons, List.not_mem_nil, or_false] at hx
    rcases hx with rfl | rfl | rfl | rfl
    · obtain rfl : reference = "../b.svg" := hr.eq ⟨by decide, _, _, rfl, by decide⟩
      exact exists_of_isOk (by decide +kernel)
    · obtain rfl : reference = "?v=2" := hr.eq ⟨by decide, _, _, rfl, by decide⟩
      exact exists_of_isOk (by decide +kernel)
    · obtain rfl : reference = "b.svg" := hr.eq ⟨by decide, _, _, rfl, by decide⟩
      exact exists_of_isOk (by decide +kernel)
    · exact (hr.not_holds ⟨200, none, rfl, by decide⟩).elim

/-- The drawing is found after three redirects, and saved.  The conversation is the only one by the
rules that the pages allow. -/
theorem fetch_follows_redirects_moved :
    (fetch .standard "http://a/x/" movedSite).result.toOption = some "/t/axilang-2.svg" ∧
      Converses "http://a/x/" 5 movedSite movedTalk (fetch .standard "http://a/x/" movedSite) ∧
      Legible 5 movedTalk ∧
      Ends 5 movedSite movedTalk (fetch .standard "http://a/x/" movedSite) := by
  obtain ⟨talk, hc, he⟩ : ∃ talk,
      Converses "http://a/x/" 5 movedSite talk (fetch .standard "http://a/x/" movedSite) ∧
        (Legible 5 talk → Ends 5 movedSite talk (fetch .standard "http://a/x/" movedSite)) :=
    fetch_follows_redirects (m := 5) rfl rfl (by decide) (by decide)
  have hurl : talk.map Exchange.url = movedTalk.map Exchange.url :=
    hc.sent.symm.trans (by decide +kernel)
  have hgives : movedSite.pages.Gives movedTalk _ :=
    .cons rfl (.cons rfl (.cons rfl (.cons rfl .nil)))
  obtain rfl := hc.answered.eq hgives hurl
  exact ⟨by decide +kernel, hc, legible_movedTalk, he legible_movedTalk⟩

end Web
end PlotScript
