/-
# Control characters in what a download tells

A download leaves records and may end the run with a complaint.  URLs come from scripts and from
servers, and these texts quote them escaped.  What they quote as it is comes to one thing:

| text | what it quotes |
| --- | --- |
| `Downloading file from …`, `Redirecting to …` | a URL, escaped |
| `Could not download file from …`, `Redirect from …` | a URL, escaped |
| `Saved to: …` | the path of the new file |
| `Could not write temporary file …` | the path of the new file |

That path ends with the extension of the last URL, so a control character there is told as it is:
`Web.fetch_clean_iff`.

The language specification, §14, has control characters escaped in the URLs that are logged.
-/

import PlotScript.Proofs.BrokenDownloads

namespace PlotScript
namespace Text

variable {c : Char} {s t : String}

/-- A control character, or one that ends a row. -/
def isControl (c : Char) : Bool :=
  c.toNat < 0x20 || (0x7F ≤ c.toNat && c.toNat ≤ 0x9F) || isRowEnd c

/-- A text without control characters, on one row. -/
def Clean (s : String) : Prop := ∀ c ∈ s.toList, isControl c = false

instance (s : String) : Decidable (Clean s) := List.decidableBAll _ s.toList

/-- A text of two parts is clean if and only if each of the parts is, since cleanness is about the
single characters. -/
@[simp] theorem clean_append : Clean (s ++ t) ↔ Clean s ∧ Clean t := by
  unfold Clean
  rw [String.toList_append]
  exact List.forall_mem_append

/-- A plain character is between the space and the tilde, and none of the control characters is. -/
theorem isControl_of_isPlain (h : isPlain c = true) : isControl c = false := by
  simp only [isPlain, Bool.and_eq_true, decide_eq_true_eq] at h
  simp only [isControl, isRowEnd, Bool.or_eq_false_iff, Bool.and_eq_false_iff,
    decide_eq_false_iff_not, beq_eq_false_iff_ne]
  omega

/-- What an escaped text consists of is plain, so it is clean whatever the text was. -/
@[simp] theorem clean_escape (s : String) : Clean (escape s) :=
  fun _ h => isControl_of_isPlain (isPlain_of_mem_escape h)

/-- The digits of a natural number are plain, so its text is clean. -/
@[simp] theorem clean_natToString (n : Nat) : Clean (toString n) :=
  fun _ h => isControl_of_isPlain (isPlain_of_mem_natToString h)

/-- The text of an integer is a sign and digits, all of them plain. -/
@[simp] theorem clean_intToString (n : Int) : Clean (toString n) :=
  fun _ h => isControl_of_isPlain (isPlain_of_mem_intToString h)

end Text

open Text (Clean clean_append clean_escape)

/-- The path for a number has no control characters if its parts have none, and only then. -/
theorem Temporary.clean_numbered_iff {t : Temporary} {front : String} (ht : Clean t.path)
    (hf : Clean front) (suffix : String) (n : Nat) :
    Clean (t.numbered front suffix n) ↔ Clean suffix := by
  have hname : Clean (front ++ toString n ++ suffix) ↔ Clean suffix := by
    simp only [clean_append, hf, Text.clean_natToString, true_and]
  have hslash : Clean "/" := by decide +kernel
  unfold numbered pathOf
  split
  · exact hname
  · simp only [clean_append, ht, hslash, true_and, hname]

/-- The text of a record or a message. -/
def Event.text? : Event → Option String
  | log _ text | out text => some text
  | call _ | machine _ | get _ _ _ => none

namespace Web

variable {p : Params} {t : Temporary} {f : Files} {url suffix path text : String} {hops left : Nat}
  {s : Site} {x : Exchange} {talk : List Exchange} {body : List UInt8} {cause : Cause} {e : Fault}
  {o : Outcome Fault Site String} {named : String → Prop}

/-- The texts that a download leaves: of its records, and of the complaint it ends with. -/
def texts (o : Outcome Fault Site String) : List String :=
  o.events.filterMap Event.text? ++
    match o.result with
    | .error (.complaint _ c) => [c.message]
    | .ok _ | .error (.interrupt _) | .error (.failure _) => []

/-- A file is made for a body, at this path. -/
structure Makes (p : Params) (t : Temporary) (f : Files) (suffix : String) (body : List UInt8)
    (path : String) : Prop where
  fault : t.fault ≠ some .creation
  eq : ∃ front, p.tempPrefixText = .ok front ∧
    path = t.numbered front suffix (t.nextNumber f front suffix)
  null : '\x00' ∉ path.toList
  create : f.create? path body ≠ none

/-- What an exchange holds is put in a new file at this path, after the extension of its URL. -/
def Names (p : Params) (t : Temporary) (f : Files) (x : Exchange) (suffix path : String) : Prop :=
  urlExtension x.url = .ok suffix ∧ ∃ body, x.response.Holds body ∧ Makes p t f suffix body path

/-- A text that quotes a path as it is. -/
inductive Quotes (path : String) : String → Prop
  | saved (hops : Nat) : Quotes path (indent hops ++ ("Saved to: " ++ path))
  | notWritten : Quotes path (Cause.temporaryNotWritten path).message

/-- The indentation of a message is made of spaces, however many hops there were. -/
@[simp] theorem clean_indent (hops : Nat) : Clean (indent hops) := by
  intro c hc
  rw [indent, String.toList_ofList] at hc
  rw [List.eq_of_mem_replicate hc]
  rfl

/-- A text that quotes a path between clean pieces is clean if and only if the path is. -/
theorem Quotes.clean_iff (h : Quotes path text) : Clean text ↔ Clean path := by
  cases h with
  | saved hops =>
    have hsaved : Clean "Saved to: " := by decide +kernel
    simp only [clean_append, clean_indent, hsaved, true_and]
  | notWritten =>
    show Clean ("Could not write temporary file '" ++ path ++ "'.") ↔ Clean path
    have hfront : Clean "Could not write temporary file '" := by decide +kernel
    have hback : Clean "'." := by decide +kernel
    simp only [clean_append, hfront, hback, true_and, and_true]

/-- A message of giving up shows the address escaped, and the rest of it is a number or a fixed
text: nothing in it can be unclean. -/
theorem GivesUp.clean (h : GivesUp url cause) : Clean cause.message := by
  have hfront : Clean "Could not download file from \"" := by decide +kernel
  cases h with
  | failed =>
    show Clean ("Could not download file from \"" ++ Text.escape url ++ "\".")
    have hback : Clean "\"." := by decide +kernel
    simp only [clean_append, clean_escape, hfront, hback, true_and]
  | refused status =>
    show Clean ("Could not download file from \"" ++ Text.escape url ++ "\" (HTTP " ++
      toString status ++ ").")
    have hstatus : Clean "\" (HTTP " := by decide +kernel
    have hback : Clean ")." := by decide +kernel
    simp only [clean_append, clean_escape, Text.clean_intToString, hfront, hstatus, hback, true_and]
  | noTarget =>
    show Clean ("Redirect from \"" ++ Text.escape url ++ "\" has no location.")
    have hredirect : Clean "Redirect from \"" := by decide +kernel
    have hback : Clean "\" has no location." := by decide +kernel
    simp only [clean_append, clean_escape, hredirect, hback, true_and]

/-- A download, or a part of one, tells the paths of these files as they are, and nothing else with
control characters. -/
structure Tells (o : Outcome Fault Site String) (named : String → Prop) : Prop where
  clean_or : ∀ text ∈ texts o, Clean text ∨ ∃ path, named path ∧ Quotes path text
  quoted : ∀ path, named path → ∃ text ∈ texts o, Quotes path text

/-- All that an outcome tells is clean if and only if all the paths that it names are: everything
else that it tells is clean by itself. -/
theorem Tells.forall_clean_iff (h : Tells o named) :
    (∀ text ∈ texts o, Clean text) ↔ ∀ path, named path → Clean path := by
  constructor
  · intro hc path hn
    obtain ⟨text, htext, hq⟩ := h.quoted path hn
    exact hq.clean_iff.1 (hc text htext)
  · intro hn text htext
    rcases h.clean_or text htext with hc | ⟨path, hpath, hq⟩
    · exact hc
    · exact hq.clean_iff.2 (hn path hpath)

/-- Which paths are named may be said in another way that comes to the same. -/
theorem Tells.congr {named' : String → Prop} (h : Tells o named)
    (hn : ∀ path, named' path ↔ named path) : Tells o named' := by
  obtain rfl : named' = named := funext fun path => propext (hn path)
  exact h

/-- What leaves clean texts only tells no path, if there is none. -/
theorem tells_of_clean (hc : ∀ text ∈ texts o, Clean text) (hn : ∀ path, ¬named path) :
    Tells o named :=
  ⟨fun text htext => .inl (hc text htext), fun path hpath => absurd hpath (hn path)⟩

/-- What is logged while a fetch is under way shows addresses only escaped, so each of these texts
is clean. -/
theorem Underway.clean {ev : Event} (h : Underway p ev) (ht : ev.text? = some text) :
    Clean text := by
  have hdot : Clean "\"." := by decide +kernel
  cases h with
  | asking hops url =>
    obtain rfl := Option.some.inj ht
    have hfront : Clean "Downloading file from \"" := by decide +kernel
    exact clean_append.2
      ⟨clean_indent hops, clean_append.2 ⟨clean_append.2 ⟨hfront, clean_escape url⟩, hdot⟩⟩
  | asked url => cases ht
  | redirected hops url =>
    obtain rfl := Option.some.inj ht
    have hfront : Clean "Redirecting to \"" := by decide +kernel
    exact clean_append.2
      ⟨clean_indent hops, clean_append.2 ⟨clean_append.2 ⟨hfront, clean_escape url⟩, hdot⟩⟩

/-- The records of the requests tell nothing. -/
theorem Tells.after {before : List Event} (h : Tells o named)
    (hb : ∀ ev ∈ before, Underway p ev) : Tells ⟨o.result, before ++ o.events, o.state⟩ named := by
  have htexts : texts ⟨o.result, before ++ o.events, o.state⟩ =
      before.filterMap Event.text? ++ texts o := by
    unfold texts
    rw [List.filterMap_append, List.append_assoc]
  refine ⟨fun text htext => ?_, fun path hpath => ?_⟩
  · rcases List.mem_append.1 (htexts ▸ htext) with hm | hm
    · obtain ⟨ev, hev, ht⟩ := List.mem_filterMap.1 hm
      exact .inl ((hb ev hev).clean ht)
    · exact h.clean_or text hm
  · obtain ⟨text, htext, hq⟩ := h.quoted path hpath
    exact ⟨text, htexts ▸ List.mem_append_right _ htext, hq⟩

/-- A file is made and its path given or complained about, or no file is made and its path is not
told.  Of the outcomes of storing a body, only a file that cannot be written is named in a
complaint. -/
theorem store_makes_cases (p : Params) (s : Site) (suffix : String) (body : List UInt8) :
    (∃ path, (∀ q, Makes p s.temp s.files suffix body q ↔ q = path) ∧
      ((store p suffix body s).result = .ok path ∨
        (store p suffix body s).result = .error (.fatal (.plain (.temporaryNotWritten path))))) ∨
    (∀ q, ¬Makes p s.temp s.files suffix body q) ∧
      ((store p suffix body s).result = .error (.fatal (.plain .temporaryNotCreated)) ∨
        ∃ e, (store p suffix body s).result = .error (.failure e)) := by
  have hplanned {front path : String} {t : Site} (h : Planned p suffix s front path t) (q : String)
      (hq : Makes p s.temp s.files suffix body q) : q = path := by
    obtain ⟨front', hfront, rfl⟩ := hq.eq
    obtain rfl := Except.ok.inj (h.front_eq.symm.trans hfront)
    exact h.path_eq.symm
  have hmakes {front path : String} {t : Site} {files : Files}
      (h : Planned p suffix s front path t) (hn : '\x00' ∉ path.toList)
      (hf : s.files.create? path body = some files) (q : String) :
      Makes p s.temp s.files suffix body q ↔ q = path := by
    refine ⟨hplanned h q, ?_⟩
    rintro rfl
    exact ⟨h.noFault, ⟨front, h.front_eq, h.path_eq⟩, hn, by rw [hf]; nofun⟩
  have hs := stored p suffix body s
  generalize store p suffix body s = o at hs ⊢
  cases hs with
  | noCreation hc => exact .inr ⟨fun q hq => hq.fault hc, .inl rfl⟩
  | noFront _ hp =>
    refine .inr ⟨fun q hq => ?_, .inr ⟨_, rfl⟩⟩
    obtain ⟨front, hfront, -⟩ := hq.eq
    exact absurd (hp.symm.trans hfront) nofun
  | null h hn => exact .inr ⟨fun q hq => hq.null (hplanned h q hq ▸ hn), .inr ⟨_, rfl⟩⟩
  | notCreated h _ hf => exact .inr ⟨fun q hq => hq.create (hplanned h q hq ▸ hf), .inl rfl⟩
  | notWritten h hn hf => exact .inl ⟨_, hmakes h hn hf, .inr rfl⟩
  | created h hn hf => exact .inl ⟨_, hmakes h hn hf, .inl rfl⟩

/-- A body that is saved under an extension: the path of the file is told, if one is made. -/
theorem tells_save (p : Params) (hops : Nat) (s : Site) (body : List UInt8)
    (hu : urlExtension url = .ok suffix) :
    Tells (save p hops url body s) (Makes p s.temp s.files suffix body) := by
  have hcreating : Clean (indent hops ++ "Creating temporary file.") :=
    clean_append.2 ⟨clean_indent hops, by decide +kernel⟩
  have hsave := save_of_ok p hops s body hu
  have hevents := events_store p suffix body s
  have hrefused {e : Fault} (hr : (store p suffix body s).result = .error e) :
      save p hops url body s = ⟨.error e, [.log .debug (indent hops ++ "Creating temporary file.")],
        (store p suffix body s).state⟩ := by
    rw [hsave, Act.bind_of_error hr, hevents]
  rcases store_makes_cases p s suffix body with ⟨path, hmakes, hr | hr⟩ | ⟨hnone, hr | ⟨e, hr⟩⟩
  · rw [hsave, Act.bind_of_ok hr, hevents]
    refine ⟨List.forall_mem_cons.2 ⟨.inl hcreating, List.forall_mem_singleton.2 (.inr ?_)⟩,
      fun q hq => ⟨_, List.mem_cons_of_mem _ (List.mem_singleton_self _), ?_⟩⟩
    · exact ⟨path, (hmakes path).2 rfl, .saved hops⟩
    · exact (hmakes q).1 hq ▸ .saved hops
  · rw [hrefused hr]
    refine ⟨List.forall_mem_cons.2 ⟨.inl hcreating, List.forall_mem_singleton.2 (.inr ?_)⟩,
      fun q hq => ⟨_, List.mem_cons_of_mem _ (List.mem_singleton_self _), ?_⟩⟩
    · exact ⟨path, (hmakes path).2 rfl, .notWritten⟩
    · exact (hmakes q).1 hq ▸ .notWritten
  · rw [hrefused hr]
    have hmessage : Clean "Could not create temporary file for plot." := by decide +kernel
    exact tells_of_clean (List.forall_mem_cons.2 ⟨hcreating, List.forall_mem_singleton.2 hmessage⟩)
      hnone
  · rw [hrefused hr]
    exact tells_of_clean (List.forall_mem_singleton.2 hcreating) hnone

/-- For an exchange that holds a body, the paths named are the paths of the file that is made for
it. -/
theorem names_iff (hh : x.response.Holds body) (hu : urlExtension x.url = .ok suffix) :
    (∃ suffix, Names p t f x suffix path) ↔ Makes p t f suffix body path := by
  constructor
  · rintro ⟨suffix', hu', body', hh', hm⟩
    obtain rfl := Except.ok.inj (hu.symm.trans hu')
    exact (Response.Holds.eq hh hh') ▸ hm
  · exact fun hm => ⟨suffix, hu, body, hh, hm⟩

/-- **A response behind which no request follows tells the path of the file that it is put in, and
nothing else with control characters.**  It is a redirect that is not followed, or holds a body, or
is complained about. -/
theorem tells_proceed (p : Params) (hops : Nat) (s : Site) (h : Halts left x) :
    Tells (proceed p hops x.url left x.response s)
      (fun path => ∃ suffix, Names p s.temp s.files x suffix path) := by
  have hnames (hh : ∀ body, ¬x.response.Holds body) (path : String) :
      ¬∃ suffix, Names p s.temp s.files x suffix path := fun ⟨_, _, body, hb, _⟩ => hh body hb
  by_cases hr : ∃ reference, x.response.Redirects reference
  · obtain ⟨reference, hr⟩ := hr
    have hnone := hnames fun _ => hr.not_holds
    cases left with
    | zero =>
      rw [proceed_zero_of_redirects hr]
      unfold refuseRedirect
      rcases p.maxRedirects.floor? with _ | n
      · exact tells_of_clean (List.forall_mem_nil _) hnone
      · have hmessage : Clean "Too many redirects." := by decide +kernel
        exact tells_of_clean (List.forall_mem_singleton.2 hmessage) hnone
    | succ left =>
      obtain ⟨e, he⟩ := h (Nat.succ_pos left) reference hr
      rw [proceed_succ_of_redirects hr, he]
      exact tells_of_clean (List.forall_mem_nil _) hnone
  by_cases hh : ∃ body, x.response.Holds body
  · obtain ⟨body, hh⟩ := hh
    rw [proceed_of_holds hh]
    rcases hu : urlExtension x.url with e | suffix
    · have hcreating : Clean (indent hops ++ "Creating temporary file.") :=
        clean_append.2 ⟨clean_indent hops, by decide +kernel⟩
      unfold save
      rw [hu]
      refine tells_of_clean (List.forall_mem_singleton.2 hcreating) ?_
      rintro path ⟨suffix, hsuffix, -⟩
      exact absurd (hu.symm.trans hsuffix) nofun
    · exact (tells_save p hops s body hu).congr fun path => names_iff hh hu
  · have hh := not_exists.1 hh
    obtain ⟨cause, hp, hc⟩ := proceed_of_neither (not_exists.1 hr) hh
    rw [hp]
    exact tells_of_clean (List.forall_mem_singleton.2 hc.clean) (hnames hh)

/-- **A download tells a control character exactly in the path of its new file.**  Whatever the
pages answer, there is a conversation by the rules whose requests are those that were sent.  If what
its last exchange holds is put in a new file, the path of that file is told as it is, and no other
text of the download has control characters.  With a folder and a beginning of the names that have
none, all texts are free of them if and only if the extension of the last URL is, and so if that URL
is. -/
theorem fetch_clean_iff (p : Params) (url : String) (s : Site) (ht : Clean s.temp.path)
    (hf : ∀ front, p.tempPrefixText = .ok front → Clean front) :
    ∃ talk x, talk.getLast? = some x ∧
      Converses url p.redirectLimit s talk (fetch p url s) ∧
      let o := fetch p url s
      Tells o (fun path => ∃ suffix, Names p s.temp s.files x suffix path) ∧
      ((∀ text ∈ texts o, Clean text) ↔
        ∀ suffix path, Names p s.temp s.files x suffix path → Clean suffix) ∧
      (Clean x.url → ∀ text ∈ texts o, Clean text) := by
  obtain ⟨talk, x, he⟩ := exists_endsAt p 0 url p.redirectLimit s
  obtain ⟨hops, pages, before, hb, ho⟩ := he.eq
  have htells : Tells (fetch p url s)
      (fun path => ∃ suffix, Names p s.temp s.files x suffix path) := by
    rw [fetch, ho]
    exact (tells_proceed p hops { s with pages := pages } he.halts).after hb
  have hclean : (∀ text ∈ texts (fetch p url s), Clean text) ↔
      ∀ suffix path, Names p s.temp s.files x suffix path → Clean suffix := by
    rw [htells.forall_clean_iff]
    constructor
    · rintro hpath suffix path hn
      obtain ⟨-, body, -, hm⟩ := id hn
      obtain ⟨front, hfront, rfl⟩ := hm.eq
      exact (Temporary.clean_numbered_iff ht (hf front hfront) suffix _).1 (hpath _ ⟨suffix, hn⟩)
    · rintro hsuffix path ⟨suffix, hn⟩
      obtain ⟨-, body, -, hm⟩ := id hn
      obtain ⟨front, hfront, rfl⟩ := hm.eq
      exact (Temporary.clean_numbered_iff ht (hf front hfront) suffix _).2 (hsuffix _ _ hn)
  refine ⟨talk, x, he.last, he.converses, htells, hclean, fun hx => hclean.2 ?_⟩
  rintro suffix path ⟨hsuffix, -⟩ c hc
  rcases mem_of_mem_urlExtension hsuffix hc with rfl | hm
  · rfl
  · exact hx c hm

/-- A site where a drawing has moved to a URL with control characters, and one where its extension
has them. -/
def slySite : Site where
  files := .ofList ["t"] []
  temp := .fresh "/t"
  pages := [("http://a/x\x1b", [.answered 302 (some "y\u2028\x07.svg") []]),
    ("http://a/y\u2028\x07.svg", [.answered 200 none []]),
    ("http://a/b.s\x01vg", [.answered 200 none []]),
    ("http://a/c", [.answered 302 (some "d.s\x1bvg\u2028") []]),
    ("http://a/d.s\x1bvg\u2028", [.answered 200 none []])]
  ports := []
  evaluator := .plain

/-- A download by way of URLs with control characters, but in no extension, tells none of them. -/
theorem fetch_clean_slySite :
    let o := fetch .standard "http://a/x\x1b" slySite
    Clean slySite.temp.path ∧
      (∀ front, Params.standard.tempPrefixText = .ok front → Clean front) ∧
      (∃ talk x, talk.getLast? = some x ∧
        Converses "http://a/x\x1b" Params.standard.redirectLimit slySite talk o ∧
        Tells o (fun path => ∃ suffix, Names .standard slySite.temp slySite.files x suffix path) ∧
        ((∀ text ∈ texts o, Clean text) ↔
          ∀ suffix path, Names .standard slySite.temp slySite.files x suffix path →
            Clean suffix) ∧
        (Clean x.url → ∀ text ∈ texts o, Clean text)) ∧
      o.result.toOption = some "/t/axilang-1.svg" ∧ ∀ text ∈ texts o, Clean text := by
  have ht : Clean slySite.temp.path := by decide +kernel
  have hf : ∀ front, Params.standard.tempPrefixText = .ok front → Clean front := by
    rintro front h
    obtain rfl := Except.ok.inj h
    decide +kernel
  exact ⟨ht, hf, fetch_clean_iff .standard "http://a/x\x1b" slySite ht hf, by decide +kernel⟩

/-- A control character in the extension of a URL is in the record of the path, or in the complaint
about it. -/
theorem fetch_not_clean_slySite :
    (isUrl "http://a/b.s\x01vg" = true ∧
      indent 0 ++ "Saved to: /t/axilang-1.s\x01vg" ∈
        texts (fetch .standard "http://a/b.s\x01vg" slySite) ∧
      ¬Clean (indent 0 ++ "Saved to: /t/axilang-1.s\x01vg")) ∧
    let broken := { slySite with temp := { slySite.temp with fault := some .writing } }
    isUrl "http://a/c" = true ∧
      "Could not write temporary file '/t/axilang-1.s\x1bvg\u2028'." ∈
        texts (fetch .standard "http://a/c" broken) ∧
      ¬Clean "Could not write temporary file '/t/axilang-1.s\x1bvg\u2028'." := by
  decide +kernel

end Web
end PlotScript
