/-
# One command after another

Where one command ends and the next begins can be told from the words alone (`Spells.length_eq`),
so a script is made up of commands in one way only.  It is *lined* if each of them is on one line,
the option blocks apart (`Lined`).

A command is spelled by its tokens, wherever they stand (`Spells.alike`), and where it was read, its
numbers are short enough to be read again (`Reader.shortValues_of_read`).  An option block that is
not at hand as a whole is waited for (`Reader.read_part`).
-/

import PlotScript.Proofs.Stopping

namespace PlotScript

/-- Lexemes that are the same tokens, one by one, wherever they stand. -/
abbrev Alike (l m : List Lexeme) : Prop := List.Forall₂ (fun x y => x.token = y.token) l m

/-- Lexemes are alike if their tokens are the same lists. -/
theorem alike_iff {l m : List Lexeme} :
    Alike l m ↔ l.map Lexeme.token = m.map Lexeme.token := by
  rw [← List.forall₂_eq_eq_eq, List.forall₂_map_left_iff, List.forall₂_map_right_iff]

/-- Lexemes that are alike have the same tokens. -/
theorem Alike.map_token {l m : List Lexeme} (h : Alike l m) :
    l.map Lexeme.token = m.map Lexeme.token :=
  alike_iff.1 h

/-- Lexemes that are alike to the same are alike. -/
theorem Alike.trans {l m r : List Lexeme} (h : Alike l m) (k : Alike m r) : Alike l r :=
  alike_iff.2 (h.map_token.trans k.map_token)

namespace Grammar

variable {x y : Lexeme} {l m ws tail : List Lexeme} {a : Action} {b : Block}

/-- A coordinate is given by a token, wherever that stands. -/
theorem Coordinate.alike {v : Number} (h : Coordinate y v) (hx : x.token = y.token) :
    Coordinate x v := by
  rwa [Coordinate, Lexeme.kind, Lexeme.text, hx]

/-- The value of a setting is given by a token, wherever that stands. -/
theorem Gives.alike {s : Setting} {v : Value} (h : Gives s y v) (hx : x.token = y.token) :
    Gives s x v := by
  cases h with
  | text ht hk =>
    rw [Lexeme.text, ← hx]
    exact .text ht (by rwa [Lexeme.kind, hx])
  | number ht hk hn hr =>
    exact .number ht (by rwa [Lexeme.kind, hx]) (by rwa [Lexeme.text, hx]) hr

/-- The points of a drawing are given by tokens, wherever these stand. -/
theorem Path.alike {ps : List Point} (h : Path m ps) (hl : Alike l m) : Path l ps := by
  induction h generalizing l with
  | nil =>
    cases hl with
    | nil => exact .nil
  | cons hv hw _ ih =>
    cases hl with
    | cons hx hl =>
      cases hl with
      | cons hy hl => exact .cons (hv.alike hx) (hw.alike hy) (ih hl)

/-- Settings with their values are given by tokens, wherever these stand. -/
theorem Settings.alike {ss : List (Setting × Value)} (h : Settings m ss) (hl : Alike l m) :
    Settings l ss := by
  induction h generalizing l with
  | nil =>
    cases hl with
    | nil => exact .nil
  | cons hk hv _ ih =>
    cases hl with
    | cons hx hl =>
      cases hl with
      | cons hy hl => exact .cons (by rwa [Lexeme.kind, hx]) (hv.alike hy) (ih hl)

/-- The same token is of the same kind. -/
theorem kind_alike {k : Kind} (hx : x.token = y.token) (hk : y.kind = k) : x.kind = k :=
  (congrArg Token.kind hx).trans hk

/-- What is alike to two lists one after the other is made of two such lists. -/
theorem Alike.exists_append {l m r : List Lexeme} (h : Alike l (m ++ r)) :
    ∃ u v, l = u ++ v ∧ Alike u m ∧ Alike v r :=
  ⟨l.take m.length, l.drop m.length, (List.take_append_drop _ _).symm,
    List.forall₂_take_append l m r h, List.forall₂_drop_append l m r h⟩

/-- What is alike to two lexemes are two lexemes. -/
theorem alike_pair {u v : Lexeme} (h : Alike l [u, v]) :
    ∃ x y, l = [x, y] ∧ x.token = u.token ∧ y.token = v.token := by
  cases h with
  | cons hx h =>
    cases h with
    | cons hy h =>
      cases h with
      | nil => exact ⟨_, _, rfl, hx, hy⟩

/-- **A command is spelled by its tokens**, wherever they stand.  The cases are those of the
grammar, one for each way to spell a command. -/
theorem Spells.alike (h : Spells m a) (hl : Alike l m) : Spells l a := by
  cases h with
  | mode hw hm =>
    obtain ⟨_, _, rfl, hx, hy⟩ := alike_pair hl
    exact .mode (kind_alike hx hw) (kind_alike hy hm)
  | wait hw hv =>
    obtain ⟨_, _, rfl, hx, hy⟩ := alike_pair hl
    exact .wait (kind_alike hx hw) (hv.alike hy)
  | setPlot hw hk ht =>
    obtain ⟨_, _, rfl, hx, hy⟩ := alike_pair hl
    rw [Lexeme.text, ← hy] at ht ⊢
    exact .setPlot (kind_alike hx hw) (kind_alike hy hk) ht
  | options hw hr hz =>
    obtain ⟨_, _, hx, ht, rfl⟩ := List.forall₂_cons_right_iff.1 hl
    obtain ⟨_, _, rfl, hs, hc⟩ := Alike.exists_append ht
    obtain ⟨_, _, hy, hn, rfl⟩ := List.forall₂_cons_right_iff.1 hc
    cases hn with
    | nil => exact .options (kind_alike hx hw) (hr.alike hs) (kind_alike hy hz)
  | goTo hw hv hu =>
    obtain ⟨_, _, hx, hr, rfl⟩ := List.forall₂_cons_right_iff.1 hl
    obtain ⟨_, _, rfl, hy, hz⟩ := alike_pair hr
    exact .goTo (kind_alike hx hw) (hv.alike hy) (hu.alike hz)
  | goToRelative hw hv hu =>
    obtain ⟨_, _, hx, hr, rfl⟩ := List.forall₂_cons_right_iff.1 hl
    obtain ⟨_, _, rfl, hy, hz⟩ := alike_pair hr
    exact .goToRelative (kind_alike hx hw) (hv.alike hy) (hu.alike hz)
  | draw hw hp hlen =>
    obtain ⟨_, _, hx, hr, rfl⟩ := List.forall₂_cons_right_iff.1 hl
    exact .draw (kind_alike hx hw) (hp.alike hr) hlen
  | word hw =>
    obtain ⟨_, _, hx, hr, rfl⟩ := List.forall₂_cons_right_iff.1 hl
    cases hr with
    | nil => exact .word (by rwa [Lexeme.kind, hx])
  | plot hw =>
    obtain ⟨_, _, hx, hr, rfl⟩ := List.forall₂_cons_right_iff.1 hl
    cases hr with
    | nil => exact .plot (kind_alike hx hw)

/-- Whether a command ends before some lexemes depends on their tokens alone. -/
theorem endsBefore_alike (h : a.EndsBefore m) (hl : Alike l m) : a.EndsBefore l := by
  cases hl with
  | nil => exact h
  | cons hx _ =>
    cases a with
    | draw path => exact fun hk => h ((congrArg Token.kind hx).symm.trans hk)
    | _ => trivial

/-- How many lexemes the command takes with which a list begins. -/
def span : List Lexeme → Nat
  | [] => 0
  | w :: r =>
    match w.kind with
    | .mode | .wait | .setPlot => 2
    | .goTo | .goToRelative => 3
    | .draw => 1 + (r.takeWhile fun x => x.kind = .number).length
    | .blockStart b => 2 + (r.takeWhile fun x => x.kind ≠ .blockEnd b).length
    | _ => 1

/-- Within a block there are names of settings and values. -/
theorem Settings.kind_cases {r : List Lexeme} {ss : List (Setting × Value)} (h : Settings r ss) :
    ∀ x ∈ r, (∃ s, x.kind = .setting s) ∨ x.kind = .string ∨ x.kind = .number := by
  induction h with
  | nil => exact fun x hx => absurd hx List.not_mem_nil
  | cons hk hv _ ih =>
    intro z hz
    rcases List.mem_cons.1 hz with rfl | hz
    · exact .inl ⟨_, hk⟩
    · rcases List.mem_cons.1 hz with rfl | hz
      · cases hv with
        | text _ hs => exact .inr (.inl hs)
        | number _ hn => exact .inr (.inr hn)
      · exact ih z hz

/-- Within a block, no word closes it. -/
theorem Settings.kind_ne {r : List Lexeme} {ss : List (Setting × Value)} (h : Settings r ss) :
    ∀ x ∈ r, x.kind ≠ .blockEnd b := by
  intro x hx
  rcases h.kind_cases x hx with ⟨s, hk⟩ | hk | hk <;> rw [hk] <;> rintro ⟨⟩

/-- Only a block has names of settings.  The cases are the commands, each with the kinds of its
words. -/
theorem Spells.isSetting_eq_false (h : Spells ws a) (hb : ∀ b ss, a ≠ .setOptions b ss) :
    ∀ x ∈ ws, Reader.isSetting x.kind = false := by
  cases h with
  | options => exact absurd rfl (hb _ _)
  | mode hw hx | setPlot hw hx => simp [hw, hx, Reader.isSetting]
  | wait hw hv => simp [hw, hv.1, Reader.isSetting]
  | goTo hw hv hu | goToRelative hw hv hu => simp [hw, hv.1, hu.1, Reader.isSetting]
  | plot hw => simp [hw, Reader.isSetting]
  | draw hw hp =>
    intro x hx
    rcases List.mem_cons.1 hx with rfl | hx
    · rw [hw]
      rfl
    · rw [hp.kind_of_mem hx]
      rfl
  | word hw =>
    intro x hx
    obtain rfl := List.mem_singleton.1 hx
    unfold Action.ofWord? at hw
    split at hw <;> simp_all [Reader.isSetting]

/-- **How long a command is can be told from the words.**  The cases are the commands: a block goes
on to its closing word, a path to the last of its numbers, and every other command has a fixed
length. -/
theorem Spells.length_eq (h : Spells ws a) (ht : a.EndsBefore tail) :
    ws.length = span (ws ++ tail) := by
  cases h with
  | mode hw | wait hw | setPlot hw | goTo hw | goToRelative hw | plot hw =>
    simp only [List.cons_append, span, hw, List.length_cons, List.length_nil]
  | @options w z r b ss hw hr hz =>
    have hlen : ((r ++ z :: tail).takeWhile fun x => x.kind ≠ .blockEnd b) = r := by
      rw [List.takeWhile_append_of_pos fun x hx => by simpa using hr.kind_ne x hx,
        List.takeWhile_cons_of_neg (by simpa using hz), List.append_nil]
    simp only [List.cons_append, List.append_assoc, List.nil_append, span, hw, hlen,
      List.length_cons, List.length_append, List.length_nil]
    omega
  | @draw w r path hw hp hlen =>
    simp only [List.cons_append, span, hw, Reader.takeWhile_of_path hp ht, List.length_cons]
    omega
  | @word w a hw =>
    have hk : span (w :: tail) = 1 := by
      unfold Action.ofWord? at hw
      split at hw <;> simp_all [span]
    exact hk.symm

/-- **A list begins with one command only.** -/
theorem Spells.unique {vs rest : List Lexeme} {a' : Action} (h : Spells ws a)
    (ht : a.EndsBefore tail) (h' : Spells vs a') (ht' : a'.EndsBefore rest)
    (he : ws ++ tail = vs ++ rest) : ws = vs ∧ tail = rest := by
  refine List.append_inj he ?_
  rw [h.length_eq ht, h'.length_eq ht', he]

/-- Lexemes that stand on one line. -/
def OneLine (l : List Lexeme) : Prop := ∀ x ∈ l, ∀ y ∈ l, x.place.lineNumber = y.place.lineNumber

instance (l : List Lexeme) : Decidable (OneLine l) :=
  inferInstanceAs (Decidable (∀ x ∈ l, ∀ y ∈ l, x.place.lineNumber = y.place.lineNumber))

/-- A script of commands that are each on one line, unless they are option blocks. -/
inductive Lined : List Lexeme → Prop
  | nil : Lined []
  | block {ws tail : List Lexeme} {b : Block} {ss : List (Setting × Value)} :
    Spells ws (.setOptions b ss) → Lined tail → Lined (ws ++ tail)
  | command {ws tail : List Lexeme} {a : Action} :
    Spells ws a → a.EndsBefore tail → OneLine ws → Lined tail → Lined (ws ++ tail)

/-- A command that begins as a block is one. -/
theorem Spells.eq_setOptions {w : Lexeme} {r : List Lexeme} (h : Spells (w :: r) a)
    (hw : w.kind = .blockStart b) : ∃ ss, a = .setOptions b ss := by
  cases h with
  | options hw' _ _ =>
    obtain rfl := Kind.blockStart.inj (hw.symm.trans hw')
    exact ⟨_, rfl⟩
  | mode hw' | word hw' | goTo hw' | goToRelative hw' | draw hw' | wait hw' | setPlot hw'
  | plot hw' =>
    rw [hw] at hw'
    cases hw'

/-- A block begins with its opening word. -/
theorem Spells.exists_blockStart {ss : List (Setting × Value)} (h : Spells ws (.setOptions b ss)) :
    ∃ w r z, ws = w :: (r ++ [z]) ∧ w.kind = .blockStart b ∧ Settings r ss ∧
      z.kind = .blockEnd b := by
  cases h with
  | options hw hr hz => exact ⟨_, _, _, rfl, hw, hr, hz⟩
  | word hw =>
    unfold Action.ofWord? at hw
    split at hw <;> cases hw

/-- **Every command of a lined script is a block or on one line**, and what follows it is lined.  A
script is lined by commands, and the command in front is one of them, as no words spell two. -/
theorem Lined.of_spells (h : Lined (ws ++ tail)) (hw : Spells ws a) (ht : a.EndsBefore tail) :
    ((∃ b ss, a = .setOptions b ss) ∨ OneLine ws) ∧ Lined tail := by
  generalize hl : ws ++ tail = l at h
  cases h with
  | nil =>
    have hpos := hw.length_pos
    rw [(List.append_eq_nil_iff.1 hl).1] at hpos
    exact absurd hpos (Nat.lt_irrefl 0)
  | block hs hd =>
    obtain ⟨rfl, rfl⟩ := hw.unique ht hs trivial hl
    obtain ⟨w, r, z, rfl, hk, -, -⟩ := hs.exists_blockStart
    exact ⟨.inl ⟨_, hw.eq_setOptions hk⟩, hd⟩
  | command hs he ho hd =>
    obtain ⟨rfl, rfl⟩ := hw.unique ht hs he hl
    exact ⟨.inr ho, hd⟩

end Grammar

namespace Reader

open Grammar

variable {mode : Option Mode} {word : Lexeme} {rest l m : List Lexeme} {b : Block}
  {interactive more : Bool} {seen : List Setting} {a : Action} {n : Nat}

/-- Whether values are short enough depends on the tokens alone. -/
theorem ShortValues.alike (h : ShortValues m) (hl : Alike l m) : ShortValues l := by
  let r (x y : Token) : Prop := isSetting x.kind = true → y.kind = .number →
    y.text.length ≤ digitLimit
  have hm : (m.map Lexeme.token).IsChain r := List.isChain_map _ |>.2 h
  rw [← hl.map_token] at hm
  exact (List.isChain_map _).1 hm

/-- A value that is read is no name of a setting. -/
theorem isSetting_of_gives {s : Setting} {x : Lexeme} {v : Value} (h : Gives s x v) :
    isSetting x.kind = false := by
  cases h with
  | text _ hk => rw [hk]; rfl
  | number _ hk _ _ => rw [hk]; rfl

/-- A value is never waited for.  The cases are those of reading a value, which is at hand
already. -/
theorem readValue_ne_waiting {s : Setting} {x : Lexeme} {k : Nat} :
    readValue s x k ≠ .error .waiting := by
  unfold readValue
  split
  · rintro ⟨⟩
  · split
    · rintro ⟨⟩
    · split
      · rintro ⟨⟩
      · split
        · rintro ⟨⟩
        · split
          · split <;> rintro ⟨⟩
          · rintro ⟨⟩

/-- A number that is read as a value is short enough. -/
theorem length_of_readValue {s : Setting} {x : Lexeme} {k : Nat} {v : Value}
    (h : readValue s x k = .ok v) (hk : x.kind = .number) : x.text.length ≤ digitLimit := by
  unfold readValue at h
  split at h
  · cases h
  · rename_i hv
    split at h
    · rename_i ht
      rw [valueKind, if_pos ht, hk] at hv
      exact absurd (by decide) hv
    · split at h
      · cases h
      · omega

/-- Values stay short enough when a lexeme comes in front, if it names no setting or the number
behind it is short. -/
theorem shortValues_cons {x y : Lexeme} (hx : isSetting x.kind = true → y.kind = .number →
    y.text.length ≤ digitLimit) (h : ShortValues (y :: l)) : ShortValues (x :: y :: l) :=
  List.isChain_cons_cons.2 ⟨hx, h⟩

/-- After what is no name of a setting, any number may come. -/
theorem shortValues_cons_of_not {x : Lexeme} (hx : isSetting x.kind = false)
    (h : ShortValues l) : ShortValues (x :: l) := by
  cases l with
  | nil => exact List.IsChain.singleton x
  | cons y l =>
    refine shortValues_cons (fun hs => ?_) h
    rw [hx] at hs
    cases hs

/-- Where no setting is named, no number is too long. -/
theorem shortValues_of_forall (h : ∀ x ∈ l, isSetting x.kind = false) : ShortValues l := by
  induction l with
  | nil => exact List.IsChain.nil
  | cons x l ih =>
    exact shortValues_cons_of_not (h x List.mem_cons_self) (ih fun y hy => h y (.tail x hy))

/-- The numbers of a block that is read are short enough.  The induction is on the settings: a value
that is read was short enough. -/
theorem shortValues_of_readSettings {k : Nat} {ss ts : List (Setting × Value)}
    {r tail : List Lexeme} {z : Lexeme} (hr : Settings r ss)
    (ha : ∀ x ∈ ss, x.1.allowedIn interactive = true)
    (h : (readSettings b interactive more word seen k (r ++ z :: tail)).result = .ok (ts, n)) :
    ShortValues (r ++ [z]) := by
  induction hr generalizing seen k ts with
  | nil => exact List.IsChain.singleton z
  | @cons x y s v r ss hx hy hr ih =>
    have has : s.allowedIn interactive = true := ha (s, v) List.mem_cons_self
    rw [List.cons_append, List.cons_append] at h
    rcases hv : readValue s y (k + 1) with e | u
    · rw [readSettings_of_wrongValue hx has hv] at h
      cases h
    · rw [readSettings_of_value hx has hv] at h
      obtain ⟨ts, ht, -⟩ := result_cons h
      have hi := ih (fun w hw => ha w (.tail _ hw)) ht
      exact shortValues_cons (fun _ => length_of_readValue hv)
        (shortValues_cons_of_not (isSetting_of_gives hy) hi)

/-- **The numbers of a command that is read are short enough.**  Only a block has numbers behind the
names of settings. -/
theorem shortValues_of_read (h : (read mode more word rest).result = .ok (a, n)) :
    ShortValues ((word :: rest).take n) := by
  by_cases hb : ∃ b, word.kind = .blockStart b
  · obtain ⟨b, hb⟩ := hb
    simp only [read, hb] at h
    split at h
    · cases h
    · rename_i m hm
      obtain ⟨ss, hs, -⟩ := readBlock_eq_ok.1 h
      obtain ⟨r, z, tail, rfl, rfl, hr, -, ha⟩ := settings_of_readSettings hs
      have hlen : 1 + r.length + 1 = (r ++ [z]).length + 1 := by
        rw [List.length_append, List.length_singleton]
        omega
      have hsplit : r ++ z :: tail = r ++ [z] ++ tail := List.append_cons r z tail
      rw [hlen, List.take_succ_cons, hsplit, List.take_left]
      exact shortValues_cons_of_not (by rw [hb]; rfl) (shortValues_of_readSettings hr ha hs)
  · obtain ⟨ws, tail, hl, hlen, hws, -, -⟩ := begins_of_read h
    rw [hl, ← hlen, List.take_left]
    refine shortValues_of_forall (hws.isSetting_eq_false fun b' ss ha => hb ⟨b', ?_⟩)
    subst ha
    obtain ⟨w, r, z, rfl, hw, -, -⟩ := hws.exists_blockStart
    rwa [(List.cons.inj hl).1]

/-- An option block that goes on is waited for.  The induction is on the settings, and the part may
end in front of a value. -/
theorem readSettings_part {r cut : List Lexeme} {ss : List (Setting × Value)} {k : Nat}
    (hr : Settings r ss) (ha : ∀ x ∈ ss, x.1.allowedIn interactive = true) (hs : ShortValues r)
    (hc : cut <+: r) :
    (readSettings b interactive true word seen k cut).result = .error .waiting := by
  induction hr generalizing seen k cut with
  | nil =>
    obtain rfl := List.prefix_nil.1 hc
    rfl
  | @cons x y s v r ss hx hy hr ih =>
    have has : s.allowedIn interactive = true := ha (s, v) List.mem_cons_self
    have hchain := List.isChain_cons_cons.1 hs
    have hv : readValue s y (k + 1) = .ok v :=
      readValue_of_gives hy (hchain.1 (by rw [hx]; rfl))
    rcases cut with _ | ⟨x', _ | ⟨y', cut⟩⟩
    · rfl
    · obtain rfl := (List.cons_prefix_cons.1 hc).1
      simp [readSettings, hx, has]
    · obtain ⟨rfl, ht⟩ := List.cons_prefix_cons.1 hc
      obtain ⟨rfl, hcut⟩ := List.cons_prefix_cons.1 ht
      have hi := @ih (s :: seen) cut (k + 2) (fun w hw => ha w (.tail _ hw)) hchain.2.tail hcut
      rw [readSettings_of_value hx has hv]
      simp only [BlockReading.cons, hi, Except.map]

/-- **A block of which only a part is at hand is waited for.**  The part is shorter than the block,
so its closing word is not at hand. -/
theorem read_part {ss : List (Setting × Value)} {cut : List Lexeme}
    (h : Spells (word :: cut ++ rest) (.setOptions b ss)) (hr : rest ≠ [])
    (hm : (Action.setOptions b ss).PermittedIn mode) (hs : ShortValues (word :: cut ++ rest)) :
    (read mode true word cut).result = .error .waiting := by
  obtain ⟨w, r, z, hl, hw, hset, -⟩ := h.exists_blockStart
  obtain ⟨rfl, ht⟩ := List.cons.inj hl
  have hc : cut <+: r := by
    have hpre : cut <+: r ++ [z] := ⟨rest, ht⟩
    refine (List.prefix_concat_iff.1 hpre).resolve_left fun he => hr ?_
    rw [he] at ht
    exact List.append_right_eq_self.1 ht
  have hshort : ShortValues r := by
    rw [hl] at hs
    exact hs.tail.left_of_append
  obtain ⟨m, rfl⟩ : ∃ m, mode = some m := by
    cases b with
    | options => exact Option.ne_none_iff_exists'.1 hm.1
    | update => exact ⟨_, hm⟩
  obtain ⟨hb, ha⟩ := permittedIn_setOptions.1 hm
  have hmode : needBlockMode b (some m) word = .ok m := needBlockMode_eq_ok.2 ⟨rfl, hb⟩
  simp only [read, hw, hmode, readBlock, readSettings_part hset ha hshort hc]

end Reader
end PlotScript
