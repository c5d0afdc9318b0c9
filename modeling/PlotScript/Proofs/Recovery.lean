/-
# Recovery on the next line

After a malformed command a lenient executor goes on behind the line of the lexeme that is blamed.
If that is the line of the command, the command that begins the next line is carried out.  But a
command that lacks an argument looks for it on the next line, if that is there already, and blames
what it finds: so the next line is lost.  It is never lost if it comes only after the malformed
command was run (`next_line_enacted`).

The language specification, §8, says that in lenient mode the calls of a valid line after a
malformed one are made; §13 says where reading goes on.
-/

import PlotScript.Proofs.Handshake
import PlotScript.Proofs.Stopping
import PlotScript.Proofs.Willing

namespace PlotScript

/-- Lexemes that are on one line, and what follows them begins another. -/
structure Line (l r : List Lexeme) : Prop where
  together : ∀ x ∈ l, ∀ y ∈ l, y.place.sameLine x.place = true
  apart : ∀ x ∈ l, ∀ y ∈ r.head?, y.place.sameLine x.place = false

namespace Line

variable {l r : List Lexeme}

/-- What is left of a line is on one line. -/
theorem drop (h : Line l r) (n : Nat) : Line (l.drop n) r :=
  ⟨fun x hx y hy => h.together x (List.mem_of_mem_drop hx) y (List.mem_of_mem_drop hy),
    fun x hx => h.apart x (List.mem_of_mem_drop hx)⟩

/-- The rest of a line is what is on the line of its first lexeme. -/
theorem takeWhile_sameLine {x : Lexeme} (h : Line (x :: l) r) :
    ((l ++ r).takeWhile fun y => y.place.sameLine x.place) = l := by
  rw [List.takeWhile_append_of_pos fun y hy =>
    h.together x List.mem_cons_self y (List.mem_cons_of_mem _ hy)]
  cases r with
  | nil => exact List.append_nil l
  | cons y r =>
    have hy := h.apart x List.mem_cons_self y rfl
    rw [List.takeWhile_cons_of_neg (by simp [hy]), List.append_nil]

/-- The line after a lexeme begins where its line ends. -/
theorem nextLine_eq (h : Line l r) {s : Stream} {n k : Nat} (hs : s.drop n = l ++ r)
    (hk : k < l.length) : Executor.nextLine s (n + k) = n + l.length := by
  have hd : s.drop (n + k) = l.drop k ++ r := by
    have hd : s.drop (n + k) = (s.drop n).drop k := List.drop_drop.symm
    rw [hd, hs, List.drop_append_of_le_length hk.le]
  have hpos : 0 < (l.drop k).length := by
    rw [List.length_drop]
    omega
  obtain ⟨x, t, ht⟩ := List.exists_cons_of_length_pos hpos
  have hlen : (l.drop k).length = t.length + 1 := congrArg List.length ht
  have hline := h.drop k
  rw [ht] at hd hline
  rw [Executor.nextLine, hd]
  simp only [List.cons_append]
  rw [hline.takeWhile_sameLine]
  rw [List.length_drop] at hlen
  omega

/-- A line is one whatever follows it, also nothing. -/
theorem alone (h : Line l r) : Line l [] :=
  ⟨h.together, fun _ _ _ hy => absurd hy (by simp)⟩

end Line

/-- In a mode, a line begins with a command that fits on it; its first `n` lexemes make it up. -/
structure Fits (mode : Option Mode) (l r : List Lexeme) (a : Action) (n : Nat) : Prop where
  line : Line l r
  begins : Grammar.Begins mode (l ++ r) a n
  within : n ≤ l.length
  /-- The values of settings are not too long to be read. -/
  values : Reader.ShortValues ((l ++ r).take n)

namespace Fits

variable {mode : Option Mode} {l r : List Lexeme} {a : Action} {n : Nat}

/-- A line on which a command fits has a first lexeme. -/
theorem exists_cons (h : Fits mode l r a n) : ∃ w t, l = w :: t := by
  obtain ⟨ws, tail, -, rfl, hws, -, -⟩ := h.begins
  exact List.exists_cons_of_length_pos (hws.length_pos.trans_le h.within)

/-- A command that fits on a line does not need the lines after it. -/
theorem alone (h : Fits mode l r a n) : Fits mode l [] a n := by
  refine ⟨h.line.alone, ?_, h.within, ?_⟩
  · obtain ⟨ws, tail, hl, rfl, hws, he, hm⟩ := h.begins
    obtain ⟨t, rfl⟩ : ws <+: l :=
      List.prefix_of_prefix_length_le ⟨tail, hl.symm⟩ (List.prefix_append l r) h.within
    rw [List.append_assoc] at hl
    obtain rfl := List.append_cancel_left hl
    exact ⟨ws, t, List.append_nil _, rfl, hws, he.of_append, hm⟩
  · have hv := h.values
    rw [List.take_append_of_le_length h.within] at hv
    rwa [List.append_nil]

end Fits

/-- Notes are added, and every command among them begins at a number or after it. -/
def Deed.Onward (n : Nat) (l m : List Deed) : Prop :=
  ∃ new, m = l ++ new ∧ ∀ k a, begun k a ∈ new → n ≤ k

/-- Where nothing is noted, no command begins. -/
theorem Deed.Onward.refl (n : Nat) (l : List Deed) : Onward n l l :=
  ⟨[], (List.append_nil l).symm, fun _ _ h => absurd h List.not_mem_nil⟩

/-- Notes of commands from a number on, and then of commands from a later one on, are of commands
from the first number on. -/
theorem Deed.Onward.trans {n k : Nat} {l m o : List Deed} (h : Onward n l m) (hk : n ≤ k)
    (h' : Onward k m o) : Onward n l o := by
  obtain ⟨new, rfl, hnew⟩ := h
  obtain ⟨new', rfl, hnew'⟩ := h'
  refine ⟨new ++ new', List.append_assoc .., fun i a hi => ?_⟩
  rcases List.mem_append.1 hi with hi | hi
  · exact hnew i a hi
  · exact hk.trans (hnew' i a hi)

namespace Executor

variable {σ : Type} {e : Executor σ} {word : Lexeme} {rest : List Lexeme}

/-- That a complaint is reported begins no command. -/
theorem onward_report (p : Past σ) (n k : Nat) (c : Complaint) :
    Deed.Onward n p.deeds (p.report k c).deeds := by
  refine ⟨[.reported k c], rfl, fun i a hi => ?_⟩
  cases List.mem_singleton.1 hi

/-- Recovering from a complaint does not go back before the command. -/
theorem le_index_recover {start : Nat} (h : start ≤ e.index) (c : Complaint) :
    start ≤ (e.recover start word c).state.index := by
  have hb := le_blamed start c
  have ho := recovered e start word c
  generalize e.recover start word c = o at ho ⊢
  cases ho with
  | ended | lost => exact h
  | inBlock => exact hb
  | nextLine => exact hb.trans (lt_nextLine e.stream (blamed start c)).le

/-- Passing over a block does not go back. -/
theorem le_index_skip (b : Block) (h : e.index ≤ e.stream.size) : e.index ≤ (e.skip b).index := by
  have ht := skipped e b
  generalize e.skip b = t at ht ⊢
  cases ht with
  | closed => exact (Nat.le_add_right ..).trans (Nat.le_succ _)
  | unclosed => exact h

variable [Device σ]

/-- A command that is carried out begins where it stands, and no other begins then. -/
theorem onward_enact (p : Past σ) (n : Nat) (a : Action) (cs : List Call) :
    Deed.Onward n p.deeds (p.enact n a cs).deeds := by
  refine ⟨_, rfl, fun i a' hi => ?_⟩
  rcases List.mem_cons.1 hi with hi | hi
  · cases hi
    exact le_rfl
  · rcases List.mem_append.1 hi with hi | hi
    · obtain ⟨m, hx⟩ := Action.exists_of_mem_modeDeeds hi
      cases hx
    · obtain ⟨c, r, hx, -⟩ := asked_of_mem_askAll hi
      cases hx

/-- A command that is carried out begins where the executor is, and the executor does not go
back. -/
theorem onward_carryOut (e : Executor σ) (word : Lexeme) (a : Action) (n : Nat) :
    Deed.Onward e.index e.past.deeds (e.carryOut word a n).state.past.deeds ∧
      e.index ≤ (e.carryOut word a n).state.index := by
  refine ⟨?_, ?_⟩
  · obtain ⟨cs, -, h | ⟨c, h⟩⟩ := past_carryOut_cases e word a n
    · rw [h]
      exact onward_enact e.past e.index a cs
    · rw [h]
      exact (onward_enact e.past e.index a cs).trans le_rfl (onward_report _ e.index e.index c)
  · unfold carryOut
    simp only
    split
    · exact Nat.le_add_right ..
    · exact le_index_recover (Nat.le_add_right ..) _
    · exact Nat.le_add_right ..

/-- **A step begins no command before the first lexeme that waits.** -/
theorem onward_step (hw : e.waiting = word :: rest) :
    Deed.Onward e.index e.past.deeds (e.step word rest).state.past.deeds ∧
      e.index ≤ (e.step word rest).state.index := by
  have h := stepped e word rest
  generalize e.step word rest = o at h ⊢
  cases h with
  | @skipped b _ =>
    refine ⟨?_, le_index_skip b (index_lt_of_waiting hw).le⟩
    show Deed.Onward _ _ (e.skip b).past.deeds
    rw [past_skip]
    exact .refl ..
  | waits | failed => exact ⟨.refl .., le_rfl⟩
  | wrong =>
    refine ⟨?_, le_index_recover le_rfl _⟩
    show Deed.Onward _ _ (e.recover _ _ _).state.past.deeds
    rw [past_recover]
    exact onward_report e.past e.index e.index _
  | read => exact onward_carryOut e word _ _

/-- **A run begins no command before the first lexeme that waits**, and does not go back. -/
theorem onward_run (e : Executor σ) :
    Deed.Onward e.index e.past.deeds e.run.state.past.deeds ∧ e.index ≤ e.run.state.index :=
  rel_run (r := fun e t => Deed.Onward e.index e.past.deeds t.past.deeds ∧ e.index ≤ t.index)
    (fun _ => ⟨.refl .., le_rfl⟩) (fun h k => ⟨h.1.trans h.2 k.1, h.2.trans k.2⟩) onward_step e

/-- A lenient executor has come to a malformed command that is no option block; a lexeme that is
`offset` behind the command's word is blamed. -/
structure Malformed (e : Executor σ) (word : Lexeme) (rest : List Lexeme) (cause : Cause)
    (x : Lexeme) (offset : Nat) : Prop where
  strict : e.strict = false
  skipping : e.skipping = none
  waiting : e.waiting = word :: rest
  noBlock : ∀ b, word.kind ≠ .blockStart b
  read : (Reader.read e.mode e.mayGrow word rest).result = .error (.wrong cause x offset)

variable {cause : Cause} {x : Lexeme} {offset : Nat}

/-- The complaint about a malformed command. -/
def fault (e : Executor σ) (cause : Cause) (x : Lexeme) (offset : Nat) : Complaint :=
  ⟨cause, some x, some (e.index + offset)⟩

/-- Where a lenient executor goes on after a malformed command. -/
def goOn (e : Executor σ) (c : Complaint) (offset : Nat) : Executor σ :=
  { e.note (.reported e.index c) with index := nextLine e.stream (e.index + offset) }

omit [Device σ] in
/-- Going on after a malformed command is, for the past, that the command is reported. -/
@[simp] theorem past_goOn (e : Executor σ) (c : Complaint) (offset : Nat) :
    (e.goOn c offset).past = e.past.report e.index c := rfl

omit [Device σ] in
/-- After a complaint about a command that is no block, reading goes on with the next line. -/
theorem resume_of_noBlock (hb : ∀ b, word.kind ≠ .blockStart b) (start : Nat) (c : Complaint) :
    e.resume start word c = { e with index := nextLine e.stream (blamed start c) } := by
  unfold resume
  split
  · rename_i b h
    exact absurd h (hb b)
  · rfl

omit [Device σ] in
/-- A lexeme of the stream is found. -/
theorem astray_of_lt {start : Nat} {c : Complaint} (h : blamed start c < e.stream.size)
    (word : Lexeme) : e.astray start word c = false := by
  unfold astray
  split
  · rfl
  · simpa using h

omit [Device σ] in
/-- A lexeme that is not there is not found, but for a block it is not looked for. -/
theorem astray_of_not_lt {start : Nat} {word : Lexeme} {c : Complaint}
    (hb : ∀ b, word.kind ≠ .blockStart b) (h : ¬blamed start c < e.stream.size) :
    e.astray start word c = true := by
  unfold astray
  split
  · rename_i b hw
    exact absurd hw (hb b)
  · simpa using h

omit [Device σ] in
/-- A fault of reading is blamed on the lexeme at its offset. -/
theorem blamed_add (start offset : Nat) (cause : Cause) (x : Option Lexeme) :
    blamed start ⟨cause, x, some (start + offset)⟩ = start + offset := by
  show max ((start : Int) + offset).toNat start = _
  omega

omit [Device σ] in
/-- A fault of reading is blamed on a lexeme that waits, so it is found. -/
theorem astray_of_wrong {more : Bool} (hw : e.waiting = word :: rest)
    (hr : (Reader.read e.mode more word rest).result = .error (.wrong cause x offset)) :
    e.astray e.index word ⟨cause, some x, some (e.index + offset)⟩ = false := by
  have hle := Reader.offset_le_of_read hr
  have hlen := length_waiting hw
  exact astray_of_lt (by rw [blamed_add]; omega) word

omit [Device σ] in
/-- A lenient executor goes on after a complaint, if it finds the lexeme that is blamed. -/
theorem recover_of_lenient (h : e.strict = false) {start : Nat} {word : Lexeme} {c : Complaint}
    (ha : e.astray start word c = false) :
    e.recover start word c = ⟨.ok (.reported [c]), [.report .command c],
      (e.note (.reported start c)).resume start word c⟩ := by
  have hn : (e.note (.reported start c)).strict = false := h
  have ha' : (e.note (.reported start c)).astray start word c = false := ha
  rw [recover]
  simp only [hn, ha', Bool.false_eq_true, if_false]

omit [Device σ] in
/-- A lenient executor that does not find the lexeme that is blamed ends the run where it is. -/
theorem recover_of_astray (h : e.strict = false) {start : Nat} {word : Lexeme} {c : Complaint}
    (ha : e.astray start word c = true) :
    e.recover start word c = ⟨.error (.failure .outOfRange), [.report .command c],
      e.note (.reported start c)⟩ := by
  have hn : (e.note (.reported start c)).strict = false := h
  have ha' : (e.note (.reported start c)).astray start word c = true := ha
  rw [recover]
  simp only [hn, ha', Bool.false_eq_true, if_false, if_true]

omit [Device σ] in
/-- An executor that goes on after a complaint is lenient and has found the lexeme that is
blamed. -/
theorem of_recover_eq_ok {start : Nat} {word : Lexeme} {c : Complaint} {s : Step}
    (h : (e.recover start word c).result = .ok s) :
    e.strict = false ∧ e.astray start word c = false ∧ s = .reported [c] := by
  have ho := recovered e start word c
  generalize e.recover start word c = o at h ho
  cases ho with
  | ended | lost => cases h
  | inBlock hs hw =>
    have ha : e.astray start word c = false := by simp only [astray, hw]
    exact ⟨hs, ha, (Except.ok.inj h).symm⟩
  | nextLine hs _ hlt => exact ⟨hs, astray_of_lt hlt word, (Except.ok.inj h).symm⟩

omit [Device σ] in
/-- A lenient executor reports a malformed command and goes on. -/
theorem recover_of_noBlock (hs : e.strict = false) (hb : ∀ b, word.kind ≠ .blockStart b)
    (ha : e.astray e.index word (e.fault cause x offset) = false) :
    e.recover e.index word (e.fault cause x offset) =
      ⟨.ok (.reported [e.fault cause x offset]), [.report .command (e.fault cause x offset)],
        e.goOn (e.fault cause x offset) offset⟩ := by
  have hblame : blamed e.index (e.fault cause x offset) = e.index + offset := blamed_add ..
  rw [recover_of_lenient hs ha, resume_of_noBlock hb, hblame]
  rfl

/-- **After a malformed command, a lenient executor goes on behind the line that is blamed.** -/
theorem Malformed.state_run (h : Malformed e word rest cause x offset) :
    e.run.state = (e.goOn (e.fault cause x offset) offset).run.state := by
  have hstep : ∃ es, e.step word rest = ⟨.ok (.reported [e.fault cause x offset]), es,
      e.goOn (e.fault cause x offset) offset⟩ := by
    rw [step, h.skipping]
    simp only [command, h.read]
    have hr : e.recover e.index word ⟨cause, some x, some (e.index + offset)⟩ = _ :=
      recover_of_noBlock h.strict h.noBlock (astray_of_wrong h.waiting h.read)
    rw [hr]
    exact ⟨_, rfl⟩
  obtain ⟨es, hstep⟩ := hstep
  rw [run_of_cons h.waiting, hstep]

section Lines

variable {mode : Option Mode} {line next later tail : List Lexeme} {a : Action} {n : Nat}

omit [Device σ] in
/-- What waits behind a line. -/
theorem drop_of_waiting (hw : e.waiting = word :: (line ++ rest)) :
    e.stream.drop (e.index + line.length + 1) = rest := by
  have hd : e.stream.drop (e.index + (line.length + 1)) = e.waiting.drop (line.length + 1) :=
    List.drop_drop.symm
  rw [Nat.add_assoc, hd, hw, List.drop_succ_cons, List.drop_left]

omit [Device σ] in
/-- If the blamed lexeme is on the line, the next line comes next. -/
theorem index_goOn_of_le (hw : e.waiting = word :: (line ++ rest)) (hl : Line (word :: line) rest)
    (ho : offset ≤ line.length) (c : Complaint) :
    (e.goOn c offset).index = e.index + line.length + 1 :=
  hl.nextLine_eq (s := e.stream) hw (Nat.lt_succ_of_le ho)

omit [Device σ] in
/-- If the blamed lexeme is not on the line, the next line is passed over. -/
theorem index_goOn_of_lt (hw : e.waiting = word :: (line ++ (next ++ later)))
    (hn : Line next later) (ho : line.length < offset) (c : Complaint) :
    e.index + line.length + 1 + next.length ≤ (e.goOn c offset).index := by
  show _ ≤ nextLine e.stream (e.index + offset)
  by_cases hlt : offset - (line.length + 1) < next.length
  · have h := hn.nextLine_eq (drop_of_waiting hw) hlt
    rw [show e.index + offset = e.index + line.length + 1 + (offset - (line.length + 1)) by omega,
      h]
  · have h := lt_nextLine e.stream (e.index + offset)
    omega

/-- **All lines at once.**  The command that begins the next line is carried out exactly if the
lexeme that is blamed is on the line of the malformed command. -/
theorem Malformed.enacts_run_iff (h : Malformed e word (line ++ (next ++ later)) cause x offset)
    (hl : Line (word :: line) (next ++ later)) (hn : Fits e.mode next later a n) :
    (e.past.report e.index (e.fault cause x offset)).Enacts (e.index + line.length + 1) a
      e.run.state.past ↔ offset ≤ line.length := by
  obtain ⟨w, t, rfl⟩ := hn.exists_cons
  rw [h.state_run]
  constructor
  · rintro ⟨cs, -, hlead⟩
    by_contra ho
    have hi := index_goOn_of_lt h.waiting hn.line (Nat.lt_of_not_le ho) (e.fault cause x offset)
    obtain ⟨new, hnew, hlow⟩ := (onward_run (e.goOn (e.fault cause x offset) offset)).1
    obtain ⟨r, hr⟩ := hlead.deeds_isPrefix
    rw [hnew, past_goOn] at hr
    -- The notes of the rest of the run begin with the command, but it is not onward.
    have hin : Deed.begun (e.index + line.length + 1) a ∈ new := by
      rw [Past.enact, List.append_assoc] at hr
      rw [← List.append_cancel_left hr]
      exact List.mem_cons_self
    have hle := hlow _ _ hin
    simp only [List.length_cons] at hi
    omega
  · intro ho
    have hi := index_goOn_of_le h.waiting hl ho (e.fault cause x offset)
    have hw : (e.goOn (e.fault cause x offset) offset).waiting = w :: (t ++ later) := by
      show e.stream.drop (e.goOn (e.fault cause x offset) offset).index = _
      rw [hi]
      exact drop_of_waiting h.waiting
    have hlead := enacts_run_of_read (e := e.goOn (e.fault cause x offset) offset) h.skipping hw
      (Reader.read_of_begins hn.begins hn.values)
    rwa [hi, past_goOn] at hlead

/-- **Line by line.**  The command that begins the next line is always carried out, also if the end
of the file comes with the line. -/
theorem Malformed.enacts_parse (h : Malformed e word line cause x offset)
    (hl : Line (word :: line) (next ++ later)) (hn : Fits e.mode next later a n)
    (he : e.stream.ended = false) (hend : ∀ y ∈ next, y.kind ≠ .endOfFile) (ht : Closing tail) :
    (e.past.report e.index (e.fault cause x offset)).Enacts (e.index + line.length + 1) a
      (e.run.state.parse (next ++ tail)).state.past := by
  obtain ⟨w, t, rfl⟩ := hn.exists_cons
  have hw : e.waiting = word :: (line ++ []) := h.waiting.trans (by rw [List.append_nil])
  have hi := index_goOn_of_le hw hl.alone (Reader.offset_le_of_read h.read)
    (e.fault cause x offset)
  have hsize : e.index + line.length + 1 = e.stream.size := length_waiting h.waiting
  have hrun : e.run.state = e.goOn (e.fault cause x offset) offset := by
    rw [h.state_run, run_of_nil]
    show e.stream.drop (e.goOn (e.fault cause x offset) offset).index = _
    rw [hi]
    exact drop_of_waiting hw
  rw [hrun]
  have hb := hn.alone.begins
  have hv := hn.alone.values
  rw [List.append_nil] at hb hv
  have hlead := enacts_parse_of_read (e := e.goOn (e.fault cause x offset) offset) h.skipping
    (hi.trans hsize) he hend ht fun _ => Reader.read_of_begins hb hv
  rwa [hi, past_goOn] at hlead

/-- **Which next line is lost.**  After a malformed command, a lenient executor carries out the
command that fits on the next line: if the next line was there already, exactly if the blamed
lexeme is on the malformed command's own line, and if it comes only now, always. -/
theorem next_line_enacted (hl : Line (word :: line) (next ++ later))
    (hn : Fits mode next later a n) (hend : ∀ y ∈ next, y.kind ≠ .endOfFile)
    (ht : Closing tail) :
    (∀ (e : Executor σ) cause x offset, e.mode = mode →
      Malformed e word (line ++ (next ++ later)) cause x offset →
      ((e.past.report e.index (e.fault cause x offset)).Enacts (e.index + line.length + 1) a
        e.run.state.past ↔ offset ≤ line.length)) ∧
    ∀ (e : Executor σ) cause x offset, e.mode = mode → e.stream.ended = false →
      Malformed e word line cause x offset →
      (e.past.report e.index (e.fault cause x offset)).Enacts (e.index + line.length + 1) a
        (e.run.state.parse (next ++ tail)).state.past := by
  refine ⟨?_, ?_⟩
  · rintro e cause x offset rfl h
    exact h.enacts_run_iff hl hn
  · rintro e cause x offset rfl he h
    exact h.enacts_parse hl hn he hend ht

end Lines

/-- A word on a line of its own. -/
def onLine (n : Int) (k : Kind) (text : String) : Lexeme := ⟨⟨k, text⟩, ⟨"", n, 0, 0, none⟩⟩

/-- A motion without its second coordinate. -/
def halfMotion : List Lexeme := [onLine 2 .goTo "GOTO", onLine 2 .number "1"]

/-- An executor in interactive mode, with lexemes that wait. -/
def interactive (l : List Lexeme) : Executor Recorder :=
  let e := (start false .standard Recorder.obliging .bare).live
    [.parse [onLine 1 .mode "MODE", onLine 1 (.modeName .interactive) "I"]]
  { e with stream := ⟨e.stream.entries ++ l, false⟩ }

/-- A motion without its second coordinate: the pen goes up on the next line if this comes later,
and does not if it is there at once. -/
theorem next_line_enacted_halfMotion :
    let e := interactive (halfMotion ++ [onLine 3 .penUp "PENUP"])
    let t := interactive halfMotion
    let atOnce := e.fault (.argumentInvalid .y "GOTO") (onLine 3 .penUp "PENUP") 2
    let byLine := t.fault (.argumentInvalid .y "GOTO") (onLine 2 .goTo "GOTO") 0
    ¬(e.past.report 2 atOnce).Enacts 4 .penUp e.run.state.past ∧
      (t.past.report 2 byLine).Enacts 4 .penUp
        (t.run.state.parse [onLine 3 .penUp "PENUP"]).state.past := by
  intro e t atOnce byLine
  have hl : Line halfMotion ([onLine 3 .penUp "PENUP"] ++ []) := ⟨by decide, by decide⟩
  have hn : Fits (some .interactive) [onLine 3 .penUp "PENUP"] [] .penUp 1 := by
    refine ⟨⟨by decide, by decide⟩, ⟨_, [], rfl, rfl, ?_, trivial, rfl⟩, le_rfl, by decide⟩
    exact .word rfl
  have he : Malformed e (onLine 2 .goTo "GOTO") [onLine 2 .number "1", onLine 3 .penUp "PENUP"]
      (.argumentInvalid .y "GOTO") (onLine 3 .penUp "PENUP") 2 :=
    ⟨by decide +kernel, by decide +kernel, by decide +kernel, nofun, by decide +kernel⟩
  have ht : Malformed t (onLine 2 .goTo "GOTO") [onLine 2 .number "1"]
      (.argumentInvalid .y "GOTO") (onLine 2 .goTo "GOTO") 0 :=
    ⟨by decide +kernel, by decide +kernel, by decide +kernel, nofun, by decide +kernel⟩
  obtain ⟨hall, hone⟩ := next_line_enacted (σ := Recorder) hl hn (by decide) (.inl rfl)
  have hall := hall e _ _ 2 (by decide +kernel) he
  have hone := hone t _ _ 0 (by decide +kernel) (by decide +kernel) ht
  rw [show e.index = 2 by decide +kernel] at hall
  rw [show t.index = 2 by decide +kernel] at hone
  refine ⟨fun h => ?_, hone⟩
  have hle := hall.1 h
  exact absurd hle (by decide)

/-- A motion lacks a coordinate, and the pen does not go up on the next line. -/
theorem next_line_lost :
    Deed.calls ((start false .standard Recorder.obliging .bare).live
      [.parse (Lexer.reading ["MODE I", "GOTO 1", "PENUP"] none).tokens.1]).past.deeds =
        [.enterInteractive, .currentMode] := by
  decide +kernel

end Executor
end PlotScript
