/-
# Sourcing a script

A session that sources a script carries out one line after another, each without the blanks around
it and with what no terminal shows left out, and goes on after a fault; a run of the script reads
the file as a whole first and ends at a fault.  Where the run comes to its end, the session does
the same (`Session.source_eq_execute`), if all characters of the script can be shown and each
command is on one line or is an option block.

The words of each line are those of the file, but for their places (`Lexer.alike_sanitize`).  So
from line to line the session is on the course that the run takes (`Session.Sourcing`), and only a
block may wait for its next line.

The language specification, §4.3, has the lines of a sourced file dispatched as if they were typed.
-/

import PlotScript.Proofs.Batch
import PlotScript.Proofs.Seams
import PlotScript.Session

namespace PlotScript

open Grammar

/-- A record of an error. -/
def Event.isError : Event → Bool
  | log .error _ | log .fatal _ => true
  | log _ _ | out _ | call _ | machine _ | get _ _ _ => false

namespace Session

open Executor Lexer

variable {σ : Type} [Device σ] {e : Executor σ} {words : List Lexeme} {cut rest : List Lexeme}
  {es : List Event} {d : Bench σ} {s : Lexer × Executor σ} {c c' : Option Lexeme} {line : String}
  {name : Option String}

/-- Known words are run. -/
theorem feed_eq (hne : words ≠ []) (hk : ∀ x ∈ words, x.kind ≠ .unknown) {l : List Complaint}
    (h : (e.parse words).result = .ok l) (unknown : List Complaint) :
    feed words unknown e = ⟨.ok (), (e.parse words).events, (e.parse words).state⟩ := by
  obtain ⟨x, hx⟩ := List.exists_mem_of_ne_nil words hne
  have hall : ¬(words.all fun x => decide (x.kind = .unknown)) = true := by
    rw [List.all_eq_true]
    exact fun ha => hk x hx (of_decide_eq_true (ha x hx))
  have hp : e.parse words = ⟨.ok l, (e.parse words).events, (e.parse words).state⟩ := by
    rw [← h]
  rw [feed, if_neg hall]
  refine (Act.bind_eq (x := fun e : Executor σ => e.parse words) hp rfl).trans ?_
  rw [List.append_nil]

/-- To feed no lines does nothing. -/
@[simp] theorem feed_nil (e : Executor σ) : feed [] [] e = ⟨.ok (), [], e⟩ := rfl

/-- The words of a line are fed, if all are known. -/
theorem runLine_eq {text : String} {n : Nat} {y : Lexer} {x : Lexeme} (hx : x.kind = .endOfFile)
    (hw : ∀ z ∈ words, z.kind ≠ .endOfFile)
    (hl : s.1.lexLine text (some (n : Int)) = (.ok (words ++ [x]), y))
    (hc : y.complaints = s.1.complaints) : runLine text n s =
      ⟨(feed words [] s.2).result, (feed words [] s.2).events, (y, (feed words [] s.2).state)⟩ := by
  have hf : (words ++ [x]).filter (fun z => decide (z.kind ≠ .endOfFile)) = words := by
    rw [List.filter_append, List.filter_eq_self.2 fun z hz => by simpa using hw z hz]
    simp [hx]
  have hu : y.complaintsSince s.1 = [] := by
    rw [complaintsSince, hc, List.drop_length]
  obtain ⟨z, e⟩ := s
  simp only at hl hu
  simp only [runLine, hl, hf, hu, List.map_nil, List.nil_append]

/-- There is no complaint about unknown words if and only if none is unknown. -/
theorem unknowns_eq_nil {l : List Lexeme} : unknowns l = [] ↔ ∀ x ∈ l, x.kind ≠ .unknown := by
  rw [unknowns, List.map_eq_nil_iff, List.filter_eq_nil_iff]
  simp

/-- What is known of a script while it is sourced: of the lexer and the executor, where the words
that are still to come are those of the lines from a number on. -/
structure Sourcing (s : Lexer × Executor σ) (c : Option Lexeme) (number : Int)
    (cut rest : List Lexeme) (es : List Event) (d : Bench σ) : Prop where
  unread : s.1.unread = none
  comment : s.1.comment.isSome = c.isSome
  course : OnCourse s.2 cut rest es d
  before : ∀ x ∈ cut, x.place.lineNumber < number
  settled : rest = [] → cut = []

/-- Words of a script that are known, and of which none ends it. -/
def Known (l : List Lexeme) : Prop := ∀ x ∈ l, x.kind ≠ .unknown ∧ x.kind ≠ .endOfFile

/-- Whether all words are known depends on their tokens alone, not on their places. -/
theorem Known.alike {l m : List Lexeme} (h : Known m) (hl : Alike l m) : Known l := by
  induction hl with
  | nil => exact h
  | cons hx _ ih =>
    intro y hy
    rcases List.mem_cons.1 hy with rfl | hy
    · have hk := h _ List.mem_cons_self
      rwa [Lexeme.kind, ← hx] at hk
    · exact ih (fun z hz => h z (.tail _ hz)) y hy

/-- The words of a line are run as far as they go. -/
theorem Sourcing.feed {n : Int} {l m : List Lexeme} {y : Lexer}
    (h : Sourcing s c n cut (m ++ rest) es d) (hl : Alike l m) (hk : Known m)
    (hm : ∀ x ∈ m, x.place.lineNumber = n) (hr : ∀ x ∈ rest, n < x.place.lineNumber)
    (hyu : y.unread = none) (hyc : y.comment.isSome = c'.isSome) :
    ∃ t fs cut' gs, feed l [] s.2 = ⟨.ok (), fs, t⟩ ∧
      Sourcing (y, t) c' (n + 1) cut' rest gs d ∧
      Event.unlogged es = Event.unlogged fs ++ Event.unlogged gs ∧ Ordinary σ fs := by
  cases hl with
  | nil =>
    refine ⟨s.2, [], cut, es, feed_nil s.2, ⟨hyu, hyc, h.course, fun x hx => ?_, h.settled⟩, rfl,
      ordinary_nil⟩
    have hlt := h.before x hx
    omega
  | @cons x x' l m hx hl =>
    have hknown := hk.alike (.cons hx hl)
    have hcut : ∀ z ∈ cut ++ x' :: m, z.place.lineNumber ≤ n := by
      intro z hz
      rcases List.mem_append.1 hz with hz | hz
      · exact Int.le_of_lt (h.before z hz)
      · exact Int.le_of_eq (hm z hz)
    have hparse : s.2.parse (x :: l) = (s.2.grow (x :: l)).run :=
      parse_of_forall h.course.ended fun z hz => (hknown z hz).2
    obtain ⟨cut', gs, hres, ht, hsuf, hnil, hu, ho⟩ := (h.course.grow (.cons hx hl)).run
      fun z hz z' hz' => Int.ne_of_lt (Int.lt_of_le_of_lt (hcut z hz) (hr z' hz'))
    rw [← hparse] at hres ht hu ho
    refine ⟨_, _, cut', gs, feed_eq (List.cons_ne_nil _ _) (fun z hz => (hknown z hz).1) hres [],
      ⟨hyu, hyc, ht, fun z hz => ?_, hnil⟩, hu, ho⟩
    have hle := hcut z (hsuf.subset hz)
    omega

/-- **One line of a script is sourced.**  It is sanitized, which keeps its tokens, and what is left
of the course so far goes on with its words; an empty line is passed over. -/
theorem Sourcing.oneLine {n : Nat} (h : Sourcing s c n cut ((lineRow name c n line).words ++ rest)
      es d) (hl : Text.Legible line.toList) (hs : ¬Part.Seamed c.isSome (chars line))
    (hk : Known (lineRow name c n line).words)
    (hr : ∀ x ∈ rest, (n : Int) < x.place.lineNumber) :
    ∃ t fs cut' gs, runSourced (line, n) s = ⟨.ok (), fs, t⟩ ∧
      Sourcing t (lineRow name c n line).comment (n + 1) cut' rest gs d ∧
      Event.unlogged es = Event.unlogged fs ++ Event.unlogged gs ∧ Ordinary σ fs := by
  obtain ⟨ha, hc⟩ : Alike (lineRow s.1.source s.1.comment n (Text.sanitize line)).words
      (lineRow name c n line).words ∧
        (lineRow s.1.source s.1.comment n (Text.sanitize line)).comment.isSome =
          (lineRow name c n line).comment.isSome := alike_sanitize h.comment hl hs
  have hm : ∀ x ∈ (lineRow name c n line).words, x.place.lineNumber = (n : Int) :=
    fun x => lineNumber_of_mem_lineRow
  by_cases hempty : (Text.sanitize line).isEmpty = true
  · rw [String.isEmpty_iff.1 hempty, lineRow_empty] at ha hc
    obtain ⟨t, fs, cut', gs, hf, ht⟩ := h.feed ha hk hm hr h.unread hc
    cases hf
    refine ⟨s, [], cut', gs, ?_, ht⟩
    simp only [runSourced, hempty]
    rfl
  · obtain ⟨place, y, hlex, hyc, -, -, hyu, hyk⟩ :=
      Lexer.lexLine_eq h.unread (Text.sanitize line) (some (n : Int))
    simp only [Option.getD_some] at hlex hyc hyk
    rw [unknowns_eq_nil.2 fun x hx => (hk.alike ha x hx).1, List.append_nil] at hyk
    obtain ⟨t, fs, cut', gs, hf, ht⟩ := h.feed ha hk hm hr hyu
      ((congrArg Option.isSome hyc).trans hc)
    refine ⟨(y, t), fs, cut', gs, ?_, ht⟩
    have hrun := @runLine_eq _ _ _ s (Text.sanitize line) n y _ rfl
      (fun x hx => (hk.alike ha x hx).2) hlex hyk
    rw [runSourced, if_neg hempty, hrun, hf]

/-- The words of lines stand on them. -/
theorem le_lineNumber_of_mem_rows {ls : List String} {k : Int} {x : Lexeme}
    (hx : x ∈ (rows name c k ls).words) : k ≤ x.place.lineNumber := by
  induction ls generalizing c k with
  | nil => exact absurd hx List.not_mem_nil
  | cons line ls ih =>
    rcases List.mem_append.1 hx with hx | hx
    · exact Int.le_of_eq (lineNumber_of_mem_lineRow hx).symm
    · exact Int.le_of_lt (Int.lt_of_lt_of_le (Int.lt_succ k) (ih hx))

/-- Where no word of a script is still to come, the executor has done all that it has to do. -/
theorem Sourcing.bench_eq {k : Int} (h : Sourcing s c k cut [] es d) :
    s.2.bench = d ∧ s.2.pending = false ∧ es = [] := by
  obtain rfl := h.settled rfl
  have hw : s.2.waiting = [] := List.forall₂_nil_right_iff.1 h.course.waiting
  have hc := h.course.course
  generalize hl : ([] : List Lexeme) ++ [] = l at hc
  cases hc with
  | nil =>
    refine ⟨rfl, ?_, rfl⟩
    have hi : s.2.stream.size ≤ s.2.index := List.drop_eq_nil_iff.1 hw
    rw [Executor.pending, h.course.skipping]
    simpa using hi
  | cons hws =>
    have hpos := hws.length_pos
    rw [(List.append_eq_nil_iff.1 hl.symm).1] at hpos
    exact absurd hpos (Nat.lt_irrefl 0)

/-- **The lines of a script are sourced one after another.** -/
theorem Sourcing.lines {ls : List String} {n : Nat}
    (h : Sourcing s c n cut (rows name c n ls).words es d)
    (hp : ∀ line ∈ ls, ∀ x ∈ line.toList, Text.isPrintable x = true ∧ Text.isLineEnd x = false)
    (hk : Known (rows name c n ls).words) :
    ∃ t fs, Act.forEach (ls.zipIdx n) runSourced s = ⟨.ok (), fs, t⟩ ∧
      t.2.bench = d ∧ t.2.pending = false ∧ Event.unlogged es = Event.unlogged fs ∧
      Ordinary σ fs := by
  induction ls generalizing s c n cut es with
  | nil =>
    obtain ⟨hb, hpend, rfl⟩ := h.bench_eq
    exact ⟨s, [], rfl, hb, hpend, rfl, ordinary_nil⟩
  | cons line ls ih =>
    have hline : ∀ x ∈ line.toList, Text.isPrintable x = true :=
      fun x hx => (hp line List.mem_cons_self x hx).1
    have hchars : chars line = line.toList :=
      congrArg String.toList (Text.dropLineEnd_of_forall fun x hx =>
        (hp line List.mem_cons_self x hx).2)
    obtain ⟨t, fs, cut', gs, ht, hs, hu, ho⟩ := Sourcing.oneLine h (fun x hx => .inl (hline x hx))
      (Part.not_seamed_of_forall (hchars ▸ hline))
      (fun x hx => hk x (List.mem_append_left _ hx))
      fun x hx => Int.lt_of_lt_of_le (Int.lt_succ n) (le_lineNumber_of_mem_rows hx)
    obtain ⟨u, fs', hrun, hb, hpend, hu', ho'⟩ := ih hs
      (fun line' hl => hp line' (List.mem_cons_of_mem line hl))
      fun x hx => hk x (List.mem_append_right _ hx)
    refine ⟨u, fs ++ fs', Act.bind_eq ht hrun, hb, hpend, ?_, ho.append ho'⟩
    simp [hu, hu']

/-- A file that can be decoded has all its lines in front of the first fault, for there is none. -/
theorem linesBeforeFault_eq {bytes : List UInt8} {cs : List Char}
    (h : Text.Utf8.decode? bytes = some cs) :
    Text.Utf8.linesBeforeFault bytes = (Text.fileLines cs, false) := by
  unfold Text.Utf8.decode? at h
  unfold Text.Utf8.linesBeforeFault
  split at h
  · rename_i hd
    rw [hd]
    cases h
    rfl
  · cases h

variable {path : String} {cs : List Char}

/-- The lines of a script are carried out one after another. -/
theorem source_eq {s : Session σ} {fs : List Event} {t : Lexer × Executor σ}
    (hs : Script.text s.executor.bench.site path = .ok cs)
    (h : Act.forEach ((Text.fileLines cs).zipIdx 1) runSourced
      (.handed (some path), s.executor) = ⟨.ok (), fs, t⟩) :
    source path s = ⟨.ok (), .log .debug ("Sourcing file '" ++ path ++ "'.") :: fs,
      { s with executor := t.2 }⟩ := by
  obtain ⟨bytes, hfile, hdecode⟩ := Script.of_text hs
  have hpath : ¬path.isEmpty = true := by
    intro hempty
    obtain rfl := String.isEmpty_iff.1 hempty
    cases hfile
  let x : Act Fault (Session σ) Unit := (Act.forEach ((Text.fileLines cs).zipIdx 1) runSourced).on
    (fun s => (.handed (some path), s.executor)) fun x s => { s with executor := x.2 }
  have hx : x s = ⟨.ok (), fs, { s with executor := t.2 }⟩ := by
    simp only [x, Act.on, h]
  have hrest : (x >>= fun _ => if false = true then complain (.fileUnreadable path) else pure ()) s =
      ⟨.ok (), fs, { s with executor := t.2 }⟩ := by
    refine (Act.bind_eq hx rfl).trans ?_
    rw [List.append_nil]
  have hrun : runFile path bytes s = ⟨.ok (), .log .debug ("Sourcing file '" ++ path ++ "'.") :: fs,
      { s with executor := t.2 }⟩ := by
    have hlines : runLines path bytes s = ⟨.ok (), fs, { s with executor := t.2 }⟩ := by
      rw [runLines, linesBeforeFault_eq hdecode]
      exact hrest
    refine Act.bind_eq rfl ((Act.rescue_of_ok (by rw [hlines]) _).trans hlines)
  refine Act.bind_eq (x := Act.get) rfl ?_
  rw [if_neg hpath, hfile]
  exact hrun

/-- What a session has done when it has sourced a script is what a run of the script has done. -/
structure AsRun (o : Outcome Fault (Executor σ) Unit) (s : Outcome Fault (Session σ) Unit) :
    Prop where
  result : s.result = .ok ()
  events : Event.unlogged s.events = Event.unlogged o.events
  deeds : s.state.executor.bench.deeds = o.state.bench.deeds
  device : s.state.executor.bench.device = o.state.bench.device
  mode : s.state.executor.mode = o.state.mode
  plotLoaded : s.state.executor.bench.plotLoaded = o.state.bench.plotLoaded
  pending : s.state.executor.pending = false
  complaints : Deed.complaints s.state.executor.bench.deeds = []
  /-- Only the plotter may leave a record of an error. -/
  errors : Device.Leaves σ (fun ev => ev.isError = false) → ∀ ev ∈ s.events, ev.isError = false

/-- **A script is sourced as it is run.**  A script that a fresh strict executor runs to its end,
with printable characters only and no command but a block in two lines, is sourced by a fresh
session with the same calls and answers, the same plotter and mode, and the same events but for the
log.  No complaint is made, nothing waits in the end, and no event of the session is an error, if
the plotter leaves none. -/
theorem source_eq_execute {p : Params} {device : σ} {site : Site}
    (hs : Script.text site path = .ok cs)
    (hp : ∀ x ∈ cs, Text.isLineEnd x = true ∨ Text.isPrintable x = true)
    (hl : Lined (Lexer.reading (Text.fileLines cs) (some path)).words)
    (h : (Script.execute path (Executor.start true p device site)).result = .ok ()) :
    AsRun (Script.execute path (Executor.start true p device site))
      (source path (Session.start p device site)) := by
  obtain ⟨es, d, hc, hu, he, hd⟩ := Script.course_of_execute hs h
  have hknown : Known (Lexer.reading (Text.fileLines cs) (some path)).words := fun x hx =>
    ⟨unknowns_eq_nil.1 hu x hx, (Lexer.of_mem_words hx).2⟩
  rw [words_reading] at hc hl hknown
  -- The session begins with nothing read, and with the course of the whole script ahead.
  have hbegin : Sourcing (.handed (some path), Executor.start false p device site) none 1 []
      (rows (some path) none 1 (Text.fileLines cs)).words es d :=
    ⟨rfl, rfl, ⟨rfl, rfl, rfl, Nat.le_refl 0, .nil, hc, hl⟩, fun x hx => absurd hx List.not_mem_nil,
      fun _ => rfl⟩
  obtain ⟨t, fs, hrun, hb, hpending, hfs, ho⟩ := Sourcing.lines (n := 1) hbegin
    (fun line hline x hx => by
      obtain ⟨hmem, hend⟩ := Text.of_mem_fileLines hline x hx
      exact ⟨(hp x hmem).resolve_left (by simp [hend]), hend⟩) hknown
  rw [source_eq (s := Session.start p device site) hs hrun]
  -- Closing the executor changes nothing of what it has done.
  have hpast : t.2.bench.past =
      (Script.execute path (Executor.start true p device site)).state.bench.past := by
    rw [hb, hd]
    exact (Executor.past_close { Executor.start true p device site with bench := d }).symm
  refine ⟨rfl, (hfs.symm.trans he.symm : Event.unlogged fs = _), congrArg Past.deeds hpast,
    congrArg Past.device hpast, congrArg Past.mode hpast, ?_, hpending, ?_, ?_⟩
  · rw [hb, hd]
    exact (Script.quiet_close p d).2.symm
  · rw [hb, hc.complaints]
    rfl
  · intro hdevice ev hev
    rcases List.mem_cons.1 hev with rfl | hev
    · rfl
    · exact ho _ ⟨fun _ => rfl, fun _ => rfl, fun _ => rfl, fun _ _ _ => rfl⟩ (fun _ => rfl) hdevice
        ev hev

/-- A script with a block that a comment interrupts, on lines with blanks around them. -/
def blockScript : String := "MODE I \nOPTS PENU_POS\n  60 %= up\n=% END_OPTS\nCONNECT"

/-- A site with that script. -/
def blockSite : Site :=
  ⟨⟨[(["s.axi"], .file blockScript.toUTF8.toList)], []⟩, .fresh "/tmp", [], [], .plain⟩

/-- A word of that script. -/
def blockWord (k : Kind) (text line : String) (number start stop : Int) : Lexeme :=
  ⟨⟨k, text⟩, ⟨line, number, start, stop, some "s.axi"⟩⟩

/-- Each block of the example script stands in lines of its own. -/
theorem lined_blockScript :
    Lined (Lexer.reading (Text.fileLines blockScript.toList) (some "s.axi")).words := by
  have hw : (Lexer.reading (Text.fileLines blockScript.toList) (some "s.axi")).words =
      [blockWord .mode "MODE" "MODE I " 1 0 4,
        blockWord (.modeName .interactive) "I" "MODE I " 1 5 6] ++
      (blockWord (.blockStart .options) "OPTS" "OPTS PENU_POS" 2 0 4 ::
        ([blockWord (.setting .penUpPosition) "PENU_POS" "OPTS PENU_POS" 2 5 13,
          blockWord .number "60" "  60 %= up" 3 2 4] ++
        [blockWord (.blockEnd .options) "END_OPTS" "=% END_OPTS" 4 3 11]) ++
      ([blockWord .connect "CONNECT" "CONNECT" 5 0 7] ++ [])) := by
    decide +kernel
  rw [hw]
  refine .command (.mode rfl rfl) trivial (by decide) ?_
  refine .block (.options rfl (.cons rfl (.number rfl rfl (n := 60) rfl ?_) .nil) rfl) ?_
  · rintro low high ⟨⟩
  · exact .command (.word rfl) trivial (by decide) .nil

/-- Both ways of running the example script set its options: the conditions of the general statement
hold here. -/
theorem source_eq_execute_block :
    let o := Script.execute "s.axi" (Executor.start true .standard Recorder.obliging blockSite)
    let s := source "s.axi" (Session.start .standard Recorder.obliging blockSite)
    AsRun o s ∧ Event.calls s.events = [.enterInteractive, .currentMode,
      .set .penUpPosition (.num (.int 60)), .commitOptions, .connect] :=
  have hp : (blockScript.toList.all fun x => Text.isLineEnd x || Text.isPrintable x) = true := by
    decide +kernel
  ⟨source_eq_execute (by decide +kernel)
    (fun x hx => (Bool.or_eq_true _ _).mp (List.all_eq_true.1 hp x hx)) lined_blockScript
    (by decide +kernel), by decide +kernel⟩

end Session
end PlotScript
