/-
# How reading stops

Where no command can be read and no more lexemes can come, a lexeme at hand is blamed, unless one
of the number tokens is no number (`stops_read`).
-/

import PlotScript.Proofs.Blamed
import PlotScript.Proofs.Reading
import PlotScript.Proofs.Words

namespace PlotScript

namespace Reader

variable {α β : Type} {mode : Option Mode} {word : Lexeme} {rest : List Lexeme}

/-- Something is read, or a lexeme that is at most `k` behind the word is blamed, or the numbers
are not in order. -/
inductive Stops (k : Nat) (numbers : Prop) : Except Stop α → Prop
  | ok (a : α) : Stops k numbers (.ok a)
  | wrong (cause : Cause) (x : Lexeme) {offset : Nat} :
    offset ≤ k → Stops k numbers (.error (.wrong cause x offset))
  | failed (f : Failure) : ¬numbers → Stops k numbers (.error (.failed f))

/-- The number tokens are numbers. -/
abbrev Numbers (l : List Lexeme) : Prop := ∀ x ∈ l, x.WellFormed

section Bound

variable {k : Nat} {numbers : Prop}

/-- Giving a result stops at nothing. -/
theorem stops_pure (a : α) : Stops k numbers (pure a : Except Stop α) := .ok a

/-- A reading that fails blames the lexeme that is given, which is near enough. -/
theorem stops_fail (cause : Cause) (x : Lexeme) {offset : Nat} (h : offset ≤ k) :
    Stops k numbers (fail cause x offset : Except Stop α) := .wrong cause x h

/-- Two readings, one after the other, stop as each of them does. -/
theorem Stops.bind {x : Except Stop α} {f : α → Except Stop β} (hx : Stops k numbers x)
    (hf : ∀ a, Stops k numbers (f a)) : Stops k numbers (x >>= f) := by
  cases hx with
  | ok a => exact hf a
  | wrong cause y h => exact .wrong cause y h
  | failed f h => exact .failed f h

/-- If the numbers are in order for a better reason, a reading that failed for them failed for that
as well. -/
theorem Stops.imp {other : Prop} {x : Except Stop α} (hx : Stops k numbers x)
    (h : other → numbers) : Stops k other x := by
  cases hx with
  | ok a => exact .ok a
  | wrong cause y hk => exact .wrong cause y hk
  | failed f hn => exact .failed f fun ho => hn (h ho)

/-- That no mode is set is blamed on the command's own word, which is always near enough. -/
theorem stops_needMode : Stops k numbers (needMode mode word) := by
  cases mode with
  | none => exact stops_fail _ _ (Nat.zero_le k)
  | some m => exact .ok m

/-- That the mode is not the interactive one is blamed on the command's own word. -/
theorem stops_needInteractive : Stops k numbers (needInteractive mode word) := by
  refine stops_needMode.bind fun m => ?_
  cases m with
  | interactive => exact .ok ()
  | plot => exact stops_fail _ _ (Nat.zero_le k)

/-- That the mode is not the one for plots is blamed on the command's own word. -/
theorem stops_needPlot : Stops k numbers (needPlot mode word) := by
  refine stops_needMode.bind fun m => ?_
  cases m with
  | interactive => exact stops_fail _ _ (Nat.zero_le k)
  | plot => exact .ok ()

/-- A number token is a coordinate, unless it is no number. -/
theorem stops_coordinate {x : Lexeme} (hx : x.kind = .number) (h : numbers → x.WellFormed) :
    Stops k numbers (coordinate x) := by
  unfold coordinate
  split
  · exact .ok _
  · rename_i hn
    refine .failed _ fun hw => ?_
    have hs := h hw hx
    rw [hn] at hs
    cases hs

/-- Number tokens are coordinates, unless one of them is no number. -/
theorem stops_mapM_coordinate {l : List Lexeme} (hl : ∀ x ∈ l, x.kind = .number)
    (h : numbers → Numbers l) : Stops k numbers (l.mapM coordinate) := by
  induction l with
  | nil => exact .ok []
  | cons x l ih =>
    rw [List.mapM_cons]
    refine (stops_coordinate (hl x List.mem_cons_self) fun hw => h hw x List.mem_cons_self).bind
      fun v => ?_
    refine (ih (fun y hy => hl y (List.mem_cons_of_mem _ hy)) fun hw y hy =>
      h hw y (List.mem_cons_of_mem _ hy)).bind fun vs => ?_
    exact .ok (v :: vs)

/-- A value is read or blamed, unless it is no number.  It has to be short, as too many digits are
blamed on no lexeme. -/
theorem stops_readValue {s : Setting} {x : Lexeme} {offset : Nat} (ho : offset ≤ k)
    (hx : numbers → x.WellFormed) (hs : x.kind = .number → x.text.length ≤ digitLimit) :
    Stops k numbers (readValue s x offset) := by
  unfold readValue
  split
  · exact stops_fail _ _ ho
  · rename_i hk
    rw [valueKind, not_not] at hk
    split
    · exact .ok _
    · rename_i ht
      rw [if_neg ht] at hk
      rw [if_neg (by have := hs hk; omega)]
      split
      · rename_i hn
        refine .failed _ fun hw => ?_
        have hs := hx hw hk
        rw [hn] at hs
        cases hs
      · split
        · split
          · exact .ok _
          · exact stops_fail _ _ ho
        · exact .ok _

/-- A block stops where it stops after its first setting. -/
theorem Stops.cons {ws : List Complaint} {x : Setting × Value} {r : BlockReading}
    (h : Stops k numbers r.result) : Stops k numbers (r.cons ws x).result := by
  obtain ⟨ws', r⟩ := r
  cases h with
  | ok a => exact .ok _
  | wrong cause y h => exact .wrong cause y h
  | failed f h => exact .failed f h

end Bound

/-- The number at a place behind the word. -/
theorem stops_readNumber (a : Argument) (i : Nat) :
    Stops rest.length (Numbers rest) (readNumber a word (i + 1) rest[i]?) := by
  rcases h : rest[i]? with _ | x
  · exact stops_fail _ _ (Nat.zero_le _)
  · rw [readNumber]
    split
    · rename_i hx
      exact stops_coordinate hx fun hw => hw x (List.mem_of_getElem? h)
    · exact stops_fail _ _ (List.getElem?_eq_some_iff.1 h).1

/-- A point is read, or its word or one of two lexemes behind it is blamed. -/
theorem stops_readMotion : Stops rest.length (Numbers rest) (readMotion word rest) := by
  refine (stops_readNumber .x 0).bind fun x => ?_
  refine (stops_readNumber .y 1).bind fun y => ?_
  exact .ok (x, y)

/-- A path is read, or one of the numbers is blamed, or what follows them. -/
theorem stops_readDraw : Stops rest.length (Numbers rest) (readDraw word rest) := by
  have hle : (rest.takeWhile fun x => decide (x.kind = .number)).length ≤ rest.length :=
    (List.takeWhile_sublist _).length_le
  unfold readDraw
  refine Stops.bind (stops_mapM_coordinate (fun _ => kind_of_mem_takeWhile) fun hw x hx =>
    hw x ((List.takeWhile_sublist _).subset hx)) fun vs => ?_
  simp only
  split
  · split
    · rename_i h
      exact stops_fail _ _ (List.getElem?_eq_some_iff.1 h).1
    · exact stops_fail _ _ hle
  · split
    · exact stops_fail _ _ hle
    · exact stops_pure _

/-- A mode is read, or the word or the lexeme behind it is blamed. -/
theorem stops_readMode : Stops rest.length (Numbers rest) (readMode mode word rest) := by
  cases rest with
  | nil => exact stops_fail _ _ (Nat.zero_le _)
  | cons x rest =>
    simp only [readMode]
    split
    · exact stops_fail _ _ (Nat.zero_le _)
    · exact .ok _
    · exact stops_fail _ _ (Nat.le_add_left ..)

/-- A drawing is read, or the word or the lexeme behind it is blamed. -/
theorem stops_readSetPlot : Stops rest.length (Numbers rest) (readSetPlot word rest) := by
  cases rest with
  | nil => exact stops_fail _ _ (Nat.zero_le _)
  | cons x rest =>
    rw [readSetPlot]
    split
    · exact .ok _
    · exact stops_fail _ _ (Nat.le_add_left ..)

/-- Reading a command that is no option block blames a lexeme at hand. -/
theorem stops_readSimple : Stops rest.length (Numbers rest) (readSimple mode word rest) := by
  unfold readSimple
  split
  · exact stops_readMode
  · exact stops_needInteractive.bind fun _ => stops_readMotion.bind fun (_, _) => stops_pure _
  · exact stops_needInteractive.bind fun _ => stops_readMotion.bind fun (_, _) => stops_pure _
  · exact stops_needInteractive.bind fun _ => stops_readDraw
  · exact stops_needInteractive.bind fun _ => (stops_readNumber .time 0).bind fun _ => stops_pure _
  · exact stops_needPlot.bind fun _ => stops_readSetPlot
  · exact stops_needPlot.bind fun _ => stops_pure _
  · exact stops_fail _ _ (Nat.zero_le _)
  · split
    · exact stops_needInteractive.bind fun _ => stops_pure _
    · exact stops_fail _ _ (Nat.zero_le _)

variable {cause : Cause} {x : Lexeme} {offset : Nat}

section Settings

variable {b : Block} {interactive more : Bool} {seen : List Setting} {k : Nat} {l : List Lexeme}
  {s : Setting}

/-- At its closing word a block ends, and the word is counted. -/
theorem readSettings_of_blockEnd (hx : x.kind = .blockEnd b) :
    readSettings b interactive more word seen k (x :: l) = ⟨[], .ok ([], k + 1)⟩ := by
  cases l <;> simp [readSettings, hx]

/-- A setting for the interactive mode only is blamed in the other one, whatever follows. -/
theorem readSettings_of_forbidden (hx : x.kind = .setting s)
    (ha : ¬s.allowedIn interactive = true) :
    readSettings b interactive more word seen k (x :: l) =
      ⟨[], fail (.settingOnlyInteractive s) x k⟩ := by
  cases l <;> simp [readSettings, hx, ha]

/-- What neither names a setting nor closes the block is blamed. -/
theorem readSettings_of_other (hb : x.kind ≠ .blockEnd b) (hs : ∀ s, x.kind ≠ .setting s) :
    readSettings b interactive more word seen k (x :: l) =
      ⟨[], fail (.settingInvalid b interactive) x k⟩ := by
  cases l <;>
  · rw [readSettings, if_neg hb]
    split
    · rename_i s hk
      exact absurd hk (hs s)
    · rfl

/-- What is wrong with a value is wrong with its block, and nothing behind it is looked at. -/
theorem readSettings_of_wrongValue {y : Lexeme} {e : Stop} (hx : x.kind = .setting s)
    (ha : s.allowedIn interactive = true) (hv : readValue s y (k + 1) = .error e) :
    readSettings b interactive more word seen k (x :: y :: l) = ⟨[], .error e⟩ := by
  simp [readSettings, hx, ha, hv]

/-- Behind a setting with its value the rest of the block is read.  There is a warning if the
setting has been there before. -/
theorem readSettings_of_value {y : Lexeme} {v : Value} (hx : x.kind = .setting s)
    (ha : s.allowedIn interactive = true) (hv : readValue s y (k + 1) = .ok v) :
    readSettings b interactive more word seen k (x :: y :: l) =
      (readSettings b interactive more word (s :: seen) (k + 2) l).cons
        (if s ∈ seen then [.about (.settingRepeated s) x] else []) (s, v) := by
  simp [readSettings, hx, ha, hv]

end Settings

/-- A value that is wrong is blamed at the place where it stands. -/
theorem eq_of_readValue {s : Setting} {y : Lexeme} {k : Nat}
    (h : readValue s y k = .error (.wrong cause x offset)) : offset = k := by
  unfold readValue at h
  split at h
  · cases h
    rfl
  · split at h
    · cases h
    · split at h
      · cases h
      · split at h
        · cases h
        · split at h
          · split at h <;> cases h
            rfl
          · cases h

/-- That a block does not suit the mode is blamed on its opening word. -/
theorem offset_of_needBlockMode {b : Block}
    (h : needBlockMode b mode word = .error (.wrong cause x offset)) : offset = 0 := by
  cases b <;> rcases mode with _ | _ | _ <;> cases h <;> rfl

/-- A command that is no option block is read alone. -/
theorem read_eq_of_noBlock {more : Bool} (hb : ∀ b, word.kind ≠ .blockStart b) :
    read mode more word rest = .of (readSimple mode word rest) := by
  unfold read
  split
  · rename_i b hw
    exact absurd hw (hb b)
  · rfl

/-- **The lexeme that is blamed is at hand.** -/
theorem offset_le_of_read {more : Bool}
    (h : (read mode more word rest).result = .error (.wrong cause x offset)) :
    offset ≤ rest.length :=
  Nat.lt_succ_iff.1 (List.getElem?_eq_some_iff.1 (points_read _ _ _ h)).1

/-- The settings of a block that cannot go on are read, or a lexeme up to the last one at hand is
blamed, if all values are short.  The induction is the one along which they are read. -/
theorem stops_readSettings {b : Block} {interactive : Bool} {seen : List Setting} {offset k : Nat}
    {l : List Lexeme} (hs : ShortValues l) (ho : offset + l.length ≤ k + 1) :
    Stops k (Numbers l) (readSettings b interactive false word seen offset l).result := by
  fun_induction readSettings b interactive false word seen offset l with
  | case1 => exact stops_fail _ _ (Nat.zero_le _)
  | case2 | case6 => exact .ok _
  | case3 | case4 | case5 | case9 | case10 =>
    simp only [List.length_cons] at ho
    exact stops_fail _ _ (by omega)
  | case7 seen offset x y rest _ s hx _ e he =>
    simp only [List.length_cons] at ho
    have hv : Stops k (Numbers (x :: y :: rest)) (readValue s y (offset + 1)) :=
      stops_readValue (by omega) (fun hw => hw y (by simp))
        ((List.isChain_cons_cons.1 hs).1 (by rw [hx]; rfl))
    rw [he] at hv
    cases hv with
    | wrong cause z h => exact .wrong cause z h
    | failed f h => exact .failed f h
  | case8 seen offset x y rest _ s _ _ v _ _ ih =>
    simp only [List.length_cons] at ho
    exact ((ih hs.tail.tail (by omega)).imp fun hw z hz => hw z (by simp [hz])).cons

/-- That a block does not suit the mode is blamed on its opening word, which is always near
enough. -/
theorem stops_needBlockMode {b : Block} {k : Nat} {numbers : Prop} :
    Stops k numbers (needBlockMode b mode word) := by
  cases b with
  | options => exact stops_needMode
  | update => exact stops_needInteractive.bind fun _ => stops_pure _

/-- **Where no command can be read, a lexeme at hand is blamed**, if all numbers are in order. -/
theorem stops_read (hs : ShortValues rest) :
    Stops rest.length (Numbers rest) (read mode false word rest).result := by
  unfold read
  split
  · rename_i b _
    have hb : Stops rest.length (Numbers rest) (needBlockMode b mode word) := stops_needBlockMode
    split
    · rename_i e he
      rw [he] at hb
      cases hb with
      | wrong cause x h => exact .wrong cause x h
      | failed f h => exact .failed f h
    · rename_i m _
      have hr : Stops rest.length (Numbers rest)
          (readSettings b (m == .interactive) false word [] 1 rest).result :=
        stops_readSettings hs (by omega)
      unfold readBlock
      simp only
      split
      · rename_i e he
        rw [he] at hr
        cases hr with
        | wrong cause x h => exact .wrong cause x h
        | failed f h => exact .failed f h
      · exact .ok _
  · exact stops_readSimple

end Reader
end PlotScript
