import EstreeEmitter.Proofs.Emit.Kept
import EstreeEmitter.Proofs.Printer.Expression

set_option autoImplicit false

/-! # Emissions that stand alone

Blank lines are taken back up to the last line with text, and an `end` line is deleted right behind
its block. So once there is text in the buffer, what an emission does does not depend on the lines
above that text (`Composed.local`). An emission at the margin that writes a word first and ends with
a new line writes lines of its own, the same ones whatever stands above (`Standalone`), and the text
of two such emissions is that of the first followed by that of the second
(`Standalone.text_seq`). -/

namespace EstreeEmitter

open Text

namespace Buffer

/-! ## Lines above -/

/-- The buffer below further closed lines. -/
def below (b : Buffer) (lines : List (List Char)) : Buffer := { b with closed := b.closed ++ lines }

theorem below_below (b : Buffer) (lines lines' : List (List Char)) :
    (b.below lines).below lines' = b.below (lines ++ lines') := by
  simp [below]

/-- Some line of the buffer is not blank. -/
def HasText (b : Buffer) : Prop := ∃ line ∈ b.openLine :: b.closed, isBlankText line = false

theorem hasText_add {b : Buffer} (h : b.HasText) (cs : List Char) : (b.add cs).HasText := by
  obtain ⟨line, hm, hl⟩ := h
  rcases List.mem_cons.mp hm with rfl | hm
  · exact ⟨_, List.mem_cons_self, by rw [Buffer.add, isBlankText_append, hl, Bool.false_and]⟩
  · exact ⟨line, List.mem_cons_of_mem _ hm, hl⟩

theorem hasText_newline {b : Buffer} (h : b.HasText) : b.newline.HasText := by
  obtain ⟨line, hm, hl⟩ := h
  rcases List.mem_cons.mp hm with rfl | hm
  · exact ⟨trimRight b.openLine, List.mem_cons_of_mem _ List.mem_cons_self,
      by rw [isBlankText_trimRight, hl]⟩
  · exact ⟨line, List.mem_cons_of_mem _ (List.mem_cons_of_mem _ hm), hl⟩

/-- Going back over blank lines ends at a line with text, if there is one. -/
theorem reopen_append_of_text {line : List Char} {before : List (List Char)}
    (h : ∃ text ∈ line :: before, isBlankText text = false) (lines : List (List Char)) :
    isBlankText (reopen line before).1 = false ∧ reopen line (before ++ lines) =
      ((reopen line before).1, (reopen line before).2 ++ lines) := by
  induction before generalizing line with
  | nil =>
      obtain ⟨text, hm, ht⟩ := h
      obtain rfl := List.mem_singleton.mp hm
      refine ⟨(isBlankText_trimRight text).trans ht, ?_⟩
      cases lines with
      | nil => rfl
      | cons previous lines => simp [reopen, ht]
  | cons previous before ih =>
      rw [List.cons_append, reopen, reopen]
      by_cases hl : isBlankText line = true
      · rw [if_pos hl, if_pos hl]
        obtain ⟨text, hm, ht⟩ := h
        rcases List.mem_cons.mp hm with rfl | hm
        · rw [hl] at ht
          cases ht
        · exact ih ⟨text, hm, ht⟩
      · rw [if_neg hl, if_neg hl]
        exact ⟨by rw [isBlankText_trimRight]; simpa using hl, rfl⟩

theorem hasText_trim {b : Buffer} (h : b.HasText) : b.trim.HasText :=
  ⟨_, List.mem_cons_self, (reopen_append_of_text h []).1⟩

/-- Blank lines are taken back within the buffer, not above it. -/
theorem trim_below {b : Buffer} (h : b.HasText) (lines : List (List Char)) :
    (b.below lines).trim = b.trim.below lines := by
  obtain ⟨-, hr⟩ := reopen_append_of_text h lines
  unfold trim below
  simp only [hr]

end Buffer

namespace Emission

/-! ## Emissions that do not look above -/

/-- From this buffer the emission does the same below any lines; if it goes through, it leaves
text. -/
inductive LocalFrom (e : Emission) (b : Buffer) : Prop where
  | ok {c : Buffer} (h : e b = .ok () c) (ht : c.HasText) (hi : c.indentText = b.indentText)
    (hb : ∀ lines, e (b.below lines) = .ok () (c.below lines))
  | error {c : Buffer} {fault : Fault} (h : e b = .error fault c)
    (hb : ∀ lines, e (b.below lines) = .error fault (c.below lines))

/-- Where there is text, the emission does not depend on the lines above. -/
def Local (e : Emission) : Prop := ∀ {b : Buffer}, b.HasText → LocalFrom e b

theorem Local.seq {e e' : Emission} (h : Local e) (h' : Local e') : Local (do e; e') := by
  intro b hb
  cases h hb with
  | ok hc ht hi hbelow =>
      cases h' ht with
      | ok hc' ht' hi' hbelow' =>
          exact .ok ((seq_of_ok hc).trans hc') ht' (hi'.trans hi) fun lines =>
            (seq_of_ok (hbelow lines)).trans (hbelow' lines)
      | error hc' hbelow' =>
          exact .error ((seq_of_ok hc).trans hc') fun lines =>
            (seq_of_ok (hbelow lines)).trans (hbelow' lines)
  | error hc hbelow => exact .error (seq_of_error hc) fun lines => seq_of_error (hbelow lines)

/-- The line behind the last one with text, one level back. -/
theorem leaveBlock_below {c : Buffer} (h : c.HasText) (level : Nat) (lines : List (List Char)) :
    ({ (c.below lines).trim with level } : Buffer).newline =
      (({ c.trim with level } : Buffer).newline).below lines := by
  rw [Buffer.trim_below h]
  rfl

theorem hasText_leaveBlock {c : Buffer} (h : c.HasText) (level : Nat) :
    ({ c.trim with level } : Buffer).newline.HasText := by
  have ht : ({ c.trim with level } : Buffer).HasText := Buffer.hasText_trim h
  exact Buffer.hasText_newline ht

theorem closeBlock_below {c : Buffer} (h : c.HasText) (level : Nat) (lines : List (List Char)) :
    closeBlock (c.below lines) level = (closeBlock c level).below lines := by
  unfold closeBlock
  rw [leaveBlock_below h]
  rfl

theorem hasText_closeBlock {c : Buffer} (h : c.HasText) (level : Nat) :
    (closeBlock c level).HasText :=
  Buffer.hasText_newline (Buffer.hasText_add (hasText_leaveBlock h level) _)

/-- The line before a block is closed, so the text on it is still there inside. -/
theorem hasText_indent_newline {b : Buffer} (h : b.HasText) : b.indent.newline.HasText := by
  have ht : b.indent.HasText := h
  exact Buffer.hasText_newline ht

theorem Local.block {inner : Emission} (hs : Steady inner) (h : Local inner) :
    Local (block inner) := by
  intro b hb
  cases h (hasText_indent_newline hb) with
  | ok hc ht hi hbelow =>
      have hl := hs.level_of_ok hc
      refine .ok (block_of_ok hc hl) (hasText_closeBlock ht _) hi fun lines => ?_
      rw [← closeBlock_below ht]
      exact block_of_ok (b := b.below lines) (hbelow lines) hl
  | error hc hbelow =>
      exact .error (block_of_error hc) fun lines =>
        block_of_error (b := b.below lines) (hbelow lines)

theorem Local.reopened {inner e : Emission} (hs : Steady inner) (h : Local inner)
    (h' : Local e) : Local (do Emission.block inner; deleteLines 1; e) := by
  intro b hb
  cases h (hasText_indent_newline hb) with
  | ok hc ht hi hbelow =>
      have hl := hs.level_of_ok hc
      have hopen := reopened_of_ok (e := e) hc hl
      -- below other lines the line behind the block is the same one
      have hopen' : ∀ lines, (do Emission.block inner; deleteLines 1; e) (b.below lines) = _ :=
        fun lines => (reopened_of_ok (b := b.below lines) (e := e) (hbelow lines) hl).trans
          (congrArg e (leaveBlock_below ht b.level lines))
      cases h' (hasText_leaveBlock ht b.level) with
      | ok hc' ht' hi' hbelow' =>
          exact .ok (hopen.trans hc') ht' (hi'.trans hi) fun lines =>
            (hopen' lines).trans (hbelow' lines)
      | error hc' hbelow' =>
          exact .error (hopen.trans hc') fun lines => (hopen' lines).trans (hbelow' lines)
  | error hc hbelow =>
      exact .error (reopened_of_error hc) fun lines =>
        reopened_of_error (b := b.below lines) (hbelow lines)

/-- What is put together from the known steps does not look above text. -/
theorem Composed.local {e : Emission} (h : Composed e) : Local e := by
  induction h with
  | nothing => exact fun hb => .ok rfl hb rfl fun _ => rfl
  | text cs => exact fun hb => .ok rfl (Buffer.hasText_add hb cs) rfl fun _ => rfl
  | newline => exact fun hb => .ok rfl (Buffer.hasText_newline hb) rfl fun _ => rfl
  | trim =>
      exact fun hb => .ok rfl (Buffer.hasText_trim hb) rfl fun lines => by
        rw [trim_run, Buffer.trim_below hb]
  | stop h => exact fun hb => .error rfl fun _ => rfl
  | seq _ _ ih ih' => exact ih.seq ih'
  | block h ih => exact ih.block h.steady
  | reopened h _ ih ih' => exact ih.reopened h.steady ih'

/-! ## Emissions that end a line -/

/-- When the emission goes through, there is nothing but indentation on the open line. -/
def EndsLine (e : Emission) : Prop :=
  ∀ b c : Buffer, e b = .ok () c → c.openLine = c.indentation

theorem endsLine_newline : EndsLine newline := by
  intro b c h
  cases h
  rfl

theorem endsLine_stop (fault : Fault) : EndsLine (stop fault) := by
  intro b c h
  cases h

/-- What comes first does not matter. -/
theorem EndsLine.after {e' : Emission} (h : EndsLine e') (e : Emission) :
    EndsLine (do e; e') := by
  intro b c hc
  obtain ⟨m, -, hc⟩ := seq_eq_ok_iff.mp hc
  exact h m c hc

theorem endsLine_block (inner : Emission) : EndsLine (block inner) :=
  ((((((endsLine_newline.after _).after _).after _).after _).after _).after _).after _

theorem Enclosed.endsLine {e : Emission} (h : Enclosed e) : EndsLine e := by
  cases h with
  | block h => exact endsLine_block _
  | stop h => exact endsLine_stop _

/-! ## Emissions that stand alone -/

/-- At the margin the emission writes lines of its own or stops, in the same way below any
lines. -/
inductive Standalone (e : Emission) : Prop where
  | writes (lines : List (List Char))
    (h : ∀ above, e (Buffer.fresh.below above) = .ok () (Buffer.fresh.below (lines ++ above)))
  | stops (fault : Fault) (h : ∀ above, ∃ c, e (Buffer.fresh.below above) = .error fault c)

theorem standalone_pure : Standalone (pure ()) := .writes [] fun _ => rfl

theorem standalone_require (check : Except Fault Unit) : Standalone (require check) := by
  cases check with
  | ok u => exact .writes [] fun _ => rfl
  | error fault => exact .stops fault fun above => ⟨_, rfl⟩

theorem Standalone.seq {e e' : Emission} (h : Standalone e) (h' : Standalone e') :
    Standalone (do e; e') := by
  cases h with
  | writes lines h =>
      cases h' with
      | writes lines' h' =>
          refine .writes (lines' ++ lines) fun above => ?_
          rw [seq_of_ok (h above), h', List.append_assoc]
      | stops fault h' =>
          refine .stops fault fun above => ?_
          rw [seq_of_ok (h above)]
          exact h' _
  | stops fault h =>
      refine .stops fault fun above => ?_
      obtain ⟨c, hc⟩ := h above
      exact ⟨c, seq_of_error hc⟩

theorem Standalone.onlyIf {e : Emission} (condition : Bool) (h : Standalone e) :
    Standalone (onlyIf condition e) := by
  cases condition with
  | true => exact h
  | false => exact standalone_pure

/-- Text and a new line are a line of their own, blank or not. -/
theorem Writes.standalone {e : Emission} {r : Except Fault (List Char)} (h : Writes e r) :
    Standalone (do e; newline) := by
  cases hr : r with
  | ok cs =>
      refine .writes [trimRight cs] fun above => ?_
      rw [seq_of_ok (h.of_ok hr _)]
      rfl
  | error fault =>
      refine .stops fault fun above => ?_
      obtain ⟨cs, hc⟩ := h.of_error hr (Buffer.fresh.below above)
      exact ⟨_, seq_of_error hc⟩

/-- A word that is not blank keeps what follows from looking above it. -/
theorem standalone_word (word : String) {e : Emission} (hw : isBlankText word.toList = false)
    (h : Composed e) (he : EndsLine e) : Standalone (do add word; e) := by
  have ht : (Buffer.fresh.add word.toList).HasText := ⟨word.toList, List.mem_cons_self, hw⟩
  cases h.local ht with
  | @ok c hc _ hi hbelow =>
      have hl : c.level = 0 := h.steady.level_of_ok hc
      have ho : c.openLine = [] := by
        rw [he _ _ hc, Buffer.indentation, hl]
        rfl
      -- back at the margin, the buffer holds its closed lines and nothing else
      have hcb : c = Buffer.fresh.below c.closed := by
        obtain ⟨indentText, level, closed, openLine⟩ := c
        cases hi
        cases hl
        cases ho
        rfl
      refine .writes c.closed fun above => ?_
      rw [seq_of_ok (add_run _ _), ← Buffer.below_below, ← hcb]
      exact hbelow above
  | error hc hbelow =>
      exact .stops _ fun above => ⟨_, (seq_of_ok (add_run _ _)).trans (hbelow above)⟩

/-! ## Texts -/

/-- The text that the emission leaves in a fresh buffer. -/
def text (e : Emission) : Except Fault (List Char) :=
  match e Buffer.fresh with
  | .ok _ b => .ok b.text
  | .error fault _ => .error fault

theorem text_of_ok {e : Emission} {lines : List (List Char)}
    (h : e Buffer.fresh = .ok () (Buffer.fresh.below lines)) :
    e.text = .ok (Buffer.closedText lines) := by
  rw [text, h]
  show Except.ok _ = _
  rw [Buffer.text_eq]
  show Except.ok (Buffer.closedText lines ++ []) = _
  rw [List.append_nil]

theorem text_of_error {e : Emission} {c : Buffer} {fault : Fault}
    (h : e Buffer.fresh = .error fault c) : e.text = .error fault := by
  rw [text, h]

/-- Nothing stands above the lines in a fresh buffer. -/
theorem run_fresh {e : Emission} {lines : List (List Char)}
    (h : ∀ above, e (Buffer.fresh.below above) = .ok () (Buffer.fresh.below (lines ++ above))) :
    e Buffer.fresh = .ok () (Buffer.fresh.below lines) := by
  have hl := h []
  rwa [List.append_nil] at hl

/-- What stands alone is made of whole lines. -/
theorem Standalone.exists_lines {e : Emission} (h : Standalone e) {cs : List Char}
    (ht : e.text = .ok cs) : ∃ lines, cs = Buffer.closedText lines := by
  cases h with
  | writes lines h =>
      rw [text_of_ok (run_fresh h)] at ht
      cases ht
      exact ⟨lines, rfl⟩
  | stops fault h =>
      obtain ⟨c, hc⟩ := h []
      rw [text_of_error hc] at ht
      cases ht

/-- **The text of emissions that stand alone is that of the first and then that of the second.** -/
theorem Standalone.text_seq {e e' : Emission} (h : Standalone e) (h' : Standalone e') :
    text (do e; e') = do return (← e.text) ++ (← e'.text) := by
  cases h with
  | writes lines h =>
      have hl := run_fresh h
      rw [text_of_ok hl]
      cases h' with
      | writes lines' h' =>
          rw [text_of_ok (run_fresh h'), text_of_ok ((seq_of_ok hl).trans (h' lines))]
          simp [Buffer.closedText, bind, Except.bind, pure, Except.pure]
      | stops fault h' =>
          obtain ⟨c, hc⟩ := h' []
          obtain ⟨c', hc'⟩ := h' lines
          rw [text_of_error hc, text_of_error ((seq_of_ok hl).trans hc')]
          rfl
  | stops fault h =>
      obtain ⟨c, hc⟩ := h []
      rw [text_of_error hc, text_of_error (seq_of_error hc)]
      rfl

end Emission

end EstreeEmitter
