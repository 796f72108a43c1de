import EstreeEmitter.Buffer
import EstreeEmitter.Proofs.Text.Blank
import EstreeEmitter.Proofs.Text.Scan

set_option autoImplicit false

/-! # The text of a buffer, and trimming

The text of a buffer is that of its closed lines, each with its line feed, and the open line behind
them. Trimming is a walk back over the lines: `reopen_spec` says where it stops and what it passes,
`closedText_reopen` that it takes exactly the blank end off the text. A line feed is a blank, so it
makes no difference whether blanks stand in a line or between lines, nor whether a line holds line
feeds of its own. -/

namespace EstreeEmitter

open Text

namespace Buffer

/-! ## The text of a buffer -/

/-- The text of closed lines, the latest first, each with its line feed. -/
def closedText (lines : List (List Char)) : List Char := lines.reverse.flatMap (· ++ ['\n'])

theorem closedText_cons (line : List Char) (lines : List (List Char)) :
    closedText (line :: lines) = closedText lines ++ line ++ ['\n'] := by
  simp [closedText]

theorem text_eq (b : Buffer) : b.text = closedText b.closed ++ b.openLine := by
  have hne : b.lines ≠ [] := by simp [lines]
  rw [text, joinWith_eq_flatMap ['\n'] hne]
  simp [lines, closedText]

theorem text_add (b : Buffer) (cs : List Char) : (b.add cs).text = b.text ++ cs := by
  simp [text_eq, add]

/-- A new line drops the blanks at the end of the open line and adds a line feed. -/
theorem text_newline (b : Buffer) : b.newline.text =
    closedText b.closed ++ trimRight b.openLine ++ '\n' :: b.indentation := by
  rw [text_eq]
  show closedText (trimRight b.openLine :: b.closed) ++ b.indentation = _
  rw [closedText_cons]
  simp

/-- Going back over blank lines leaves what trimming leaves. -/
theorem closedText_reopen (line : List Char) (before : List (List Char)) :
    closedText (reopen line before).2 ++ (reopen line before).1 =
      trimRight (closedText before ++ line) := by
  induction before generalizing line with
  | nil => rfl
  | cons previous before ih =>
      by_cases hl : isBlankText line = true
      · -- the line feed before a blank line is blank as well, so both go
        have hb : isBlankText ('\n' :: line) = true := hl
        rw [reopen, if_pos hl, ih, closedText_cons,
          List.append_assoc (closedText before ++ previous), List.singleton_append,
          trimRight_append_of_blank hb]
      · have hb : isBlankText line = false := by simpa using hl
        rw [reopen, if_neg hl, trimRight_append_of_not_blank hb]

/-- Taking blank lines back drops the blank end of the text. -/
theorem text_trim (b : Buffer) : b.trim.text = trimRight b.text := by
  rw [text_eq b, ← closedText_reopen, text_eq]
  rfl

/-! ## The lines that trimming leaves -/

/-- The walk back passes blank lines only. It ends at a line that loses its blank end, and leaves
the lines before that one alone. -/
theorem reopen_spec (line : List Char) (before : List (List Char)) :
    ∃ blanks last, line :: before = blanks ++ last :: (reopen line before).2 ∧
      (reopen line before).1 = trimRight last ∧ ∀ l ∈ blanks, isBlankText l = true := by
  fun_induction reopen line before with
  | case1 line => exact ⟨[], line, rfl, rfl, List.forall_mem_nil _⟩
  | case2 line previous before hb ih =>
      obtain ⟨blanks, last, hsplit, hlast, hblanks⟩ := ih
      refine ⟨line :: blanks, last, ?_, hlast, List.forall_mem_cons.mpr ⟨hb, hblanks⟩⟩
      rw [hsplit, List.cons_append]
  | case3 line previous before hb => exact ⟨[], line, rfl, rfl, List.forall_mem_nil _⟩

/-- The lines that trimming leaves closed were closed before. -/
theorem reopen_isSuffix (line : List Char) (before : List (List Char)) :
    (reopen line before).2 <:+ before := by
  obtain ⟨blanks, last, hsplit, -, -⟩ := reopen_spec line before
  cases blanks with
  | nil => exact ⟨[], (List.cons.inj hsplit).2.symm⟩
  | cons blank blanks =>
      refine ⟨blanks ++ [last], ?_⟩
      rw [List.append_assoc, List.singleton_append]
      exact (List.cons.inj hsplit).2.symm

theorem lines_eq_reverse (b : Buffer) : b.lines = (b.openLine :: b.closed).reverse := by
  rw [lines, List.reverse_cons]

/-- Trimming cuts the lines behind one of them: those before it stay, it loses its blank end, and
those behind it are blank. -/
theorem lines_trim (b : Buffer) :
    ∃ kept last blanks, b.lines = kept ++ last :: blanks ∧
      b.trim.lines = kept ++ [trimRight last] ∧ ∀ l ∈ blanks, isBlankText l = true := by
  obtain ⟨blanks, last, hsplit, hlast, hblanks⟩ := reopen_spec b.openLine b.closed
  refine ⟨b.trim.closed.reverse, last, blanks.reverse, ?_, ?_, ?_⟩
  · -- the walk goes from the last line to the first
    rw [lines_eq_reverse, hsplit, List.reverse_append, List.reverse_cons, List.append_assoc,
      List.singleton_append]
    rfl
  · rw [← hlast]
    rfl
  · intro l hl
    exact hblanks l (List.mem_reverse.mp hl)

/-- **Trimming strips the text at its right end.** Whatever the lines of a buffer are, the text
after trimming is the text before it without the blanks at its end, and the level is the same. Of
the lines that remain, all but the last are those that stood at the same places before, and the last
is the one at its place without its blank end; the lines that are gone were blank. -/
theorem trim_strips_text (b : Buffer) :
    b.trim.text = b.text.rdropWhile isBlank ∧
      b.trim.level = b.level ∧
      (∀ i, i + 1 < b.trim.lines.length → b.trim.lines[i]? = b.lines[i]?) ∧
      b.trim.lines.getLast? = b.lines[b.trim.lines.length - 1]?.map trimRight ∧
      ∀ line ∈ b.lines.drop b.trim.lines.length, isBlankText line = true := by
  obtain ⟨kept, last, blanks, hlines, htrim, hblanks⟩ := lines_trim b
  have hlength : b.trim.lines.length = kept.length + 1 := by
    rw [htrim, List.length_append, List.length_singleton]
  refine ⟨?_, rfl, ?_, ?_, ?_⟩
  · rw [text_trim, trimRight_eq_rdropWhile]
  · intro i hi
    have hkept : i < kept.length := by omega
    rw [htrim, hlines, List.getElem?_append_left hkept, List.getElem?_append_left hkept]
  · rw [hlength, Nat.add_sub_cancel, htrim, hlines, List.getLast?_concat,
      List.getElem?_append_right (Nat.le_refl _), Nat.sub_self]
    rfl
  · have hdrop : b.lines.drop b.trim.lines.length = blanks := by
      rw [hlength, hlines, ← List.drop_drop, List.drop_left]
      rfl
    rw [hdrop]
    exact hblanks

end Buffer

end EstreeEmitter
