import EstreeEmitter.Proofs.Buffer.Trim
import EstreeEmitter.Proofs.Emit.Contract

set_option autoImplicit false

/-! # Emission keeps the text before it

The emitter takes text back: blank lines at the end of a block, blanks at the end of a line, and the
`end` line that an else branch takes the place of. None of this reaches what stood in the buffer
before, its blank end apart. `Buffer.Keeps` compares two buffers: the text of the first, up to its
blank end, is a prefix of the text of the second. The relation is transitive, so it holds along a
run when every step has it. -/

namespace EstreeEmitter

open Text

namespace Buffer

/-- The text of the first buffer, up to its blank end, is a prefix of that of the second. -/
def Keeps (b c : Buffer) : Prop := trimRight b.text <+: c.text

theorem Keeps.refl (b : Buffer) : b.Keeps b := trimRight_isPrefix b.text

theorem Keeps.trans {b c d : Buffer} (h : b.Keeps c) (h' : c.Keeps d) : b.Keeps d := by
  have hc : trimRight (trimRight b.text) <+: trimRight c.text := trimRight_isPrefix_trimRight h
  rw [trimRight_trimRight] at hc
  exact hc.trans h'

instance : Trans Keeps Keeps Keeps := ⟨Keeps.trans⟩

theorem keeps_add (b : Buffer) (cs : List Char) : b.Keeps (b.add cs) := by
  unfold Keeps
  rw [text_add]
  exact (trimRight_isPrefix b.text).trans (List.prefix_append b.text cs)

theorem keeps_newline (b : Buffer) : b.Keeps b.newline := by
  unfold Keeps
  rw [text_newline, text_eq]
  exact (trimRight_append_isPrefix _ _).trans (List.prefix_append _ _)

theorem keeps_trim (b : Buffer) : b.Keeps b.trim :=
  ⟨[], by rw [List.append_nil, text_trim]⟩

/-- The level has no part in the text. -/
theorem keeps_level (b : Buffer) (level : Nat) : b.Keeps { b with level } := Keeps.refl b

end Buffer

namespace Emission

/-- The buffer as an emission leaves it, whether it goes through or stops. -/
def leaves (e : Emission) (b : Buffer) : Buffer :=
  match e b with
  | .ok _ c => c
  | .error _ c => c

theorem leaves_of_ok {e : Emission} {b c : Buffer} (h : e b = .ok () c) : e.leaves b = c := by
  rw [leaves, h]

theorem leaves_of_error {e : Emission} {b c : Buffer} {fault : Fault}
    (h : e b = .error fault c) : e.leaves b = c := by
  rw [leaves, h]

/-- The emission keeps the text that is there before it, up to its blank end. -/
def KeepsText (e : Emission) : Prop := ∀ b : Buffer, b.Keeps (e.leaves b)

theorem KeepsText.of_ok {e : Emission} (h : KeepsText e) {b c : Buffer} (hc : e b = .ok () c) :
    b.Keeps c := by
  have hb := h b
  rwa [leaves_of_ok hc] at hb

theorem KeepsText.of_error {e : Emission} (h : KeepsText e) {b c : Buffer} {fault : Fault}
    (hc : e b = .error fault c) : b.Keeps c := by
  have hb := h b
  rwa [leaves_of_error hc] at hb

/-- The start of a block closes the open line and goes one level deeper. -/
theorem keeps_indent_newline (b : Buffer) : b.Keeps b.indent.newline :=
  (b.keeps_level (b.level + 1)).trans b.indent.keeps_newline

/-- The line behind the last one with text, one level back. -/
theorem keeps_leaveBlock (c : Buffer) (level : Nat) :
    c.Keeps ({ c.trim with level } : Buffer).newline :=
  calc
    c.Keeps c.trim := c.keeps_trim
    Buffer.Keeps _ { c.trim with level } := c.trim.keeps_level level
    Buffer.Keeps _ ({ c.trim with level } : Buffer).newline := Buffer.keeps_newline _

theorem keeps_closeBlock (c : Buffer) (level : Nat) : c.Keeps (closeBlock c level) :=
  (keeps_leaveBlock c level).trans <| (Buffer.keeps_add _ _).trans <| Buffer.keeps_newline _

theorem KeepsText.seq {e e' : Emission} (h : KeepsText e) (h' : KeepsText e') :
    KeepsText (do e; e') := by
  intro b
  cases hc : e b with
  | ok u c =>
      have hs : Emission.leaves (do e; e') b = e'.leaves c := by
        rw [leaves, leaves, seq_of_ok hc]
      rw [hs]
      exact (h.of_ok hc).trans (h' c)
  | error fault c =>
      rw [leaves_of_error (seq_of_error hc)]
      exact h.of_error hc

theorem KeepsText.block {inner : Emission} (hs : Steady inner) (h : KeepsText inner) :
    KeepsText (block inner) := by
  intro b
  cases hc : inner b.indent.newline with
  | ok u c =>
      rw [leaves_of_ok (block_of_ok hc (hs.level_of_ok hc))]
      calc
        b.Keeps b.indent.newline := keeps_indent_newline b
        Buffer.Keeps _ c := h.of_ok hc
        Buffer.Keeps _ (closeBlock c b.level) := keeps_closeBlock c b.level
  | error fault c =>
      rw [leaves_of_error (block_of_error hc)]
      exact (keeps_indent_newline b).trans (h.of_error hc)

/-- The line that is deleted behind a block is its own `end`, so all before the block stays. -/
theorem KeepsText.reopened {inner e : Emission} (hs : Steady inner) (h : KeepsText inner)
    (h' : KeepsText e) : KeepsText (do Emission.block inner; deleteLines 1; e) := by
  intro b
  cases hc : inner b.indent.newline with
  | ok u c =>
      have hd : Emission.leaves (do Emission.block inner; deleteLines 1; e) b =
          e.leaves ({ c.trim with level := b.level } : Buffer).newline := by
        rw [leaves, leaves, reopened_of_ok hc (hs.level_of_ok hc)]
      rw [hd]
      calc
        b.Keeps b.indent.newline := keeps_indent_newline b
        Buffer.Keeps _ c := h.of_ok hc
        Buffer.Keeps _ ({ c.trim with level := b.level } : Buffer).newline :=
          keeps_leaveBlock c b.level
        Buffer.Keeps _ (e.leaves ({ c.trim with level := b.level } : Buffer).newline) := h' _
  | error fault c =>
      rw [leaves_of_error (reopened_of_error hc)]
      exact (keeps_indent_newline b).trans (h.of_error hc)

/-- What is put together from the known steps keeps the text before it. -/
theorem Composed.keepsText {e : Emission} (h : Composed e) : KeepsText e := by
  induction h with
  | nothing => exact Buffer.Keeps.refl
  | text cs => exact fun b => b.keeps_add cs
  | newline => exact Buffer.keeps_newline
  | trim => exact Buffer.keeps_trim
  | stop h => exact Buffer.Keeps.refl
  | seq _ _ ih ih' => exact ih.seq ih'
  | block h ih => exact ih.block h.steady
  | reopened h _ ih ih' => exact ih.reopened h.steady ih'

end Emission

open Emission

/-- **Emission never destroys earlier output.** Whatever the tree and the buffer are, and whether
writing the tree goes through or stops, the text before it without its blank end is a prefix of the
text after it. -/
theorem trimRight_text_isPrefix_emit (d : Dialect) (v : Value) (b : Buffer) :
    trimRight b.text <+: ((emit d v).leaves b).text :=
  (composed_emit d v).keepsText b

end EstreeEmitter
