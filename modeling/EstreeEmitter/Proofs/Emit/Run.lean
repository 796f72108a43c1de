import EstreeEmitter.Emit

set_option autoImplicit false

/-! # Runs of emissions

What a joined emission does to a buffer, said by what its parts do. Later proofs take emissions
apart with these lemmas and do not look into the monad. -/

namespace EstreeEmitter

namespace Buffer

theorem add_nil (b : Buffer) : b.add [] = b := by
  simp [Buffer.add]

theorem add_add (b : Buffer) (cs cs' : List Char) : (b.add cs).add cs' = b.add (cs ++ cs') := by
  simp [Buffer.add]

end Buffer

namespace Emission

/-! ## One after the other -/

section Sequence

variable {e e' : Emission} {b c d : Buffer} {fault : Fault}

theorem seq_of_ok (h : e b = .ok () c) : (do e; e') b = e' c := by
  show EStateM.bind e (fun _ => e') b = e' c
  unfold EStateM.bind
  rw [h]

theorem seq_of_error (h : e b = .error fault c) : (do e; e') b = .error fault c := by
  show EStateM.bind e (fun _ => e') b = .error fault c
  unfold EStateM.bind
  rw [h]

/-- Two emissions go through when the first does, and the second does from where it ended. -/
theorem seq_eq_ok_iff : (do e; e') b = .ok () d ↔ ∃ c, e b = .ok () c ∧ e' c = .ok () d := by
  cases h : e b with
  | ok u c => rw [seq_of_ok h]; simp
  | error fault c => rw [seq_of_error h]; simp

/-- Two emissions stop when the first does, or the second does from where the first ended. -/
theorem seq_eq_error_iff : (do e; e') b = .error fault d ↔
    e b = .error fault d ∨ ∃ c, e b = .ok () c ∧ e' c = .error fault d := by
  cases h : e b with
  | ok u c => rw [seq_of_ok h]; simp
  | error fault c => rw [seq_of_error h]; simp

/-- Joining emissions is associative. -/
theorem seq_assoc (e e' e'' : Emission) : (do (do e; e'); e'') = (do e; e'; e'') := by
  funext b
  cases h : e b with
  | ok u c =>
      rw [seq_of_ok h]
      cases h' : e' c with
      | ok u' c' => rw [seq_of_ok ((seq_of_ok h).trans h'), seq_of_ok h']
      | error fault c' => rw [seq_of_error ((seq_of_ok h).trans h'), seq_of_error h']
  | error fault c => rw [seq_of_error (seq_of_error h), seq_of_error h]

theorem seq_pure (e : Emission) : (do e; pure ()) = e := by
  funext b
  cases h : e b with
  | ok u c => rw [seq_of_ok h]; rfl
  | error fault c => rw [seq_of_error h]

end Sequence

/-! ## Single steps -/

@[simp] theorem pure_run (b : Buffer) : (pure () : Emission) b = .ok () b := rfl

@[simp] theorem add_run (s : String) (b : Buffer) : add s b = .ok () (b.add s.toList) := rfl

@[simp] theorem newline_run (b : Buffer) : newline b = .ok () b.newline := rfl

@[simp] theorem indent_run (b : Buffer) : indent b = .ok () b.indent := rfl

@[simp] theorem trim_run (b : Buffer) : trim b = .ok () b.trim := rfl

/-- One level back is granted above level zero. -/
theorem dedent_run {b : Buffer} {n : Nat} (h : b.level = n + 1) :
    dedent b = .ok () { b with level := n } := by
  simp only [dedent, attempt, Buffer.dedent, h]

/-- One closed line can be deleted when there is one. -/
theorem deleteLines_one_run {b : Buffer} {line : List Char} {before : List (List Char)}
    (h : b.closed = line :: before) : deleteLines 1 b = .ok () { b with closed := before } := by
  have hn : ¬((before.length : Int) + 1 < 1) := by omega
  simp [deleteLines, attempt, Buffer.deleteLines, h, hn]

/-! ## Blocks -/

/-- The end of a block: blank lines go, and the `end` line stands one level back. -/
def closeBlock (b : Buffer) (level : Nat) : Buffer :=
  (({ b.trim with level } : Buffer).newline.add "end".toList).newline

/-- A block goes through when what is inside does and comes back to its level. -/
theorem block_of_ok {inner : Emission} {b c : Buffer} (h : inner b.indent.newline = .ok () c)
    (hl : c.level = b.level + 1) : block inner b = .ok () (closeBlock c b.level) := by
  unfold block
  rw [seq_of_ok (indent_run b), seq_of_ok (newline_run _), seq_of_ok h, seq_of_ok (trim_run c),
    seq_of_ok (dedent_run (b := c.trim) hl), seq_of_ok (newline_run _), seq_of_ok (add_run _ _)]
  rfl

/-- A block stops where what is inside stops. -/
theorem block_of_error {inner : Emission} {b c : Buffer} {fault : Fault}
    (h : inner b.indent.newline = .error fault c) : block inner b = .error fault c := by
  unfold block
  rw [seq_of_ok (indent_run b), seq_of_ok (newline_run _), seq_of_error h]

/-- When the `end` line of a block is deleted at once, what follows starts on the line after the
last one with text, one level back. -/
theorem reopened_of_ok {inner e : Emission} {b c : Buffer}
    (h : inner b.indent.newline = .ok () c) (hl : c.level = b.level + 1) :
    (do block inner; deleteLines 1; e) b =
      e ({ c.trim with level := b.level } : Buffer).newline := by
  rw [seq_of_ok (block_of_ok h hl), seq_of_ok (deleteLines_one_run rfl)]
  rfl

theorem reopened_of_error {inner e : Emission} {b c : Buffer} {fault : Fault}
    (h : inner b.indent.newline = .error fault c) :
    (do block inner; deleteLines 1; e) b = .error fault c :=
  seq_of_error (block_of_error h)

end Emission

end EstreeEmitter
