import EstreeEmitter.Proofs.Emit.Composed

set_option autoImplicit false

/-! # The contract of the buffer during emission

Two calls of the line buffer can be refused: going one level back at level zero, and deleting lines
that are not there. Neither refusal can happen while a tree is written, whatever the tree is and
whatever is in the buffer before. `Emission.Steady` is the invariant: an emission that goes through
comes back to the level it started at, and one that stops does so for another reason than the
buffer, at the same level or deeper. Each kind of step that emissions are put together from keeps
it. -/

namespace EstreeEmitter

namespace Emission

/-- An emission comes back to its level, or stops at this level or deeper for a reason that is not
the buffer. -/
structure Steady (e : Emission) : Prop where
  level_of_ok : ∀ {b c : Buffer}, e b = .ok () c → c.level = b.level
  of_error : ∀ {b c : Buffer} {fault : Fault},
    e b = .error fault c → fault.NotBuffer ∧ b.level ≤ c.level

/-! ## Single steps -/

/-- A change that keeps the level is steady. -/
theorem steady_change {f : Buffer → Buffer} (h : ∀ b, (f b).level = b.level) :
    Steady (change f) where
  level_of_ok hc := by cases hc; exact h _
  of_error hc := by cases hc

theorem steady_pure : Steady (pure ()) := steady_change (f := id) fun _ => rfl

theorem steady_stop {fault : Fault} (h : fault.NotBuffer) : Steady (stop fault) where
  level_of_ok hc := by cases hc
  of_error hc := by cases hc; exact ⟨h, Nat.le_refl _⟩

/-! ## Joined steps -/

/-- One steady emission after the other. -/
theorem Steady.seq {e e' : Emission} (h : Steady e) (h' : Steady e') :
    Steady (do e; e') where
  level_of_ok hc := by
    obtain ⟨m, hm, hc⟩ := seq_eq_ok_iff.mp hc
    exact (h'.level_of_ok hc).trans (h.level_of_ok hm)
  of_error hc := by
    rcases seq_eq_error_iff.mp hc with hc | ⟨m, hm, hc⟩
    · exact h.of_error hc
    · have := h'.of_error hc
      exact ⟨this.1, Nat.le_trans (Nat.le_of_eq (h.level_of_ok hm).symm) this.2⟩

/-- A block is one level deeper inside, so its step back is granted. -/
theorem Steady.block {inner : Emission} (h : Steady inner) : Steady (block inner) where
  level_of_ok {b c} hc := by
    cases hi : inner b.indent.newline with
    | ok u m =>
        rw [block_of_ok hi (h.level_of_ok hi)] at hc
        cases hc
        rfl
    | error fault m =>
        rw [block_of_error hi] at hc
        cases hc
  of_error {b c fault} hc := by
    cases hi : inner b.indent.newline with
    | ok u m =>
        rw [block_of_ok hi (h.level_of_ok hi)] at hc
        cases hc
    | error fault m =>
        rw [block_of_error hi] at hc
        cases hc
        -- inside, the level is at least one more than that of the block
        have := h.of_error hi
        exact ⟨this.1, Nat.le_of_succ_le this.2⟩

/-- Behind a block there is a line to delete, that of its `end`. -/
theorem Steady.reopened {inner e : Emission} (h : Steady inner) (h' : Steady e) :
    Steady (do Emission.block inner; deleteLines 1; e) where
  level_of_ok {b c} hc := by
    cases hi : inner b.indent.newline with
    | ok u m =>
        rw [reopened_of_ok hi (h.level_of_ok hi)] at hc
        have hl := h'.level_of_ok hc
        exact hl
    | error fault m =>
        rw [reopened_of_error hi] at hc
        cases hc
  of_error {b c fault} hc := by
    cases hi : inner b.indent.newline with
    | ok u m =>
        rw [reopened_of_ok hi (h.level_of_ok hi)] at hc
        have he := h'.of_error hc
        exact he
    | error fault m =>
        rw [reopened_of_error hi] at hc
        cases hc
        have := h.of_error hi
        exact ⟨this.1, Nat.le_of_succ_le this.2⟩

/-! ## All emissions -/

/-- What is put together from the known steps is steady. -/
theorem Composed.steady {e : Emission} (h : Composed e) : Steady e := by
  induction h with
  | nothing => exact steady_pure
  | text cs => exact steady_change fun _ => rfl
  | newline => exact steady_change fun _ => rfl
  | trim => exact steady_change fun _ => rfl
  | stop h => exact steady_stop h
  | seq _ _ ih ih' => exact ih.seq ih'
  | block _ ih => exact ih.block
  | reopened _ _ ih ih' => exact ih.reopened ih'

end Emission

open Emission

/-- Writing a tree is steady. -/
theorem steady_emit (d : Dialect) (v : Value) : Steady (emit d v) := (composed_emit d v).steady

/-- **Emission keeps the contract of the buffer.** Whatever the tree and the buffer are, writing the
tree comes back to the level it started at, or stops at this level or deeper with a fault that is
not a refusal of the buffer. -/
theorem emit_keeps_buffer_contract (d : Dialect) (v : Value) (b : Buffer) :
    match emit d v b with
    | .ok _ c => c.level = b.level
    | .error fault c => (∀ cause, fault ≠ .buffer cause) ∧ b.level ≤ c.level := by
  have h := steady_emit d v
  cases hc : emit d v b with
  | ok u c => exact h.level_of_ok hc
  | error fault c => exact h.of_error hc

end EstreeEmitter
