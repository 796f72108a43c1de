import EstreeEmitter.Buffer.Action
import EstreeEmitter.Proofs.Buffer.Trim

set_option autoImplicit false

/-! # Runs of buffer calls

A run is any list of calls on an empty buffer, refused ones among them. `Grants` says what a call
does that goes through, `Refuses` for which reasons one does not, and every call is of one of these
two kinds (`perform_spec`). A refused call changes nothing, so a run does what its granted calls do
(`performAll_granted`), and what granted calls keep holds after every run (`performAll_induction`):
closed lines do not end in blanks (`Neat`), and the level counts the granted steps deeper and back
(`level_performAll`). -/

namespace EstreeEmitter

open Text

theorem Text.trimRight_eq_self_iff {cs : List Char} :
    trimRight cs = cs ↔ ∀ c, cs.getLast? = some c → isBlank c = false := by
  rw [trimRight_eq_rdropWhile, List.rdropWhile_eq_self_iff]
  constructor
  · intro h c hc
    obtain ⟨hne, rfl⟩ := List.mem_getLast?_eq_getLast hc
    simpa using h hne
  · intro h hne
    have := h _ (List.getLast?_eq_some_getLast hne)
    simp [this]

namespace Buffer

/-! ## One call -/

/-- The buffer grants a call, and this is the buffer after it. -/
inductive Grants (b : Buffer) : Action → Buffer → Prop where
  | add (text : List Char) : b.Grants (.add text) (b.add text)
  | newline : b.Grants .newline b.newline
  | indent : b.Grants .indent b.indent
  | dedent {level : Nat} (h : b.level = level + 1) : b.Grants .dedent { b with level }
  | trim : b.Grants .trim b.trim
  | deleteLines {count : Nat} (h : count ≤ b.closed.length) :
    b.Grants (.deleteLines count) { b with closed := b.closed.drop count }
  | get : b.Grants .get b

/-- The buffer refuses a call for a reason: there is no level to go back to, or fewer than no lines
or more than the closed ones are to be deleted. -/
inductive Refuses (b : Buffer) : Action → BufferFault → Prop where
  | dedent (h : b.level = 0) : b.Refuses .dedent .dedentAtZero
  | deleteLines {count : Int} (h : count < 0 ∨ (b.closed.length : Int) < count) :
    b.Refuses (.deleteLines count) (.deleteLines count b.closed.length)

/-- A call that is granted is not refused. -/
theorem Grants.not_refuses {b c : Buffer} {a : Action} (h : b.Grants a c) (cause : BufferFault) :
    ¬b.Refuses a cause := by
  intro hr
  cases hr with
  | dedent hl =>
      cases h with
      | dedent h => omega
  | deleteLines hc =>
      cases h with
      | deleteLines h => omega

/-- A call is granted, or it is refused and leaves the buffer as it was. -/
theorem perform_spec (b : Buffer) (a : Action) :
    (∃ answer, (b.perform a).1 = .ok answer ∧ b.Grants a (b.perform a).2) ∨
      ∃ cause, b.perform a = (.error cause, b) ∧ b.Refuses a cause := by
  cases a with
  | add text => exact .inl ⟨.done, rfl, .add text⟩
  | newline => exact .inl ⟨.done, rfl, .newline⟩
  | indent => exact .inl ⟨.done, rfl, .indent⟩
  | trim => exact .inl ⟨.done, rfl, .trim⟩
  | get => exact .inl ⟨.text b.text, rfl, .get⟩
  | dedent =>
      cases hl : b.level with
      | zero => exact .inr ⟨.dedentAtZero, by simp [perform, dedent, hl, settle], .dedent hl⟩
      | succ level =>
          have hp : b.perform .dedent = (.ok .done, { b with level }) := by
            simp [perform, dedent, hl, settle]
          rw [hp]
          exact .inl ⟨.done, rfl, .dedent hl⟩
  | deleteLines count =>
      by_cases hc : count < 0 ∨ (b.closed.length : Int) < count
      · exact .inr ⟨_, by simp [perform, deleteLines, hc, settle], .deleteLines hc⟩
      · obtain ⟨n, rfl⟩ := Int.eq_ofNat_of_zero_le (show 0 ≤ count by omega)
        have hn : n ≤ b.closed.length := by omega
        have hp : b.perform (.deleteLines n) =
            (.ok .done, { b with closed := b.closed.drop n }) := by
          have htest : ¬((n : Int) < 0 || (b.closed.length : Int) < n) = true := by
            simpa using hc
          rw [perform, deleteLines, if_neg htest]
          rfl
        rw [hp]
        exact .inl ⟨.done, rfl, .deleteLines hn⟩

/-- A call fails exactly for one of the reasons to refuse it. -/
theorem perform_eq_error_iff {b : Buffer} {a : Action} {cause : BufferFault} :
    (b.perform a).1 = .error cause ↔ b.Refuses a cause := by
  rcases perform_spec b a with ⟨answer, ha, hg⟩ | ⟨cause', ha, hr⟩
  · constructor
    · intro h
      rw [ha] at h
      cases h
    · intro h
      exact absurd h (hg.not_refuses cause)
  · rw [ha]
    constructor
    · intro h
      cases h
      exact hr
    · intro h
      cases hr <;> cases h <;> rfl

theorem perform_of_error {b : Buffer} {a : Action} {cause : BufferFault}
    (h : (b.perform a).1 = .error cause) : (b.perform a).2 = b := by
  rcases perform_spec b a with ⟨answer, ha, -⟩ | ⟨cause', ha, -⟩
  · rw [ha] at h
    cases h
  · rw [ha]

/-! ## Runs of calls -/

/-- The calls of a run that are granted. -/
def granted (b : Buffer) : List Action → List Action
  | [] => []
  | a :: actions =>
    match (b.perform a).1 with
    | .ok _ => a :: (b.perform a).2.granted actions
    | .error _ => (b.perform a).2.granted actions

theorem performAll_cons (b : Buffer) (a : Action) (actions : List Action) :
    b.performAll (a :: actions) = (b.perform a).2.performAll actions := rfl

theorem granted_of_ok {b : Buffer} {a : Action} {answer : Answer}
    (h : (b.perform a).1 = .ok answer) (actions : List Action) :
    b.granted (a :: actions) = a :: (b.perform a).2.granted actions := by
  simp only [granted, h]

theorem granted_of_error {b : Buffer} {a : Action} {cause : BufferFault}
    (h : b.perform a = (.error cause, b)) (actions : List Action) :
    b.granted (a :: actions) = b.granted actions := by
  simp only [granted, h]

/-- Refused calls leave no trace: a run does what its granted calls do. -/
theorem performAll_granted (b : Buffer) (actions : List Action) :
    b.performAll (b.granted actions) = b.performAll actions := by
  induction actions generalizing b with
  | nil => rfl
  | cons a actions ih =>
      rcases perform_spec b a with ⟨answer, ha, -⟩ | ⟨cause, ha, -⟩
      · rw [granted_of_ok ha, performAll_cons, performAll_cons, ih]
      · rw [granted_of_error ha, performAll_cons, ha, ih]

/-- What every granted call keeps holds after a run. -/
theorem performAll_induction {P : Buffer → Prop}
    (hstep : ∀ {b c : Buffer} {a : Action}, P b → b.Grants a c → P c)
    {b : Buffer} (hb : P b) (actions : List Action) : P (b.performAll actions) := by
  induction actions generalizing b with
  | nil => exact hb
  | cons a actions ih =>
      rw [performAll_cons]
      rcases perform_spec b a with ⟨answer, -, hg⟩ | ⟨cause, ha, -⟩
      · exact ih (hstep hb hg)
      · rw [ha]
        exact ih hb

/-! ## The level -/

theorem Grants.level {b c : Buffer} {a : Action} (h : b.Grants a c) :
    c.level + [a].count .dedent = b.level + [a].count .indent := by
  cases h with
  | dedent h => exact h.symm
  | add | newline | indent | trim | deleteLines | get => rfl

/-- The level counts the granted steps deeper and back. -/
theorem level_performAll (b : Buffer) (actions : List Action) :
    (b.performAll actions).level + (b.granted actions).count .dedent =
      b.level + (b.granted actions).count .indent := by
  induction actions generalizing b with
  | nil => rfl
  | cons a actions ih =>
      rw [performAll_cons]
      rcases perform_spec b a with ⟨answer, ha, hg⟩ | ⟨cause, ha, -⟩
      · have hone := hg.level
        have hrest := ih (b.perform a).2
        rw [granted_of_ok ha, List.count_cons, List.count_cons]
        rw [List.count_singleton, List.count_singleton] at hone
        omega
      · rw [granted_of_error ha, ha]
        exact ih b

/-! ## Closed lines -/

/-- No closed line ends in a blank. -/
def Neat (b : Buffer) : Prop := ∀ line ∈ b.closed, trimRight line = line

theorem neat_empty (indentText : List Char) : (empty indentText).Neat := by
  intro line hl
  cases hl

theorem Neat.of_grants {b c : Buffer} {a : Action} (h : b.Neat) (hg : b.Grants a c) : c.Neat := by
  cases hg with
  | add | indent | dedent | get => exact h
  | newline =>
      intro line hl
      rcases List.mem_cons.mp hl with rfl | hl
      · exact trimRight_trimRight b.openLine
      · exact h line hl
  | trim =>
      intro line hl
      exact h line ((reopen_isSuffix b.openLine b.closed).subset hl)
  | deleteLines =>
      intro line hl
      exact h line (List.mem_of_mem_drop hl)

theorem lines_dropLast (b : Buffer) : b.lines.dropLast = b.closed.reverse := by
  rw [lines, List.dropLast_concat]

/-- **What the buffer promises after every run of calls.** The run does what its granted calls do.
There is a line, and the closed lines do not end in blanks. The level is not below zero: it is the
number of granted steps deeper less the number of granted steps back. A call fails exactly when it
goes back from level zero or deletes fewer than no lines or more than are closed, and a call that
fails leaves the buffer as it was. -/
theorem performAll_keeps_contract (indentText : List Char) (actions : List Action) :
    ∃ b granted, (empty indentText).performAll actions = b ∧
      (empty indentText).granted actions = granted ∧
      (empty indentText).performAll granted = b ∧
      b.lines ≠ [] ∧
      (∀ line ∈ b.lines.dropLast, ∀ c, line.getLast? = some c → isBlank c = false) ∧
      (0 ≤ (b.level : Int) ∧ (b.level : Int) = granted.count .indent - granted.count .dedent) ∧
      (∀ a, (∃ cause, (b.perform a).1 = .error cause) ↔
        a = .dedent ∧ b.level = 0 ∨
          ∃ count, a = .deleteLines count ∧
            (count < 0 ∨ (b.lines.dropLast.length : Int) < count)) ∧
      ∀ a cause, (b.perform a).1 = .error cause → (b.perform a).2 = b := by
  have hneat : ((empty indentText).performAll actions).Neat :=
    performAll_induction Neat.of_grants (neat_empty indentText) actions
  have hlevel := level_performAll (empty indentText) actions
  refine ⟨_, _, rfl, rfl, performAll_granted _ _, ?_, ?_, ?_, ?_, fun a cause => perform_of_error⟩
  · simp [lines]
  · intro line hl
    rw [lines_dropLast, List.mem_reverse] at hl
    exact trimRight_eq_self_iff.mp (hneat line hl)
  · have hzero : (empty indentText).level = 0 := rfl
    omega
  · intro a
    rw [lines_dropLast, List.length_reverse]
    simp only [perform_eq_error_iff]
    constructor
    · rintro ⟨cause, hr⟩
      cases hr with
      | dedent hl => exact .inl ⟨rfl, hl⟩
      | deleteLines hc => exact .inr ⟨_, rfl, hc⟩
    · rintro (⟨rfl, hl⟩ | ⟨count, rfl, hc⟩)
      · exact ⟨_, .dedent hl⟩
      · exact ⟨_, .deleteLines hc⟩

end Buffer

end EstreeEmitter
