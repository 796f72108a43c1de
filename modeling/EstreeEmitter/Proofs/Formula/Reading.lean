import EstreeEmitter.Proofs.Formula.Written

set_option autoImplicit false

/-! # What a reader can find

Whatever the parser reads is a written formula at the front of the tokens in which no bare operation
stands behind a sign and bare operands bind at least as strongly as the operation around them
(`Grammar.exists_reading_of_parse?`). Since the tokens determine the parentheses, a formula that is
read back from its text is bound like this as the emitter writes it (`Grammar.bound_written`). -/

namespace EstreeEmitter

namespace Grammar

variable (g : Grammar (List Char))

/-- If the formula is a bare operation, its operator has at least the given strength. -/
def AtLeast (strength : Nat) (x : Written) : Prop :=
  ∀ inner, x.bareOperator? = some inner → strength ≤ (g.binding inner).strength

/-- No bare operation stands behind a sign, and no bare operand binds less strongly than the
operation around it. -/
def Bound : Written → Prop
  | .leaf .. => True
  | .signed _ _ x => x.bareOperator? = none ∧ Bound x
  | .operation _ _ operator x y =>
    g.AtLeast (g.binding operator).strength x ∧ g.AtLeast (g.binding operator).strength y ∧
      Bound x ∧ Bound y

/-- The written formula stands at the front of the tokens and is the formula that was read. -/
structure Reading (ts : List Token) (t : Formula (List Char)) (rest : List Token) (x : Written) :
    Prop where
  formula_eq : x.formula = t
  tokens_eq : ts = x.tokens ++ rest
  bound : g.Bound x

variable {g}

theorem bound_group_iff {x : Written} : g.Bound x.group ↔ g.Bound x := by
  cases x <;> exact Iff.rfl

theorem bound_of_enclosed {grouped : Bool} {x : Written} (h : g.Bound (x.enclosed grouped)) :
    g.Bound x := by
  cases grouped with
  | false => exact h
  | true => exact bound_group_iff.mp h

theorem atLeast_of_bareOperator?_none {x : Written} (h : x.bareOperator? = none) (n : Nat) :
    g.AtLeast n x := by
  intro inner hinner
  rw [h] at hinner
  cases hinner

theorem AtLeast.mono {m n : Nat} {x : Written} (h : g.AtLeast n x) (hmn : m ≤ n) :
    g.AtLeast m x := by
  intro inner hinner
  exact Nat.le_trans hmn (h inner hinner)

/-- Parentheses around a reading. -/
theorem Reading.group {ts : List Token} {t : Formula (List Char)} {rest : List Token} {x : Written}
    (h : g.Reading ts t (.closing :: rest) x) : g.Reading (.opening :: ts) t rest x.group where
  formula_eq := x.formula_group.trans h.formula_eq
  tokens_eq := by simp [h.tokens_eq]
  bound := bound_group_iff.mpr h.bound

/-- A sign before a reading in parentheses. -/
theorem Reading.signed {sign : Char} {ts : List Token} {t : Formula (List Char)}
    {rest : List Token} {x : Written} (h : g.Reading ts t rest x) (hbare : x.bareOperator? = none)
    (hopening : ts.head? = some .opening) :
    g.Reading (.word [sign] :: ts) (.signed sign t) rest (.signed 0 sign x) where
  formula_eq := congrArg (Formula.signed sign) h.formula_eq
  tokens_eq := by
    have hhead : x.tokens.head? = some .opening := by
      cases hx : x.tokens with
      | nil => exact absurd hx x.tokens_ne_nil
      | cons token us =>
        rw [h.tokens_eq, hx] at hopening
        exact hopening
    rw [Written.tokens, wrap_zero, attach_of_head? sign hhead, h.tokens_eq,
      List.cons_append]
  bound := ⟨hbare, h.bound⟩

variable (g) in
/-- A leaf is the word that it is read from. -/
def LeavesAreWords : Prop := ∀ cs a, g.leaf? cs = some a → a = cs

mutual

theorem exists_reading_of_operand? (hleaf : g.LeavesAreWords) (ts : List Token)
    {t : Formula (List Char)} {rest : List Token} (h : g.operand? ts = some (t, rest)) :
    ∃ x, g.Reading ts t rest x ∧ x.bareOperator? = none := by
  unfold operand? at h
  split at h
  · next inner =>
      split at h
      · next hread =>
          cases h
          obtain ⟨x, hx, -⟩ := exists_reading_of_expression? hleaf 0 inner hread
          exact ⟨x.group, hx.group, x.bareOperator?_group⟩
      · cases h
  · next c cs inner =>
      split_ifs at h with hs hcs hopening
      · obtain ⟨r, hread, heq⟩ := Option.map_eq_some_iff.mp h
        cases heq
        obtain ⟨x, hx, hbare⟩ := exists_reading_of_operand? hleaf inner hread
        cases List.isEmpty_iff.mp hcs
        exact ⟨.signed 0 c x, hx.signed hbare hopening, rfl⟩
      · obtain ⟨a, ha, heq⟩ := Option.map_eq_some_iff.mp h
        cases heq
        cases hleaf _ _ ha
        exact ⟨.signed 0 c (.leaf 0 cs), ⟨rfl, rfl, rfl, trivial⟩, rfl⟩
      · obtain ⟨a, ha, heq⟩ := Option.map_eq_some_iff.mp h
        cases heq
        cases hleaf _ _ ha
        exact ⟨.leaf 0 (c :: cs), ⟨rfl, rfl, trivial⟩, rfl⟩
  · cases h
  termination_by (ts.length, 0)

theorem exists_reading_of_expression? (hleaf : g.LeavesAreWords) (least : Nat) (ts : List Token)
    {t : Formula (List Char)} {rest : List Token}
    (h : g.expression? least ts = some (t, rest)) :
    ∃ x, g.Reading ts t rest x ∧ g.AtLeast least x ∧ g.Yields least rest := by
  unfold expression? at h
  split at h
  · next left inner hread =>
      split_ifs at h with hlt
      obtain ⟨x, hx, hbare⟩ := exists_reading_of_operand? hleaf ts hread
      rw [← hx.formula_eq] at h
      have hnext (operator : List Char) (ho : x.bareOperator? = some operator) :
          g.Yields ((g.binding operator).strength + 1) inner := by
        rw [hbare] at ho
        cases ho
      rw [hx.tokens_eq]
      exact exists_reading_of_climb? hleaf least x inner hx.bound
        (atLeast_of_bareOperator?_none hbare least) hnext h
  · cases h
  termination_by (ts.length, 1)

theorem exists_reading_of_climb? (hleaf : g.LeavesAreWords) (least : Nat) (x : Written)
    (ts : List Token) {t : Formula (List Char)} {rest : List Token} (hx : g.Bound x)
    (hleast : g.AtLeast least x)
    (hnext : ∀ operator, x.bareOperator? = some operator →
      g.Yields ((g.binding operator).strength + 1) ts)
    (h : g.climb? least x.formula ts = some (t, rest)) :
    ∃ y, g.Reading (x.tokens ++ ts) t rest y ∧ g.AtLeast least y ∧ g.Yields least rest := by
  unfold climb? at h
  split at h
  · next operator inner =>
      split_ifs at h with hle
      · split at h
        · next right inner' hread =>
            split_ifs at h with hlt
            obtain ⟨y, hy, hyleast, hyields⟩ :=
              exists_reading_of_expression? hleaf (g.binding operator).least inner hread
            rw [← hy.formula_eq] at h
            -- The operation becomes the left operand of what follows.
            let z : Written := .operation 0 (g.kind operator) operator x y
            have hbound : g.Bound z := by
              refine ⟨?_, hyleast.mono (g.binding operator).strength_le_least, hx, hy.bound⟩
              intro operator' ho
              exact Nat.le_of_lt_succ (hnext operator' ho operator inner rfl)
            have hzleast : g.AtLeast least z := by
              intro operator' ho
              cases ho
              exact hle
            have hznext (operator' : List Char) (ho : z.bareOperator? = some operator') :
                g.Yields ((g.binding operator').strength + 1) inner' := by
              cases ho
              exact hyields.mono g (Binding.least_le_of_lt (Nat.lt_succ_self _))
            have htokens : x.tokens ++ .word operator :: inner = z.tokens ++ inner' := by
              rw [hy.tokens_eq, Written.tokens, wrap_zero]
              simp
            rw [htokens]
            exact exists_reading_of_climb? hleaf least z inner' hbound hzleast hznext h
        · cases h
      · cases h
        refine ⟨x, ⟨rfl, rfl, hx⟩, hleast, ?_⟩
        intro operator' rest hts
        cases hts
        exact Nat.lt_of_not_le hle
  · next hword =>
      cases h
      refine ⟨x, ⟨rfl, rfl, hx⟩, hleast, ?_⟩
      intro operator rest hts
      exact absurd hts (hword operator rest)
  termination_by (ts.length, 0)
  decreasing_by
    all_goals
      subst_vars
      apply Prod.Lex.left
      simp only [List.length_cons]
      omega

end

/-- **Whatever is read from a text is written there**, with bare operands that bind strongly
enough. -/
theorem exists_reading_of_parse? (hleaf : g.LeavesAreWords) {cs : List Char}
    {t : Formula (List Char)} (h : g.parse? cs = some t) : ∃ x, g.Reading (tokens cs) t [] x := by
  unfold parse? at h
  split at h
  · next hread =>
      cases h
      obtain ⟨x, hx, -⟩ := exists_reading_of_expression? hleaf 0 _ hread
      exact ⟨x, hx⟩
  · cases h

/-- A formula that is read back from its text is bound as it is written there. -/
theorem bound_written (hleaf : g.LeavesAreWords) {t : Formula (List Char)}
    (hw : t.isWorded = true) (h : g.parse? (t.text id) = some t) : g.Bound t.written := by
  obtain ⟨x, hx⟩ := exists_reading_of_parse? hleaf h
  have hformula : x.formula = t.written.formula := by rw [hx.formula_eq, t.formula_written]
  have htokens : x.tokens = t.written.tokens := by
    rw [t.tokens_written hw, hx.tokens_eq, List.append_nil]
  have heq := x.eq_of_tokens_eq t.written hformula (by rw [hx.formula_eq, hw]) htokens
  rw [← heq]
  exact hx.bound

end Grammar

end EstreeEmitter
