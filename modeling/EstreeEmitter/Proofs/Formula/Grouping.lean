import EstreeEmitter.Proofs.Formula.Reading
import EstreeEmitter.Text.Word

set_option autoImplicit false

/-! # Which groupings a text keeps

Parentheses stand only between operations of one class: around a binary operand of a binary
operation, a logical operand of a logical one and a signed operand of a sign. Where a sign stands
before an operation, or a logical operation is an operand of a binary one, the text has none and is
that of another tree (`text_signed_operation`, `text_binary_of_logical`). A reader for whom signs
bind most and logical operators least reads a tree back from its text exactly if it has no such
operands, and then no other tree without them has the text (`parse?_generate_eq_iff`). -/

namespace EstreeEmitter

/-! ## Formulas over names -/

/-- The text is a name of word characters. -/
def isName (cs : List Char) : Bool := !cs.isEmpty && cs.all Text.isWord

/-- The character is an operator before one operand. -/
def isNegation (c : Char) : Bool := c == '!' || c == '-' || c == '~'

/-- The class of the operations with an operator. -/
def operationClass (operator : List Char) : OperationClass :=
  if operator = ['&', '&'] ∨ operator = ['|', '|'] then .logical else .binary

/-- Names as leaves. -/
def names : Leaves (List Char) where
  node?
    | .identifier (.scalar (.str s)) => some s.toList
    | _ => none
  text := id
  isAtom_of_node? h := by
    split at h
    · rfl
    · cases h
  constructText_of_node? h d pos := by
    split at h
    · cases h
      rfl
    · cases h

/-- The leaves are names, and the operators are negations, logical operators in logical operations
and other words in binary ones. -/
def Formula.isOverNames : Formula (List Char) → Bool
  | .leaf cs => isName cs
  | .signed sign t => isNegation sign && t.isOverNames
  | .operation kind operator t u =>
    isToken operator && operationClass operator == kind && t.isOverNames && u.isOverNames

/-- No sign stands before an operation, and no operand of a binary operation is logical. -/
def Formula.isSeparated {α : Type} : Formula α → Bool
  | .leaf _ => true
  | .signed _ t => t.operator?.isNone && t.isSeparated
  | .operation kind _ t u =>
    (kind == .logical || !t.isOperation .logical && !u.isOperation .logical) && t.isSeparated &&
      u.isSeparated

/-- Formulas over names, with any strengths and sides of the operators. -/
def nameGrammar (binding : List Char → Binding) : Grammar (List Char) where
  leaf? cs := if isName cs then some cs else none
  isSign := isNegation
  kind := operationClass
  binding := binding

/-- A tree of the formula. -/
def Formula.tree : Formula (List Char) → Value
  | .leaf cs => .node none (.identifier (.str (String.ofList cs)))
  | .signed sign t =>
    .node none (.unaryExpression (.str (String.singleton sign)) t.tree (.bool true))
  | .operation .binary operator t u =>
    .node none (.binaryExpression (.str (String.ofList operator)) t.tree u.tree)
  | .operation .logical operator t u =>
    .node none (.logicalExpression (.str (String.ofList operator)) t.tree u.tree)

theorem formula?_tree (t : Formula (List Char)) : t.tree.formula? names = some t := by
  induction t with
  | leaf cs => simp [Formula.tree, Value.formula?, Node.formula?, names, Value.str]
  | signed sign t ih =>
    have hsign : (Value.str (String.singleton sign)).sign? = some sign := by
      simp [Value.sign?, Value.word?, Value.str]
    simp [Formula.tree, Value.formula?, Node.formula?, hsign, ih, Value.bool, Value.isTruthy]
  | operation kind operator t u iht ihu =>
    have hword : (Value.str (String.ofList operator)).word? = some operator := by
      simp [Value.word?, Value.str]
    cases kind <;> simp [Formula.tree, Value.formula?, Node.formula?, hword, iht, ihu]

/-- Logical operators bind less strongly than binary ones. -/
def LogicalBindLess (binding : List Char → Binding) : Prop :=
  ∀ operator operator', operationClass operator = .logical → operationClass operator' = .binary →
    (binding operator).strength < (binding operator').strength

/-! ## Lost groupings -/

/-- A sign before an operation is taken for a sign before its left operand. -/
theorem text_signed_operation {α : Type} (leafText : α → List Char) (sign : Char)
    (kind : OperationClass) (operator : List Char) {t : Formula α} (u : Formula α)
    (ht : t.isOperation kind = false) (hs : t.isSigned = false) :
    (Formula.signed sign (.operation kind operator t u)).text leafText =
      (Formula.operation kind operator (.signed sign t) u).text leafText := by
  simp only [Formula.text]
  rw [ht, hs]
  rfl

/-- A binary operator behind a logical operation is taken for one behind its right operand. -/
theorem text_binary_of_logical {α : Type} (leafText : α → List Char) (logical binary : List Char)
    (t : Formula α) {u : Formula α} (w : Formula α) (hu : u.operator? = none) :
    (Formula.operation .binary binary (.operation .logical logical t u) w).text leafText =
      (Formula.operation .logical logical t (.operation .binary binary u w)).text leafText := by
  have hkind (kind : OperationClass) : u.isOperation kind = false := by
    cases u with
    | leaf a => rfl
    | signed sign u => rfl
    | operation kind operator u u' => cases hu
  simp only [Formula.text]
  rw [hkind, hkind]
  simp [Formula.isOperation, enclosed]

/-- The formulas differ, and the emitter writes the same text for both. -/
def Formula.SharesText (t u : Formula (List Char)) : Prop :=
  t.isOverNames = true ∧ u.isOverNames = true ∧ t ≠ u ∧
    ∀ d : Dialect, t.tree.generate d = u.tree.generate d

theorem sharesText_of_text_eq {t u : Formula (List Char)} (ht : t.isOverNames = true)
    (hu : u.isOverNames = true) (hne : t ≠ u) (h : t.text names.text = u.text names.text) :
    t.SharesText u := by
  refine ⟨ht, hu, hne, ?_⟩
  intro d
  rw [generate_of_formula? d (formula?_tree t), generate_of_formula? d (formula?_tree u), h]

/-- The formulas `-(a + b)` and `(-a) + b`, `!(a && b)` and `(!a) && b`, and `(a && b) + c` and
`a && (b + c)` cannot be told apart. -/
theorem sharesText_of_lost_grouping :
    Formula.SharesText
      (.signed '-' (.operation .binary ['+'] (.leaf ['a']) (.leaf ['b'])))
      (.operation .binary ['+'] (.signed '-' (.leaf ['a'])) (.leaf ['b'])) ∧
    Formula.SharesText
      (.signed '!' (.operation .logical ['&', '&'] (.leaf ['a']) (.leaf ['b'])))
      (.operation .logical ['&', '&'] (.signed '!' (.leaf ['a'])) (.leaf ['b'])) ∧
    Formula.SharesText
      (.operation .binary ['+'] (.operation .logical ['&', '&'] (.leaf ['a']) (.leaf ['b']))
        (.leaf ['c']))
      (.operation .logical ['&', '&'] (.leaf ['a'])
        (.operation .binary ['+'] (.leaf ['b']) (.leaf ['c']))) := by
  refine ⟨?_, ?_, ?_⟩
  · exact sharesText_of_text_eq (by decide) (by decide) (by decide)
      (text_signed_operation _ _ _ _ _ rfl rfl)
  · exact sharesText_of_text_eq (by decide) (by decide) (by decide)
      (text_signed_operation _ _ _ _ _ rfl rfl)
  · exact sharesText_of_text_eq (by decide) (by decide) (by decide)
      (text_binary_of_logical _ _ _ _ _ rfl)

/-! ## Kept groupings -/

theorem isToken_of_isName {cs : List Char} (h : isName cs = true) : isToken cs = true := by
  simp only [isName, Bool.and_eq_true, List.all_eq_true] at h
  simp only [isToken, Bool.and_eq_true, List.all_eq_true]
  refine ⟨h.1, ?_⟩
  intro c hc
  exact isPlain_of_class (by decide) (by decide) (by decide) (h.2 c hc)

/-- A name starts with no sign. -/
theorem isNegation_of_isName {cs : List Char} (h : isName cs = true) :
    cs.head?.all (fun c => !isNegation c) = true := by
  cases cs with
  | nil => rfl
  | cons c cs =>
    simp only [isName, Bool.and_eq_true, List.all_cons] at h
    have hne {x : Char} (hx : Text.isWord x = false) : c ≠ x := by
      rintro rfl
      rw [h.2.1] at hx
      cases hx
    have h1 : c ≠ '!' := hne (by decide)
    have h2 : c ≠ '-' := hne (by decide)
    have h3 : c ≠ '~' := hne (by decide)
    simp [isNegation, h1, h2, h3]

theorem isPlain_of_isNegation {sign : Char} (h : isNegation sign = true) : isPlain sign = true :=
  isPlain_of_class (by decide) (by decide) (by decide) h

/-- A bare operand is binary in a logical operation, so it binds more strongly. -/
theorem tight_of_isOverNames {binding : List Char → Binding} (hb : LogicalBindLess binding)
    {operator : List Char} {t : Formula (List Char)} (ht : t.isOverNames = true)
    (hs : operationClass operator = .logical ∨ t.isOperation .logical = false) :
    (nameGrammar binding).Tight operator (t.isOperation (operationClass operator)) t := by
  intro hbare inner hinner
  cases t with
  | leaf cs => cases hinner
  | signed sign t => cases hinner
  | operation kind inner' u w =>
    cases hinner
    simp only [Formula.isOverNames, Bool.and_eq_true, beq_iff_eq] at ht
    have hkind : operationClass inner = kind := ht.1.1.2
    rcases hs with hlogical | hbinary
    · rw [hlogical] at hbare
      cases kind with
      | binary => exact hb operator inner hlogical hkind
      | logical => cases hbare
    · cases kind with
      | binary =>
        cases hclass : operationClass operator with
        | binary =>
          rw [hclass] at hbare
          cases hbare
        | logical => exact hb operator inner hclass hkind
      | logical => cases hbinary

theorem fits_of_isSeparated {binding : List Char → Binding} (hb : LogicalBindLess binding)
    {t : Formula (List Char)} (ht : t.isOverNames = true) (hs : t.isSeparated = true) :
    (nameGrammar binding).Fits names.text t := by
  induction t with
  | leaf cs => exact ⟨isToken_of_isName ht, isNegation_of_isName ht, if_pos ht⟩
  | signed sign t ih =>
    simp only [Formula.isOverNames, Bool.and_eq_true] at ht
    simp only [Formula.isSeparated, Bool.and_eq_true, Option.isNone_iff_eq_none] at hs
    exact ⟨isPlain_of_isNegation ht.1, ht.1, hs.1, ih ht.2 hs.2⟩
  | operation kind operator t u iht ihu =>
    simp only [Formula.isOverNames, Bool.and_eq_true, beq_iff_eq] at ht
    obtain ⟨⟨⟨ho, rfl⟩, ht⟩, hu⟩ := ht
    simp only [Formula.isSeparated, Bool.and_eq_true, Bool.or_eq_true, beq_iff_eq,
      Bool.not_eq_true'] at hs
    obtain ⟨⟨hclass, hst⟩, hsu⟩ := hs
    refine ⟨ho, rfl, ?_, ?_, iht ht hst, ihu hu hsu⟩
    · exact tight_of_isOverNames hb ht (hclass.imp_right And.left)
    · exact tight_of_isOverNames hb hu (hclass.imp_right And.right)

theorem isWorded_of_isOverNames {t : Formula (List Char)} (h : t.isOverNames = true) :
    t.isWorded = true := by
  induction t with
  | leaf cs => exact isToken_of_isName h
  | signed sign t ih =>
    simp only [Formula.isOverNames, Bool.and_eq_true] at h
    simp [Formula.isWorded, isPlain_of_isNegation h.1, ih h.2]
  | operation kind operator t u iht ihu =>
    simp only [Formula.isOverNames, Bool.and_eq_true] at h
    simp [Formula.isWorded, h.1.1.1, iht h.1.2, ihu h.2]

theorem leavesAreWords_nameGrammar (binding : List Char → Binding) :
    (nameGrammar binding).LeavesAreWords := by
  intro cs a h
  simp only [nameGrammar] at h
  split at h
  · cases h
    rfl
  · cases h

/-- A logical operand of a binary operation is bare and binds less strongly. -/
theorem not_logical_of_atLeast {binding : List Char → Binding} (hb : LogicalBindLess binding)
    {operator : List Char} (ho : operationClass operator = .binary) {t : Formula (List Char)}
    (ht : t.isOverNames = true)
    (h : (nameGrammar binding).AtLeast (binding operator).strength
      (t.written.enclosed (t.isOperation .binary))) : t.isOperation .logical = false := by
  cases t with
  | leaf cs => rfl
  | signed sign t => rfl
  | operation kind inner u w =>
    cases kind with
    | binary => rfl
    | logical =>
      simp only [Formula.isOverNames, Bool.and_eq_true, beq_iff_eq] at ht
      have hle : (binding operator).strength ≤ (binding inner).strength := h inner rfl
      have hlt := hb inner operator ht.1.1.2 ho
      omega

theorem isSeparated_of_bound {binding : List Char → Binding} (hb : LogicalBindLess binding)
    {t : Formula (List Char)} (ht : t.isOverNames = true)
    (h : (nameGrammar binding).Bound t.written) : t.isSeparated = true := by
  induction t with
  | leaf cs => rfl
  | signed sign t ih =>
    obtain ⟨hbare, hbound⟩ := h
    simp only [Formula.isOverNames, Bool.and_eq_true] at ht
    have hoperator : t.operator? = none := by
      cases t with
      | leaf cs => rfl
      | signed sign t => rfl
      | operation kind operator t u => cases hbare
    simp [Formula.isSeparated, hoperator, ih ht.2 (Grammar.bound_of_enclosed hbound)]
  | operation kind operator t u iht ihu =>
    obtain ⟨hleft, hright, hboundLeft, hboundRight⟩ := h
    simp only [Formula.isOverNames, Bool.and_eq_true, beq_iff_eq] at ht
    obtain ⟨⟨⟨-, hkind⟩, ht⟩, hu⟩ := ht
    have hst := iht ht (Grammar.bound_of_enclosed hboundLeft)
    have hsu := ihu hu (Grammar.bound_of_enclosed hboundRight)
    cases kind with
    | logical => simp [Formula.isSeparated, hst, hsu]
    | binary =>
      have hnl := not_logical_of_atLeast hb hkind ht hleft
      have hnr := not_logical_of_atLeast hb hkind hu hright
      simp [Formula.isSeparated, hst, hsu, hnl, hnr]

/-- A formula over names is read back from its text if and only if it is separated. -/
theorem parse?_text_eq_some_iff {binding : List Char → Binding} (hb : LogicalBindLess binding)
    {t : Formula (List Char)} (ht : t.isOverNames = true) :
    (nameGrammar binding).parse? (t.text names.text) = some t ↔ t.isSeparated = true := by
  constructor
  · intro h
    exact isSeparated_of_bound hb ht (Grammar.bound_written (leavesAreWords_nameGrammar binding)
      (isWorded_of_isOverNames ht) h)
  · intro hs
    exact Grammar.parse?_text (fits_of_isSeparated hb ht hs)

/-- One strength for the logical operators and a greater one for the others. -/
def twoStrengths (operator : List Char) : Binding :=
  match operationClass operator with
  | .logical => ⟨0, .left⟩
  | .binary => ⟨1, .left⟩

theorem logicalBindLess_twoStrengths : LogicalBindLess twoStrengths := by
  intro operator operator' h h'
  simp [twoStrengths, h, h']

/-- **Which formulas keep their grouping.** The emitter writes every formula over names. A reader
for whom logical operators bind less strongly than binary ones reads the formula from the text if
and only if no sign stands before an operation and no operand of a binary operation is logical. Two
such formulas with the same text are the same. -/
theorem parse?_generate_eq_iff (d : Dialect) {v : Value} {t : Formula (List Char)}
    (hv : v.formula? names = some t) (ht : t.isOverNames = true) :
    ∃ text, v.generate d = .ok text ∧
      (∀ binding, LogicalBindLess binding →
        ((nameGrammar binding).parse? text = some t ↔ t.isSeparated = true)) ∧
      (t.isSeparated = true → ∀ (d' : Dialect) (v' : Value) (t' : Formula (List Char)),
        v'.formula? names = some t' → t'.isOverNames = true → t'.isSeparated = true →
        v'.generate d' = .ok text → t' = t) := by
  refine ⟨t.text names.text, generate_of_formula? d hv, ?_, ?_⟩
  · intro binding hb
    exact parse?_text_eq_some_iff hb ht
  · intro hs d' v' t' hv' ht' hs' htext
    exact Grammar.eq_of_generate (fits_of_isSeparated logicalBindLess_twoStrengths ht hs)
      (fits_of_isSeparated logicalBindLess_twoStrengths ht' hs') hv' htext

/-- The formula `!a || (b + c) * -(-d) > e`, in which the grouping needs no parentheses around `!a`
and the comparison. -/
def comparedProduct : Formula (List Char) :=
  .operation .logical ['|', '|'] (.signed '!' (.leaf ['a']))
    (.operation .binary ['>']
      (.operation .binary ['*']
        (.operation .binary ['+'] (.leaf ['b']) (.leaf ['c']))
        (.signed '-' (.signed '-' (.leaf ['d']))))
      (.leaf ['e']))

theorem parse?_generate_comparedProduct :
    comparedProduct.tree.formula? names = some comparedProduct ∧
      comparedProduct.isOverNames = true ∧ comparedProduct.isSeparated = true ∧
      ∃ text, comparedProduct.tree.generate .plain = .ok text ∧
        (∀ binding, LogicalBindLess binding →
          ((nameGrammar binding).parse? text = some comparedProduct ↔
            comparedProduct.isSeparated = true)) ∧
        (comparedProduct.isSeparated = true →
          ∀ (d : Dialect) (v : Value) (t : Formula (List Char)), v.formula? names = some t →
            t.isOverNames = true → t.isSeparated = true → v.generate d = .ok text →
            t = comparedProduct) :=
  ⟨formula?_tree _, by decide, by decide,
    parse?_generate_eq_iff .plain (formula?_tree _) (by decide)⟩

end EstreeEmitter
