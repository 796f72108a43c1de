import EstreeEmitter.Proofs.Printer.Expression

set_option autoImplicit false

/-! # Formulas

A `Formula` is an expression that is made of operations only: operators before one operand, and
binary and logical operators between two, over leaves of some kind. `Value.formula?` reads the
formula off a tree, and `Formula.text` is its text, with the parentheses that the emitter writes: an
operation is put in parentheses where it is an operand of an operation of its own class, and a
signed operand where it is signed again. A tree that is a formula has this text
(`generate_of_formula?`). -/

namespace EstreeEmitter

/-! ## Formulas and their text -/

/-- The two classes of operations between operands. -/
inductive OperationClass where
  | binary
  | logical
  deriving DecidableEq

/-- Operations over leaves. -/
inductive Formula (α : Type) where
  | leaf (a : α)
  /-- An operand behind an operator of one character. -/
  | signed (sign : Char) (operand : Formula α)
  /-- Two operands with an operator between them. -/
  | operation (kind : OperationClass) (operator : List Char) (left right : Formula α)
  deriving DecidableEq

/-- The text in parentheses if `grouped`. -/
def enclosed (grouped : Bool) (cs : List Char) : List Char :=
  if grouped then '(' :: (cs ++ [')']) else cs

namespace Formula

variable {α : Type}

/-- The formula starts with an operator of one operand that governs all of it. -/
def isSigned : Formula α → Bool
  | .signed .. => true
  | _ => false

/-- The formula is an operation of the given class. -/
def isOperation (kind : OperationClass) : Formula α → Bool
  | .operation kind' .. => kind' == kind
  | _ => false

/-- The text of a formula, from the texts of its leaves. -/
def text (leafText : α → List Char) : Formula α → List Char
  | .leaf a => leafText a
  | .signed sign operand => sign :: enclosed operand.isSigned (operand.text leafText)
  | .operation kind operator left right =>
    enclosed (left.isOperation kind) (left.text leafText) ++ ' ' :: operator ++
      ' ' :: enclosed (right.isOperation kind) (right.text leafText)

end Formula

/-! ## Formulas in trees -/

/-- The construct is a name or a literal. -/
def Node.isAtom : Node → Bool
  | .identifier .. | .literal .. | .numericLiteral .. | .stringLiteral .. | .booleanLiteral ..
  | .nullLiteral | .regExpLiteral .. => true
  | _ => false

/-- A kind of leaves: which names and literals are leaves, and the text of a leaf. -/
structure Leaves (α : Type) where
  /-- The leaf that a construct is. -/
  node? : Node → Option α
  text : α → List Char
  isAtom_of_node? : ∀ {n : Node} {a : α}, node? n = some a → n.isAtom = true
  constructText_of_node? : ∀ {n : Node} {a : α}, node? n = some a →
    ∀ (d : Dialect) (pos : Option Pos), constructText d pos n = .ok (text a)

/-- The text of an operator. -/
def Value.word? : Value → Option (List Char)
  | .scalar (.str s) => some s.toList
  | _ => none

/-- The one character of an operator. -/
def Value.sign? (v : Value) : Option Char :=
  match v.word? with
  | some [c] => some c
  | _ => none

mutual

/-- The formula that a value is. -/
def Value.formula? {α : Type} (leaves : Leaves α) : Value → Option (Formula α)
  | .node _ n => n.formula? leaves
  | _ => none

/-- The formula that a construct is. -/
def Node.formula? {α : Type} (leaves : Leaves α) : Node → Option (Formula α)
  | .unaryExpression operator argument isPrefix =>
    if isPrefix.isTruthy then do
      return .signed (← operator.sign?) (← argument.formula? leaves)
    else none
  | .binaryExpression operator left right => do
    return .operation .binary (← operator.word?) (← left.formula? leaves) (← right.formula? leaves)
  | .logicalExpression operator left right => do
    return .operation .logical (← operator.word?) (← left.formula? leaves)
      (← right.formula? leaves)
  | n => (leaves.node? n).map .leaf

end

/-! ## The emitter writes the text of a formula -/

theorem groupedText_ok (grouped : Bool) (cs : List Char) :
    groupedText grouped (.ok cs) = .ok (enclosed grouped cs) := by
  cases grouped with
  | false => simp [groupedText, textIf, joined, enclosed, bind, Except.bind, pure, Except.pure]
  | true => simp [groupedText, textIf, joined, enclosed, bind, Except.bind, pure, Except.pure]

theorem spacedOperator_of_word? {v : Value} {operator : List Char}
    (h : v.word? = some operator) : spacedOperator v = .ok (' ' :: operator ++ [' ']) := by
  unfold Value.word? at h
  split at h
  · cases h
    rfl
  · cases h

/-- A single character is no word operator, so no blank stands behind it. -/
theorem unaryOperator_of_sign? {v : Value} {sign : Char} (h : v.sign? = some sign) :
    unaryOperator v = .ok (.ok [sign]) := by
  unfold Value.sign? Value.word? at h
  split at h
  · next c hw =>
      cases h
      split at hw
      · next s =>
          have hs : s.toList = [sign] := Option.some.inj hw
          have hword : isWordOperator s = false := by
            rw [Bool.eq_false_iff]
            intro hc
            simp only [isWordOperator, Bool.or_eq_true, beq_iff_eq] at hc
            rcases hc with (rfl | rfl) | rfl <;> cases hs
          simp [unaryOperator, hword, hs]
      · cases hw
  · cases h

/-- The value is an expression that is of the same class as the formula and has its text. -/
structure Value.Writes {α : Type} (leafText : α → List Char) (d : Dialect) (v : Value)
    (t : Formula α) : Prop where
  isExpression_eq : v.isExpression = true
  isUnaryOrUpdate_eq : v.isUnaryOrUpdate = t.isSigned
  isBinary_eq : v.isBinary = t.isOperation .binary
  isLogical_eq : v.isLogical = t.isOperation .logical
  expressionText_eq : expressionText d v = .ok (t.text leafText)

section Text

variable {α : Type} {leaves : Leaves α}

theorem writes_leaf (d : Dialect) (pos : Option Pos) {n : Node} {a : α}
    (h : leaves.node? n = some a) : (Value.node pos n).Writes leaves.text d (.leaf a) := by
  have hn := leaves.isAtom_of_node? h
  have ht := leaves.constructText_of_node? h d pos
  cases n with
  | identifier | literal | numericLiteral | stringLiteral | booleanLiteral | nullLiteral
  | regExpLiteral => exact ⟨rfl, rfl, rfl, rfl, ht⟩
  | _ => cases hn

theorem writes_signed {d : Dialect} (pos : Option Pos) {operator argument isPrefix : Value}
    {sign : Char} {t : Formula α} (hp : isPrefix.isTruthy = true) (hs : operator.sign? = some sign)
    (ha : argument.Writes leaves.text d t) :
    (Value.node pos (.unaryExpression operator argument isPrefix)).Writes leaves.text d
      (.signed sign t) := by
  refine ⟨ha.isExpression_eq, rfl, rfl, rfl, ?_⟩
  simp only [expressionText, constructText, unaryOperator_of_sign? hs, ha.isUnaryOrUpdate_eq,
    ha.expressionText_eq, groupedText_ok, hp, textIf, Formula.text]
  simp [joined, bind, Except.bind, pure, Except.pure]

/-- Operands and an operator with blanks around it, put together. -/
theorem joined_operation (left operator right : List Char) :
    joined [.ok left, .ok (' ' :: operator ++ [' ']), .ok right] =
      .ok (left ++ ' ' :: operator ++ ' ' :: right) := by
  simp [joined, bind, Except.bind, pure, Except.pure]

theorem writes_binary {d : Dialect} (pos : Option Pos) {operator left right : Value}
    {word : List Char} {t u : Formula α} (ho : operator.word? = some word)
    (hl : left.Writes leaves.text d t) (hr : right.Writes leaves.text d u) :
    (Value.node pos (.binaryExpression operator left right)).Writes leaves.text d
      (.operation .binary word t u) := by
  refine ⟨Bool.and_eq_true_iff.mpr ⟨hl.isExpression_eq, hr.isExpression_eq⟩, rfl, rfl, rfl, ?_⟩
  simp only [expressionText, constructText, spacedOperator_of_word? ho, hl.isBinary_eq,
    hr.isBinary_eq, hl.expressionText_eq, hr.expressionText_eq, groupedText_ok, joined_operation,
    Formula.text]

theorem writes_logical {d : Dialect} (pos : Option Pos) {operator left right : Value}
    {word : List Char} {t u : Formula α} (ho : operator.word? = some word)
    (hl : left.Writes leaves.text d t) (hr : right.Writes leaves.text d u) :
    (Value.node pos (.logicalExpression operator left right)).Writes leaves.text d
      (.operation .logical word t u) := by
  refine ⟨Bool.and_eq_true_iff.mpr ⟨hl.isExpression_eq, hr.isExpression_eq⟩, rfl, rfl, rfl, ?_⟩
  simp only [expressionText, constructText, spacedOperator_of_word? ho, hl.isLogical_eq,
    hr.isLogical_eq, hl.expressionText_eq, hr.expressionText_eq, groupedText_ok, joined_operation,
    Formula.text]

mutual

theorem writes_of_formula? (d : Dialect) : ∀ (v : Value) {t : Formula α},
    v.formula? leaves = some t → v.Writes leaves.text d t
  | .node pos n, _, h => writes_of_nodeFormula? d pos n h
  | .scalar _, _, h | .list _, _, h | .record _, _, h => by cases h

theorem writes_of_nodeFormula? (d : Dialect) (pos : Option Pos) (n : Node) {t : Formula α}
    (h : n.formula? leaves = some t) : (Value.node pos n).Writes leaves.text d t := by
  cases n with
  | unaryExpression operator argument isPrefix =>
    simp only [Node.formula?] at h
    split at h
    · next hp =>
        obtain ⟨sign, hs, u, ha, rfl⟩ := by simpa [Option.bind_eq_some_iff] using h
        exact writes_signed pos hp hs (writes_of_formula? d argument ha)
    · cases h
  | binaryExpression operator left right =>
    simp only [Node.formula?] at h
    obtain ⟨word, ho, u, hl, w, hr, rfl⟩ := by simpa [Option.bind_eq_some_iff] using h
    exact writes_binary pos ho (writes_of_formula? d left hl) (writes_of_formula? d right hr)
  | logicalExpression operator left right =>
    simp only [Node.formula?] at h
    obtain ⟨word, ho, u, hl, w, hr, rfl⟩ := by simpa [Option.bind_eq_some_iff] using h
    exact writes_logical pos ho (writes_of_formula? d left hl) (writes_of_formula? d right hr)
  | _ =>
    -- Every other construct is a leaf or no formula.
    simp only [Node.formula?] at h
    obtain ⟨a, ha, rfl⟩ := Option.map_eq_some_iff.mp h
    exact writes_leaf d pos ha

end

/-- **A formula has the text that is put together from its parts.** -/
theorem generate_of_formula? (d : Dialect) {v : Value} {t : Formula α}
    (h : v.formula? leaves = some t) : v.generate d = .ok (t.text leaves.text) := by
  have hw := writes_of_formula? d v h
  rw [generate_expression d hw.isExpression_eq, hw.expressionText_eq]

end Text

end EstreeEmitter
