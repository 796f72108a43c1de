import EstreeEmitter.Proofs.Formula.Climb

set_option autoImplicit false

/-! # Binary trees need no precedences

A binary tree is a formula of binary operations only, over names and integers. Every operand that is
an operation itself stands in parentheses. So the text reads back as the tree whatever strengths and
sides a reader gives to the operators, and different trees have different texts
(`parse?_generate_binaryTree`). -/

namespace EstreeEmitter

/-! ## Integers in decimal digits -/

/-- The decimal digits of an integer, behind a minus sign if it is negative. -/
def decimalText (n : Int) : List Char := (toString n).toList

/-- The integer that digits behind an optional minus sign denote. -/
def decimalValue : List Char → Int
  | '-' :: cs => -(Nat.ofDigitChars 10 cs 0 : Nat)
  | cs => (Nat.ofDigitChars 10 cs 0 : Nat)

/-- The integer with the given decimal text. -/
def decimal? (cs : List Char) : Option Int :=
  if decimalText (decimalValue cs) = cs then some (decimalValue cs) else none

/-- The text starts with a digit or a minus sign. -/
def startsNumber (cs : List Char) : Bool := cs.head?.any fun c => c == '-' || c.isDigit

theorem decimalText_of_nonneg {n : Int} (h : 0 ≤ n) :
    decimalText n = Nat.toDigits 10 n.toNat := by
  rw [decimalText, Int.toString_eq_repr, Int.repr_eq_if, if_pos h, Nat.toList_repr]

theorem decimalText_of_neg {n : Int} (h : n < 0) :
    decimalText n = '-' :: Nat.toDigits 10 (-n).toNat := by
  rw [decimalText, Int.toString_eq_repr, Int.repr_eq_if, if_neg (by omega), String.toList_append,
    Nat.toList_repr]
  rfl

theorem exists_toDigits_eq_cons (n : Nat) :
    ∃ c cs, Nat.toDigits 10 n = c :: cs ∧ c.isDigit = true := by
  cases h : Nat.toDigits 10 n with
  | nil => exact absurd h Nat.toDigits_ne_nil
  | cons c cs =>
    refine ⟨c, cs, rfl, Nat.isDigit_of_mem_toDigits (b := 10) (n := n) (by omega) (by omega) ?_⟩
    rw [h]
    exact List.mem_cons_self

theorem startsNumber_decimalText (n : Int) : startsNumber (decimalText n) = true := by
  by_cases h : 0 ≤ n
  · obtain ⟨c, cs, hcs, hc⟩ := exists_toDigits_eq_cons n.toNat
    simp [decimalText_of_nonneg h, hcs, startsNumber, hc]
  · simp [decimalText_of_neg (Int.not_le.mp h), startsNumber]

theorem isToken_decimalText (n : Int) : isToken (decimalText n) = true := by
  have hplain (m : Nat) : (Nat.toDigits 10 m).all isPlain = true := by
    rw [List.all_eq_true]
    intro c hc
    have hdigit : c.isDigit = true := Nat.isDigit_of_mem_toDigits (by omega) (by omega) hc
    exact isPlain_of_class (by decide) (by decide) (by decide) hdigit
  by_cases h : 0 ≤ n
  · simp [decimalText_of_nonneg h, isToken, hplain, Nat.toDigits_ne_nil]
  · have hminus : isPlain '-' = true := by decide
    simp [decimalText_of_neg (Int.not_le.mp h), isToken, hplain, hminus]

/-- The text of an integer denotes it. -/
theorem decimalValue_decimalText (n : Int) : decimalValue (decimalText n) = n := by
  by_cases h : 0 ≤ n
  · obtain ⟨c, cs, hcs, hc⟩ := exists_toDigits_eq_cons n.toNat
    have hne : c ≠ '-' := by
      rintro rfl
      cases hc
    have hval : decimalValue (c :: cs) = (Nat.ofDigitChars 10 (c :: cs) 0 : Nat) := by
      unfold decimalValue
      split
      · next heq =>
          cases heq
          exact absurd rfl hne
      · rfl
    rw [decimalText_of_nonneg h, hcs, hval, ← hcs, Nat.ofDigitChars_ten_toDigits]
    omega
  · rw [decimalText_of_neg (Int.not_le.mp h)]
    simp only [decimalValue, Nat.ofDigitChars_ten_toDigits]
    omega

theorem decimal?_decimalText (n : Int) : decimal? (decimalText n) = some n := by
  rw [decimal?, decimalValue_decimalText, if_pos rfl]

/-! ## Names and integers -/

/-- A leaf of a binary tree. -/
inductive Operand where
  | name (cs : List Char)
  | integer (n : Int)
  /-- An integer that is not written in decimal digits, such as one in another base. -/
  | spelled (cs : List Char)
  deriving DecidableEq

namespace Operand

/-- The text of a leaf. -/
def text : Operand → List Char
  | .name cs | .spelled cs => cs
  | .integer n => decimalText n

/-- The integer that is written so. -/
def ofNumber (cs : List Char) : Operand :=
  match decimal? cs with
  | some n => .integer n
  | none => .spelled cs

/-- The leaf that is written so. -/
def ofWord (cs : List Char) : Operand := if startsNumber cs then ofNumber cs else .name cs

/-- The leaf is written as one word, which starts like a number if the leaf is one. -/
def isWord : Operand → Bool
  | .name cs => isToken cs && !startsNumber cs
  | .integer _ => true
  | .spelled cs => isToken cs && startsNumber cs && (decimal? cs).isNone

theorem text_ofNumber (cs : List Char) : (ofNumber cs).text = cs := by
  unfold ofNumber
  split
  · next n h =>
      unfold decimal? at h
      split at h
      · next heq =>
          cases h
          exact heq
      · cases h
  · rfl

theorem isToken_text {a : Operand} (h : a.isWord = true) : isToken a.text = true := by
  cases a with
  | name cs =>
    simp only [isWord, Bool.and_eq_true] at h
    exact h.1
  | integer n => exact isToken_decimalText n
  | spelled cs =>
    simp only [isWord, Bool.and_eq_true] at h
    exact h.1.1

/-- A leaf is read back from its text. -/
theorem ofWord_text {a : Operand} (h : a.isWord = true) : ofWord a.text = a := by
  cases a with
  | name cs =>
    simp only [isWord, Bool.and_eq_true, Bool.not_eq_true'] at h
    simp [ofWord, text, h.2]
  | integer n =>
    simp [ofWord, text, startsNumber_decimalText, ofNumber, decimal?_decimalText]
  | spelled cs =>
    simp only [isWord, Bool.and_eq_true, Option.isNone_iff_eq_none] at h
    simp [ofWord, text, h.1.2, ofNumber, h.2]

/-- The leaf that a construct is. -/
def ofNode? : Node → Option Operand
  | .identifier (.scalar (.str s)) => some (.name s.toList)
  | .literal (.scalar (.int n)) _ (.scalar .null) => some (.integer n)
  | .numericLiteral (.scalar (.int n)) extra =>
    (numericText (.scalar (.int n)) extra).toOption.map ofNumber
  | _ => none

theorem isAtom_of_ofNode? {n : Node} {a : Operand} (h : ofNode? n = some a) :
    n.isAtom = true := by
  unfold ofNode? at h
  split at h
  · rfl
  · rfl
  · rfl
  · cases h

theorem constructText_of_ofNode? {n : Node} {a : Operand} (h : ofNode? n = some a) (d : Dialect)
    (pos : Option Pos) : constructText d pos n = .ok a.text := by
  unfold ofNode? at h
  split at h
  · cases h
    rfl
  · cases h
    rfl
  · next n extra =>
      show numericText (.scalar (.int n)) extra = .ok a.text
      cases hn : numericText (.scalar (.int n)) extra with
      | error fault =>
        rw [hn] at h
        cases h
      | ok cs =>
        rw [hn] at h
        cases h
        rw [text_ofNumber]
  · cases h

end Operand

/-- Names and integers as leaves. -/
def operands : Leaves Operand where
  node? := Operand.ofNode?
  text := Operand.text
  isAtom_of_node? := Operand.isAtom_of_ofNode?
  constructText_of_node? := Operand.constructText_of_ofNode?

/-! ## Binary trees -/

/-- All operations are binary, with operators that are single words, and so are the leaves. -/
def Formula.isBinaryTree : Formula Operand → Bool
  | .leaf a => a.isWord
  | .signed .. => false
  | .operation kind operator left right =>
    kind == .binary && isToken operator && left.isBinaryTree && right.isBinaryTree

/-- Binary operations over names and integers, with any strengths and sides of the operators. -/
def binaryGrammar (binding : List Char → Binding) : Grammar Operand where
  leaf? cs := some (Operand.ofWord cs)
  isSign _ := false
  kind _ := .binary
  binding := binding

/-- No operand of a binary operation in a binary tree is bare. -/
theorem tight_of_isBinaryTree (binding : List Char → Binding) (operator : List Char)
    {t : Formula Operand} (h : t.isBinaryTree = true) :
    (binaryGrammar binding).Tight operator (t.isOperation .binary) t := by
  intro hbare inner hinner
  cases t with
  | leaf a => cases hinner
  | signed sign t => cases hinner
  | operation kind operator' left right =>
    simp only [Formula.isBinaryTree, Bool.and_eq_true] at h
    rw [Formula.isOperation, h.1.1.1] at hbare
    cases hbare

theorem fits_of_isBinaryTree (binding : List Char → Binding) {t : Formula Operand}
    (h : t.isBinaryTree = true) : (binaryGrammar binding).Fits Operand.text t := by
  induction t with
  | leaf a =>
    have hread : (binaryGrammar binding).leaf? a.text = some a :=
      congrArg some (Operand.ofWord_text h)
    exact ⟨Operand.isToken_text h, by simp [binaryGrammar], hread⟩
  | signed sign t ih => cases h
  | operation kind operator left right ihl ihr =>
    simp only [Formula.isBinaryTree, Bool.and_eq_true, beq_iff_eq] at h
    obtain ⟨⟨⟨rfl, ho⟩, hl⟩, hr⟩ := h
    exact ⟨ho, rfl, tight_of_isBinaryTree binding operator hl,
      tight_of_isBinaryTree binding operator hr, ihl hl, ihr hr⟩

/-- **Precedences do not matter for binary trees.** The emitter writes a binary tree, a reader with
any strengths and sides of the operators reads exactly this tree from the text, and no other binary
tree has the text. -/
theorem parse?_generate_binaryTree (d : Dialect) {v : Value} {t : Formula Operand}
    (hv : v.formula? operands = some t) (ht : t.isBinaryTree = true) :
    ∃ text, v.generate d = .ok text ∧
      (∀ binding, (binaryGrammar binding).parse? text = some t) ∧
      ∀ (d' : Dialect) (v' : Value) (t' : Formula Operand), v'.formula? operands = some t' →
        t'.isBinaryTree = true → v'.generate d' = .ok text → t' = t := by
  refine ⟨t.text operands.text, generate_of_formula? d hv, ?_, ?_⟩
  · intro binding
    exact Grammar.parse?_text (fits_of_isBinaryTree binding ht)
  · intro d' v' t' hv' ht' htext
    -- Any strengths will do here, as long as both trees are read with the same ones.
    have hfits {u : Formula Operand} (hu : u.isBinaryTree = true) :=
      fits_of_isBinaryTree (fun _ => ⟨0, .left⟩) hu
    exact Grammar.eq_of_generate (hfits ht) (hfits ht') hv' htext

/-- The tree of `((a + 1) * b) - (0x1F ** -2)`. -/
def nestedTree : Value :=
  .node none (.binaryExpression (.str "-")
    (.node none (.binaryExpression (.str "*")
      (.node none (.binaryExpression (.str "+") (.node none (.identifier (.str "a")))
        (.node none (.literal (.scalar (.int 1)) .null .null))))
      (.node none (.identifier (.str "b")))))
    (.node none (.binaryExpression (.str "**")
      (.node none (.numericLiteral (.scalar (.int 31)) (.record [("raw", .str "0x1F")])))
      (.node none (.literal (.scalar (.int (-2))) .null .null)))))

theorem parse?_generate_nestedTree :
    ∃ t, nestedTree.formula? operands = some t ∧ t.isBinaryTree = true ∧
      ∃ text, nestedTree.generate .ruby = .ok text ∧
        (∀ binding, (binaryGrammar binding).parse? text = some t) ∧
        ∀ (d : Dialect) (v : Value) (t' : Formula Operand), v.formula? operands = some t' →
          t'.isBinaryTree = true → v.generate d = .ok text → t' = t := by
  have hv : nestedTree.formula? operands = some (.operation .binary ['-']
      (.operation .binary ['*']
        (.operation .binary ['+'] (.leaf (.name ['a'])) (.leaf (.integer 1)))
        (.leaf (.name ['b'])))
      (.operation .binary ['*', '*'] (.leaf (.spelled ['0', 'x', '1', 'F']))
        (.leaf (.integer (-2))))) := by decide +kernel
  exact ⟨_, hv, by decide +kernel, parse?_generate_binaryTree .ruby hv (by decide +kernel)⟩

end EstreeEmitter
