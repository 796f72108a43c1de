import EstreeEmitter.Proofs.Printer.Program
import EstreeEmitter.Proofs.Reader.Lines

set_option autoImplicit false

/-! # Programs read back from their text

The text of a program gives its statements back: which construct a statement stands in, the order
of statements, and to which choice a branch belongs. The leaves of the tree must be on one line, and
no simple statement may look like the start or the end of a construct. -/

namespace EstreeEmitter

open Text Emission

/-! ## Leaves on one line -/

/-- The text could be made and has no line feed. -/
def OneLine : Except Fault (List Char) → Prop
  | .ok cs => '\n' ∉ cs
  | .error _ => False

instance : DecidablePred OneLine
  | .ok cs => inferInstanceAs (Decidable ('\n' ∉ cs))
  | .error _ => inferInstanceAs (Decidable False)

mutual

/-- The texts of the names, operators and literals in a tree. -/
def Value.leaves : Value → List (Except Fault (List Char))
  | .node _ n => n.leaves
  | .list items => leavesOf items
  | _ => []

/-- The texts of the names, operators and literals in a construct. -/
def Node.leaves : Node → List (Except Fault (List Char))
  | .program body => body.leaves
  | .file program => program.leaves
  | .expressionStatement expression => expression.leaves
  | .blockStatement body => body.leaves
  | .functionDeclaration id params body => id.leaves ++ (params.leaves ++ body.leaves)
  | .variableDeclarator id init => id.leaves ++ init.leaves
  | .variableDeclaration _ declarations => declarations.leaves
  | .returnStatement argument => argument.leaves
  | .ifStatement test consequent alternate =>
    test.leaves ++ (consequent.leaves ++ alternate.leaves)
  | .whileStatement test body => test.leaves ++ body.leaves
  | .doWhileStatement body test => body.leaves ++ test.leaves
  | .forStatement init test update body =>
    init.leaves ++ (test.leaves ++ (update.leaves ++ body.leaves))
  | .assignmentExpression operator left right => operator.asText :: (left.leaves ++ right.leaves)
  | .callExpression callee arguments => callee.leaves ++ arguments.leaves
  | .memberExpression object property _ => object.leaves ++ property.leaves
  | .unaryExpression operator argument _ => operator.asText :: argument.leaves
  | .updateExpression operator argument _ => operator.asText :: argument.leaves
  | .binaryExpression operator left right => operator.asText :: (left.leaves ++ right.leaves)
  | .logicalExpression operator left right => operator.asText :: (left.leaves ++ right.leaves)
  | .conditionalExpression test consequent alternate =>
    test.leaves ++ (consequent.leaves ++ alternate.leaves)
  | .arrayExpression elements => elements.leaves
  | .identifier name => [name.asText]
  | .literal value raw regex => [Dialect.ruby.literalText value raw regex]
  | .numericLiteral value extra => [numericText value extra]
  | .stringLiteral value extra => [Dialect.ruby.stringText value extra]
  | .regExpLiteral pattern flags extra => [regExpText pattern flags extra]
  | .importDeclaration _ | .breakStatement | .booleanLiteral _ | .nullLiteral | .bare => []

/-- The texts of the names, operators and literals in several trees. -/
def leavesOf : List Value → List (Except Fault (List Char))
  | [] => []
  | v :: rest => v.leaves ++ leavesOf rest

end

/-! ## Expressions on one line -/

theorem oneLine_iff {r : Except Fault (List Char)} : OneLine r ↔ ∃ cs, r = .ok cs ∧ '\n' ∉ cs := by
  cases r with
  | ok cs => simp [OneLine]
  | error fault => simp [OneLine]

@[simp] theorem oneLine_ok {cs : List Char} : OneLine (.ok cs) ↔ '\n' ∉ cs := Iff.rfl

@[simp] theorem oneLine_joined {rs : List (Except Fault (List Char))} :
    OneLine (joined rs) ↔ ∀ r ∈ rs, OneLine r := by
  induction rs with
  | nil => simp [joined]
  | cons r rs ih =>
      rw [List.forall_mem_cons, ← ih]
      cases r with
      | error fault => simp [joined_cons_of_error rfl, OneLine]
      | ok cs =>
          rw [joined_cons_of_ok rfl]
          cases joined rs with
          | error fault => simp [Except.map, OneLine]
          | ok ds => simp [Except.map, OneLine]

@[simp] theorem oneLine_textIf {condition : Bool} {r : Except Fault (List Char)} :
    OneLine (textIf condition r) ↔ (condition = true → OneLine r) := by
  cases condition <;> simp [textIf]

@[simp] theorem oneLine_groupedText {grouped : Bool} {r : Except Fault (List Char)} :
    OneLine (groupedText grouped r) ↔ OneLine r := by
  simp [groupedText]

theorem oneLine_spacedOperator {operator : Value} (h : OneLine operator.asText) :
    OneLine (spacedOperator operator) := by
  obtain ⟨cs, hcs, hn⟩ := oneLine_iff.mp h
  rw [spacedOperator, hcs]
  simpa [OneLine, bind, Except.bind, pure, Except.pure] using hn

/-- Two operands with an operator between them. -/
theorem oneLine_infix {operator : Value} {left right : Except Fault (List Char)}
    (ho : OneLine operator.asText) (hl : OneLine left) (hr : OneLine right) :
    OneLine (joined [left, spacedOperator operator, right]) := by
  simp [oneLine_spacedOperator ho, hl, hr]

/-- An operator on one line is one that is written at once. -/
theorem unaryOperator_of_oneLine {operator : Value} (h : OneLine operator.asText) :
    ∃ text, unaryOperator operator = .ok text ∧ OneLine text := by
  cases operator with
  | scalar s =>
      cases s with
      | str s =>
          refine ⟨_, rfl, ?_⟩
          have hn : '\n' ∉ s.toList := h
          by_cases hw : isWordOperator s = true <;> simp [hw, hn]
      | _ => exact h.elim
  | _ => exact h.elim

mutual

theorem oneLine_expressionText : ∀ v : Value, v.isExpression = true →
    (∀ leaf ∈ v.leaves, OneLine leaf) → OneLine (expressionText .ruby v)
  | .node pos n, he, hl => oneLine_constructText pos n he hl
  | .scalar _, he, _ | .list _, he, _ | .record _, he, _ => by cases he

theorem oneLine_constructText (pos : Option Pos) : ∀ n : Node, n.isExpression = true →
    (∀ leaf ∈ n.leaves, OneLine leaf) → OneLine (constructText .ruby pos n)
  | .assignmentExpression operator left right, he, hl => by
      simp only [Node.isExpression, Bool.and_eq_true] at he
      simp only [Node.leaves, List.forall_mem_cons, List.forall_mem_append] at hl
      exact oneLine_infix hl.1 (oneLine_expressionText left he.1 hl.2.1)
        (oneLine_expressionText right he.2 hl.2.2)
  | .callExpression callee arguments, he, hl => by
      simp only [Node.isExpression, Bool.and_eq_true] at he
      simp only [Node.leaves, List.forall_mem_append] at hl
      simp [constructText, oneLine_expressionText callee he.1 hl.1,
        oneLine_listText arguments he.2 hl.2]
  | .memberExpression object property computed, he, hl => by
      simp only [Node.isExpression, Bool.and_eq_true] at he
      simp only [Node.leaves, List.forall_mem_append] at hl
      have ho := oneLine_expressionText object he.1 hl.1
      have hp := oneLine_expressionText property he.2 hl.2
      rw [constructText]
      by_cases hc : computed.isTruthy = true <;> simp [hc, ho, hp]
  | .unaryExpression operator argument isPrefix, he, hl => by
      simp only [Node.leaves, List.forall_mem_cons] at hl
      obtain ⟨text, ht, ho⟩ := unaryOperator_of_oneLine hl.1
      have ha := oneLine_expressionText argument he hl.2
      simp [constructText, ht, ho, ha]
  | .updateExpression operator argument isPrefix, he, hl => by
      simp only [Node.leaves, List.forall_mem_cons] at hl
      simp [constructText, hl.1, oneLine_expressionText argument he hl.2]
  | .binaryExpression operator left right, he, hl => by
      simp only [Node.isExpression, Bool.and_eq_true] at he
      simp only [Node.leaves, List.forall_mem_cons, List.forall_mem_append] at hl
      exact oneLine_infix hl.1 (oneLine_groupedText.mpr (oneLine_expressionText left he.1 hl.2.1))
        (oneLine_groupedText.mpr (oneLine_expressionText right he.2 hl.2.2))
  | .logicalExpression operator left right, he, hl => by
      simp only [Node.isExpression, Bool.and_eq_true] at he
      simp only [Node.leaves, List.forall_mem_cons, List.forall_mem_append] at hl
      exact oneLine_infix hl.1 (oneLine_groupedText.mpr (oneLine_expressionText left he.1 hl.2.1))
        (oneLine_groupedText.mpr (oneLine_expressionText right he.2 hl.2.2))
  | .conditionalExpression test consequent alternate, he, hl => by
      simp only [Node.isExpression, Bool.and_eq_true] at he
      simp only [Node.leaves, List.forall_mem_append] at hl
      simp [constructText, oneLine_expressionText test he.1.1 hl.1,
        oneLine_expressionText consequent he.1.2 hl.2.1,
        oneLine_expressionText alternate he.2 hl.2.2]
  | .arrayExpression elements, he, hl => by
      simp [constructText, oneLine_listText elements he hl]
  | .identifier name, _, hl => hl _ (List.mem_singleton.mpr rfl)
  | .literal value raw regex, _, hl => hl _ (List.mem_singleton.mpr rfl)
  | .numericLiteral value extra, _, hl => hl _ (List.mem_singleton.mpr rfl)
  | .stringLiteral value extra, _, hl => hl _ (List.mem_singleton.mpr rfl)
  | .regExpLiteral pattern flags extra, _, hl => hl _ (List.mem_singleton.mpr rfl)
  | .booleanLiteral value, _, _ => by
      rw [constructText, booleanText]
      by_cases hv : value.isTruthy = true <;> simp [hv]
  | .nullLiteral, _, _ => by simp [constructText, Dialect.nullWord]
  | .program _, he, _ | .file _, he, _ | .expressionStatement _, he, _
  | .importDeclaration _, he, _ | .blockStatement _, he, _ | .functionDeclaration .., he, _
  | .variableDeclarator .., he, _ | .variableDeclaration .., he, _ | .returnStatement _, he, _
  | .ifStatement .., he, _ | .whileStatement .., he, _ | .doWhileStatement .., he, _
  | .forStatement .., he, _ | .breakStatement, he, _ | .bare, he, _ => by cases he

theorem oneLine_listText : ∀ v : Value, v.isExpressionList = true →
    (∀ leaf ∈ v.leaves, OneLine leaf) → OneLine (listText .ruby v)
  | .list items, he, hl => oneLine_separatedText true items he hl
  | .node _ _, he, _ | .scalar _, he, _ | .record _, he, _ => by cases he

theorem oneLine_separatedText (first : Bool) : ∀ items : List Value, areExpressions items = true →
    (∀ leaf ∈ leavesOf items, OneLine leaf) → OneLine (separatedText .ruby first items)
  | [], _, _ => by simp [separatedText]
  | v :: rest, he, hl => by
      simp only [areExpressions, Bool.and_eq_true, Bool.or_eq_true] at he
      simp only [leavesOf, List.forall_mem_append] at hl
      have hr := oneLine_separatedText false rest he.2 hl.2
      rcases he.1 with hv | hv
      · simp [separatedText, Value.isPresent, hv, hr, Dialect.nullWord]
      · have ht := oneLine_expressionText v hv hl.1
        by_cases hn : v.isNull = true <;>
          simp [separatedText, Value.isPresent, hn, ht, hr, Dialect.nullWord]

end

/-! ## Statements on lines -/

/-- The statements could be read off, and no text of theirs has a line feed. -/
def OneLines (r : Except Fault (List Statement)) : Prop :=
  ∃ ss, r = .ok ss ∧ ∀ text ∈ textsOf ss, '\n' ∉ text

theorem textsOf_append (ss ss' : List Statement) :
    textsOf (ss ++ ss') = textsOf ss ++ textsOf ss' := by
  induction ss with
  | nil => rfl
  | cons s rest ih => simp [textsOf, ih]

theorem oneLines_nil : OneLines (.ok []) := ⟨[], rfl, nofun⟩

theorem oneLines_line {text : List Char} (h : '\n' ∉ text) : OneLines (.ok [.line text]) :=
  ⟨_, rfl, by simpa [textsOf, Statement.texts] using h⟩

theorem OneLine.oneLines {r : Except Fault (List Char)} (h : OneLine r) :
    OneLines (do return [.line (← r)]) := by
  obtain ⟨text, rfl, hn⟩ := oneLine_iff.mp h
  exact oneLines_line hn

theorem OneLines.append {r r' : Except Fault (List Statement)} (h : OneLines r)
    (h' : OneLines r') : OneLines (do return (← r) ++ (← r')) := by
  obtain ⟨ss, rfl, hn⟩ := h
  obtain ⟨ss', rfl, hn'⟩ := h'
  refine ⟨ss ++ ss', rfl, ?_⟩
  rw [textsOf_append, List.forall_mem_append]
  exact ⟨hn, hn'⟩

theorem oneLine_optional {v : Value} (he : v.isOptionalExpression = true)
    (hl : ∀ leaf ∈ v.leaves, OneLine leaf) (hp : v.isPresent = true) :
    OneLine (expressionText .ruby v) := by
  have hn : v.isNull = false := by simpa [Value.isPresent] using hp
  rw [Value.isOptionalExpression, hn, Bool.false_or] at he
  exact oneLine_expressionText v he hl

theorem oneLine_declaratorText {v : Value} (hd : v.isDeclarator = true)
    (hl : ∀ leaf ∈ v.leaves, OneLine leaf) : OneLine (declaratorText v) := by
  unfold Value.isDeclarator at hd
  split at hd
  · rename_i pos id init
    simp only [Bool.and_eq_true] at hd
    simp only [Value.leaves, Node.leaves, List.forall_mem_append] at hl
    have hid := oneLine_expressionText id hd.1 hl.1
    by_cases hp : init.isPresent = true
    · simp [declaratorText, hid, hp, oneLine_optional hd.2 hl.2 hp]
    · simp [declaratorText, hid, hp, Dialect.nullWord]
  · cases hd

theorem oneLines_declaratorLines {items : List Value} (hd : items.all Value.isDeclarator = true)
    (hl : ∀ leaf ∈ leavesOf items, OneLine leaf) : OneLines (declaratorLines items) := by
  induction items with
  | nil => exact oneLines_nil
  | cons v rest ih =>
      simp only [List.all_cons, Bool.and_eq_true] at hd
      simp only [leavesOf, List.forall_mem_append] at hl
      obtain ⟨text, ht, hn⟩ := oneLine_iff.mp (oneLine_declaratorText hd.1 hl.1)
      obtain ⟨ss, hs, hn'⟩ := ih hd.2 hl.2
      refine ⟨.line text :: ss, by rw [declaratorLines, ht, hs]; rfl, ?_⟩
      simpa [textsOf, Statement.texts, hn] using hn'

theorem oneLines_declarationStatements {v : Value} (hd : v.isDeclaratorList = true)
    (hl : ∀ leaf ∈ v.leaves, OneLine leaf) : OneLines (declarationStatements v) := by
  unfold Value.isDeclaratorList at hd
  split at hd
  · exact oneLines_declaratorLines hd hl
  · cases hd

theorem oneLine_returnText {v : Value} (he : v.isOptionalExpression = true)
    (hl : ∀ leaf ∈ v.leaves, OneLine leaf) : OneLine (returnText v) := by
  simpa [returnText] using oneLine_optional he hl

theorem oneLine_signatureText {id params : Value} (hi : id.isExpression = true)
    (hp : params.isExpressionList = true) (hl : ∀ leaf ∈ id.leaves, OneLine leaf)
    (hl' : ∀ leaf ∈ params.leaves, OneLine leaf) : OneLine (signatureText id params) := by
  simp [signatureText, oneLine_expressionText id hi hl, oneLine_listText params hp hl']

theorem oneLines_initStatements {v : Value} (hi : v.isInitializer = true)
    (hl : ∀ leaf ∈ v.leaves, OneLine leaf) : OneLines (initStatements v) := by
  unfold Value.isInitializer at hi
  split at hi
  · exact oneLines_declarationStatements hi hl
  · rename_i hdecl
    by_cases hp : v.isPresent = true
    · -- neither absent nor a declaration: an expression on a line of its own
      have hv : initStatements v = do return [.line (← expressionText .ruby v)] := by
        unfold initStatements
        split
        · cases hp
        · exact absurd rfl (hdecl _ _ _)
        · rfl
      rw [hv]
      exact (oneLine_optional hi hl hp).oneLines
    · have hv : v = .scalar .null := by
        unfold Value.isPresent Value.isNull at hp
        split at hp
        · rfl
        · cases hp rfl
      rw [hv]
      exact oneLines_nil

theorem oneLine_loopTest {v : Value} (he : v.isOptionalExpression = true)
    (hl : ∀ leaf ∈ v.leaves, OneLine leaf) : OneLine (loopTest v) := by
  by_cases hp : v.isPresent = true
  · rw [loopTest, if_pos hp]
    exact oneLine_optional he hl hp
  · simp [loopTest, hp]

theorem oneLines_updateStatements {v : Value} (he : v.isOptionalExpression = true)
    (hl : ∀ leaf ∈ v.leaves, OneLine leaf) : OneLines (updateStatements v) := by
  by_cases hp : v.isPresent = true
  · rw [updateStatements, if_pos hp]
    exact (oneLine_optional he hl hp).oneLines
  · rw [updateStatements, if_neg hp]
    exact oneLines_nil

mutual

theorem oneLines_statements : ∀ v : Value, v.isStatement = true →
    (∀ leaf ∈ v.leaves, OneLine leaf) → OneLines (statements v)
  | .node pos n, hs, hl => oneLines_constructStatements pos n hs hl
  | .scalar _, hs, _ | .list _, hs, _ | .record _, hs, _ => by cases hs

theorem oneLines_constructStatements (pos : Option Pos) : ∀ n : Node, n.isStatement = true →
    (∀ leaf ∈ n.leaves, OneLine leaf) → OneLines (constructStatements pos n)
  | .expressionStatement expression, hs, hl =>
      (oneLine_expressionText expression hs hl).oneLines
  | .importDeclaration _, _, _ => oneLines_line (by decide)
  | .breakStatement, _, _ => oneLines_line (by decide)
  | .returnStatement argument, hs, hl => (oneLine_returnText hs hl).oneLines
  | .variableDeclaration _ declarations, hs, hl => oneLines_declarationStatements hs hl
  | .functionDeclaration id params body, hs, hl => by
      simp only [Node.isStatement, Bool.and_eq_true] at hs
      simp only [Node.leaves, List.forall_mem_append] at hl
      obtain ⟨text, ht, hn⟩ := oneLine_iff.mp (oneLine_signatureText hs.1.1 hs.1.2 hl.1 hl.2.1)
      obtain ⟨ss, hb, hn'⟩ := oneLines_bodyStatements false body (isBody_of_isBlock hs.2) hl.2.2
      refine ⟨[.method text ss], by rw [constructStatements, ht, hb]; rfl, ?_⟩
      simpa [textsOf, Statement.texts, hn] using hn'
  | .ifStatement test consequent alternate, hs, hl => by
      simp only [Node.isStatement, Bool.and_eq_true, Bool.or_eq_true] at hs
      simp only [Node.leaves, List.forall_mem_append] at hl
      obtain ⟨text, ht, hn⟩ := oneLine_iff.mp (oneLine_expressionText test hs.1.1 hl.1)
      obtain ⟨ss, hb, hn'⟩ := oneLines_bodyStatements true consequent hs.1.2 hl.2.1
      obtain ⟨others, ho, hn''⟩ := oneLine_branches alternate hs.2 hl.2.2
      refine ⟨[.choice text ss others], by rw [constructStatements, ht, hb, ho]; rfl, ?_⟩
      simp only [textsOf, Statement.texts, List.append_nil, List.forall_mem_cons,
        List.forall_mem_append]
      exact ⟨by simpa using hn, hn', hn''⟩
  | .whileStatement test body, hs, hl => by
      simp only [Node.isStatement, Bool.and_eq_true] at hs
      simp only [Node.leaves, List.forall_mem_append] at hl
      obtain ⟨text, ht, hn⟩ := oneLine_iff.mp (oneLine_expressionText test hs.1 hl.1)
      obtain ⟨ss, hb, hn'⟩ := oneLines_bodyStatements false body hs.2 hl.2
      refine ⟨[.loop text ss], by rw [constructStatements, ht, hb]; rfl, ?_⟩
      simpa [textsOf, Statement.texts, hn] using hn'
  | .doWhileStatement body test, hs, hl => by
      simp only [Node.isStatement, Bool.and_eq_true] at hs
      simp only [Node.leaves, List.forall_mem_append] at hl
      obtain ⟨text, ht, hn⟩ := oneLine_iff.mp (oneLine_expressionText test hs.2 hl.2)
      obtain ⟨ss, hb, hn'⟩ := oneLines_bodyStatements false body hs.1 hl.1
      refine ⟨[.lateLoop ss text], by rw [constructStatements, ht, hb]; rfl, ?_⟩
      simpa [textsOf, Statement.texts, hn] using hn'
  | .forStatement init test update body, hs, hl => by
      simp only [Node.isStatement, Bool.and_eq_true] at hs
      simp only [Node.leaves, List.forall_mem_append] at hl
      obtain ⟨before, hi, hbefore⟩ := oneLines_initStatements hs.1.1.1 hl.1
      obtain ⟨text, ht, htext⟩ := oneLine_iff.mp (oneLine_loopTest hs.1.1.2 hl.2.1)
      obtain ⟨inner, hb, hinner⟩ := oneLines_bodyStatements false body hs.2 hl.2.2.2
      obtain ⟨last, hu, hlast⟩ := oneLines_updateStatements hs.1.2 hl.2.2.1
      refine ⟨before ++ [.loop text (inner ++ last)],
        by rw [constructStatements, hi, ht, hb, hu]; rfl, ?_⟩
      simp only [textsOf, textsOf_append, Statement.texts, List.append_nil, List.forall_mem_cons,
        List.forall_mem_append]
      exact ⟨hbefore, by simpa using htext, by decide, hinner, hlast⟩
  | .program _, hs, _ | .file _, hs, _ | .blockStatement _, hs, _ | .variableDeclarator .., hs, _
  | .assignmentExpression .., hs, _ | .callExpression .., hs, _ | .memberExpression .., hs, _
  | .unaryExpression .., hs, _ | .updateExpression .., hs, _ | .binaryExpression .., hs, _
  | .logicalExpression .., hs, _ | .conditionalExpression .., hs, _ | .arrayExpression _, hs, _
  | .identifier _, hs, _ | .literal .., hs, _ | .numericLiteral .., hs, _
  | .stringLiteral .., hs, _ | .booleanLiteral _, hs, _ | .nullLiteral, hs, _
  | .regExpLiteral .., hs, _ | .bare, hs, _ => by cases hs

theorem oneLines_bodyStatements (returning : Bool) : ∀ v : Value, v.isBody = true →
    (∀ leaf ∈ v.leaves, OneLine leaf) → OneLines (bodyStatements returning v)
  | .node pos n, hs, hl => by
      cases n with
      | blockStatement body => exact oneLines_listStatements body hs hl
      | expressionStatement expression =>
          have he : expression.isExpression = true := hs
          cases returning with
          | true =>
              have ho : expression.isOptionalExpression = true := by
                rw [Value.isOptionalExpression, he, Bool.or_true]
              exact (oneLine_returnText ho hl).oneLines
          | false => exact (oneLine_expressionText expression he hl).oneLines
      | _ => exact oneLines_constructStatements pos _ hs hl
  | .scalar _, hs, _ | .list _, hs, _ | .record _, hs, _ => by cases hs

theorem oneLine_branches : ∀ v : Value, v.isNull = true ∨ v.isBody = true →
    (∀ leaf ∈ v.leaves, OneLine leaf) →
      ∃ others, branches v = .ok others ∧ ∀ text ∈ others.texts, '\n' ∉ text
  | .node pos n, hs, hl => by
      have hb : (Value.node pos n).isBody = true := hs.resolve_left nofun
      cases n with
      | ifStatement test consequent alternate =>
          have hi : (Node.ifStatement test consequent alternate).isStatement = true := hb
          simp only [Node.isStatement, Bool.and_eq_true, Bool.or_eq_true] at hi
          simp only [Value.leaves, Node.leaves, List.forall_mem_append] at hl
          obtain ⟨text, ht, hn⟩ := oneLine_iff.mp (oneLine_expressionText test hi.1.1 hl.1)
          obtain ⟨ss, hc, hn'⟩ := oneLines_bodyStatements true consequent hi.1.2 hl.2.1
          obtain ⟨others, ho, hn''⟩ := oneLine_branches alternate hi.2 hl.2.2
          refine ⟨.elseIf text ss others, by simp only [branches, ht, hc, ho]; rfl, ?_⟩
          simp only [Branches.texts, List.forall_mem_cons, List.forall_mem_append]
          exact ⟨by simpa using hn, hn', hn''⟩
      | blockStatement body =>
          obtain ⟨ss, hc, hn⟩ := oneLines_listStatements body hb hl
          refine ⟨.otherwise ss, by simp only [branches, hc]; rfl, ?_⟩
          simpa [Branches.texts] using hn
      | _ =>
          obtain ⟨ss, hc, hn⟩ := oneLines_constructStatements pos _ hb hl
          refine ⟨.otherwise ss, by simp only [branches, hc]; rfl, ?_⟩
          simpa [Branches.texts] using hn
  | .scalar s, hs, hl => by
      cases s with
      | null => exact ⟨.none, rfl, by decide⟩
      | _ => rcases hs with hs | hs <;> cases hs
  | .list _, hs, _ | .record _, hs, _ => by rcases hs with hs | hs <;> cases hs

theorem oneLines_listStatements : ∀ v : Value, v.isStatementList = true →
    (∀ leaf ∈ v.leaves, OneLine leaf) → OneLines (listStatements v)
  | .list items, hs, hl => oneLines_allStatements items hs hl
  | .node _ _, hs, _ | .scalar _, hs, _ | .record _, hs, _ => by cases hs

theorem oneLines_allStatements : ∀ items : List Value, areStatements items = true →
    (∀ leaf ∈ leavesOf items, OneLine leaf) → OneLines (allStatements items)
  | [], _, _ => oneLines_nil
  | v :: rest, hs, hl => by
      simp only [areStatements, Bool.and_eq_true] at hs
      simp only [leavesOf, List.forall_mem_append] at hl
      exact (oneLines_statements v hs.1 hl.1).append (oneLines_allStatements rest hs.2 hl.2)

end

/-- **Programs can be read back from their text.** A well-formed program with its leaves on one line
has a text; a reader that keeps a stack of open constructs takes every line of it, ends with no
construct open, and has rebuilt the skeleton of the program's statements. These are the statements
themselves where every one of them has a text without blanks at its end. -/
theorem readText?_generate (pos : Option Pos) (items : List Value)
    (hw : areStatements items = true) (hl : ∀ leaf ∈ leavesOf items, OneLine leaf)
    (hk : ∀ ss, allStatements items = .ok ss →
      ∀ text ∈ simpleTextsOf ss, startsWithKeyword text = false) :
    ∃ text ss, Value.generate .ruby (.node pos (.program (.list items))) = .ok text ∧
      allStatements items = .ok ss ∧ readText? text = some (skeletonOf ss) ∧
      ((∀ t ∈ textsOf ss, t ≠ [] ∧ Trimmed t) → readText? text = some ss) := by
  obtain ⟨ss, hs, hn⟩ := oneLines_allStatements items hw hl
  have hg := (prints_program pos hw).generate
  rw [hs] at hg
  have hr := readText?_joinWith hn (hk ss hs)
  exact ⟨_, ss, hg, hs, hr, fun ht => by rw [hr, skeletonOf_eq_self ss ht]⟩

/-- The statements of the nested program. -/
def nestedStatements : List Statement :=
  let chain : Statement := .choice "x".toList [.line "return g".toList]
    (.elseIf "y".toList [.method "h()".toList []] (.otherwise [.lateLoop [] "z".toList]))
  [.method "f(x)".toList [chain], .line "i".toList, .loop "true".toList [.line "break".toList]]

/-- The nested program is read back whole, with each branch in its own choice. -/
theorem readText?_generate_nested : areStatements nestedProgram = true ∧
    (∀ leaf ∈ leavesOf nestedProgram, OneLine leaf) ∧
    (∀ text ∈ simpleTextsOf nestedStatements, startsWithKeyword text = false) ∧
    ∃ text, Value.generate .ruby (.node none (.program (.list nestedProgram))) = .ok text ∧
      readText? text = some nestedStatements := by
  have hs : allStatements nestedProgram = .ok nestedStatements := rfl
  have hl : ∀ leaf ∈ leavesOf nestedProgram, OneLine leaf := by decide
  have hk : ∀ text ∈ simpleTextsOf nestedStatements, startsWithKeyword text = false := by decide
  have ht : ∀ t ∈ textsOf nestedStatements, t ≠ [] ∧ trimRight t = t := by decide
  obtain ⟨text, ss, hg, hss, -, hr⟩ := readText?_generate none nestedProgram rfl hl fun ss hss => by
    cases hs.symm.trans hss
    exact hk
  cases hs.symm.trans hss
  exact ⟨rfl, hl, hk, text, hg, hr ht⟩

end EstreeEmitter
