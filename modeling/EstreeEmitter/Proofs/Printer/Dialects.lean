import EstreeEmitter.Proofs.Printer.Expression

set_option autoImplicit false

/-! # One form of expressions in two dialects

The dialects differ in leaves only: in the word for null and in quoted text. `withRubyLeaves` puts
names with the Ruby text in the place of these leaves, and of absent entries of lists; the neutral
text of the tree is then the Ruby text of the tree before (`generate_ruby_eq_plain`). -/

namespace EstreeEmitter

/-! ## Ruby leaves as names -/

/-- The name with the given characters. -/
def nameOf (text : List Char) : Node := .identifier (.str (String.ofList text))

/-- A value in double quotes that do not interpolate. -/
def rubyQuoted (value : Value) : Except Fault (List Char) :=
  (value.jsonText false).map escapeInterpolation

/-- A raw literal; only double quotes interpolate. -/
def rubyRaw (raw : List Char) : List Char :=
  if raw.head? = some '"' then escapeInterpolation raw else raw

/-- The name for a text; where there is none, the leaf stays. -/
def nameOr (leaf : Node) : Except Fault (List Char) → Node
  | .ok text => nameOf text
  | .error _ => leaf

/-- A literal that is null or a text, as a name. -/
def literalLeaf (value raw regex : Value) : Node :=
  if regex.isNull then
    match value with
    | .scalar .null => nameOf "nil".toList
    | .scalar (.str _) => nameOr (.literal value raw regex) (rubyQuoted value)
    | _ => .literal value raw regex
  else .literal value raw regex

/-- A string literal as a name: its raw text, or its value in quotes. -/
def stringLeaf (value extra : Value) : Node :=
  match rawText? extra with
  | .ok (some raw) => nameOf (rubyRaw raw)
  | .ok none => nameOr (.stringLiteral value extra) (rubyQuoted value)
  | .error _ => .stringLiteral value extra

mutual

/-- The expression with names in the place of null and of quoted text. -/
def Value.withRubyLeaves : Value → Value
  | .node pos n => .node pos n.withRubyLeaves
  | v => v

/-- The construct with names in the place of null and of quoted text. -/
def Node.withRubyLeaves : Node → Node
  | .assignmentExpression operator left right =>
    .assignmentExpression operator left.withRubyLeaves right.withRubyLeaves
  | .callExpression callee arguments =>
    .callExpression callee.withRubyLeaves arguments.withRubyEntries
  | .memberExpression object property computed =>
    .memberExpression object.withRubyLeaves property.withRubyLeaves computed
  | .unaryExpression operator argument isPrefix =>
    .unaryExpression operator argument.withRubyLeaves isPrefix
  | .updateExpression operator argument isPrefix =>
    .updateExpression operator argument.withRubyLeaves isPrefix
  | .binaryExpression operator left right =>
    .binaryExpression operator left.withRubyLeaves right.withRubyLeaves
  | .logicalExpression operator left right =>
    .logicalExpression operator left.withRubyLeaves right.withRubyLeaves
  | .conditionalExpression test consequent alternate =>
    .conditionalExpression test.withRubyLeaves consequent.withRubyLeaves alternate.withRubyLeaves
  | .arrayExpression elements => .arrayExpression elements.withRubyEntries
  | .literal value raw regex => literalLeaf value raw regex
  | .stringLiteral value extra => stringLeaf value extra
  | .nullLiteral => nameOf "nil".toList
  | n => n

/-- The list with names in the place of null and of quoted text. -/
def Value.withRubyEntries : Value → Value
  | .list items => .list (withRubyItems items)
  | v => v

/-- The entries with names in the place of null and of quoted text; an absent entry is null. -/
def withRubyItems : List Value → List Value
  | [] => []
  | v :: rest =>
    (if v.isPresent then v.withRubyLeaves else .node none (nameOf "nil".toList)) ::
      withRubyItems rest

end

/-! ## Leaves -/

theorem constructText_nameOf (d : Dialect) (pos : Option Pos) (text : List Char) :
    constructText d pos (nameOf text) = .ok text := by
  simp [nameOf, constructText, Value.str, Value.asText]

/-- A name for a text has this text; a leaf without text has none in either dialect. -/
theorem constructText_nameOr (d : Dialect) (pos : Option Pos) {leaf : Node}
    {r : Except Fault (List Char)}
    (h : ∀ fault, r = .error fault → constructText d pos leaf = .error fault) :
    constructText d pos (nameOr leaf r) = r := by
  cases r with
  | ok text => exact constructText_nameOf d pos text
  | error fault => exact h fault rfl

/-- A value that cannot be quoted in one dialect cannot in the other. -/
theorem jsonText_eq_error_of_rubyQuoted {value : Value} {fault : Fault}
    (h : rubyQuoted value = .error fault) : value.jsonText false = .error fault := by
  unfold rubyQuoted at h
  cases hv : value.jsonText false with
  | ok text =>
      rw [hv] at h
      cases h
  | error fault' =>
      rw [hv] at h
      cases h
      rfl

theorem constructText_literalLeaf (pos : Option Pos) (value raw regex : Value) :
    constructText .plain pos (literalLeaf value raw regex) =
      Dialect.ruby.literalText value raw regex := by
  unfold literalLeaf
  by_cases hr : regex.isNull = true
  · simp only [hr, if_true, Dialect.literalText]
    split
    · exact constructText_nameOf _ _ _
    · refine constructText_nameOr _ _ fun fault hf => ?_
      simp only [constructText, Dialect.literalText, hr, if_true]
      exact jsonText_eq_error_of_rubyQuoted hf
    · simp only [constructText, Dialect.literalText, hr, if_true]
  · rw [if_neg hr]
    simp only [constructText, Dialect.literalText, if_neg hr]

theorem rubyRaw_eq (raw : List Char) : rubyRaw raw = Dialect.ruby.rawString raw := by
  cases raw with
  | nil => rfl
  | cons c cs =>
      by_cases hc : c = '"'
      · subst hc
        rfl
      · simp [rubyRaw, Dialect.rawString, hc]

theorem constructText_stringLeaf (pos : Option Pos) (value extra : Value) :
    constructText .plain pos (stringLeaf value extra) = Dialect.ruby.stringText value extra := by
  unfold stringLeaf Dialect.stringText
  cases hr : rawText? extra with
  | error fault =>
      simp only [constructText, Dialect.stringText, hr]
      rfl
  | ok raw =>
      cases raw with
      | none =>
          refine constructText_nameOr _ _ fun fault hf => ?_
          simp only [constructText, Dialect.stringText, hr]
          exact jsonText_eq_error_of_rubyQuoted hf
      | some raw =>
          refine (constructText_nameOf _ _ _).trans ?_
          rw [rubyRaw_eq]
          rfl

/-! ## Constructs are told apart as before -/

theorem Value.isPresent_withRubyLeaves (v : Value) : v.withRubyLeaves.isPresent = v.isPresent := by
  cases v <;> simp [Value.withRubyLeaves, Value.isPresent, Value.isNull]

/-- A leaf stays a leaf. -/
theorem nameOr_cases {motive : Node → Prop} {leaf : Node} {r : Except Fault (List Char)}
    (hname : ∀ text, motive (nameOf text)) (hleaf : motive leaf) : motive (nameOr leaf r) := by
  cases r with
  | ok text => exact hname text
  | error fault => exact hleaf

theorem literalLeaf_cases {motive : Node → Prop} {value raw regex : Value}
    (hname : ∀ text, motive (nameOf text)) (hleaf : motive (.literal value raw regex)) :
    motive (literalLeaf value raw regex) := by
  unfold literalLeaf
  split
  · split
    · exact hname _
    · exact nameOr_cases hname hleaf
    · exact hleaf
  · exact hleaf

theorem stringLeaf_cases {motive : Node → Prop} {value extra : Value}
    (hname : ∀ text, motive (nameOf text)) (hleaf : motive (.stringLiteral value extra)) :
    motive (stringLeaf value extra) := by
  unfold stringLeaf
  split
  · exact hname _
  · exact nameOr_cases hname hleaf
  · exact hleaf

/-- The operations that decide on parentheses. -/
def Value.operation (v : Value) : Bool × Bool × Bool :=
  (v.isUnaryOrUpdate, v.isBinary, v.isLogical)

theorem Value.operation_withRubyLeaves (v : Value) :
    v.withRubyLeaves.operation = v.operation := by
  cases v with
  | node pos n =>
      cases n with
      | literal value raw regex =>
          exact literalLeaf_cases
            (motive := fun n => (Value.node pos n).operation = (false, false, false))
            (fun _ => rfl) rfl
      | stringLiteral value extra =>
          exact stringLeaf_cases
            (motive := fun n => (Value.node pos n).operation = (false, false, false))
            (fun _ => rfl) rfl
      | _ => rfl
  | _ => rfl

theorem Value.isUnaryOrUpdate_withRubyLeaves (v : Value) :
    v.withRubyLeaves.isUnaryOrUpdate = v.isUnaryOrUpdate :=
  congrArg (·.1) v.operation_withRubyLeaves

theorem Value.isBinary_withRubyLeaves (v : Value) : v.withRubyLeaves.isBinary = v.isBinary :=
  congrArg (·.2.1) v.operation_withRubyLeaves

theorem Value.isLogical_withRubyLeaves (v : Value) : v.withRubyLeaves.isLogical = v.isLogical :=
  congrArg (·.2.2) v.operation_withRubyLeaves

/-! ## The whole tree -/

mutual

theorem Value.isExpression_withRubyLeaves :
    ∀ v : Value, v.isExpression = true → v.withRubyLeaves.isExpression = true
  | .node _ n, h => Node.isExpression_withRubyLeaves n h
  | .scalar _, h | .list _, h | .record _, h => by cases h

theorem Node.isExpression_withRubyLeaves :
    ∀ n : Node, n.isExpression = true → n.withRubyLeaves.isExpression = true
  | .assignmentExpression operator left right, h
  | .binaryExpression operator left right, h
  | .logicalExpression operator left right, h => by
      simp only [Node.isExpression, Bool.and_eq_true] at h
      simp only [Node.withRubyLeaves, Node.isExpression, Bool.and_eq_true]
      exact ⟨left.isExpression_withRubyLeaves h.1, right.isExpression_withRubyLeaves h.2⟩
  | .callExpression callee arguments, h => by
      simp only [Node.isExpression, Bool.and_eq_true] at h
      simp only [Node.withRubyLeaves, Node.isExpression, Bool.and_eq_true]
      exact ⟨callee.isExpression_withRubyLeaves h.1, arguments.isExpressionList_withRubyEntries h.2⟩
  | .memberExpression object property computed, h => by
      simp only [Node.isExpression, Bool.and_eq_true] at h
      simp only [Node.withRubyLeaves, Node.isExpression, Bool.and_eq_true]
      exact ⟨object.isExpression_withRubyLeaves h.1, property.isExpression_withRubyLeaves h.2⟩
  | .unaryExpression operator argument isPrefix, h
  | .updateExpression operator argument isPrefix, h => argument.isExpression_withRubyLeaves h
  | .conditionalExpression test consequent alternate, h => by
      simp only [Node.isExpression, Bool.and_eq_true] at h
      simp only [Node.withRubyLeaves, Node.isExpression, Bool.and_eq_true]
      exact ⟨⟨test.isExpression_withRubyLeaves h.1.1,
        consequent.isExpression_withRubyLeaves h.1.2⟩, alternate.isExpression_withRubyLeaves h.2⟩
  | .arrayExpression elements, h => elements.isExpressionList_withRubyEntries h
  | .literal value raw regex, _ =>
      literalLeaf_cases (motive := fun n => n.isExpression = true) (fun _ => rfl) rfl
  | .stringLiteral value extra, _ =>
      stringLeaf_cases (motive := fun n => n.isExpression = true) (fun _ => rfl) rfl
  | .identifier .., _ | .numericLiteral .., _ | .booleanLiteral .., _ | .nullLiteral, _
  | .regExpLiteral .., _ => rfl

theorem Value.isExpressionList_withRubyEntries :
    ∀ v : Value, v.isExpressionList = true → v.withRubyEntries.isExpressionList = true
  | .list items, h => areExpressions_withRubyItems items h
  | .node .., h | .scalar _, h | .record _, h => by cases h

theorem areExpressions_withRubyItems :
    ∀ items : List Value, areExpressions items = true → areExpressions (withRubyItems items) = true
  | [], _ => rfl
  | v :: rest, h => by
      simp only [areExpressions, Bool.and_eq_true, Bool.or_eq_true] at h
      simp only [withRubyItems, areExpressions, Bool.and_eq_true, Bool.or_eq_true]
      refine ⟨.inr ?_, areExpressions_withRubyItems rest h.2⟩
      split
      · rename_i hp
        have hn : ¬v.isNull = true := by simpa [Value.isPresent] using hp
        exact v.isExpression_withRubyLeaves (h.1.resolve_left hn)
      · rfl

end

mutual

/-- The neutral text with Ruby leaves is the Ruby text. -/
theorem expressionText_withRubyLeaves :
    ∀ v : Value, expressionText .plain v.withRubyLeaves = expressionText .ruby v
  | .node pos n => constructText_withRubyLeaves pos n
  | .scalar _ | .list _ | .record _ => rfl

theorem constructText_withRubyLeaves (pos : Option Pos) :
    ∀ n : Node, constructText .plain pos n.withRubyLeaves = constructText .ruby pos n
  | .assignmentExpression operator left right => by
      simp only [Node.withRubyLeaves, constructText, expressionText_withRubyLeaves left,
        expressionText_withRubyLeaves right]
  | .callExpression callee arguments => by
      simp only [Node.withRubyLeaves, constructText, expressionText_withRubyLeaves callee,
        listText_withRubyEntries arguments]
  | .memberExpression object property computed => by
      simp only [Node.withRubyLeaves, constructText, expressionText_withRubyLeaves object,
        expressionText_withRubyLeaves property]
  | .unaryExpression operator argument isPrefix => by
      simp only [Node.withRubyLeaves, constructText, expressionText_withRubyLeaves argument,
        argument.isUnaryOrUpdate_withRubyLeaves]
  | .updateExpression operator argument isPrefix => by
      simp only [Node.withRubyLeaves, constructText, expressionText_withRubyLeaves argument]
  | .binaryExpression operator left right => by
      simp only [Node.withRubyLeaves, constructText, expressionText_withRubyLeaves left,
        expressionText_withRubyLeaves right, left.isBinary_withRubyLeaves,
        right.isBinary_withRubyLeaves]
  | .logicalExpression operator left right => by
      simp only [Node.withRubyLeaves, constructText, expressionText_withRubyLeaves left,
        expressionText_withRubyLeaves right, left.isLogical_withRubyLeaves,
        right.isLogical_withRubyLeaves]
  | .conditionalExpression test consequent alternate => by
      simp only [Node.withRubyLeaves, constructText, expressionText_withRubyLeaves test,
        expressionText_withRubyLeaves consequent, expressionText_withRubyLeaves alternate]
  | .arrayExpression elements => by
      simp only [Node.withRubyLeaves, constructText, listText_withRubyEntries elements]
  | .literal value raw regex => constructText_literalLeaf pos value raw regex
  | .stringLiteral value extra => constructText_stringLeaf pos value extra
  | .nullLiteral => constructText_nameOf .plain pos "nil".toList
  | .identifier _ | .numericLiteral .. | .booleanLiteral _ | .regExpLiteral .. => rfl
  | .program _ | .file _ | .expressionStatement _ | .importDeclaration _ | .blockStatement _
  | .functionDeclaration .. | .variableDeclarator .. | .variableDeclaration ..
  | .returnStatement _ | .ifStatement .. | .whileStatement .. | .doWhileStatement ..
  | .forStatement .. | .breakStatement | .bare => rfl

theorem listText_withRubyEntries :
    ∀ v : Value, listText .plain v.withRubyEntries = listText .ruby v
  | .list items => separatedText_withRubyItems true items
  | .node .. | .scalar _ | .record _ => rfl

theorem separatedText_withRubyItems (first : Bool) :
    ∀ items : List Value,
      separatedText .plain first (withRubyItems items) = separatedText .ruby first items
  | [] => rfl
  | v :: rest => by
      simp only [withRubyItems, separatedText, separatedText_withRubyItems false rest]
      by_cases hp : v.isPresent = true
      · simp only [hp, if_true, v.isPresent_withRubyLeaves, expressionText_withRubyLeaves v]
      · rw [if_neg hp, if_neg hp]
        rfl

end

/-- **Ruby expressions are neutral expressions up to leaves.** The Ruby text of an expression, or
the fault where there is none, is that of the neutral dialect for the expression in which names with
the Ruby text stand for null, for quoted text and for absent entries of lists. -/
theorem generate_ruby_eq_plain (v : Value) (h : v.isExpression = true) :
    v.generate .ruby = v.withRubyLeaves.generate .plain := by
  rw [generate_expression .ruby h, generate_expression .plain (v.isExpression_withRubyLeaves h),
    expressionText_withRubyLeaves]

/-- A call inside a sum: its arguments are an absent entry, a text that would interpolate, a raw
text in either quotes, null in both forms, a regular expression and a negated sum. -/
def mixedCall : Value :=
  let leaf (n : Node) : Value := .node none n
  let raw (s : String) : Value := .record [("raw", .str s)]
  let sum : Value := leaf (.binaryExpression (.str "+") (leaf (.identifier (.str "a")))
    (leaf (.stringLiteral (.str "#$b") .null)))
  leaf (.binaryExpression (.str "+") sum (leaf (.callExpression (leaf (.identifier (.str "f")))
    (.list [.null, leaf (.literal (.str "#\x7bx\x7d") .null .null),
      leaf (.stringLiteral .null (raw "\"#@y\"")), leaf (.stringLiteral .null (raw "'#@y'")),
      leaf .nullLiteral, leaf (.literal .null .null .null),
      leaf (.literal .null .null (.record [("pattern", .str "z")])),
      leaf (.unaryExpression (.str "-") (leaf (.unaryExpression (.str "-") sum (.bool true)))
        (.bool true))]))))

theorem generate_ruby_eq_plain_mixedCall : mixedCall.isExpression = true ∧
    mixedCall.generate .ruby = mixedCall.withRubyLeaves.generate .plain ∧
    mixedCall.generate .ruby =
      .ok ("(a + \"\\#$b\") + f(nil, \"\\#\x7bx\x7d\", \"\\#@y\", '#@y', nil, nil, /z/, " ++
        "-(-a + \"\\#$b\"))").toList :=
  ⟨rfl, generate_ruby_eq_plain mixedCall rfl, rfl⟩

end EstreeEmitter
