import EstreeEmitter.Proofs.Printer.Program

set_option autoImplicit false

/-! # `for` loops as `while` loops

A `for` loop stands for its initializer and a `while` loop that ends with the update. `desugarItems`
makes this replacement in a tree, at every depth: in a list of statements a `for` loop becomes these
statements, and as a branch or a loop body it becomes a block of them. The text of a program is the
same before and after (`generate_desugar`), also where it is a fault. -/

namespace EstreeEmitter

open Emission

/-! ## The replacement -/

/-- An expression as a statement of its own; nothing where it is absent. -/
def expressionItems : Value → List Value
  | .scalar .null => []
  | .node pos n => [.node pos (.expressionStatement (.node pos n))]
  | v => [.node none (.expressionStatement v)]

/-- An initializer as a statement: a declaration is one already. -/
def initItems : Value → List Value
  | .node pos (.variableDeclaration kind declarations) =>
    [.node pos (.variableDeclaration kind declarations)]
  | v => expressionItems v

/-- The test of a loop; an absent one is always true. -/
def testOrTrue (test : Value) : Value :=
  if test.isPresent then test else .node none (.booleanLiteral (.bool true))

/-- The statements of a body: those of a block, or the single one. -/
def bodyItems : Value → List Value
  | .node _ (.blockStatement (.list items)) => items
  | v => [v]

/-- A block of statements. -/
def blockOf (items : List Value) : Value := .node none (.blockStatement (.list items))

/-- The statements that take the place of a `for` loop. -/
def forItems (pos : Option Pos) (init test update body : Value) : List Value :=
  initItems init ++ [.node pos (.whileStatement (testOrTrue test)
    (blockOf (bodyItems body ++ expressionItems update)))]

mutual

/-- What takes the place of a statement in a list. -/
def Value.desugar : Value → List Value
  | .node pos n =>
    match n with
    | .forStatement init test update body => forItems pos init test update body.desugarBody
    | n => [.node pos n.desugar]
  | v => [v]

/-- A statement other than a `for` loop, with the bodies inside it replaced. -/
def Node.desugar : Node → Node
  | .functionDeclaration id params body => .functionDeclaration id params body.desugarBody
  | .ifStatement test consequent alternate =>
    .ifStatement test consequent.desugarBody alternate.desugarBody
  | .whileStatement test body => .whileStatement test body.desugarBody
  | .doWhileStatement body test => .doWhileStatement body.desugarBody test
  | n => n

/-- What takes the place of a branch or a loop body. -/
def Value.desugarBody : Value → Value
  | .node pos n =>
    match n with
    | .blockStatement body => .node pos (.blockStatement body.desugarList)
    | .forStatement init test update body =>
      blockOf (forItems pos init test update body.desugarBody)
    | n => .node pos n.desugar
  | v => v

/-- A list field with its statements replaced. -/
def Value.desugarList : Value → Value
  | .list items => .list (desugarItems items)
  | v => v

/-- A list of statements with every `for` loop replaced, at every depth. -/
def desugarItems : List Value → List Value
  | [] => []
  | v :: rest => v.desugar ++ desugarItems rest

end

mutual

/-- A `for` loop stands somewhere in the value. -/
def Value.hasFor : Value → Bool
  | .node _ n => n.hasFor
  | .list items => anyFor items
  | _ => false

/-- The construct is a `for` loop or has one inside. -/
def Node.hasFor : Node → Bool
  | .forStatement .. => true
  | .functionDeclaration _ _ body => body.hasFor
  | .ifStatement _ consequent alternate => consequent.hasFor || alternate.hasFor
  | .whileStatement _ body => body.hasFor
  | .doWhileStatement body _ => body.hasFor
  | .blockStatement body => body.hasFor
  | _ => false

/-- One of the values has a `for` loop. -/
def anyFor : List Value → Bool
  | [] => false
  | v :: rest => v.hasFor || anyFor rest

end

/-! ## The replaced program is well formed -/

theorem areStatements_append (items items' : List Value) :
    areStatements (items ++ items') = (areStatements items && areStatements items') := by
  induction items with
  | nil => rfl
  | cons v rest ih => simp only [List.cons_append, areStatements, ih, Bool.and_assoc]

theorem areStatements_expressionItems {v : Value} (h : v.isOptionalExpression = true) :
    areStatements (expressionItems v) = true := by
  cases v with
  | node pos n =>
      have hn : n.isExpression = true := h
      simp [expressionItems, areStatements, Value.isStatement, Node.isStatement, Value.isExpression,
        hn]
  | scalar s =>
      cases s with
      | null => rfl
      | _ => cases h
  | list items => cases h
  | record fields => cases h

theorem areStatements_initItems {v : Value} (h : v.isInitializer = true) :
    areStatements (initItems v) = true := by
  cases v with
  | node pos n =>
      cases n with
      | variableDeclaration kind declarations =>
          have hd : declarations.isDeclaratorList = true := h
          simp [initItems, areStatements, Value.isStatement, Node.isStatement, hd]
      | _ => exact areStatements_expressionItems h
  | _ => exact areStatements_expressionItems h

theorem isExpression_testOrTrue {v : Value} (h : v.isOptionalExpression = true) :
    (testOrTrue v).isExpression = true := by
  rcases Bool.or_eq_true_iff.mp h with hn | he
  · simp [testOrTrue, Value.isPresent, hn, Value.isExpression, Node.isExpression]
  · rw [testOrTrue, if_pos (isPresent_of_isExpression he)]
    exact he

theorem areStatements_bodyItems {v : Value} (h : v.isBody = true) :
    areStatements (bodyItems v) = true := by
  cases v with
  | node pos n =>
      cases n with
      | blockStatement body =>
          cases body with
          | list items => exact h
          | _ => cases h
      | _ => exact Bool.and_eq_true_iff.mpr ⟨h, rfl⟩
  | _ => cases h

theorem areStatements_forItems (pos : Option Pos) {init test update body : Value}
    (hi : init.isInitializer = true) (ht : test.isOptionalExpression = true)
    (hu : update.isOptionalExpression = true) (hb : body.isBody = true) :
    areStatements (forItems pos init test update body) = true := by
  have hinner : areStatements (bodyItems body ++ expressionItems update) = true := by
    rw [areStatements_append, areStatements_bodyItems hb, areStatements_expressionItems hu]
    rfl
  rw [forItems, areStatements_append, areStatements_initItems hi]
  simp [areStatements, Value.isStatement, Node.isStatement, isExpression_testOrTrue ht, blockOf,
    Value.isBody, Value.isStatementList, hinner]

mutual

theorem areStatements_desugar : ∀ v : Value, v.isStatement = true → areStatements v.desugar = true
  | .node pos n, h => by
      cases n with
      | forStatement init test update body =>
          have hf : (Node.forStatement init test update body).isStatement = true := h
          simp only [Node.isStatement, Bool.and_eq_true] at hf
          exact areStatements_forItems pos hf.1.1.1 hf.1.1.2 hf.1.2 (isBody_desugarBody body hf.2)
      | _ => exact Bool.and_eq_true_iff.mpr ⟨isStatement_desugar _ h, rfl⟩
  | .scalar _, h | .list _, h | .record _, h => by cases h

theorem isStatement_desugar : ∀ n : Node, n.isStatement = true → n.desugar.isStatement = true
  | .functionDeclaration id params body, h => by
      simp only [Node.isStatement, Bool.and_eq_true] at h
      simp only [Node.desugar, Node.isStatement, h.1.1, h.1.2, isBlock_desugarBody body h.2,
        Bool.and_self]
  | .ifStatement test consequent alternate, h => by
      simp only [Node.isStatement, Bool.and_eq_true, Bool.or_eq_true] at h
      have ha : alternate.desugarBody.isNull = true ∨ alternate.desugarBody.isBody = true := by
        rcases h.2 with hn | hb
        · cases alternate with
          | scalar s => exact Or.inl hn
          | _ => cases hn
        · exact Or.inr (isBody_desugarBody alternate hb)
      simp only [Node.desugar, Node.isStatement, h.1.1, isBody_desugarBody consequent h.1.2,
        Bool.and_self, Bool.true_and, Bool.or_eq_true]
      exact ha
  | .whileStatement test body, h => by
      simp only [Node.isStatement, Bool.and_eq_true] at h
      simp only [Node.desugar, Node.isStatement, h.1, isBody_desugarBody body h.2, Bool.and_self]
  | .doWhileStatement body test, h => by
      simp only [Node.isStatement, Bool.and_eq_true] at h
      simp only [Node.desugar, Node.isStatement, h.2, isBody_desugarBody body h.1, Bool.and_self]
  | .expressionStatement _, h | .importDeclaration _, h | .breakStatement, h
  | .returnStatement _, h | .variableDeclaration _ _, h | .forStatement _ _ _ _, h => h

theorem isBlock_desugarBody : ∀ v : Value, v.isBlock = true → v.desugarBody.isBlock = true
  | .node pos n, h => by
      cases n with
      | blockStatement body => exact isStatementList_desugarList body h
      | _ => cases h
  | .scalar _, h | .list _, h | .record _, h => by cases h

theorem isBody_desugarBody : ∀ v : Value, v.isBody = true → v.desugarBody.isBody = true
  | .node pos n, h => by
      cases n with
      | blockStatement body => exact isStatementList_desugarList body h
      | forStatement init test update body =>
          have hf : (Node.forStatement init test update body).isStatement = true := h
          simp only [Node.isStatement, Bool.and_eq_true] at hf
          exact areStatements_forItems pos hf.1.1.1 hf.1.1.2 hf.1.2 (isBody_desugarBody body hf.2)
      | _ => exact isStatement_desugar _ h
  | .scalar _, h | .list _, h | .record _, h => by cases h

theorem isStatementList_desugarList :
    ∀ v : Value, v.isStatementList = true → v.desugarList.isStatementList = true
  | .list items, h => areStatements_desugarItems items h
  | .node _ _, h | .scalar _, h | .record _, h => by cases h

theorem areStatements_desugarItems :
    ∀ items : List Value, areStatements items = true → areStatements (desugarItems items) = true
  | [], _ => rfl
  | v :: rest, h => by
      simp only [areStatements, Bool.and_eq_true] at h
      rw [desugarItems, areStatements_append, areStatements_desugar v h.1,
        areStatements_desugarItems rest h.2]
      rfl

end

/-! ## No `for` loop is left -/

theorem anyFor_append (items items' : List Value) :
    anyFor (items ++ items') = (anyFor items || anyFor items') := by
  induction items with
  | nil => rfl
  | cons v rest ih => simp only [List.cons_append, anyFor, ih, Bool.or_assoc]

theorem anyFor_expressionItems (v : Value) : anyFor (expressionItems v) = false := by
  cases v with
  | scalar s => cases s <;> rfl
  | _ => rfl

theorem anyFor_initItems (v : Value) : anyFor (initItems v) = false := by
  cases v with
  | node pos n => cases n <;> rfl
  | scalar s => cases s <;> rfl
  | _ => rfl

theorem anyFor_bodyItems {v : Value} (h : v.hasFor = false) : anyFor (bodyItems v) = false := by
  have hs : anyFor [v] = false := by simp [anyFor, h]
  cases v with
  | node pos n =>
      cases n with
      | blockStatement body =>
          cases body with
          | list items => exact h
          | _ => exact hs
      | _ => exact hs
  | _ => exact hs

theorem anyFor_forItems (pos : Option Pos) (init test update : Value) {body : Value}
    (h : body.hasFor = false) : anyFor (forItems pos init test update body) = false := by
  have hinner : anyFor (bodyItems body ++ expressionItems update) = false := by
    rw [anyFor_append, anyFor_bodyItems h, anyFor_expressionItems]
    rfl
  rw [forItems, anyFor_append, anyFor_initItems]
  simp [anyFor, Value.hasFor, Node.hasFor, blockOf, hinner]

mutual

theorem anyFor_desugar : ∀ v : Value, v.isStatement = true → anyFor v.desugar = false
  | .node pos n, h => by
      cases n with
      | forStatement init test update body =>
          have hf : (Node.forStatement init test update body).isStatement = true := h
          simp only [Node.isStatement, Bool.and_eq_true] at hf
          exact anyFor_forItems pos init test update (hasFor_desugarBody body hf.2)
      | _ => exact Bool.or_eq_false_iff.mpr ⟨hasFor_desugar _ h nofun, rfl⟩
  | .scalar _, h | .list _, h | .record _, h => by cases h

theorem hasFor_desugar : ∀ n : Node, n.isStatement = true →
    (∀ init test update body, n ≠ .forStatement init test update body) → n.desugar.hasFor = false
  | .functionDeclaration id params body, h, _ => by
      simp only [Node.isStatement, Bool.and_eq_true] at h
      exact hasFor_desugarBody body (isBody_of_isBlock h.2)
  | .ifStatement test consequent alternate, h, _ => by
      simp only [Node.isStatement, Bool.and_eq_true, Bool.or_eq_true] at h
      have ha : alternate.desugarBody.hasFor = false := by
        rcases h.2 with hn | hb
        · cases alternate with
          | scalar s => rfl
          | _ => cases hn
        · exact hasFor_desugarBody alternate hb
      simp only [Node.desugar, Node.hasFor, hasFor_desugarBody consequent h.1.2, ha, Bool.or_self]
  | .whileStatement test body, h, _ => by
      simp only [Node.isStatement, Bool.and_eq_true] at h
      exact hasFor_desugarBody body h.2
  | .doWhileStatement body test, h, _ => by
      simp only [Node.isStatement, Bool.and_eq_true] at h
      exact hasFor_desugarBody body h.1
  | .forStatement init test update body, _, hn => absurd rfl (hn init test update body)
  | .expressionStatement _, _, _ | .importDeclaration _, _, _ | .breakStatement, _, _
  | .returnStatement _, _, _ | .variableDeclaration _ _, _, _ => rfl

theorem hasFor_desugarBody : ∀ v : Value, v.isBody = true → v.desugarBody.hasFor = false
  | .node pos n, h => by
      cases n with
      | blockStatement body => exact hasFor_desugarList body h
      | forStatement init test update body =>
          have hf : (Node.forStatement init test update body).isStatement = true := h
          simp only [Node.isStatement, Bool.and_eq_true] at hf
          exact anyFor_forItems pos init test update (hasFor_desugarBody body hf.2)
      | _ => exact hasFor_desugar _ h nofun
  | .scalar _, h | .list _, h | .record _, h => by cases h

theorem hasFor_desugarList : ∀ v : Value, v.isStatementList = true → v.desugarList.hasFor = false
  | .list items, h => anyFor_desugarItems items h
  | .node _ _, h | .scalar _, h | .record _, h => by cases h

theorem anyFor_desugarItems :
    ∀ items : List Value, areStatements items = true → anyFor (desugarItems items) = false
  | [], _ => rfl
  | v :: rest, h => by
      simp only [areStatements, Bool.and_eq_true] at h
      rw [desugarItems, anyFor_append, anyFor_desugar v h.1, anyFor_desugarItems rest h.2]
      rfl

end

/-! ## The statements are the same -/

theorem allStatements_append (items items' : List Value) :
    allStatements (items ++ items') =
      (do return (← allStatements items) ++ (← allStatements items')) := by
  induction items with
  | nil =>
      rw [List.nil_append]
      cases allStatements items' <;> rfl
  | cons v rest ih =>
      rw [List.cons_append, allStatements, allStatements, ih]
      cases statements v with
      | error fault => rfl
      | ok ss =>
          cases allStatements rest with
          | error fault => rfl
          | ok ss' =>
              cases allStatements items' with
              | error fault => rfl
              | ok ss'' => simp [bind, Except.bind, pure, Except.pure]

theorem allStatements_singleton (v : Value) : allStatements [v] = statements v := by
  rw [allStatements]
  cases statements v with
  | error fault => rfl
  | ok ss => simp [allStatements, bind, Except.bind, pure, Except.pure]

theorem allStatements_expressionItems {v : Value} (h : v.isOptionalExpression = true) :
    allStatements (expressionItems v) = updateStatements v := by
  cases v with
  | node pos n => exact allStatements_singleton _
  | scalar s =>
      cases s with
      | null => rfl
      | _ => cases h
  | list items => cases h
  | record fields => cases h

theorem allStatements_initItems {v : Value} (h : v.isInitializer = true) :
    allStatements (initItems v) = initStatements v := by
  cases v with
  | node pos n =>
      cases n with
      | variableDeclaration kind declarations => exact allStatements_singleton _
      | _ => exact allStatements_singleton _
  | scalar s =>
      cases s with
      | null => rfl
      | _ => cases h
  | list items => cases h
  | record fields => cases h

theorem expressionText_testOrTrue (test : Value) :
    expressionText .ruby (testOrTrue test) = loopTest test := by
  unfold testOrTrue loopTest
  split
  · rfl
  · rfl

theorem allStatements_bodyItems {v : Value} (h : v.isBody = true) :
    allStatements (bodyItems v) = bodyStatements false v := by
  cases v with
  | node pos n =>
      cases n with
      | blockStatement body =>
          cases body with
          | list items => rfl
          | _ => cases h
      | _ => exact allStatements_singleton _
  | _ => cases h

/-- The statements in the place of a `for` loop are those of the loop. -/
theorem allStatements_forItems (pos : Option Pos) {init test update body : Value}
    (hi : init.isInitializer = true) (hu : update.isOptionalExpression = true)
    (hb : body.isBody = true) :
    allStatements (forItems pos init test update body) =
      constructStatements pos (.forStatement init test update body) := by
  have hinner : bodyStatements false (blockOf (bodyItems body ++ expressionItems update)) =
      (do return (← bodyStatements false body) ++ (← updateStatements update)) := by
    rw [← allStatements_bodyItems hb, ← allStatements_expressionItems hu, ← allStatements_append]
    rfl
  rw [forItems, allStatements_append, allStatements_initItems hi, allStatements_singleton,
    constructStatements_for, ← hinner, ← expressionText_testOrTrue]
  rfl

/-- Of a `for` loop, the body is replaced first; what that keeps, the whole replacement keeps. -/
theorem allStatements_desugarFor (pos : Option Pos) {init test update body : Value}
    (h : (Node.forStatement init test update body).isStatement = true)
    (hs : body.isBody = true → bodyStatements false body.desugarBody = bodyStatements false body) :
    allStatements (forItems pos init test update body.desugarBody) =
      constructStatements pos (.forStatement init test update body) := by
  simp only [Node.isStatement, Bool.and_eq_true] at h
  rw [allStatements_forItems pos h.1.1.1 h.1.2 (isBody_desugarBody body h.2),
    constructStatements_for, constructStatements_for, hs h.2]

mutual

theorem allStatements_desugar :
    ∀ v : Value, v.isStatement = true → allStatements v.desugar = statements v
  | .node pos n, h => by
      cases n with
      | forStatement init test update body =>
          exact allStatements_desugarFor pos h (bodyStatements_desugarBody false body)
      | _ => exact (allStatements_singleton _).trans (constructStatements_desugar pos _ h)
  | .scalar _, h | .list _, h | .record _, h => by cases h

theorem constructStatements_desugar (pos : Option Pos) : ∀ n : Node, n.isStatement = true →
    constructStatements pos n.desugar = constructStatements pos n
  | .functionDeclaration id params body, h => by
      simp only [Node.isStatement, Bool.and_eq_true] at h
      simp only [Node.desugar, constructStatements,
        bodyStatements_desugarBody false body (isBody_of_isBlock h.2)]
  | .ifStatement test consequent alternate, h => by
      simp only [Node.isStatement, Bool.and_eq_true, Bool.or_eq_true] at h
      simp only [Node.desugar, constructStatements,
        bodyStatements_desugarBody true consequent h.1.2, branches_desugarBody alternate h.2]
  | .whileStatement test body, h => by
      simp only [Node.isStatement, Bool.and_eq_true] at h
      simp only [Node.desugar, constructStatements, bodyStatements_desugarBody false body h.2]
  | .doWhileStatement body test, h => by
      simp only [Node.isStatement, Bool.and_eq_true] at h
      simp only [Node.desugar, constructStatements, bodyStatements_desugarBody false body h.1]
  | .expressionStatement _, _ | .importDeclaration _, _ | .breakStatement, _
  | .returnStatement _, _ | .variableDeclaration _ _, _ | .forStatement _ _ _ _, _ => rfl

theorem bodyStatements_desugarBody (returning : Bool) : ∀ v : Value, v.isBody = true →
    bodyStatements returning v.desugarBody = bodyStatements returning v
  | .node pos n, h => by
      cases n with
      | blockStatement body => exact listStatements_desugarList body h
      | forStatement init test update body =>
          exact allStatements_desugarFor pos h (bodyStatements_desugarBody false body)
      | expressionStatement expression => rfl
      | _ => exact constructStatements_desugar pos _ h
  | .scalar _, h | .list _, h | .record _, h => by cases h

theorem branches_desugarBody : ∀ v : Value, v.isNull = true ∨ v.isBody = true →
    branches v.desugarBody = branches v
  | .node pos n, h => by
      have hb : (Value.node pos n).isBody = true := h.resolve_left nofun
      cases n with
      | ifStatement test consequent alternate =>
          have hi : (Node.ifStatement test consequent alternate).isStatement = true := hb
          simp only [Node.isStatement, Bool.and_eq_true, Bool.or_eq_true] at hi
          simp only [Value.desugarBody, Node.desugar, branches,
            bodyStatements_desugarBody true consequent hi.1.2, branches_desugarBody alternate hi.2]
      | blockStatement body =>
          simp only [Value.desugarBody, branches, listStatements_desugarList body hb]
      | forStatement init test update body =>
          have hf := allStatements_desugarFor pos hb (bodyStatements_desugarBody false body)
          simp only [Value.desugarBody, blockOf, branches, listStatements, hf]
      | _ => exact congrArg (fun r => r >>= _) (constructStatements_desugar pos _ hb)
  | .scalar _, _ | .list _, _ | .record _, _ => rfl

theorem listStatements_desugarList : ∀ v : Value, v.isStatementList = true →
    listStatements v.desugarList = listStatements v
  | .list items, h => allStatements_desugarItems items h
  | .node _ _, h | .scalar _, h | .record _, h => by cases h

/-- Replacing the `for` loops of a program has no effect on its statements. -/
theorem allStatements_desugarItems : ∀ items : List Value, areStatements items = true →
    allStatements (desugarItems items) = allStatements items
  | [], _ => rfl
  | v :: rest, h => by
      simp only [areStatements, Bool.and_eq_true] at h
      rw [desugarItems, allStatements_append, allStatements_desugar v h.1,
        allStatements_desugarItems rest h.2, allStatements]

end

/-- **A `for` loop is its initializer and a `while` loop.** Replacing every `for` loop of a
well-formed program leaves no `for` loop in it, and the text of the program, or the fault where it
has none, is the same as before. -/
theorem generate_desugar (pos : Option Pos) (items : List Value) (h : areStatements items = true) :
    anyFor (desugarItems items) = false ∧
      Value.generate .ruby (.node pos (.program (.list (desugarItems items)))) =
        Value.generate .ruby (.node pos (.program (.list items))) := by
  refine ⟨anyFor_desugarItems items h, ?_⟩
  have hd := (prints_program pos (areStatements_desugarItems items h)).generate
  rw [allStatements_desugarItems items h] at hd
  exact hd.trans (prints_program pos h).generate.symm

/-- A `for` loop at every place for a statement: in a list, as a branch and as the alternate of an
`if` in a method, as the body of another `for` loop and of a loop with its test behind it. -/
def loopProgram : List Value :=
  let name (s : String) : Value := .node none (.identifier (.str s))
  let statement (v : Value) : Value := .node none (.expressionStatement v)
  let zero : Value := .node none (.numericLiteral (.scalar (.int 0)) .null)
  let start : Value := .node none (.variableDeclaration (.str "let")
    (.list [.node none (.variableDeclarator (name "i") zero)]))
  let step : Value := .node none (.updateExpression (.str "++") (name "i") (.bool false))
  let counting (body : Value) : Value := .node none (.forStatement start (name "t") step body)
  let endless (body : Value) : Value := .node none (.forStatement .null .null .null body)
  let choice : Value := .node none (.ifStatement (name "x") (counting (statement (name "g")))
    (endless (.node none .breakStatement)))
  [.node none (.functionDeclaration (name "f") (.list [name "x"])
      (.node none (.blockStatement (.list [choice])))),
    counting (endless (statement (name "h"))),
    .node none (.doWhileStatement (.node none (.forStatement (name "a") (name "b") (name "c")
      (.node none (.blockStatement (.list [counting (statement (name "k"))]))))) (name "z"))]

/-- The text of the program. -/
def loopText : List Char :=
  ("def f(x)\n  if x\n    i = 0\n    while (t)\n      g\n      i++\n    end\n" ++
    "  else\n    while (true)\n      break\n    end\n  end\nend\n\n" ++
    "i = 0\nwhile (t)\n  while (true)\n    h\n  end\n  i++\nend\n" ++
    "begin\n  a\n  while (b)\n    i = 0\n    while (t)\n      k\n      i++\n    end\n" ++
    "    c\n  end\nend while z\n").toList

/-- The program with its `for` loops is well formed, and its text is that of the program without
them. -/
theorem generate_desugar_loopProgram : areStatements loopProgram = true ∧
    anyFor loopProgram = true ∧ anyFor (desugarItems loopProgram) = false ∧
      Value.generate .ruby (.node none (.program (.list loopProgram))) = .ok loopText ∧
      Value.generate .ruby (.node none (.program (.list (desugarItems loopProgram)))) =
        .ok loopText := by
  obtain ⟨hnone, hsame⟩ := generate_desugar none loopProgram rfl
  have htext : Value.generate .ruby (.node none (.program (.list loopProgram))) = .ok loopText := by
    decide +kernel
  exact ⟨rfl, rfl, hnone, htext, hsame.trans htext⟩

end EstreeEmitter
