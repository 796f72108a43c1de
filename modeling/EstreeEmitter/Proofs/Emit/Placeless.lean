import EstreeEmitter.Proofs.Emit.Run

set_option autoImplicit false

/-! # Positions have no part in the text

A position tells where a construct stood; it is only read to report a construct without text.
`Value.placeless` drops the positions of a tree. Writing the tree and writing it without positions
do the same to every buffer, or stop with the same fault up to its place (`alike_emit`). -/

namespace EstreeEmitter

/-! ## Trees and faults without places -/

/-- The fault without the place of the construct. -/
def Fault.placeless : Fault → Fault
  | .unsupported tag _ _ => .unsupported tag 0 0
  | fault => fault

theorem Fault.placeless_unsupportedAt (tag : String) (pos pos' : Option Pos) :
    (Fault.unsupportedAt tag pos).placeless = (Fault.unsupportedAt tag pos').placeless := by
  cases pos <;> cases pos' <;> rfl

mutual

/-- The value without positions. In plain data under keys there are none. -/
def Value.placeless : Value → Value
  | .scalar s => .scalar s
  | .list items => .list (placelessItems items)
  | .record fields => .record fields
  | .node _ n => .node none n.placeless

/-- The construct without positions in it. -/
def Node.placeless : Node → Node
  | .program body => .program body.placeless
  | .file program => .file program.placeless
  | .expressionStatement expression => .expressionStatement expression.placeless
  | .importDeclaration source => .importDeclaration source.placeless
  | .blockStatement body => .blockStatement body.placeless
  | .functionDeclaration id params body =>
    .functionDeclaration id.placeless params.placeless body.placeless
  | .variableDeclarator id init => .variableDeclarator id.placeless init.placeless
  | .variableDeclaration kind declarations =>
    .variableDeclaration kind.placeless declarations.placeless
  | .returnStatement argument => .returnStatement argument.placeless
  | .ifStatement test consequent alternate =>
    .ifStatement test.placeless consequent.placeless alternate.placeless
  | .whileStatement test body => .whileStatement test.placeless body.placeless
  | .doWhileStatement body test => .doWhileStatement body.placeless test.placeless
  | .forStatement init test update body =>
    .forStatement init.placeless test.placeless update.placeless body.placeless
  | .breakStatement => .breakStatement
  | .assignmentExpression operator left right =>
    .assignmentExpression operator.placeless left.placeless right.placeless
  | .callExpression callee arguments => .callExpression callee.placeless arguments.placeless
  | .memberExpression object property computed =>
    .memberExpression object.placeless property.placeless computed.placeless
  | .unaryExpression operator argument isPrefix =>
    .unaryExpression operator.placeless argument.placeless isPrefix.placeless
  | .updateExpression operator argument isPrefix =>
    .updateExpression operator.placeless argument.placeless isPrefix.placeless
  | .binaryExpression operator left right =>
    .binaryExpression operator.placeless left.placeless right.placeless
  | .logicalExpression operator left right =>
    .logicalExpression operator.placeless left.placeless right.placeless
  | .conditionalExpression test consequent alternate =>
    .conditionalExpression test.placeless consequent.placeless alternate.placeless
  | .arrayExpression elements => .arrayExpression elements.placeless
  | .identifier name => .identifier name.placeless
  | .literal value raw regex => .literal value.placeless raw.placeless regex.placeless
  | .numericLiteral value extra => .numericLiteral value.placeless extra.placeless
  | .stringLiteral value extra => .stringLiteral value.placeless extra.placeless
  | .booleanLiteral value => .booleanLiteral value.placeless
  | .nullLiteral => .nullLiteral
  | .regExpLiteral pattern flags extra =>
    .regExpLiteral pattern.placeless flags.placeless extra.placeless
  | .bare => .bare

/-- The values without positions. -/
def placelessItems : List Value → List Value
  | [] => []
  | v :: rest => v.placeless :: placelessItems rest

end

/-! ## Tests and texts of values -/

namespace Value

theorem isEmpty_placelessItems (items : List Value) :
    (placelessItems items).isEmpty = items.isEmpty := by
  cases items <;> rfl

theorem isNull_placeless (v : Value) : v.placeless.isNull = v.isNull := by
  cases v <;> rfl

theorem isPresent_placeless (v : Value) : v.placeless.isPresent = v.isPresent :=
  congrArg (!·) v.isNull_placeless

theorem isTruthy_placeless (v : Value) : v.placeless.isTruthy = v.isTruthy := by
  cases v with
  | list items => exact congrArg (!·) (isEmpty_placelessItems items)
  | node pos n => rfl
  | scalar s => rfl
  | record fields => rfl

theorem isIf_placeless (v : Value) : v.placeless.isIf = v.isIf := by
  cases v with
  | node pos n => cases n <;> rfl
  | _ => rfl

theorem isDeclaration_placeless (v : Value) : v.placeless.isDeclaration = v.isDeclaration := by
  cases v with
  | node pos n => cases n <;> rfl
  | _ => rfl

theorem isBinary_placeless (v : Value) : v.placeless.isBinary = v.isBinary := by
  cases v with
  | node pos n => cases n <;> rfl
  | _ => rfl

theorem isLogical_placeless (v : Value) : v.placeless.isLogical = v.isLogical := by
  cases v with
  | node pos n => cases n <;> rfl
  | _ => rfl

theorem isUnaryOrUpdate_placeless (v : Value) :
    v.placeless.isUnaryOrUpdate = v.isUnaryOrUpdate := by
  cases v with
  | node pos n => cases n <;> rfl
  | _ => rfl

theorem requireEntries_placeless (v : Value) : v.placeless.requireEntries = v.requireEntries := by
  cases v <;> rfl

theorem requireConstruct_placeless (v : Value) :
    v.placeless.requireConstruct = v.requireConstruct := by
  cases v <;> rfl

theorem requireLoopBody_placeless (v : Value) :
    v.placeless.requireLoopBody = v.requireLoopBody := by
  cases v with
  | node pos n =>
      cases n with
      | blockStatement body => exact body.requireEntries_placeless
      | _ => rfl
  | _ => rfl

theorem asText_placeless (v : Value) : v.placeless.asText = v.asText := by
  cases v <;> rfl

mutual

theorem toJson?_placeless : ∀ v : Value, v.placeless.toJson? = v.toJson?
  | .list items => by simp only [placeless, toJson?, toItems?_placelessItems items]
  | .scalar _ | .record _ | .node _ _ => rfl

theorem toItems?_placelessItems :
    ∀ items : List Value, toItems? (placelessItems items) = toItems? items
  | [] => rfl
  | v :: rest => by
      simp only [placelessItems, toItems?, toJson?_placeless v, toItems?_placelessItems rest]

end

theorem jsonText_placeless (ascii : Bool) (v : Value) :
    v.placeless.jsonText ascii = v.jsonText ascii := by
  rw [jsonText, jsonText, toJson?_placeless]

theorem any_isText_placelessItems (s : String) (items : List Value) :
    (placelessItems items).any (isText s) = items.any (isText s) := by
  induction items with
  | nil => rfl
  | cons v rest ih =>
      have hv : v.placeless.isText s = v.isText s := by cases v <;> rfl
      simp only [placelessItems, List.any_cons, hv, ih]

theorem rawText?_placeless (v : Value) : rawText? v.placeless = rawText? v := by
  cases v with
  | list items => simp only [placeless, rawText?, any_isText_placelessItems]
  | _ => rfl

theorem unaryOperator_placeless (v : Value) : unaryOperator v.placeless = unaryOperator v := by
  cases v <;> rfl

theorem spacedOperator_placeless (v : Value) : spacedOperator v.placeless = spacedOperator v := by
  rw [spacedOperator, spacedOperator, asText_placeless]

end Value

open Value

theorem Dialect.quote_placeless (d : Dialect) (v : Value) : d.quote v.placeless = d.quote v := by
  cases d <;> simp only [Dialect.quote, jsonText_placeless]

theorem Dialect.literalText_placeless (d : Dialect) (value raw regex : Value) :
    d.literalText value.placeless raw.placeless regex.placeless =
      d.literalText value raw regex := by
  unfold Dialect.literalText
  simp only [isNull_placeless, asText_placeless]
  split
  · cases value with
    | scalar s => rfl
    | list items => exact jsonText_placeless true (.list items)
    | record fields => rfl
    | node pos n => rfl
  · split
    · cases regex <;> rfl
    · rfl

theorem numericText_placeless (value extra : Value) :
    numericText value.placeless extra.placeless = numericText value extra := by
  simp only [numericText, rawOr, rawText?_placeless, jsonText_placeless]

theorem Dialect.stringText_placeless (d : Dialect) (value extra : Value) :
    d.stringText value.placeless extra.placeless = d.stringText value extra := by
  simp only [Dialect.stringText, rawText?_placeless, d.quote_placeless]

theorem regExpText_placeless (pattern flags extra : Value) :
    regExpText pattern.placeless flags.placeless extra.placeless =
      regExpText pattern flags extra := by
  simp only [regExpText, rawOr, rawText?_placeless, asText_placeless]

theorem booleanText_placeless (value : Value) :
    booleanText value.placeless = booleanText value := by
  rw [booleanText, booleanText, isTruthy_placeless]

namespace Emission

/-! ## Emissions that do the same up to places -/

/-- From every buffer the emissions end with the same buffer, or stop there with the same fault up
to its place. -/
def Alike (e e' : Emission) : Prop :=
  ∀ b, (∃ c, e b = .ok () c ∧ e' b = .ok () c) ∨
    ∃ fault fault' c, e b = .error fault c ∧ e' b = .error fault' c ∧
      fault.placeless = fault'.placeless

theorem alike_refl (e : Emission) : Alike e e := by
  intro b
  cases h : e b with
  | ok u c => exact .inl ⟨c, rfl, rfl⟩
  | error fault c => exact .inr ⟨fault, fault, c, rfl, rfl, rfl⟩

theorem alike_stop {fault fault' : Fault} (h : fault.placeless = fault'.placeless) :
    Alike (stop fault) (stop fault') :=
  fun b => .inr ⟨fault, fault', b, rfl, rfl, h⟩

/-- Emissions that are equal are alike. -/
theorem alike_of_eq {e e' : Emission} (h : e = e') : Alike e e' := h ▸ alike_refl e

theorem Alike.symm {e e' : Emission} (h : Alike e e') : Alike e' e := by
  intro b
  rcases h b with ⟨c, he, he'⟩ | ⟨fault, fault', c, he, he', hf⟩
  · exact .inl ⟨c, he', he⟩
  · exact .inr ⟨fault', fault, c, he', he, hf.symm⟩

theorem Alike.trans {e e' e'' : Emission} (h : Alike e e') (h' : Alike e' e'') : Alike e e'' := by
  intro b
  rcases h b with ⟨c, he, he'⟩ | ⟨fault, fault', c, he, he', hf⟩
  · rcases h' b with ⟨c', hm, hm'⟩ | ⟨f, f', c', hm, hm', hf'⟩
    · rw [he'] at hm
      cases hm
      exact .inl ⟨c, he, hm'⟩
    · rw [he'] at hm
      cases hm
  · rcases h' b with ⟨c', hm, hm'⟩ | ⟨f, f', c', hm, hm', hf'⟩
    · rw [he'] at hm
      cases hm
    · rw [he'] at hm
      cases hm
      exact .inr ⟨fault, f', c, he, hm', hf.trans hf'⟩

theorem Alike.seq {e e' f f' : Emission} (h : Alike e e') (h' : Alike f f') :
    Alike (do e; f) (do e'; f') := by
  intro b
  rcases h b with ⟨c, he, he'⟩ | ⟨fault, fault', c, he, he', hf⟩
  · rw [seq_of_ok he, seq_of_ok he']
    exact h' c
  · exact .inr ⟨fault, fault', c, seq_of_error he, seq_of_error he', hf⟩

theorem Alike.choose {e e' f f' : Emission} {condition condition' : Bool}
    (hc : condition' = condition) (h : Alike e e') (h' : Alike f f') :
    Alike (choose condition e f) (choose condition' e' f') := by
  subst hc
  cases condition' with
  | true => exact h
  | false => exact h'

theorem Alike.onlyIf {e e' : Emission} {condition condition' : Bool}
    (hc : condition' = condition) (h : Alike e e') :
    Alike (onlyIf condition e) (onlyIf condition' e') :=
  h.choose hc (alike_refl _)

theorem Alike.parenthesized {e e' : Emission} {grouped grouped' : Bool}
    (hg : grouped' = grouped) (h : Alike e e') :
    Alike (parenthesized grouped e) (parenthesized grouped' e') :=
  ((alike_refl _).onlyIf hg).seq <| h.seq <| (alike_refl _).onlyIf hg

theorem Alike.block {e e' : Emission} (h : Alike e e') : Alike (block e) (block e') :=
  (alike_refl _).seq <| (alike_refl _).seq <| h.seq (alike_refl _)

end Emission

open Emission

/-! ## All trees -/

mutual

/-- Writing a tree does the same as writing it without positions. -/
theorem alike_emit (d : Dialect) : ∀ v : Value, Alike (emit d v) (emit d v.placeless)
  | .node pos n => alike_emitNode d pos n
  | .scalar _ | .list _ | .record _ => alike_refl _

/-- Writing a construct does the same as writing it without positions. -/
theorem alike_emitNode (d : Dialect) (pos : Option Pos) :
    ∀ n : Node, Alike (emitNode d pos n) (emitNode d none n.placeless)
  | .program body => alike_emitEach d false body
  | .file program => (alike_emit d program).onlyIf program.isPresent_placeless
  | .expressionStatement expression => (alike_emit d expression).seq (alike_refl _)
  | .importDeclaration source => alike_refl _
  | .blockStatement body => by
      cases d with
      | plain => exact alike_emitEach .plain false body
      | ruby => exact (alike_emitEach .ruby false body).block
  | .functionDeclaration id params body =>
      (alike_refl _).seq <| (alike_emit d id).seq <| (alike_refl _).seq <|
        (alike_emitArguments d params).seq <| (alike_refl _).seq <|
          (alike_emit d body).seq (alike_refl _)
  | .variableDeclarator id init => by
      simp only [emitNode, Node.placeless, init.isNull_placeless]
      refine (alike_emit d id).seq ?_
      split
      · exact alike_refl _
      · exact (alike_refl _).seq (alike_emit d init)
  | .variableDeclaration kind declarations => alike_emitEach d d.isRuby declarations
  | .returnStatement argument => by
      have ha := (alike_emit d argument).onlyIf argument.isPresent_placeless
      cases d with
      | plain => exact ha
      | ruby => exact (alike_refl _).seq <| ha.seq (alike_refl _)
  | .ifStatement test consequent alternate => by
      have hp := alternate.isPresent_placeless
      have ht := alike_emit d test
      have ha := alike_emit d alternate
      cases d with
      | plain =>
          exact (alike_refl _).seq <| ht.seq <| (alike_emit .plain consequent).seq <|
            ((alike_refl _).seq ha).onlyIf hp
      | ruby =>
          exact (alike_refl _).seq <| ht.seq <| (alike_emitBody .ruby true consequent).seq <|
            ((alike_refl _).seq <| (alike_refl _).seq <|
              ha.choose alternate.isIf_placeless (alike_emitBody .ruby false alternate)).onlyIf hp
  | .whileStatement test body => by
      have ht := alike_emit d test
      cases d with
      | plain => exact (alike_refl _).seq <| ht.seq <| (alike_refl _).seq (alike_emit .plain body)
      | ruby =>
          have hr := alike_of_eq (congrArg require body.requireConstruct_placeless.symm)
          exact hr.seq <| (alike_refl _).seq <| ht.seq <| (alike_refl _).seq <|
            alike_emitBody .ruby false body
  | .doWhileStatement body test => by
      have ht := alike_emit d test
      cases d with
      | plain =>
          exact (alike_refl _).seq <| (alike_emit .plain body).seq <| (alike_refl _).seq <|
            (alike_refl _).seq <| ht.seq (alike_refl _)
      | ruby =>
          exact (alike_refl _).seq <| (alike_emitBody .ruby false body).seq <|
            (alike_refl _).seq <| (alike_refl _).seq <| ht.seq (alike_refl _)
  | .forStatement init test update body => by
      have hi := alike_emit d init
      have ht := alike_emit d test
      have hu := alike_emit d update
      cases d with
      | plain =>
          exact (alike_refl _).seq <| (hi.onlyIf init.isPresent_placeless).seq <|
            (alike_refl _).seq <| (alike_refl _).seq <|
              (ht.onlyIf test.isPresent_placeless).seq <| (alike_refl _).seq <|
                (hu.onlyIf update.isPresent_placeless).seq <| (alike_refl _).seq <|
                  alike_emit .plain body
      | ruby =>
          have hri := alike_of_eq (congrArg require init.requireConstruct_placeless.symm)
          have hru := alike_of_eq (congrArg require update.requireConstruct_placeless.symm)
          have hrb := alike_of_eq (congrArg require body.requireLoopBody_placeless.symm)
          exact ((hi.choose init.isDeclaration_placeless <| hri.seq <| hi.seq
              (alike_refl _)).onlyIf init.isPresent_placeless).seq <|
            hrb.seq <| (hru.onlyIf update.isPresent_placeless).seq <| (alike_refl _).seq <|
              (ht.choose test.isPresent_placeless (alike_refl _)).seq <| (alike_refl _).seq <|
                ((alike_emitLoopBody .ruby body).seq <|
                  (hu.seq (alike_refl _)).onlyIf update.isPresent_placeless).block
  | .breakStatement => alike_refl _
  | .assignmentExpression operator left right => by
      simp only [emitNode, Node.placeless, operator.spacedOperator_placeless]
      exact (alike_emit d left).seq <| (alike_refl _).seq (alike_emit d right)
  | .callExpression callee arguments =>
      (alike_emit d callee).seq <| (alike_refl _).seq <|
        (alike_emitArguments d arguments).seq (alike_refl _)
  | .memberExpression object property computed => by
      simp only [emitNode, Node.placeless, computed.isTruthy_placeless]
      refine (alike_emit d object).seq ?_
      split
      · exact (alike_refl _).seq <| (alike_emit d property).seq (alike_refl _)
      · exact (alike_refl _).seq (alike_emit d property)
  | .unaryExpression operator argument isPrefix => by
      simp only [emitNode, Node.placeless, operator.unaryOperator_placeless,
        isPrefix.isTruthy_placeless]
      cases unaryOperator operator with
      | error fault => exact alike_refl _
      | ok text =>
          exact (alike_refl _).seq <|
            ((alike_emit d argument).parenthesized argument.isUnaryOrUpdate_placeless).seq
              (alike_refl _)
  | .updateExpression operator argument isPrefix => by
      simp only [emitNode, Node.placeless, operator.asText_placeless, isPrefix.isTruthy_placeless]
      exact (alike_refl _).seq <| (alike_emit d argument).seq (alike_refl _)
  | .binaryExpression operator left right => by
      simp only [emitNode, Node.placeless, operator.spacedOperator_placeless]
      exact ((alike_emit d left).parenthesized left.isBinary_placeless).seq <|
        (alike_refl _).seq ((alike_emit d right).parenthesized right.isBinary_placeless)
  | .logicalExpression operator left right => by
      simp only [emitNode, Node.placeless, operator.spacedOperator_placeless]
      exact ((alike_emit d left).parenthesized left.isLogical_placeless).seq <|
        (alike_refl _).seq ((alike_emit d right).parenthesized right.isLogical_placeless)
  | .conditionalExpression test consequent alternate =>
      (alike_refl _).seq <| (alike_emit d test).seq <| (alike_refl _).seq <|
        (alike_emit d consequent).seq <| (alike_refl _).seq <|
          (alike_emit d alternate).seq (alike_refl _)
  | .arrayExpression elements =>
      (alike_refl _).seq <| (alike_emitArguments d elements).seq (alike_refl _)
  | .identifier name => alike_of_eq (congrArg addResult name.asText_placeless.symm)
  | .literal value raw regex =>
      alike_of_eq (congrArg addResult (d.literalText_placeless value raw regex).symm)
  | .numericLiteral value extra =>
      alike_of_eq (congrArg addResult (numericText_placeless value extra).symm)
  | .stringLiteral value extra =>
      alike_of_eq (congrArg addResult (d.stringText_placeless value extra).symm)
  | .booleanLiteral value => alike_of_eq (congrArg add (booleanText_placeless value).symm)
  | .nullLiteral => alike_refl _
  | .regExpLiteral pattern flags extra =>
      alike_of_eq (congrArg addResult (regExpText_placeless pattern flags extra).symm)
  | .bare => alike_stop (Fault.placeless_unsupportedAt _ _ _)

theorem alike_emitEach (d : Dialect) (closing : Bool) :
    ∀ v : Value, Alike (emitEach d closing v) (emitEach d closing v.placeless)
  | .list items => alike_emitItems d closing items
  | .node _ _ | .scalar _ | .record _ => alike_refl _

theorem alike_emitItems (d : Dialect) (closing : Bool) :
    ∀ items : List Value,
      Alike (emitItems d closing items) (emitItems d closing (placelessItems items))
  | [] => alike_refl _
  | v :: rest => (alike_emit d v).seq <| (alike_refl _).seq (alike_emitItems d closing rest)

theorem alike_emitArguments (d : Dialect) :
    ∀ v : Value, Alike (emitArguments d v) (emitArguments d v.placeless)
  | .list items => alike_emitSeparated d true items
  | .node _ _ | .scalar _ | .record _ => alike_refl _

theorem alike_emitSeparated (d : Dialect) (first : Bool) :
    ∀ items : List Value,
      Alike (emitSeparated d first items) (emitSeparated d first (placelessItems items))
  | [] => alike_refl _
  | v :: rest =>
      (alike_refl _).seq <| ((alike_emit d v).choose v.isPresent_placeless (alike_refl _)).seq <|
        alike_emitSeparated d false rest

theorem alike_emitBody (d : Dialect) (returning : Bool) :
    ∀ v : Value, Alike (emitBody d returning v) (emitBody d returning v.placeless)
  | .node pos n => by
      cases n with
      | blockStatement body => exact (alike_emitEach d false body).block
      | expressionStatement expression =>
          have he := alike_emit d expression
          cases returning with
          | true =>
              exact ((alike_refl _).seq <| (he.onlyIf expression.isPresent_placeless).seq
                (alike_refl _)).block
          | false => exact (he.seq (alike_refl _)).block
      | _ => exact (alike_emitNode d pos _).block
  | .scalar _ | .list _ | .record _ => alike_refl _

theorem alike_emitLoopBody (d : Dialect) :
    ∀ v : Value, Alike (emitLoopBody d v) (emitLoopBody d v.placeless)
  | .node pos n => by
      cases n with
      | blockStatement body => exact alike_emitEach d false body
      | _ => exact alike_emitNode d pos _
  | .scalar _ | .list _ | .record _ => alike_refl _

end

end EstreeEmitter
