import EstreeEmitter.Proofs.Emit.Run

set_option autoImplicit false

/-! # Expressions as text

`expressionText` puts the text of an expression together from the texts of its parts, without a
buffer. The emitter does the same through the buffer: it adds this text to the open line and touches
nothing else (`writes_emit`). Where a part has no text, both stop with the same fault. -/

namespace EstreeEmitter

/-! ## Pieces of text -/

/-- Texts one after the other; the first one that could not be made decides. -/
def joined : List (Except Fault (List Char)) → Except Fault (List Char)
  | [] => .ok []
  | r :: rs => do return (← r) ++ (← joined rs)

/-- The text if the condition holds, else nothing. -/
def textIf (condition : Bool) (r : Except Fault (List Char)) : Except Fault (List Char) :=
  if condition then r else .ok []

/-- The text in parentheses if `grouped`. -/
def groupedText (grouped : Bool) (r : Except Fault (List Char)) : Except Fault (List Char) :=
  joined [textIf grouped (.ok ['(']), r, textIf grouped (.ok [')'])]

theorem joined_cons_of_ok {r : Except Fault (List Char)} {cs : List Char}
    (h : r = .ok cs) (rs : List (Except Fault (List Char))) :
    joined (r :: rs) = (joined rs).map (cs ++ ·) := by
  subst h
  cases hr : joined rs <;> simp [joined, hr, Except.map, bind, Except.bind, pure, Except.pure]

theorem joined_cons_of_error {r : Except Fault (List Char)} {fault : Fault}
    (h : r = .error fault) (rs : List (Except Fault (List Char))) :
    joined (r :: rs) = .error fault := by
  subst h
  rfl

theorem joined_ok_cons (cs : List Char) {ds : List Char} {rs : List (Except Fault (List Char))}
    (h : joined rs = .ok ds) : joined (.ok cs :: rs) = .ok (cs ++ ds) := by
  rw [joined_cons_of_ok rfl, h]
  rfl

@[simp] theorem joined_singleton (r : Except Fault (List Char)) : joined [r] = r := by
  cases r with
  | ok cs => simp [joined, bind, Except.bind, pure, Except.pure]
  | error fault => rfl

/-- The text could be made, and it is as said. -/
def Makes (P : List Char → Prop) (r : Except Fault (List Char)) : Prop := ∃ cs, r = .ok cs ∧ P cs

theorem Makes.imp {P Q : List Char → Prop} {r : Except Fault (List Char)} (h : Makes P r)
    (himp : ∀ cs, P cs → Q cs) : Makes Q r := by
  obtain ⟨cs, hr, hcs⟩ := h
  exact ⟨cs, hr, himp cs hcs⟩

/-- Texts one after the other. -/
theorem Makes.joined_cons {P Q R : List Char → Prop} {r : Except Fault (List Char)}
    {rs : List (Except Fault (List Char))} (h : Makes P r) (hs : Makes Q (joined rs))
    (hR : ∀ cs ds, P cs → Q ds → R (cs ++ ds)) : Makes R (joined (r :: rs)) := by
  obtain ⟨cs, rfl, hcs⟩ := h
  obtain ⟨ds, hr, hds⟩ := hs
  exact ⟨cs ++ ds, by rw [joined_cons_of_ok rfl, hr]; rfl, hR cs ds hcs hds⟩

theorem Makes.joined_last {P : List Char → Prop} {r : Except Fault (List Char)} (h : Makes P r) :
    Makes P (joined [r]) := by
  rwa [joined_singleton]

/-! ## The text of an expression -/

mutual

/-- The text of what stands at the place of an expression. -/
def expressionText (d : Dialect) : Value → Except Fault (List Char)
  | .node pos n => constructText d pos n
  | v => .error (.unsupported v.kindName 0 0)

/-- The text of a construct as an expression; a statement has none. -/
def constructText (d : Dialect) (pos : Option Pos) : Node → Except Fault (List Char)
  | .assignmentExpression operator left right =>
    joined [expressionText d left, spacedOperator operator, expressionText d right]
  | .callExpression callee arguments =>
    joined [expressionText d callee, .ok ['('], listText d arguments, .ok [')']]
  | .memberExpression object property computed =>
    if computed.isTruthy then
      joined [expressionText d object, .ok ['['], expressionText d property, .ok [']']]
    else joined [expressionText d object, .ok ['.'], expressionText d property]
  | .unaryExpression operator argument isPrefix =>
    match unaryOperator operator with
    | .error fault => .error fault
    | .ok text =>
      joined [textIf isPrefix.isTruthy text,
        groupedText argument.isUnaryOrUpdate (expressionText d argument),
        textIf (!isPrefix.isTruthy) text]
  | .updateExpression operator argument isPrefix =>
    joined [textIf isPrefix.isTruthy operator.asText, expressionText d argument,
      textIf (!isPrefix.isTruthy) operator.asText]
  | .binaryExpression operator left right =>
    joined [groupedText left.isBinary (expressionText d left), spacedOperator operator,
      groupedText right.isBinary (expressionText d right)]
  | .logicalExpression operator left right =>
    joined [groupedText left.isLogical (expressionText d left), spacedOperator operator,
      groupedText right.isLogical (expressionText d right)]
  | .conditionalExpression test consequent alternate =>
    joined [.ok ['('], expressionText d test, .ok " ? ".toList, expressionText d consequent,
      .ok " : ".toList, expressionText d alternate, .ok [')']]
  | .arrayExpression elements => joined [.ok ['['], listText d elements, .ok [']']]
  | .identifier name => name.asText
  | .literal value raw regex => d.literalText value raw regex
  | .numericLiteral value extra => numericText value extra
  | .stringLiteral value extra => d.stringText value extra
  | .booleanLiteral value => .ok (booleanText value).toList
  | .nullLiteral => .ok d.nullWord.toList
  | .regExpLiteral pattern flags extra => regExpText pattern flags extra
  | n => .error (.unsupportedAt n.tag pos)

/-- The text of a list field with commas between its entries. -/
def listText (d : Dialect) : Value → Except Fault (List Char)
  | .list items => separatedText d true items
  | v => v.requireNoEntries.map fun _ => []

/-- Texts with commas between them; an absent entry is the word for null. -/
def separatedText (d : Dialect) (first : Bool) : List Value → Except Fault (List Char)
  | [] => .ok []
  | v :: rest =>
    joined [textIf (!first) (.ok ", ".toList),
      if v.isPresent then expressionText d v else .ok d.nullWord.toList, separatedText d false rest]

end

/-! ## Well-formed expressions -/

mutual

/-- The value is an expression, and so is whatever stands at the place of one inside. -/
def Value.isExpression : Value → Bool
  | .node _ n => n.isExpression
  | _ => false

/-- The construct is an expression with expressions inside. -/
def Node.isExpression : Node → Bool
  | .assignmentExpression _ left right => left.isExpression && right.isExpression
  | .callExpression callee arguments => callee.isExpression && arguments.isExpressionList
  | .memberExpression object property _ => object.isExpression && property.isExpression
  | .unaryExpression _ argument _ => argument.isExpression
  | .updateExpression _ argument _ => argument.isExpression
  | .binaryExpression _ left right => left.isExpression && right.isExpression
  | .logicalExpression _ left right => left.isExpression && right.isExpression
  | .conditionalExpression test consequent alternate =>
    test.isExpression && consequent.isExpression && alternate.isExpression
  | .arrayExpression elements => elements.isExpressionList
  | .identifier .. | .literal .. | .numericLiteral .. | .stringLiteral .. | .booleanLiteral ..
  | .nullLiteral | .regExpLiteral .. => true
  | _ => false

/-- The value is a list of expressions, in which places may be left out. -/
def Value.isExpressionList : Value → Bool
  | .list items => areExpressions items
  | _ => false

/-- All entries are expressions or absent. -/
def areExpressions : List Value → Bool
  | [] => true
  | v :: rest => (v.isNull || v.isExpression) && areExpressions rest

end

namespace Emission

/-! ## Emissions that only add to the open line -/

/-- The emission adds the given text to the open line, or stops with the given fault after adding
something to it. -/
structure Writes (e : Emission) (r : Except Fault (List Char)) : Prop where
  of_ok : ∀ {cs : List Char}, r = .ok cs → ∀ b, e b = .ok () (b.add cs)
  of_error : ∀ {fault : Fault}, r = .error fault → ∀ b, ∃ cs, e b = .error fault (b.add cs)

theorem writes_pure : Writes (pure ()) (.ok []) where
  of_ok h b := by cases h; rw [Buffer.add_nil]; rfl
  of_error h := by cases h

theorem writes_add (s : String) : Writes (add s) (.ok s.toList) where
  of_ok h b := by cases h; rfl
  of_error h := by cases h

theorem writes_stop (fault : Fault) : Writes (stop fault) (.error fault) where
  of_ok h := by cases h
  of_error h b := by cases h; exact ⟨[], by rw [Buffer.add_nil]; rfl⟩

theorem writes_addResult (r : Except Fault (List Char)) : Writes (addResult r) r where
  of_ok h b := by subst h; rfl
  of_error h b := by subst h; exact ⟨[], by rw [Buffer.add_nil]; rfl⟩

/-- What is written first stands first. -/
theorem Writes.seq {e e' : Emission} {r : Except Fault (List Char)}
    {rs : List (Except Fault (List Char))} (h : Writes e r) (h' : Writes e' (joined rs)) :
    Writes (do e; e') (joined (r :: rs)) := by
  cases hr : r with
  | error fault =>
      rw [joined_cons_of_error rfl]
      refine ⟨nofun, fun hc b => ?_⟩
      cases hc
      obtain ⟨cs, hcs⟩ := h.of_error hr b
      exact ⟨cs, seq_of_error hcs⟩
  | ok cs =>
      rw [joined_cons_of_ok rfl]
      cases hs : joined rs with
      | error fault =>
          refine ⟨nofun, fun hc b => ?_⟩
          cases hc
          obtain ⟨cs', hcs⟩ := h'.of_error hs (b.add cs)
          exact ⟨cs ++ cs', by rw [seq_of_ok (h.of_ok hr b), hcs, Buffer.add_add]⟩
      | ok cs' =>
          refine ⟨fun hc b => ?_, nofun⟩
          cases hc
          rw [seq_of_ok (h.of_ok hr b), h'.of_ok hs, Buffer.add_add]

/-- The last of several texts. -/
theorem Writes.last {e : Emission} {r : Except Fault (List Char)} (h : Writes e r) :
    Writes e (joined [r]) := by
  rwa [joined_singleton]

theorem Writes.onlyIf {e : Emission} {r : Except Fault (List Char)} (condition : Bool)
    (h : Writes e r) : Writes (onlyIf condition e) (textIf condition r) := by
  cases condition with
  | true => exact h
  | false => exact writes_pure

theorem Writes.parenthesized {e : Emission} {r : Except Fault (List Char)} (grouped : Bool)
    (h : Writes e r) : Writes (parenthesized grouped e) (groupedText grouped r) :=
  ((writes_add _).onlyIf grouped).seq <| h.seq <| ((writes_add _).onlyIf grouped).last

end Emission

open Emission

/-! ## The emitter writes the text of an expression -/

mutual

/-- Writing an expression adds its text to the open line. -/
theorem writes_emit (d : Dialect) :
    ∀ v : Value, v.isExpression = true → Writes (emit d v) (expressionText d v)
  | .node pos n, h => writes_emitNode d pos n h
  | .scalar _, h | .list _, h | .record _, h => by cases h

theorem writes_emitNode (d : Dialect) (pos : Option Pos) :
    ∀ n : Node, n.isExpression = true → Writes (emitNode d pos n) (constructText d pos n)
  | .assignmentExpression operator left right, h => by
      simp only [Node.isExpression, Bool.and_eq_true] at h
      exact (writes_emit d left h.1).seq <| (writes_addResult _).seq <|
        (writes_emit d right h.2).last
  | .callExpression callee arguments, h => by
      simp only [Node.isExpression, Bool.and_eq_true] at h
      exact (writes_emit d callee h.1).seq <| (writes_add _).seq <|
        (writes_emitArguments d arguments h.2).seq (writes_add _).last
  | .memberExpression object property computed, h => by
      simp only [Node.isExpression, Bool.and_eq_true] at h
      have ho := writes_emit d object h.1
      have hp := writes_emit d property h.2
      simp only [emitNode, constructText]
      split
      · exact ho.seq <| (writes_add _).seq <| hp.seq (writes_add _).last
      · exact ho.seq <| (writes_add _).seq hp.last
  | .unaryExpression operator argument isPrefix, h => by
      have ha := writes_emit d argument h
      simp only [emitNode, constructText]
      cases unaryOperator operator with
      | error fault => exact writes_stop fault
      | ok text =>
          exact ((writes_addResult text).onlyIf _).seq <| (ha.parenthesized _).seq
            ((writes_addResult text).onlyIf _).last
  | .updateExpression operator argument isPrefix, h =>
      ((writes_addResult _).onlyIf _).seq <| (writes_emit d argument h).seq
        ((writes_addResult _).onlyIf _).last
  | .binaryExpression operator left right, h => by
      simp only [Node.isExpression, Bool.and_eq_true] at h
      exact ((writes_emit d left h.1).parenthesized _).seq <| (writes_addResult _).seq <|
        ((writes_emit d right h.2).parenthesized _).last
  | .logicalExpression operator left right, h => by
      simp only [Node.isExpression, Bool.and_eq_true] at h
      exact ((writes_emit d left h.1).parenthesized _).seq <| (writes_addResult _).seq <|
        ((writes_emit d right h.2).parenthesized _).last
  | .conditionalExpression test consequent alternate, h => by
      simp only [Node.isExpression, Bool.and_eq_true] at h
      exact (writes_add _).seq <| (writes_emit d test h.1.1).seq <| (writes_add _).seq <|
        (writes_emit d consequent h.1.2).seq <| (writes_add _).seq <|
          (writes_emit d alternate h.2).seq (writes_add _).last
  | .arrayExpression elements, h =>
      (writes_add _).seq <| (writes_emitArguments d elements h).seq (writes_add _).last
  | .identifier name, _ => writes_addResult _
  | .literal value raw regex, _ => writes_addResult _
  | .numericLiteral value extra, _ => writes_addResult _
  | .stringLiteral value extra, _ => writes_addResult _
  | .booleanLiteral value, _ => writes_add _
  | .nullLiteral, _ => writes_add _
  | .regExpLiteral pattern flags extra, _ => writes_addResult _

theorem writes_emitArguments (d : Dialect) :
    ∀ v : Value, v.isExpressionList = true → Writes (emitArguments d v) (listText d v)
  | .list items, h => writes_emitSeparated d true items h
  | .node _ _, h | .scalar _, h | .record _, h => by cases h

theorem writes_emitSeparated (d : Dialect) (first : Bool) :
    ∀ items : List Value, areExpressions items = true →
      Writes (emitSeparated d first items) (separatedText d first items)
  | [], _ => writes_pure
  | v :: rest, h => by
      simp only [areExpressions, Bool.and_eq_true, Bool.or_eq_true] at h
      have hv : Writes (choose v.isPresent (emit d v) (add d.nullWord))
          (if v.isPresent then expressionText d v else .ok d.nullWord.toList) := by
        rcases h.1 with hn | he
        · simp only [Value.isPresent, hn]
          exact writes_add _
        · have hp : v.isPresent = true := by
            cases v with
            | node pos n => rfl
            | _ => cases he
          rw [hp]
          exact writes_emit d v he
      exact ((writes_add _).onlyIf _).seq <| hv.seq (writes_emitSeparated d false rest h.2).last

end

/-- From an empty buffer, writing an expression gives its text. -/
theorem generate_expression (d : Dialect) {v : Value} (h : v.isExpression = true) :
    v.generate d = expressionText d v := by
  have hw := writes_emit d v h
  rw [Value.generate]
  cases ht : expressionText d v with
  | ok cs =>
      rw [hw.of_ok ht]
      rfl
  | error fault =>
      obtain ⟨cs, hcs⟩ := hw.of_error ht Buffer.fresh
      rw [hcs]

end EstreeEmitter
