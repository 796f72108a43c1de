import EstreeEmitter.Proofs.Passes.CallSites
import EstreeEmitter.Proofs.Printer.Expression

set_option autoImplicit false

/-! # Texts of expressions as arguments

The corrections recognise a call by its arguments, which they read as words or as calls without
inner parentheses. Here is what they read at the front of any expression's text: the whole text if
it is such an argument, and otherwise something behind which the text goes on with neither a comma
nor a closing parenthesis (`makesPassable_expressionText`). Names, operators and literals may hold
whatever does not look like the end of an argument; a literal may hold parentheses if the first one
opens. -/

namespace EstreeEmitter

open Passes Text

/-! ## Texts -/

/-- The text is a word. -/
def isWordToken (cs : List Char) : Bool := !cs.isEmpty && cs.all isWord

/-- The word at the front of the text, if there is one, is followed by a character that neither ends
an argument nor opens a call. -/
def breaksOff (cs : List Char) : Bool :=
  (cs.dropWhile isWord).head?.any fun c => c != '(' && c != ',' && c != ')'

/-- The text of a name or literal can be told from the end of an argument. -/
def isLeafText (cs : List Char) : Bool := opensFirst cs && (isWordToken cs || breaksOff cs)

/-- The text of an operator beside its operand can be told from the end of an argument. -/
def isOperatorText (cs : List Char) : Bool := opensFirst cs && breaksOff cs

/-- What the scan for calls needs to know about the text of an expression. -/
structure Passable (cs : List Char) : Prop where
  opens : opensFirst cs = true
  reads : IsArgument cs ∨ Stops cs

theorem isWordText_of_isWordToken {cs : List Char} (h : isWordToken cs = true) :
    IsWordText cs := by
  rw [isWordToken, Bool.and_eq_true] at h
  exact ⟨by simpa using h.1, h.2⟩

/-- A text that breaks off, as a word and what follows it. -/
theorem exists_of_breaksOff {cs : List Char} (h : breaksOff cs = true) :
    ∃ word c rest, cs = word ++ c :: rest ∧ word.all isWord = true ∧ isWord c = false ∧
      c ≠ '(' ∧ c ≠ ',' ∧ c ≠ ')' := by
  rw [breaksOff] at h
  rcases all_or_exists_append_cons isWord cs with hw | ⟨word, c, rest, hw, hc, rfl⟩
  · rw [dropWhile_of_all hw] at h
    cases h
  · rw [dropWhile_append_cons hw hc, List.head?_cons, Option.any_some] at h
    simp only [Bool.and_eq_true, bne_iff_ne, and_assoc] at h
    exact ⟨word, c, rest, rfl, hw, hc, h⟩

theorem stops_of_breaksOff {cs : List Char} (h : breaksOff cs = true) : Stops cs := by
  obtain ⟨word, c, rest, rfl, hw, hc, hends⟩ := exists_of_breaksOff h
  by_cases hne : word = []
  · rw [hne]
    exact stops_cons hc hends.2 rest
  · exact stops_word ⟨hne, hw⟩ hc hends rest

/-- Behind an argument, a text that breaks off does so still. -/
theorem stops_append_of_isArgument {text cs : List Char} (h : IsArgument text)
    (hcs : breaksOff cs = true) : Stops (text ++ cs) := by
  obtain ⟨word, c, rest, rfl, hw, hc, hends⟩ := exists_of_breaksOff hcs
  cases h with
  | @word front hf =>
      rw [← List.append_assoc]
      refine stops_word ⟨by simp [hf.ne_nil], ?_⟩ hc hends rest
      rw [List.all_append, hf.all_isWord, hw]
      rfl
  | call hf hi =>
      cases word with
      | nil => exact stops_call hf hi hends.2 rest
      | cons d word =>
          rw [List.all_cons, Bool.and_eq_true] at hw
          refine stops_call hf hi ⟨?_, ?_⟩ _
          · rintro rfl
            exact absurd hw.1 (by decide)
          · rintro rfl
            exact absurd hw.1 (by decide)

theorem Passable.stops_append {text cs : List Char} (h : Passable text)
    (hcs : breaksOff cs = true) : Stops (text ++ cs) := by
  rcases h.reads with ha | hs
  · exact stops_append_of_isArgument ha hcs
  · exact hs.append cs

theorem passable_of_isLeafText {cs : List Char} (h : isLeafText cs = true) : Passable cs := by
  rw [isLeafText, Bool.and_eq_true, Bool.or_eq_true] at h
  refine ⟨h.1, ?_⟩
  rcases h.2 with hw | hb
  · exact .inl (.word (isWordText_of_isWordToken hw))
  · exact .inr (stops_of_breaksOff hb)

/-- The text of a call from the texts of what is called and of the arguments. -/
theorem Passable.call {callee inner : List Char} (hc : Passable callee)
    (hi : opensFirst inner = true) : Passable (callee ++ '(' :: (inner ++ [')'])) := by
  refine ⟨opensFirst_append hc.opens (opensFirst_open _), ?_⟩
  rcases hc.reads with ha | hs
  · cases ha with
    | word hw =>
        rcases isArgument_or_stops hw hi with hflat | hstops
        · exact .inl (.call hw hflat)
        · exact .inr (hstops [')'])
    | call hw hflat => exact .inr (stops_call hw hflat (by decide) _)
  · exact .inr (hs.append _)

/-- A text that starts with a parenthesis or another character outside words. -/
theorem passable_cons {c : Char} {cs : List Char} (hc : isWord c = false)
    (h : c ≠ ',' ∧ c ≠ ')') (ho : opensFirst (c :: cs) = true) : Passable (c :: cs) :=
  ⟨ho, .inr (stops_cons hc h cs)⟩

/-! ## Expressions -/

/-- The text could be made, and it is as asked. -/
def isMade (p : List Char → Bool) : Except Fault (List Char) → Bool
  | .ok cs => p cs
  | .error _ => false

/-- The operator beside an operand could be made, and its text is as asked. -/
def isMadeOperator (operator : Value) : Bool :=
  match unaryOperator operator with
  | .ok r => isMade isOperatorText r
  | .error _ => false

mutual

/-- The value is an expression whose names, operators and literals can be told from the end of an
argument. -/
def Value.isPassable : Value → Bool
  | .node _ n => n.isPassable
  | _ => false

/-- The construct is an expression of this kind. -/
def Node.isPassable : Node → Bool
  | .assignmentExpression operator left right =>
    isMade opensFirst operator.asText && left.isPassable && right.isPassable
  | .callExpression callee arguments => callee.isPassable && arguments.isPassableList
  | .memberExpression object property _ => object.isPassable && property.isPassable
  | .unaryExpression operator argument _ => isMadeOperator operator && argument.isPassable
  | .updateExpression operator argument _ =>
    isMade isOperatorText operator.asText && argument.isPassable
  | .binaryExpression operator left right =>
    isMade opensFirst operator.asText && left.isPassable && right.isPassable
  | .logicalExpression operator left right =>
    isMade opensFirst operator.asText && left.isPassable && right.isPassable
  | .conditionalExpression test consequent alternate =>
    test.isPassable && consequent.isPassable && alternate.isPassable
  | .arrayExpression elements => elements.isPassableList
  | .identifier name => isMade isLeafText name.asText
  | .literal value raw regex => isMade isLeafText (Dialect.ruby.literalText value raw regex)
  | .numericLiteral value extra => isMade isLeafText (numericText value extra)
  | .stringLiteral value extra => isMade isLeafText (Dialect.ruby.stringText value extra)
  | .booleanLiteral _ | .nullLiteral => true
  | .regExpLiteral pattern flags extra => isMade isLeafText (regExpText pattern flags extra)
  | _ => false

/-- The value is a list of such expressions, in which places may be left out. -/
def Value.isPassableList : Value → Bool
  | .list items => arePassable items
  | _ => false

/-- All entries are such expressions or absent. -/
def arePassable : List Value → Bool
  | [] => true
  | v :: rest => (v.isNull || v.isPassable) && arePassable rest

end

mutual

theorem Value.isExpression_of_isPassable :
    ∀ v : Value, v.isPassable = true → v.isExpression = true
  | .node _ n, h => Node.isExpression_of_isPassable n h
  | .scalar _, h | .list _, h | .record _, h => by cases h

theorem Node.isExpression_of_isPassable : ∀ n : Node, n.isPassable = true → n.isExpression = true
  | .assignmentExpression operator left right, h
  | .binaryExpression operator left right, h
  | .logicalExpression operator left right, h => by
      simp only [Node.isPassable, Bool.and_eq_true] at h
      simp only [Node.isExpression, left.isExpression_of_isPassable h.1.2,
        right.isExpression_of_isPassable h.2, Bool.and_self]
  | .callExpression callee arguments, h => by
      simp only [Node.isPassable, Bool.and_eq_true] at h
      simp only [Node.isExpression, callee.isExpression_of_isPassable h.1,
        arguments.isExpressionList_of_isPassableList h.2, Bool.and_self]
  | .memberExpression object property computed, h => by
      simp only [Node.isPassable, Bool.and_eq_true] at h
      simp only [Node.isExpression, object.isExpression_of_isPassable h.1,
        property.isExpression_of_isPassable h.2, Bool.and_self]
  | .unaryExpression operator argument isPrefix, h
  | .updateExpression operator argument isPrefix, h => by
      simp only [Node.isPassable, Bool.and_eq_true] at h
      exact argument.isExpression_of_isPassable h.2
  | .conditionalExpression test consequent alternate, h => by
      simp only [Node.isPassable, Bool.and_eq_true] at h
      simp only [Node.isExpression, test.isExpression_of_isPassable h.1.1,
        consequent.isExpression_of_isPassable h.1.2, alternate.isExpression_of_isPassable h.2,
        Bool.and_self]
  | .arrayExpression elements, h => elements.isExpressionList_of_isPassableList h
  | .identifier _, _ | .literal .., _ | .numericLiteral .., _ | .stringLiteral .., _
  | .booleanLiteral _, _ | .nullLiteral, _ | .regExpLiteral .., _ => rfl

theorem Value.isExpressionList_of_isPassableList :
    ∀ v : Value, v.isPassableList = true → v.isExpressionList = true
  | .list items, h => areExpressions_of_arePassable items h
  | .node .., h | .scalar _, h | .record _, h => by cases h

theorem areExpressions_of_arePassable :
    ∀ items : List Value, arePassable items = true → areExpressions items = true
  | [], _ => rfl
  | v :: rest, h => by
      simp only [arePassable, Bool.and_eq_true, Bool.or_eq_true] at h
      simp only [areExpressions, Bool.and_eq_true, Bool.or_eq_true]
      exact ⟨h.1.imp_right v.isExpression_of_isPassable, areExpressions_of_arePassable rest h.2⟩

end

/-! ## Pieces of text -/

theorem makes_of_isMade {p : List Char → Bool} {r : Except Fault (List Char)}
    (h : isMade p r = true) : Makes (p · = true) r := by
  cases r with
  | ok cs => exact ⟨cs, rfl, h⟩
  | error fault => cases h

/-- The first parenthesis of the text opens. -/
abbrev MakesOpening : Except Fault (List Char) → Prop := Makes (opensFirst · = true)

/-- The text can be told from the end of an argument. -/
abbrev MakesPassable : Except Fault (List Char) → Prop := Makes Passable

theorem MakesPassable.opening {r : Except Fault (List Char)} (h : MakesPassable r) :
    MakesOpening r := h.imp fun _ hp => hp.opens

theorem MakesOpening.joined {r : Except Fault (List Char)} {rs : List (Except Fault (List Char))}
    (h : MakesOpening r) (hs : MakesOpening (joined rs)) : MakesOpening (joined (r :: rs)) :=
  h.joined_cons hs fun _ _ => opensFirst_append

theorem makesOpening_ok {cs : List Char} (h : opensFirst cs = true) : MakesOpening (.ok cs) :=
  ⟨cs, rfl, h⟩

theorem breaksOff_cons {c : Char} (hc : isWord c = false) (h : c ≠ '(' ∧ c ≠ ',' ∧ c ≠ ')')
    (cs : List Char) : breaksOff (c :: cs) = true := by
  simp [breaksOff, hc, h]

theorem opensFirst_cons {c : Char} (hc : isFlat c = true) {cs : List Char}
    (h : opensFirst cs = true) : opensFirst (c :: cs) = true :=
  opensFirst_append (opensFirst_of_all (by simp [hc] : [c].all isFlat = true)) h

/-- An operand with a text behind it that breaks off. -/
theorem MakesPassable.joined_operator {r : Except Fault (List Char)}
    {rs : List (Except Fault (List Char))} (h : MakesPassable r)
    (hs : Makes (isOperatorText · = true) (joined rs)) : MakesPassable (joined (r :: rs)) := by
  refine h.joined_cons hs fun cs ds hcs hds => ?_
  rw [isOperatorText, Bool.and_eq_true] at hds
  exact ⟨opensFirst_append hcs.opens hds.1, .inr (hcs.stops_append hds.2)⟩

/-- An operator with its operand behind it. -/
theorem makesPassable_operator {r : Except Fault (List Char)}
    {rs : List (Except Fault (List Char))} (h : Makes (isOperatorText · = true) r)
    (hs : MakesOpening (joined rs)) : MakesPassable (joined (r :: rs)) := by
  refine h.joined_cons hs fun cs ds hcs hds => ?_
  rw [isOperatorText, Bool.and_eq_true] at hcs
  exact ⟨opensFirst_append hcs.1 hds, .inr ((stops_of_breaksOff hcs.2).append ds)⟩

/-- A text that breaks off at its first character. -/
theorem makesOperator_cons {c : Char} (hc : isWord c = false)
    (h : c ≠ '(' ∧ c ≠ ',' ∧ c ≠ ')') {cs : List Char} (hcs : opensFirst (c :: cs) = true)
    {rs : List (Except Fault (List Char))} (hs : MakesOpening (joined rs)) :
    Makes (isOperatorText · = true) (joined (.ok (c :: cs) :: rs)) := by
  obtain ⟨ds, hr, hds⟩ := hs
  refine ⟨c :: cs ++ ds, by rw [joined_cons_of_ok rfl, hr]; rfl, ?_⟩
  change isOperatorText (c :: cs ++ ds) = true
  rw [isOperatorText, opensFirst_append hcs hds, List.cons_append, breaksOff_cons hc h]
  rfl

theorem MakesPassable.groupedText {r : Except Fault (List Char)} (h : MakesPassable r)
    (grouped : Bool) : MakesPassable (groupedText grouped r) := by
  obtain ⟨cs, rfl, hcs⟩ := h
  cases grouped with
  | true =>
      exact ⟨'(' :: (cs ++ [')']), rfl, passable_cons (by decide) (by decide) (opensFirst_open _)⟩
  | false => exact ⟨[] ++ (cs ++ []), rfl, by rwa [List.nil_append, List.append_nil]⟩

theorem makesOpening_textIf {r : Except Fault (List Char)} (h : MakesOpening r)
    (condition : Bool) : MakesOpening (textIf condition r) := by
  cases condition with
  | true => exact h
  | false => exact makesOpening_ok rfl

/-- An operator between two operands. -/
theorem makesPassable_infixed {operator : Value} {left right : Except Fault (List Char)}
    (ho : isMade opensFirst operator.asText = true) (hl : MakesPassable left)
    (hr : MakesPassable right) : MakesPassable (joined [left, spacedOperator operator, right]) := by
  obtain ⟨text, htext, hopens⟩ := makes_of_isMade ho
  have hspaced : spacedOperator operator = .ok (' ' :: (text ++ [' '])) := by
    rw [spacedOperator, htext]
    rfl
  have hspace : opensFirst (' ' :: (text ++ [' '])) = true :=
    opensFirst_cons (by decide) (opensFirst_append hopens (by decide))
  rw [hspaced]
  exact hl.joined_operator
    (makesOperator_cons (by decide) (by decide) hspace hr.opening.joined_last)

/-- An operator before or behind its operand. -/
theorem makesPassable_beside {operator operand : Except Fault (List Char)}
    (ho : Makes (isOperatorText · = true) operator) (h : MakesPassable operand) (first : Bool) :
    MakesPassable (joined [textIf first operator, operand, textIf (!first) operator]) := by
  cases first with
  | true =>
      refine makesPassable_operator ho ?_
      exact h.opening.joined (makesOpening_ok rfl).joined_last
  | false =>
      obtain ⟨cs, hr, hcs⟩ := h.joined_operator ho.joined_last
      refine ⟨cs, ?_, hcs⟩
      change joined [.ok [], operand, operator] = .ok cs
      rw [joined_cons_of_ok rfl, hr]
      rfl

/-! ## Expressions as arguments -/

mutual

/-- **The text of an expression is a simple argument or is not read as one.** -/
theorem makesPassable_expressionText :
    ∀ v : Value, v.isPassable = true → MakesPassable (expressionText .ruby v)
  | .node pos n, h => makesPassable_constructText pos n h
  | .scalar _, h | .list _, h | .record _, h => by cases h

theorem makesPassable_constructText (pos : Option Pos) :
    ∀ n : Node, n.isPassable = true → MakesPassable (constructText .ruby pos n)
  | .assignmentExpression operator left right, h => by
      simp only [Node.isPassable, Bool.and_eq_true] at h
      exact makesPassable_infixed h.1.1 (makesPassable_expressionText left h.1.2)
        (makesPassable_expressionText right h.2)
  | .callExpression callee arguments, h => by
      simp only [Node.isPassable, Bool.and_eq_true] at h
      obtain ⟨cs, hc, hcs⟩ := makesPassable_expressionText callee h.1
      obtain ⟨inner, hl, hi⟩ := makesOpening_listText arguments h.2
      refine ⟨cs ++ '(' :: (inner ++ [')']), ?_, hcs.call hi⟩
      simp only [constructText, hc, hl]
      rfl
  | .memberExpression object property computed, h => by
      simp only [Node.isPassable, Bool.and_eq_true] at h
      have ho := makesPassable_expressionText object h.1
      have hp := (makesPassable_expressionText property h.2).opening
      simp only [constructText]
      split
      · exact ho.joined_operator (makesOperator_cons (by decide) (by decide) (by decide)
          (hp.joined (makesOpening_ok (by decide)).joined_last))
      · exact ho.joined_operator (makesOperator_cons (by decide) (by decide) (by decide)
          hp.joined_last)
  | .unaryExpression operator argument isPrefix, h => by
      simp only [Node.isPassable, isMadeOperator, Bool.and_eq_true] at h
      have ha := (makesPassable_expressionText argument h.2).groupedText argument.isUnaryOrUpdate
      simp only [constructText]
      cases ho : unaryOperator operator with
      | error fault =>
          rw [ho] at h
          cases h.1
      | ok text =>
          rw [ho] at h
          exact makesPassable_beside (makes_of_isMade h.1) ha _
  | .updateExpression operator argument isPrefix, h => by
      simp only [Node.isPassable, Bool.and_eq_true] at h
      exact makesPassable_beside (makes_of_isMade h.1) (makesPassable_expressionText argument h.2) _
  | .binaryExpression operator left right, h => by
      simp only [Node.isPassable, Bool.and_eq_true] at h
      exact makesPassable_infixed h.1.1 ((makesPassable_expressionText left h.1.2).groupedText _)
        ((makesPassable_expressionText right h.2).groupedText _)
  | .logicalExpression operator left right, h => by
      simp only [Node.isPassable, Bool.and_eq_true] at h
      exact makesPassable_infixed h.1.1 ((makesPassable_expressionText left h.1.2).groupedText _)
        ((makesPassable_expressionText right h.2).groupedText _)
  | .conditionalExpression test consequent alternate, h => by
      simp only [Node.isPassable, Bool.and_eq_true] at h
      obtain ⟨cs, ht, -⟩ := makesPassable_expressionText test h.1.1
      obtain ⟨ds, hc, -⟩ := makesPassable_expressionText consequent h.1.2
      obtain ⟨es, ha, -⟩ := makesPassable_expressionText alternate h.2
      simp only [constructText, ht, hc, ha]
      exact ⟨_, rfl, passable_cons (by decide) (by decide) (opensFirst_open _)⟩
  | .arrayExpression elements, h => by
      obtain ⟨inner, hl, hi⟩ := makesOpening_listText elements h
      simp only [constructText, hl]
      exact ⟨'[' :: (inner ++ [']']), rfl, passable_cons (by decide) (by decide)
        (opensFirst_cons (by decide) (opensFirst_append hi (by decide)))⟩
  | .identifier name, h => (makes_of_isMade h).imp fun _ => passable_of_isLeafText
  | .literal value raw regex, h => (makes_of_isMade h).imp fun _ => passable_of_isLeafText
  | .numericLiteral value extra, h => (makes_of_isMade h).imp fun _ => passable_of_isLeafText
  | .stringLiteral value extra, h => (makes_of_isMade h).imp fun _ => passable_of_isLeafText
  | .regExpLiteral pattern flags extra, h =>
      (makes_of_isMade h).imp fun _ => passable_of_isLeafText
  | .booleanLiteral value, _ => by
      refine ⟨(booleanText value).toList, rfl, passable_of_isLeafText ?_⟩
      unfold booleanText
      split <;> decide
  | .nullLiteral, _ => ⟨_, rfl, passable_of_isLeafText (by decide)⟩

theorem makesOpening_listText :
    ∀ v : Value, v.isPassableList = true → MakesOpening (listText .ruby v)
  | .list items, h => makesOpening_separatedText true items h
  | .node .., h | .scalar _, h | .record _, h => by cases h

theorem makesOpening_separatedText (first : Bool) :
    ∀ items : List Value, arePassable items = true →
      MakesOpening (separatedText .ruby first items)
  | [], _ => makesOpening_ok rfl
  | v :: rest, h => by
      simp only [arePassable, Bool.and_eq_true, Bool.or_eq_true] at h
      have hnull : MakesOpening (.ok Dialect.ruby.nullWord.toList) := makesOpening_ok (by decide)
      have hv : MakesOpening
          (if v.isPresent then expressionText .ruby v else .ok Dialect.ruby.nullWord.toList) := by
        rcases h.1 with hn | hp
        · simp only [Value.isPresent, hn]
          exact hnull
        · split
          · exact (makesPassable_expressionText v hp).opening
          · exact hnull
      have hcomma : MakesOpening (.ok ", ".toList) := makesOpening_ok (by decide)
      exact (makesOpening_textIf hcomma _).joined <| hv.joined
        (makesOpening_separatedText false rest h.2).joined_last

end

end EstreeEmitter
