import EstreeEmitter.Proofs.Json.Balanced
import EstreeEmitter.Proofs.Printer.Expression
import EstreeEmitter.Proofs.Result

set_option autoImplicit false

/-! # Where an expression ends

The corrections look for the end of an expression by counting parentheses outside quotes. In a tidy
expression, names, operators and numbers hold no quote, parenthesis or line feed, and raw texts are
quoted on one line; the texts that are made from values may hold anything. The text of a tidy
expression is balanced, so both scanners end exactly where it ends
(`scanners_end_at_expression`). -/

namespace EstreeEmitter

open Passes

/-! ## Tidy leaves -/

/-- The text is closed by the quote `q` at its end and nowhere before, on one line. -/
def endsQuoted (q : Char) : List Char → Bool
  | [] => false
  | [c] => c == q
  | c :: d :: cs =>
    if c == '\\' then d != '\n' && endsQuoted q cs
    else c != q && c != '\n' && endsQuoted q (d :: cs)

/-- The text is quoted on one line, with a backslash before what would end it. -/
def isQuotedToken : List Char → Bool
  | [] => false
  | q :: cs => isQuote q && endsQuoted q cs

/-- The value is a text of ordinary characters. -/
def Value.isOrdinaryText : Value → Bool
  | .scalar (.str s) => s.toList.all isOrdinary
  | _ => false

/-- The numeric literal has a text, of ordinary characters. -/
def isTidyNumber (value extra : Value) : Bool :=
  match numericText value extra with
  | .ok text => text.all isOrdinary
  | .error _ => false

/-- The string literal is made from a value, or its raw text is quoted on one line. -/
def isTidyString (value extra : Value) : Bool :=
  match rawText? extra with
  | .ok (some raw) => isQuotedToken raw
  | .ok none => value.toJson?.isSome
  | .error _ => false

mutual

/-- The value is an expression with tidy leaves and operators. -/
def Value.isTidy : Value → Bool
  | .node _ n => n.isTidy
  | _ => false

/-- The construct is an expression with tidy leaves and operators. A literal that does not tell its
kind holds plain data; it is no regular expression. -/
def Node.isTidy : Node → Bool
  | .assignmentExpression operator left right =>
    operator.isOrdinaryText && left.isTidy && right.isTidy
  | .callExpression callee arguments => callee.isTidy && arguments.isTidyList
  | .memberExpression object property _ => object.isTidy && property.isTidy
  | .unaryExpression operator argument _ => operator.isOrdinaryText && argument.isTidy
  | .updateExpression operator argument _ => operator.isOrdinaryText && argument.isTidy
  | .binaryExpression operator left right =>
    operator.isOrdinaryText && left.isTidy && right.isTidy
  | .logicalExpression operator left right =>
    operator.isOrdinaryText && left.isTidy && right.isTidy
  | .conditionalExpression test consequent alternate =>
    test.isTidy && consequent.isTidy && alternate.isTidy
  | .arrayExpression elements => elements.isTidyList
  | .identifier name => name.isOrdinaryText
  | .literal value _ regex => regex.isNull && value.toJson?.isSome
  | .numericLiteral value extra => isTidyNumber value extra
  | .stringLiteral value extra => isTidyString value extra
  | .booleanLiteral _ | .nullLiteral => true
  | _ => false

/-- The value is a list of tidy expressions, in which places may be left out. -/
def Value.isTidyList : Value → Bool
  | .list items => areTidy items
  | _ => false

/-- All entries are tidy expressions or absent. -/
def areTidy : List Value → Bool
  | [] => true
  | v :: rest => (v.isNull || v.isTidy) && areTidy rest

end

mutual

theorem Value.isExpression_of_isTidy : ∀ v : Value, v.isTidy = true → v.isExpression = true
  | .node _ n, h => Node.isExpression_of_isTidy n h
  | .scalar _, h | .list _, h | .record _, h => by cases h

theorem Node.isExpression_of_isTidy : ∀ n : Node, n.isTidy = true → n.isExpression = true
  | .assignmentExpression operator left right, h
  | .binaryExpression operator left right, h
  | .logicalExpression operator left right, h => by
      simp only [Node.isTidy, Bool.and_eq_true] at h
      simp only [Node.isExpression, left.isExpression_of_isTidy h.1.2,
        right.isExpression_of_isTidy h.2, Bool.and_self]
  | .callExpression callee arguments, h => by
      simp only [Node.isTidy, Bool.and_eq_true] at h
      simp only [Node.isExpression, callee.isExpression_of_isTidy h.1,
        arguments.isExpressionList_of_isTidyList h.2, Bool.and_self]
  | .memberExpression object property computed, h => by
      simp only [Node.isTidy, Bool.and_eq_true] at h
      simp only [Node.isExpression, object.isExpression_of_isTidy h.1,
        property.isExpression_of_isTidy h.2, Bool.and_self]
  | .unaryExpression operator argument isPrefix, h
  | .updateExpression operator argument isPrefix, h => by
      simp only [Node.isTidy, Bool.and_eq_true] at h
      exact argument.isExpression_of_isTidy h.2
  | .conditionalExpression test consequent alternate, h => by
      simp only [Node.isTidy, Bool.and_eq_true] at h
      simp only [Node.isExpression, test.isExpression_of_isTidy h.1.1,
        consequent.isExpression_of_isTidy h.1.2, alternate.isExpression_of_isTidy h.2,
        Bool.and_self]
  | .arrayExpression elements, h => elements.isExpressionList_of_isTidyList h
  | .identifier _, _ | .literal .., _ | .numericLiteral .., _ | .stringLiteral .., _
  | .booleanLiteral _, _ | .nullLiteral, _ => rfl

theorem Value.isExpressionList_of_isTidyList :
    ∀ v : Value, v.isTidyList = true → v.isExpressionList = true
  | .list items, h => areExpressions_of_areTidy items h
  | .node .., h | .scalar _, h | .record _, h => by cases h

theorem areExpressions_of_areTidy :
    ∀ items : List Value, areTidy items = true → areExpressions items = true
  | [], _ => rfl
  | v :: rest, h => by
      simp only [areTidy, Bool.and_eq_true, Bool.or_eq_true] at h
      simp only [areExpressions, Bool.and_eq_true, Bool.or_eq_true]
      exact ⟨h.1.imp_right v.isExpression_of_isTidy, areExpressions_of_areTidy rest h.2⟩

end

/-! ## Balanced pieces -/

/-- The text could be made, and it is balanced. -/
abbrev MakesBalanced : Except Fault (List Char) → Prop := Makes Balanced

theorem makesBalanced_ok {cs : List Char} (h : Balanced cs) : MakesBalanced (.ok cs) := ⟨cs, rfl, h⟩

theorem makesBalanced_of_all {cs : List Char} (h : cs.all isOrdinary = true) :
    MakesBalanced (.ok cs) := makesBalanced_ok (balanced_of_all h)

theorem makesBalanced_nullWord (d : Dialect) : MakesBalanced (.ok d.nullWord.toList) := by
  cases d <;> exact makesBalanced_of_all (by decide)

theorem MakesBalanced.cons {r : Except Fault (List Char)} {rs : List (Except Fault (List Char))}
    (h : MakesBalanced r) (hs : MakesBalanced (joined rs)) : MakesBalanced (joined (r :: rs)) :=
  h.joined_cons hs fun _ _ => Balanced.append

theorem joined_append_of_ok {rs ss : List (Except Fault (List Char))} {cs : List Char}
    (h : joined rs = .ok cs) : joined (rs ++ ss) = (joined ss).map (cs ++ ·) := by
  induction rs generalizing cs with
  | nil =>
      cases h
      rw [List.nil_append]
      cases joined ss <;> rfl
  | cons r rs ih =>
      simp only [joined, bind_eq_ok_iff, pure_eq_ok_iff] at h
      obtain ⟨ds, hr, es, hrs, rfl⟩ := h
      rw [List.cons_append, joined_cons_of_ok hr, ih hrs]
      cases joined ss <;> simp [Except.map]

/-- Pieces in parentheses are balanced when the pieces inside are. -/
theorem MakesBalanced.joined_group {rs : List (Except Fault (List Char))}
    (h : MakesBalanced (joined rs)) :
    MakesBalanced (joined (.ok ['('] :: (rs ++ [.ok [')']]))) := by
  obtain ⟨cs, hr, hcs⟩ := h
  refine ⟨'(' :: (cs ++ [')']), ?_, hcs.parenthesized⟩
  rw [joined_cons_of_ok rfl, joined_append_of_ok hr, joined_singleton]
  rfl

theorem MakesBalanced.textIf (condition : Bool) {r : Except Fault (List Char)}
    (h : MakesBalanced r) : MakesBalanced (textIf condition r) := by
  cases condition with
  | true => exact h
  | false => exact makesBalanced_ok .nil

theorem MakesBalanced.groupedText (grouped : Bool) {r : Except Fault (List Char)}
    (h : MakesBalanced r) : MakesBalanced (groupedText grouped r) := by
  cases grouped with
  | true => exact MakesBalanced.joined_group h.joined_last
  | false =>
      exact (makesBalanced_ok .nil).cons <|
        h.cons (makesBalanced_ok .nil).joined_last

/-! ## Balanced leaves -/

theorem exists_quotedBody_of_endsQuoted {q : Char} {cs : List Char} (h : endsQuoted q cs = true) :
    ∃ body, cs = body ++ [q] ∧ QuotedBody q body := by
  fun_induction endsQuoted q cs with
  | case1 => cases h
  | case2 c => exact ⟨[], by rw [eq_of_beq h, List.nil_append], .nil⟩
  | case3 c d cs hc ih =>
      obtain ⟨body, rfl, hb⟩ := ih (Bool.and_eq_true_iff.mp h).2
      exact ⟨c :: d :: body, rfl, by rw [eq_of_beq hc]; exact .escape hb⟩
  | case4 c d cs hc ih =>
      simp only [Bool.and_eq_true, bne_iff_ne] at h
      obtain ⟨body, hbody, hb⟩ := ih h.2
      exact ⟨c :: body, by rw [hbody, List.cons_append], .char h.1.1 (by simpa using hc) h.1.2 hb⟩

theorem balanced_of_isQuotedToken {raw : List Char} (h : isQuotedToken raw = true) :
    Balanced raw := by
  cases raw with
  | nil => cases h
  | cons q cs =>
      obtain ⟨hq, hcs⟩ := Bool.and_eq_true_iff.mp h
      obtain ⟨body, rfl, hb⟩ := exists_quotedBody_of_endsQuoted hcs
      exact hb.balanced hq

theorem balanced_rawString {raw : List Char} (h : Balanced raw) (d : Dialect) :
    Balanced (d.rawString raw) := by
  unfold Dialect.rawString
  split
  · exact h.escapeInterpolation
  · exact h

theorem makesBalanced_jsonText {v : Value} (h : v.toJson?.isSome = true) (ascii : Bool) :
    MakesBalanced (v.jsonText ascii) := by
  obtain ⟨j, hj⟩ := Option.isSome_iff_exists.mp h
  exact ⟨j.text ascii, by rw [Value.jsonText, hj], Json.balanced_text ascii j⟩

theorem makesBalanced_quote {v : Value} (h : v.toJson?.isSome = true) (d : Dialect) :
    MakesBalanced (d.quote v) := by
  obtain ⟨cs, hv, hcs⟩ := makesBalanced_jsonText h false
  cases d with
  | plain => exact ⟨cs, hv, hcs⟩
  | ruby => exact ⟨_, map_eq_ok_iff.mpr ⟨cs, hv, rfl⟩, hcs.escapeInterpolation⟩

theorem makesBalanced_asText {v : Value} (h : v.isOrdinaryText = true) :
    MakesBalanced v.asText := by
  unfold Value.isOrdinaryText at h
  split at h
  · exact makesBalanced_ok (balanced_of_all h)
  · cases h

theorem makesBalanced_spacedOperator {v : Value} (h : v.isOrdinaryText = true) :
    MakesBalanced (spacedOperator v) := by
  obtain ⟨cs, hv, hcs⟩ := makesBalanced_asText h
  exact ⟨' ' :: (cs ++ [' ']), by rw [spacedOperator, hv]; rfl,
    .char (by decide) (hcs.append (.char (by decide) .nil))⟩

theorem exists_unaryOperator {v : Value} (h : v.isOrdinaryText = true) :
    ∃ text, unaryOperator v = .ok text ∧ MakesBalanced text := by
  unfold Value.isOrdinaryText at h
  split at h
  · rename_i s
    refine ⟨_, rfl, makesBalanced_ok ?_⟩
    split
    · exact (balanced_of_all h).append (.char (by decide) .nil)
    · exact balanced_of_all h
  · cases h

theorem makesBalanced_literalText (d : Dialect) {value regex : Value} (raw : Value)
    (hr : regex.isNull = true) (hv : value.toJson?.isSome = true) :
    MakesBalanced (d.literalText value raw regex) := by
  unfold Dialect.literalText
  rw [if_pos hr]
  split
  · exact makesBalanced_nullWord d
  · exact makesBalanced_quote hv d
  · exact makesBalanced_jsonText hv true

theorem makesBalanced_numericText {value extra : Value} (h : isTidyNumber value extra = true) :
    MakesBalanced (numericText value extra) := by
  unfold isTidyNumber at h
  split at h
  · rename_i text ht
    exact ⟨text, ht, balanced_of_all h⟩
  · cases h

theorem makesBalanced_stringText (d : Dialect) {value extra : Value}
    (h : isTidyString value extra = true) : MakesBalanced (d.stringText value extra) := by
  unfold isTidyString at h
  unfold Dialect.stringText
  split at h
  · rename_i raw hr
    rw [hr]
    exact makesBalanced_ok (balanced_rawString (balanced_of_isQuotedToken h) d)
  · rename_i hr
    rw [hr]
    exact makesBalanced_quote h d
  · cases h

/-! ## Tidy expressions -/

mutual

/-- A tidy expression has a text, and it is balanced. -/
theorem makesBalanced_expressionText (d : Dialect) :
    ∀ v : Value, v.isTidy = true → MakesBalanced (expressionText d v)
  | .node pos n, h => makesBalanced_constructText d pos n h
  | .scalar _, h | .list _, h | .record _, h => by cases h

theorem makesBalanced_constructText (d : Dialect) (pos : Option Pos) :
    ∀ n : Node, n.isTidy = true → MakesBalanced (constructText d pos n)
  | .assignmentExpression operator left right, h => by
      simp only [Node.isTidy, Bool.and_eq_true] at h
      exact (makesBalanced_expressionText d left h.1.2).cons <|
        (makesBalanced_spacedOperator h.1.1).cons <|
          (makesBalanced_expressionText d right h.2).joined_last
  | .callExpression callee arguments, h => by
      simp only [Node.isTidy, Bool.and_eq_true] at h
      exact (makesBalanced_expressionText d callee h.1).cons <|
        MakesBalanced.joined_group (makesBalanced_listText d arguments h.2).joined_last
  | .memberExpression object property computed, h => by
      simp only [Node.isTidy, Bool.and_eq_true] at h
      have ho := makesBalanced_expressionText d object h.1
      have hp := makesBalanced_expressionText d property h.2
      simp only [constructText]
      split
      · exact ho.cons <| (makesBalanced_of_all (by decide)).cons <|
          hp.cons (makesBalanced_of_all (by decide)).joined_last
      · exact ho.cons <| (makesBalanced_of_all (by decide)).cons hp.joined_last
  | .unaryExpression operator argument isPrefix, h => by
      simp only [Node.isTidy, Bool.and_eq_true] at h
      obtain ⟨text, ho, ht⟩ := exists_unaryOperator h.1
      simp only [constructText, ho]
      exact (ht.textIf _).cons <|
        ((makesBalanced_expressionText d argument h.2).groupedText _).cons
          (ht.textIf _).joined_last
  | .updateExpression operator argument isPrefix, h => by
      simp only [Node.isTidy, Bool.and_eq_true] at h
      have ht := makesBalanced_asText h.1
      exact (ht.textIf _).cons <|
        (makesBalanced_expressionText d argument h.2).cons (ht.textIf _).joined_last
  | .binaryExpression operator left right, h => by
      simp only [Node.isTidy, Bool.and_eq_true] at h
      exact ((makesBalanced_expressionText d left h.1.2).groupedText _).cons <|
        (makesBalanced_spacedOperator h.1.1).cons
          ((makesBalanced_expressionText d right h.2).groupedText _).joined_last
  | .logicalExpression operator left right, h => by
      simp only [Node.isTidy, Bool.and_eq_true] at h
      exact ((makesBalanced_expressionText d left h.1.2).groupedText _).cons <|
        (makesBalanced_spacedOperator h.1.1).cons
          ((makesBalanced_expressionText d right h.2).groupedText _).joined_last
  | .conditionalExpression test consequent alternate, h => by
      simp only [Node.isTidy, Bool.and_eq_true] at h
      have hmark : MakesBalanced (.ok " ? ".toList) := makesBalanced_of_all (by decide)
      have hcolon : MakesBalanced (.ok " : ".toList) := makesBalanced_of_all (by decide)
      have hinside := (makesBalanced_expressionText d test h.1.1).cons <|
        hmark.cons <| (makesBalanced_expressionText d consequent h.1.2).cons <|
          hcolon.cons (makesBalanced_expressionText d alternate h.2).joined_last
      exact hinside.joined_group
  | .arrayExpression elements, h =>
      (makesBalanced_of_all (by decide)).cons <|
        (makesBalanced_listText d elements h).cons
          (makesBalanced_of_all (by decide)).joined_last
  | .identifier name, h => makesBalanced_asText h
  | .literal value raw regex, h => by
      simp only [Node.isTidy, Bool.and_eq_true] at h
      exact makesBalanced_literalText d raw h.1 h.2
  | .numericLiteral value extra, h => makesBalanced_numericText h
  | .stringLiteral value extra, h => makesBalanced_stringText d h
  | .booleanLiteral value, _ => by
      refine makesBalanced_of_all ?_
      unfold booleanText
      split <;> decide
  | .nullLiteral, _ => makesBalanced_nullWord d

theorem makesBalanced_listText (d : Dialect) :
    ∀ v : Value, v.isTidyList = true → MakesBalanced (listText d v)
  | .list items, h => makesBalanced_separatedText d true items h
  | .node .., h | .scalar _, h | .record _, h => by cases h

theorem makesBalanced_separatedText (d : Dialect) (first : Bool) :
    ∀ items : List Value, areTidy items = true → MakesBalanced (separatedText d first items)
  | [], _ => makesBalanced_ok .nil
  | v :: rest, h => by
      simp only [areTidy, Bool.and_eq_true, Bool.or_eq_true] at h
      have hcomma : MakesBalanced (.ok ", ".toList) := makesBalanced_of_all (by decide)
      have hv : MakesBalanced
          (if v.isPresent then expressionText d v else .ok d.nullWord.toList) := by
        rcases h.1 with hn | ht
        · simp only [Value.isPresent, hn]
          exact makesBalanced_nullWord d
        · split
          · exact makesBalanced_expressionText d v ht
          · exact makesBalanced_nullWord d
      exact (hcomma.textIf _).cons <| hv.cons
        (makesBalanced_separatedText d false rest h.2).joined_last

end

/-- **The scanners end where an expression ends.** A tidy expression has a Ruby text. With a closing
parenthesis and anything behind it, the scan for the closing parenthesis stops at the end of the
text; and the text in parentheses is unwrapped to the text. -/
theorem scanners_end_at_expression (v : Value) (h : v.isTidy = true) :
    ∃ text, v.generate .ruby = .ok text ∧
      (∀ rest, closingParen? (text ++ ')' :: rest) 0 = some text.length) ∧
      unwrap? ('(' :: (text ++ [')'])) = some text := by
  obtain ⟨text, ht, hb⟩ := makesBalanced_expressionText .ruby v h
  refine ⟨text, ?_, closingParen?_of_balanced hb, unwrap?_of_balanced hb⟩
  rw [generate_expression .ruby (v.isExpression_of_isTidy h), ht]

/-- A choice between a call and a list with a hole. The texts in the call hold parentheses, quotes,
a backslash, a line feed and an interpolation. -/
def quotedChoice : Value :=
  let leaf (n : Node) : Value := .node none n
  let name (s : String) : Value := leaf (.identifier (.str s))
  leaf (.conditionalExpression (name "a")
    (leaf (.callExpression (name "f") (.list [leaf (.literal (.str "(\\\"\n#\x7bx") .null .null),
      leaf (.stringLiteral .null (.record [("raw", .str "'it\\'s ('")]))])))
    (leaf (.arrayExpression (.list [leaf (.numericLiteral (.scalar (.int (-2))) .null), .null]))))

/-- The text of the choice. -/
def quotedText : List Char :=
  "(a ? f(\"(\\\\\\\"\\n\\#\x7bx\", 'it\\'s (') : [-2, nil])".toList

theorem scanners_end_at_quotedChoice : quotedChoice.isTidy = true ∧
    quotedChoice.generate .ruby = .ok quotedText ∧
      (∀ rest, closingParen? (quotedText ++ ')' :: rest) 0 = some quotedText.length) ∧
      unwrap? ('(' :: (quotedText ++ [')'])) = some quotedText := by
  have htidy : quotedChoice.isTidy = true := by decide +kernel
  have htext : quotedChoice.generate .ruby = .ok quotedText :=
    toOption_eq_some_iff.mp (by decide +kernel)
  obtain ⟨text, hg, hclose, hunwrap⟩ := scanners_end_at_expression quotedChoice htidy
  obtain rfl : text = quotedText := Except.ok.inj (hg.symm.trans htext)
  exact ⟨htidy, htext, hclose, hunwrap⟩

end EstreeEmitter
