import EstreeEmitter.Proofs.Formula.BinaryTree
import EstreeEmitter.Proofs.Passes.SumText

set_option autoImplicit false

/-! # Printed sums are turned into texts from left to right

A tree of additions that is nested to the left, over names, integers and quoted texts, is written as
the sum of its operands (`writesSum_of_summands?`). Printed, it becomes a text from its first quoted
operand on, as in the source language (`stringifyPuts_generate`). -/

namespace EstreeEmitter

open Passes Text

/-! ## Operands in trees -/

theorem isQuiet_of_isDigit {c : Char} (h : c.isDigit = true) : isQuiet c = true := by
  have hrange := h
  simp only [Char.isDigit, Bool.and_eq_true, decide_eq_true_eq, ge_iff_le] at hrange
  have hsmall : c.toNat < 0x80 := by
    have := UInt32.le_iff_toNat_le.mp hrange.2
    exact Nat.lt_of_le_of_lt this (by decide)
  rw [isQuiet, isWord, if_pos hsmall, isAsciiWord, Char.isAlphanum, h]
  simp

theorem isQuietText_decimalText (n : Int) : isQuietText (decimalText n) = true := by
  have hdigits (m : Nat) : (Nat.toDigits 10 m).all isQuiet = true := by
    rw [List.all_eq_true]
    intro c hc
    exact isQuiet_of_isDigit (Nat.isDigit_of_mem_toDigits (by omega) (by omega) hc)
  by_cases h : 0 ≤ n
  · simp [decimalText_of_nonneg h, isQuietText, hdigits, Nat.toDigits_ne_nil]
  · have hminus : isQuiet '-' = true := by decide
    simp [decimalText_of_neg (Int.not_le.mp h), isQuietText, hdigits, hminus]

theorem isQuotedLine_rawString {raw : List Char} (h : isQuotedToken raw = true) :
    IsQuotedLine (Dialect.ruby.rawString raw) := by
  unfold Dialect.rawString
  split
  · exact (isQuotedLine_of_isQuotedToken h).escapeInterpolation
  · exact isQuotedLine_of_isQuotedToken h

namespace Summand

/-- A name or a number, if the text could be one. -/
def ofWord? (cs : List Char) : Option Summand :=
  if h : isQuietText cs = true then some (.number cs h) else none

/-- A text that is given with its quotes, if they are well-formed. -/
def ofRaw? (raw : List Char) : Option Summand :=
  if h : isQuotedToken raw = true then
    some (.quoted (Dialect.ruby.rawString raw) (isQuotedLine_rawString h))
  else none

/-- An integer, in decimal digits. -/
def ofInt? : Value → Option Summand
  | .scalar (.int n) => some (.number (decimalText n) (isQuietText_decimalText n))
  | _ => none

/-- Any text, in double quotes. -/
def ofText? : Value → Option Summand
  | .scalar (.str s) => some (.quoted (escapeInterpolation (Json.quote false s.toList))
      (isQuotedLine_quote s.toList).escapeInterpolation)
  | _ => none

end Summand

/-- The operand that a construct is: a name, an integer or a quoted text. -/
def Node.summand? : Node → Option Summand
  | .identifier (.scalar (.str s)) => Summand.ofWord? s.toList
  | .literal value _ (.scalar .null) => (Summand.ofInt? value).or (Summand.ofText? value)
  | .numericLiteral value extra =>
    match rawText? extra with
    | .ok (some raw) => Summand.ofWord? raw
    | .ok none => Summand.ofInt? value
    | .error _ => none
  | .stringLiteral value extra =>
    match rawText? extra with
    | .ok (some raw) => Summand.ofRaw? raw
    | .ok none => Summand.ofText? value
    | .error _ => none
  | _ => none

/-- The operand that an expression is. -/
def Value.summand? : Value → Option Summand
  | .node _ n => n.summand?
  | _ => none

mutual

/-- The operands of a sum that is nested to the left. -/
def Value.summands? : Value → Option (List Summand)
  | .node _ n => n.summands?
  | _ => none

/-- The operands of a construct as a sum. -/
def Node.summands? : Node → Option (List Summand)
  | .binaryExpression operator left right =>
    if operator.isText "+" then do return (← left.summands?) ++ [← right.summand?] else none
  | n => n.summand?.map ([·])

end

namespace Summand

theorem text_of_ofWord? {cs : List Char} {t : Summand} (h : ofWord? cs = some t) : t.text = cs := by
  unfold ofWord? at h
  split at h
  · cases h
    rfl
  · cases h

theorem text_of_ofRaw? {raw : List Char} {t : Summand} (h : ofRaw? raw = some t) :
    t.text = Dialect.ruby.rawString raw := by
  unfold ofRaw? at h
  split at h
  · cases h
    rfl
  · cases h

theorem jsonText_of_ofInt? {v : Value} {t : Summand} (h : ofInt? v = some t) (ascii : Bool) :
    v.jsonText ascii = .ok t.text := by
  unfold ofInt? at h
  split at h
  · cases h
    rfl
  · cases h

theorem quote_of_ofText? {v : Value} {t : Summand} (h : ofText? v = some t) :
    Dialect.ruby.quote v = .ok t.text := by
  unfold ofText? at h
  split at h
  · cases h
    rfl
  · cases h

/-- A literal that does not tell its kind is written by its value. -/
theorem literalText_of_value {v : Value} {t : Summand}
    (h : (ofInt? v).or (ofText? v) = some t) (raw : Value) :
    Dialect.ruby.literalText v raw .null = .ok t.text := by
  rcases Option.or_eq_some_iff.mp h with h | ⟨-, h⟩
  · unfold ofInt? at h
    split at h
    · cases h
      rfl
    · cases h
  · unfold ofText? at h
    split at h
    · cases h
      rfl
    · cases h

end Summand

/-- An operand is written as its text. -/
theorem constructText_of_summand? {n : Node} {t : Summand} (h : n.summand? = some t)
    (pos : Option Pos) : constructText .ruby pos n = .ok t.text := by
  unfold Node.summand? at h
  split at h
  · rw [Summand.text_of_ofWord? h]
    rfl
  · rename_i value raw
    exact Summand.literalText_of_value h raw
  · rename_i value extra
    show numericText value extra = _
    split at h
    · rename_i raw hr
      rw [numericText, rawOr, hr, Summand.text_of_ofWord? h]
      rfl
    · rename_i hr
      rw [numericText, rawOr, hr]
      exact Summand.jsonText_of_ofInt? h true
    · cases h
  · rename_i value extra
    show Dialect.ruby.stringText value extra = _
    split at h
    · rename_i raw hr
      rw [Dialect.stringText, hr, Summand.text_of_ofRaw? h]
      rfl
    · rename_i hr
      rw [Dialect.stringText, hr]
      exact Summand.quote_of_ofText? h
    · cases h
  · cases h

/-! ## Sums in trees -/

/-- The value is an expression with the text of the sum, and an operation if there is more than one
operand. -/
structure Value.WritesSum (v : Value) (ts : List Summand) : Prop where
  isExpression_eq : v.isExpression = true
  ne_nil : ts ≠ []
  isBinary_eq : v.isBinary = decide (1 < ts.length)
  expressionText_eq : expressionText .ruby v = .ok (sumText ts)

theorem writesSum_operand {n : Node} {t : Summand} (h : n.summand? = some t) (pos : Option Pos) :
    (Value.node pos n).WritesSum [t] := by
  have ht := constructText_of_summand? h pos
  cases n with
  | identifier | literal | numericLiteral | stringLiteral =>
    exact ⟨rfl, List.cons_ne_nil _ _, rfl, ht⟩
  | _ => cases h

theorem writesSum_of_summand? {v : Value} {t : Summand} (h : v.summand? = some t) :
    v.WritesSum [t] := by
  cases v with
  | node pos n => exact writesSum_operand h pos
  | _ => cases h

theorem enclosed_sumText (ts : List Summand) :
    enclosed (decide (1 < ts.length)) (sumText ts) = groupedSum ts := by
  by_cases h : 1 < ts.length
  · rw [groupedSum_of_lt h]
    simp [enclosed, h]
  · rw [groupedSum, if_pos (by omega)]
    simp [enclosed, h]

/-- One more operand at the end of a sum. -/
theorem Value.WritesSum.add {operator left right : Value} {ts : List Summand} {t : Summand}
    (ho : operator.isText "+" = true) (hl : left.WritesSum ts) (hr : right.WritesSum [t])
    (pos : Option Pos) :
    (Value.node pos (.binaryExpression operator left right)).WritesSum (ts ++ [t]) := by
  have hlen := List.length_pos_iff.mpr hl.ne_nil
  have hword : operator.word? = some ['+'] := by
    unfold Value.isText at ho
    split at ho
    · rw [eq_of_beq ho]
      rfl
    · cases ho
  have hright : enclosed (decide (1 < [t].length)) (sumText [t]) = t.text := rfl
  refine ⟨Bool.and_eq_true_iff.mpr ⟨hl.isExpression_eq, hr.isExpression_eq⟩, by simp, ?_, ?_⟩
  · simp [Value.isBinary, hlen]
  · simp only [expressionText, constructText, spacedOperator_of_word? hword, hl.isBinary_eq,
      hr.isBinary_eq, hl.expressionText_eq, hr.expressionText_eq, groupedText_ok, joined_operation,
      enclosed_sumText, sumText_concat hl.ne_nil, groupedSum_singleton]
    simp [plus]

mutual

/-- A tree of additions is written as the sum of its operands. -/
theorem writesSum_of_summands? : ∀ (v : Value) {ts : List Summand},
    v.summands? = some ts → v.WritesSum ts
  | .node pos n, _, h => writesSum_of_nodeSummands? pos n h
  | .scalar _, _, h | .list _, _, h | .record _, _, h => by cases h

theorem writesSum_of_nodeSummands? (pos : Option Pos) (n : Node) {ts : List Summand}
    (h : n.summands? = some ts) : (Value.node pos n).WritesSum ts := by
  cases n with
  | binaryExpression operator left right =>
    simp only [Node.summands?] at h
    split at h
    · next ho =>
        obtain ⟨us, hl, t, hr, rfl⟩ := by simpa [Option.bind_eq_some_iff] using h
        exact (writesSum_of_summands? left hl).add ho (writesSum_of_summand? hr) pos
    · cases h
  | _ =>
    -- Every other construct is an operand or no sum.
    simp only [Node.summands?] at h
    obtain ⟨t, ht, rfl⟩ := Option.map_eq_some_iff.mp h
    exact writesSum_operand ht pos

end

/-- **Printed sums are turned into texts from left to right.** A tree of additions that is nested to
the left, over names, integers and quoted texts, has the text of the sum of its operands. If one of
them is quoted and the sum is printed, then what stands before the first quoted operand is kept as
one sum and turned into a text, quoted operands stay as they are, and every other operand behind the
first quoted one is turned into a text by itself. -/
theorem stringifyPuts_generate {v : Value} {ts : List Summand} (hv : v.summands? = some ts)
    (ht : ts.any Summand.isText = true) :
    v.generate .ruby = .ok (sumText ts) ∧
      stringifyPuts (putsLine (sumText ts)) = putsLine (joinWith plus (printedOperands ts)) := by
  have hw := writesSum_of_summands? v hv
  refine ⟨?_, stringifyPuts_sumText ht⟩
  rw [generate_expression .ruby hw.isExpression_eq, hw.expressionText_eq]

/-- The sum `a + 1 + ") + (" + b + 'it\'s' + -2`. -/
def mixedSum : Value :=
  let leaf (n : Node) : Value := .node none n
  let add (left right : Value) : Value := leaf (.binaryExpression (.str "+") left right)
  add (add (add (add (add (leaf (.identifier (.str "a"))) (leaf (.literal (.scalar (.int 1)) .null
    .null))) (leaf (.literal (.str "\") + (") .null .null))) (leaf (.identifier (.str "b"))))
    (leaf (.stringLiteral (.str "it's") (.record [("raw", .str "'it\\'s'")]))))
    (leaf (.numericLiteral (.scalar (.int (-2))) .null))

theorem stringifyPuts_mixedSum :
    ∃ ts, mixedSum.summands? = some ts ∧ ts.any Summand.isText = true ∧
      mixedSum.generate .ruby = .ok (sumText ts) ∧
      stringifyPuts (putsLine (sumText ts)) = putsLine (joinWith plus (printedOperands ts)) := by
  obtain ⟨ts, hv⟩ : ∃ ts, mixedSum.summands? = some ts :=
    Option.isSome_iff_exists.mp (by decide +kernel)
  have htext : mixedSum.summands?.all (·.any Summand.isText) = true := by decide +kernel
  rw [hv, Option.all_some] at htext
  exact ⟨ts, hv, htext, stringifyPuts_generate hv htext⟩

example : stringifyPuts "puts((((a + 1) + \") + (\") + b) + 'it\\'s')\n".toList =
    "puts(((a + 1)).to_s + \") + (\" + (b).to_s + 'it\\'s')\n".toList := by
  decide +kernel

end EstreeEmitter
