import EstreeEmitter.Proofs.Emit.Mirrored
import EstreeEmitter.Proofs.Passes.StepOperands
import EstreeEmitter.Proofs.Printer.Arguments
import EstreeEmitter.Proofs.Printer.Program

set_option autoImplicit false

/-! # Increments in trees

An increment in a tree has an operand that is a name or members of it with dots between, perhaps
with a computed index of names, numbers, calls, members and arrays (`Value.step?`). Its text is that
of the operand with the doubled sign before or behind it, and the assignment that stands for it has
the text that the edit writes (`Value.eq_of_step?`). So where an increment stands on a line of its
own, writing the assignment in its place gives the edited line (`twins_line`, `twins_returned`). -/

namespace EstreeEmitter

open Text Passes Emission

/-! ## Indexes -/

/-- A text that is not empty and can stand as an index. -/
def isIndexToken (cs : List Char) : Bool := !cs.isEmpty && decide (IsIndexText cs)

mutual

/-- The value is an expression of names, numbers, calls, members and arrays. -/
def Value.isIndex : Value → Bool
  | .node _ n => n.isIndex
  | _ => false

/-- The construct is an expression of names, numbers, calls, members and arrays. -/
def Node.isIndex : Node → Bool
  | .identifier name => isMade isIndexToken name.asText
  | .literal value raw regex => isMade isIndexToken (Dialect.ruby.literalText value raw regex)
  | .numericLiteral value extra => isMade isIndexToken (numericText value extra)
  | .callExpression callee arguments => callee.isIndex && arguments.isIndexList
  | .memberExpression object property _ => object.isIndex && property.isIndex
  | .arrayExpression elements => elements.isIndexList
  | _ => false

/-- The value is a list of such expressions, in which places may be left out. -/
def Value.isIndexList : Value → Bool
  | .list items => areIndexes items
  | _ => false

/-- All entries are such expressions or absent. -/
def areIndexes : List Value → Bool
  | [] => true
  | v :: rest => (v.isNull || v.isIndex) && areIndexes rest

end

mutual

theorem Value.isExpression_of_isIndex : ∀ v : Value, v.isIndex = true → v.isExpression = true
  | .node _ n, h => n.isExpression_of_isIndex h
  | .scalar _, h | .list _, h | .record _, h => by cases h

theorem Node.isExpression_of_isIndex : ∀ n : Node, n.isIndex = true → n.isExpression = true
  | .identifier _, _ | .literal .., _ | .numericLiteral .., _ => rfl
  | .callExpression callee arguments, h => by
      simp only [Node.isIndex, Bool.and_eq_true] at h
      simp only [Node.isExpression, callee.isExpression_of_isIndex h.1,
        arguments.isExpressionList_of_isIndexList h.2, Bool.and_self]
  | .memberExpression object property computed, h => by
      simp only [Node.isIndex, Bool.and_eq_true] at h
      simp only [Node.isExpression, object.isExpression_of_isIndex h.1,
        property.isExpression_of_isIndex h.2, Bool.and_self]
  | .arrayExpression elements, h => elements.isExpressionList_of_isIndexList h

theorem Value.isExpressionList_of_isIndexList :
    ∀ v : Value, v.isIndexList = true → v.isExpressionList = true
  | .list items, h => areExpressions_of_areIndexes items h
  | .node .., h | .scalar _, h | .record _, h => by cases h

theorem areExpressions_of_areIndexes :
    ∀ items : List Value, areIndexes items = true → areExpressions items = true
  | [], _ => rfl
  | v :: rest, h => by
      simp only [areIndexes, Bool.and_eq_true, Bool.or_eq_true] at h
      simp only [areExpressions, Bool.and_eq_true, Bool.or_eq_true]
      exact ⟨h.1.imp_right v.isExpression_of_isIndex, areExpressions_of_areIndexes rest h.2⟩

end

/-- The text is not empty and can stand as an index. -/
def IsIndexed (cs : List Char) : Prop := cs ≠ [] ∧ IsIndexText cs

theorem makesIndexed_of_isMade {r : Except Fault (List Char)} (h : isMade isIndexToken r = true) :
    Makes IsIndexed r := by
  refine (makes_of_isMade h).imp fun cs hcs => ?_
  rw [isIndexToken, Bool.and_eq_true] at hcs
  exact ⟨by simpa using hcs.1, of_decide_eq_true hcs.2⟩

/-- A text behind which an index text goes on; the first one starts it. -/
def GoesOn (first : Bool) (cs : List Char) : Prop :=
  ∀ front, IsIndexText front → (first = true → front = []) → IsIndexText (front ++ cs)

mutual

/-- The text of such an expression can stand as an index. -/
theorem makesIndexed_expressionText :
    ∀ v : Value, v.isIndex = true → Makes IsIndexed (expressionText .ruby v)
  | .node pos n, h => makesIndexed_constructText pos n h
  | .scalar _, h | .list _, h | .record _, h => by cases h

theorem makesIndexed_constructText (pos : Option Pos) :
    ∀ n : Node, n.isIndex = true → Makes IsIndexed (constructText .ruby pos n)
  | .identifier name, h => makesIndexed_of_isMade h
  | .literal value raw regex, h => makesIndexed_of_isMade h
  | .numericLiteral value extra, h => makesIndexed_of_isMade h
  | .callExpression callee arguments, h => by
      simp only [Node.isIndex, Bool.and_eq_true] at h
      obtain ⟨cs, hc, -, hcs⟩ := makesIndexed_expressionText callee h.1
      obtain ⟨inner, hl, hi⟩ := makesIndexText_listText arguments h.2
      refine ⟨cs ++ '(' :: (inner ++ [')']), ?_, by simp, hcs.append_call hi⟩
      simp only [constructText, hc, hl]
      rfl
  | .memberExpression object property computed, h => by
      simp only [Node.isIndex, Bool.and_eq_true] at h
      obtain ⟨cs, ho, -, hcs⟩ := makesIndexed_expressionText object h.1
      obtain ⟨ds, hp, -, hds⟩ := makesIndexed_expressionText property h.2
      simp only [constructText, ho, hp]
      split
      · exact ⟨cs ++ '[' :: (ds ++ [']']), rfl, by simp, hcs.append_indexed hds⟩
      · refine ⟨cs ++ '.' :: ds, ?_, by simp, hcs.append_cons (by decide) hds⟩
        exact joined_ok_cons cs (joined_ok_cons ['.'] (joined_singleton _))
  | .arrayExpression elements, h => by
      obtain ⟨inner, hl, hi⟩ := makesIndexText_listText elements h
      have hnil : IsIndexText [] := by decide
      refine ⟨'[' :: (inner ++ [']']), ?_, by simp, hnil.append_indexed hi⟩
      simp only [constructText, hl]
      rfl

theorem makesIndexText_listText :
    ∀ v : Value, v.isIndexList = true → Makes IsIndexText (listText .ruby v)
  | .list items, h =>
      (makesGoesOn_separatedText true items h).imp fun _ hg =>
        hg [] (by decide) fun _ => rfl
  | .node .., h | .scalar _, h | .record _, h => by cases h

theorem makesGoesOn_separatedText (first : Bool) :
    ∀ items : List Value, areIndexes items = true →
      Makes (GoesOn first) (separatedText .ruby first items)
  | [], _ => ⟨[], rfl, fun front hf _ => by rwa [List.append_nil]⟩
  | v :: rest, h => by
      simp only [areIndexes, Bool.and_eq_true, Bool.or_eq_true] at h
      have hnull : Makes IsIndexText (.ok Dialect.ruby.nullWord.toList) := ⟨_, rfl, by decide⟩
      have hv : Makes IsIndexText
          (if v.isPresent then expressionText .ruby v else .ok Dialect.ruby.nullWord.toList) := by
        rcases h.1 with hn | hp
        · simp only [Value.isPresent, hn]
          exact hnull
        · split
          · exact (makesIndexed_expressionText v hp).imp fun _ h => h.2
          · exact hnull
      obtain ⟨cs, hcs, hindex⟩ := hv
      obtain ⟨ds, hds, hgo⟩ := makesGoesOn_separatedText false rest h.2
      simp only [separatedText, hcs, hds]
      have htexts : joined [.ok cs, .ok ds] = .ok (cs ++ ds) :=
        joined_ok_cons cs (joined_singleton _)
      cases first with
      | true =>
          refine ⟨cs ++ ds, joined_ok_cons [] htexts, ?_⟩
          intro front _ hfirst
          rw [hfirst rfl, List.nil_append]
          exact hgo cs hindex nofun
      | false =>
          refine ⟨", ".toList ++ (cs ++ ds), joined_ok_cons _ htexts, ?_⟩
          intro front hfront _
          -- the comma keeps what stands before it apart from the entry
          have hspaced : IsIndexText (front ++ ',' :: ' ' :: cs) :=
            hfront.append_cons (by decide) <|
              (by decide : IsIndexText []).append_cons (by decide) hindex
          have hall := hgo _ hspaced nofun
          rwa [List.append_assoc] at hall

end

/-! ## Operands -/

/-- The text that a value is, if it can be a name in a script. -/
def Value.nameText? : Value → Option (List Char)
  | .scalar (.str s) =>
    if s.toList ≠ [] ∧ s.toList.all isNameChar = true then some s.toList else none
  | _ => none

/-- The name of a property. -/
def Value.property? : Value → Option (List Char)
  | .node _ (.identifier name) => name.nameText?
  | _ => none

mutual

/-- The text of a name, or of members of it with dots between. -/
def Value.chain? : Value → Option (List Char)
  | .node _ n => n.chain?
  | _ => none

/-- The text of a construct that is a name, or members of one with dots between. -/
def Node.chain? : Node → Option (List Char)
  | .identifier name => name.nameText?
  | .memberExpression object property computed =>
    if computed.isTruthy then none
    else do return (← object.chain?) ++ '.' :: (← property.property?)
  | _ => none

end

/-- The operand that a member with a computed index is. -/
def Value.indexed? : Value → Option StepOperand
  | .node _ (.memberExpression object property computed) =>
    if computed.isTruthy && property.isIndex then
      object.chain?.map fun chain => ⟨chain, (expressionText .ruby property).toOption⟩
    else none
  | _ => none

/-- The operand of an increment that the value is. -/
def Value.stepOperand? (v : Value) : Option StepOperand :=
  (v.chain?.map fun chain => ⟨chain, none⟩).or v.indexed?

theorem Value.eq_of_nameText? {v : Value} {cs : List Char} (h : v.nameText? = some cs) :
    v.asText = .ok cs ∧ cs ≠ [] ∧ cs.all isNameChar = true := by
  unfold Value.nameText? at h
  split at h
  · split at h
    · rename_i hs
      cases h
      exact ⟨rfl, hs⟩
    · cases h
  · cases h

theorem Value.eq_of_property? {v : Value} {cs : List Char} (h : v.property? = some cs) :
    v.isExpression = true ∧ expressionText .ruby v = .ok cs ∧ cs ≠ [] ∧
      cs.all isNameChar = true := by
  unfold Value.property? at h
  split at h
  · exact ⟨rfl, eq_of_nameText? h⟩
  · cases h

mutual

theorem Value.eq_of_chain? : ∀ (v : Value) {cs : List Char}, v.chain? = some cs →
    v.isExpression = true ∧ expressionText .ruby v = .ok cs ∧ IsDotted cs
  | .node pos n, _, h => n.eq_of_chain? pos h
  | .scalar _, _, h | .list _, _, h | .record _, _, h => by cases h

theorem Node.eq_of_chain? (pos : Option Pos) : ∀ (n : Node) {cs : List Char}, n.chain? = some cs →
    n.isExpression = true ∧ constructText .ruby pos n = .ok cs ∧ IsDotted cs
  | .identifier name, _, h =>
      have hn := Value.eq_of_nameText? h
      ⟨rfl, hn.1, .name hn.2.1 hn.2.2⟩
  | .memberExpression object property computed, _, h => by
      simp only [Node.chain?, Option.bind_eq_bind, Option.pure_def] at h
      split at h
      · cases h
      · rename_i hcomputed
        obtain ⟨cs, hc, h⟩ := Option.bind_eq_some_iff.mp h
        obtain ⟨ds, hd, h⟩ := Option.bind_eq_some_iff.mp h
        cases h
        obtain ⟨hobject, htext, hdotted⟩ := object.eq_of_chain? hc
        obtain ⟨hproperty, hname, hne, hall⟩ := Value.eq_of_property? hd
        refine ⟨?_, ?_, hdotted.dot hne hall⟩
        · rw [Node.isExpression, hobject, hproperty]
          rfl
        · simp only [constructText, if_neg hcomputed, htext, hname]
          exact joined_ok_cons cs (joined_ok_cons ['.'] (joined_singleton _))

end

theorem Value.eq_of_indexed? {v : Value} {x : StepOperand} (h : v.indexed? = some x) :
    v.isExpression = true ∧ expressionText .ruby v = .ok x.text ∧ x.Fits := by
  unfold Value.indexed? at h
  split at h
  · rename_i pos object property computed
    split at h
    · rename_i hboth
      obtain ⟨hcomputed, hindex⟩ := Bool.and_eq_true_iff.mp hboth
      obtain ⟨cs, hc, rfl⟩ := Option.map_eq_some_iff.mp h
      obtain ⟨hobject, htext, hdotted⟩ := object.eq_of_chain? hc
      obtain ⟨t, ht, hne, hfits⟩ := makesIndexed_expressionText property hindex
      refine ⟨?_, ?_, hdotted, ?_⟩
      · rw [Value.isExpression, Node.isExpression, hobject,
          property.isExpression_of_isIndex hindex]
        rfl
      · simp only [expressionText, constructText, if_pos hcomputed, htext, ht]
        exact joined_ok_cons cs (joined_ok_cons ['['] (joined_ok_cons t (joined_singleton _)))
      · rintro t' ht'
        rw [ht] at ht'
        cases ht'
        exact ⟨hne, hfits⟩
    · cases h
  · cases h

/-- The tree of an operand has its text. -/
theorem Value.eq_of_stepOperand? {v : Value} {x : StepOperand} (h : v.stepOperand? = some x) :
    v.isExpression = true ∧ expressionText .ruby v = .ok x.text ∧ x.Fits := by
  rcases Option.or_eq_some_iff.mp h with hchain | ⟨-, hindexed⟩
  · obtain ⟨cs, hc, rfl⟩ := Option.map_eq_some_iff.mp hchain
    obtain ⟨hv, htext, hdotted⟩ := v.eq_of_chain? hc
    refine ⟨hv, ?_, hdotted, nofun⟩
    rw [htext, StepOperand.text, StepOperand.indexText, Option.elim_none, List.append_nil]
  · exact eq_of_indexed? hindexed

/-! ## Increments -/

/-- The sign that the operator has twice. -/
def stepSign? : Value → Option Char
  | .scalar (.str s) => if s = "++" then some '+' else if s = "--" then some '-' else none
  | _ => none

/-- The increment that the value is. -/
def Value.step? : Value → Option Step
  | .node _ (.updateExpression operator argument isPrefix) => do
    return ⟨← stepSign? operator, isPrefix.isTruthy, ← argument.stepOperand?⟩
  | _ => none

/-- The number one. -/
def Value.one : Value := .node none (.numericLiteral (.scalar (.int 1)) .null)

/-- The increment as an assignment. -/
def Value.stepAssignment (s : Step) : Value → Value
  | .node pos (.updateExpression _ argument _) =>
    .node pos (.assignmentExpression (.str (String.ofList [s.sign, '='])) argument .one)
  | v => v

/-- The value with its increment written out, if it is one that the edit knows. -/
def Value.writtenStep (returning : Bool) (v : Value) : Value :=
  match v.step? with
  | some s => if s.isKnown returning then v.stepAssignment s else v
  | none => v

theorem eq_of_stepSign? {v : Value} {sign : Char} (h : stepSign? v = some sign) :
    IsSign sign ∧ v.asText = .ok [sign, sign] := by
  unfold stepSign? at h
  split at h
  · split at h
    · rename_i hs
      cases h
      subst hs
      exact ⟨.inl rfl, rfl⟩
    · split at h
      · rename_i hs
        cases h
        subst hs
        exact ⟨.inr rfl, rfl⟩
      · cases h
  · cases h

/-- The tree of an increment has its text, and the assignment has the text after the edit. -/
theorem Value.eq_of_step? {v : Value} {s : Step} (h : v.step? = some s) :
    s.Fits ∧ v.isExpression = true ∧ expressionText .ruby v = .ok s.text ∧
      (v.stepAssignment s).isExpression = true ∧
      expressionText .ruby (v.stepAssignment s) = .ok (s.operand.text ++ stepText s.sign) := by
  unfold Value.step? at h
  split at h
  · rename_i pos operator argument isPrefix
    simp only [Option.bind_eq_bind, Option.pure_def] at h
    obtain ⟨sign, hs, h⟩ := Option.bind_eq_some_iff.mp h
    obtain ⟨x, hx, h⟩ := Option.bind_eq_some_iff.mp h
    cases h
    obtain ⟨hsign, hoperator⟩ := eq_of_stepSign? hs
    obtain ⟨hargument, htext, hfits⟩ := Value.eq_of_stepOperand? hx
    refine ⟨⟨hsign, hfits⟩, hargument, ?_, ?_, ?_⟩
    · simp only [expressionText, constructText, htext, hoperator, Step.text]
      cases isPrefix.isTruthy with
      | true =>
          have hend := joined_ok_cons x.text (joined_singleton (.ok []))
          rw [List.append_nil] at hend
          exact joined_ok_cons [sign, sign] hend
      | false => exact joined_ok_cons [] (joined_ok_cons x.text (joined_singleton _))
    · rw [Value.stepAssignment, Value.isExpression, Node.isExpression, hargument]
      rfl
    · have hone : expressionText .ruby Value.one = .ok ['1'] := by decide +kernel
      have hspaced : spacedOperator (.str (String.ofList [sign, '='])) =
          .ok [' ', sign, '=', ' '] := by
        simp [spacedOperator, Value.str, Value.asText, bind, Except.bind, pure, Except.pure]
      simp only [Value.stepAssignment, expressionText, constructText, htext, hspaced, hone]
      exact joined_ok_cons x.text (joined_ok_cons _ (joined_singleton _))
  · cases h

/-! ## Lines -/

/-- Lines with one increment at most, written out, and whether there is none left. -/
def stepView : LineView := ⟨increments, fun line => decide (Stepless line), SteppedLine⟩

theorem isStill_lineAt {text : List Char} (h : IsStill text) (level : Nat) :
    IsStill (lineAt level text) :=
  isStill_of_isInfix (trimRight_isPrefix _).isInfix
    (isStill_append_of_gaps (all_margin (by decide) level) h)

theorem stepView_edit (line : List Char) : stepView.edit line = increments line := rfl

theorem stepView_calm (line : List Char) : stepView.calm line = decide (Stepless line) := rfl

theorem edits_of_isStill {text : List Char} (h : IsStill text) : stepView.Edits true text text where
  blank_eq := rfl
  edit_eq level := by rw [stepView_edit, increments_of_isStill (isStill_lineAt h level)]
  calm_eq level := by rw [stepView_calm, decide_eq_true (isStill_lineAt h level).stepless]
  admits level := .still (isStill_lineAt h level)

theorem keepsFrames_stepView : stepView.KeepsFrames where
  empty := edits_of_isStill (by decide)
  otherwise := edits_of_isStill (by decide)
  close := edits_of_isStill (by decide)

theorem isBlankText_append_concat (cs : List Char) {front : List Char} {c : Char}
    (hc : isBlank c = false) : isBlankText (cs ++ (front ++ [c])) = false := by
  have hone : isBlankText [c] = false := by simp [isBlankText, hc]
  rw [isBlankText_append, isBlankText_append, hone, Bool.and_false, Bool.and_false]

theorem trimRight_append_concat (cs : List Char) {front : List Char} {c : Char}
    (hc : isBlank c = false) : trimRight (cs ++ (front ++ [c])) = cs ++ (front ++ [c]) := by
  have hone : trimRight [c] = [c] := by simp [trimRight, hc]
  have hblank : isBlankText [c] = false := by simp [isBlankText, hc]
  rw [← List.append_assoc, trimRight_append_of_not_blank hblank, hone]

/-- A line that is a step, or hands one back. -/
theorem edits_step {s : Step} (h : s.Fits) (returning : Bool) :
    stepView.Edits (s.isKnown returning) (returnWord returning ++ s.text)
      (returnWord returning ++ s.editedText returning) := by
  obtain ⟨front, c, htext, hc⟩ := h.eq_concat
  obtain ⟨front', c', htext', hc'⟩ := h.editedText_eq_concat returning
  -- neither text ends in a blank, so nothing is cut off at the end of the line
  have hline : ∀ level, lineAt level (returnWord returning ++ s.text) =
      stepMargin returning level ++ s.text := by
    intro level
    rw [lineAt, ← List.append_assoc, htext, trimRight_append_concat _ hc]
    rfl
  have hline' : ∀ level, lineAt level (returnWord returning ++ s.editedText returning) =
      stepMargin returning level ++ s.editedText returning := by
    intro level
    rw [lineAt, ← List.append_assoc, htext', trimRight_append_concat _ hc']
    rfl
  refine ⟨?_, ?_, ?_, ?_⟩
  · rw [htext, htext', isBlankText_append_concat _ hc, isBlankText_append_concat _ hc']
  · intro level
    rw [hline, hline', stepView_edit, h.increments_line returning level]
  · intro level
    rw [hline', stepView_calm, Bool.eq_iff_iff, decide_eq_true_iff]
    exact h.stepless_iff returning level
  · intro level
    rw [hline]
    exact .step h returning level

/-! ## Expressions on lines -/

/-- The text can be made and is still. -/
def isStillText (r : Except Fault (List Char)) : Bool := isMade (fun cs => decide (IsStill cs)) r

theorem edits_of_isStillText {r : Except Fault (List Char)} (h : isStillText r = true) :
    ∃ text, r = .ok text ∧ stepView.Edits true text text := by
  obtain ⟨text, hr, hstill⟩ := makes_of_isMade h
  exact ⟨text, hr, edits_of_isStill (of_decide_eq_true hstill)⟩

/-- The value is an expression without a doubled sign. -/
def Value.isStill (v : Value) : Bool := v.isExpression && isStillText (expressionText .ruby v)

/-- The value is an increment or has no doubled sign. -/
def Value.isStepLine (_returning : Bool) (v : Value) : Bool :=
  match v.step? with
  | some _ => true
  | none => v.isStill

/-- The value is an increment that the edit knows or has no doubled sign. -/
def Value.isKnownLine (returning : Bool) (v : Value) : Bool :=
  match v.step? with
  | some s => s.isKnown returning
  | none => v.isStill

/-- The text of an expression on a line, before and after its increment is written out. -/
theorem Value.edits_line {v : Value} {returning : Bool} (h : v.isStepLine returning = true) :
    ∃ text text', v.isExpression = true ∧ expressionText .ruby v = .ok text ∧
      (v.writtenStep returning).isExpression = true ∧
      expressionText .ruby (v.writtenStep returning) = .ok text' ∧
      stepView.Edits (v.isKnownLine returning) (returnWord returning ++ text)
        (returnWord returning ++ text') := by
  cases hstep : v.step? with
  | none =>
      have hwritten : v.writtenStep returning = v := by rw [Value.writtenStep, hstep]
      have hstill : v.isStill = true := by rwa [Value.isStepLine, hstep] at h
      have hknown : v.isKnownLine returning = true := by rw [Value.isKnownLine, hstep, hstill]
      obtain ⟨hv, ht⟩ := Bool.and_eq_true_iff.mp hstill
      obtain ⟨text, hr, htext⟩ := makes_of_isMade ht
      have hgaps : (returnWord returning).all isGap = true := by cases returning <;> decide
      rw [hwritten, hknown]
      exact ⟨text, text, hv, hr, hv, hr,
        edits_of_isStill (isStill_append_of_gaps hgaps (of_decide_eq_true htext))⟩
  | some s =>
      obtain ⟨hfits, hv, hr, hv', hr'⟩ := Value.eq_of_step? hstep
      have hknown : v.isKnownLine returning = s.isKnown returning := by
        rw [Value.isKnownLine, hstep]
      have hedits := edits_step hfits returning
      refine ⟨s.text, s.editedText returning, hv, hr, ?_, ?_, hknown ▸ hedits⟩
      · rw [Value.writtenStep, hstep]
        dsimp only
        split
        · exact hv'
        · exact hv
      · rw [Value.writtenStep, hstep, Step.editedText]
        dsimp only
        split
        · exact hr'
        · exact hr

/-- An expression on a line of its own. -/
theorem twins_line {v : Value} (h : v.isStepLine false = true) :
    Twins stepView (v.isKnownLine false) (do emit .ruby v; newline)
      (do emit .ruby (v.writtenStep false); newline) := by
  obtain ⟨text, text', hv, hr, hv', hr', he⟩ := Value.edits_line h
  exact (writes_emit .ruby _ hv).twins (writes_emit .ruby _ hv') hr hr' he

theorem returnText_of_isExpression {v : Value} {text : List Char} (hv : v.isExpression = true)
    (hr : expressionText .ruby v = .ok text) : returnText v = .ok (returnWord true ++ text) := by
  rw [returnText, isPresent_of_isExpression hv, hr]
  exact joined_ok_cons _ (joined_singleton _)

/-- A line that hands an expression back. -/
theorem twins_returned {v : Value} (h : v.isStepLine true = true) :
    Twins stepView (v.isKnownLine true)
      (do add "return "; onlyIf v.isPresent (emit .ruby v); newline)
      (do
        add "return "
        onlyIf (v.writtenStep true).isPresent (emit .ruby (v.writtenStep true))
        newline) := by
  obtain ⟨text, text', hv, hr, hv', hr', he⟩ := Value.edits_line h
  have hwrites : ∀ {u : Value}, u.isExpression = true →
      Writes (do add "return "; onlyIf u.isPresent (emit .ruby u)) (returnText u) := fun hu =>
    (writes_add "return ").seq (writes_optional (Bool.or_eq_true_iff.mpr (.inr hu))).last
  have htwins := (hwrites hv).twins (hwrites hv') (returnText_of_isExpression hv hr)
    (returnText_of_isExpression hv' hr') he
  rw [seq_assoc, seq_assoc] at htwins
  exact htwins

/-- A line without a doubled sign stays. -/
theorem Emission.Writes.twins_still {e : Emission} {r : Except Fault (List Char)}
    (h : Writes e r) (hr : isStillText r = true) :
    Twins stepView true (do e; newline) (do e; newline) := by
  obtain ⟨text, ht, he⟩ := edits_of_isStillText hr
  exact h.twins h ht ht he

theorem twins_declarators : ∀ items : List Value,
    (items.all fun v => v.isDeclarator && isStillText (declaratorText v)) = true →
      Twins stepView true (emitItems .ruby true items) (emitItems .ruby true items)
  | [], _ => twins_pure
  | v :: rest, h => by
      simp only [List.all_cons, Bool.and_eq_true] at h
      have hv := (writes_declarator h.1.1).twins_still h.1.2
      have hall := hv.seq (twins_declarators rest (by simpa using h.2))
      simp only [seq_assoc, Bool.and_true] at hall
      exact hall

/-- The value is a list of declared variables without doubled signs. -/
def Value.isStillDeclaration : Value → Bool
  | .list items => items.all fun v => v.isDeclarator && isStillText (declaratorText v)
  | _ => false

theorem twins_declaration {v : Value} (h : v.isStillDeclaration = true) :
    Twins stepView true (emitEach .ruby true v) (emitEach .ruby true v) := by
  cases v with
  | list items => exact twins_declarators items h
  | _ => cases h

end EstreeEmitter
