import EstreeEmitter.Proofs.Formula.Text
import EstreeEmitter.Proofs.Passes.FloorText
import EstreeEmitter.Proofs.Printer.Tidy

set_option autoImplicit false

/-! # Floor calls in the texts of trees

The pass looks for floor calls in text, where a call of `Math.floor` cannot be told from a call of
something else whose text ends so. A calculation is edited call by call: the calls of whatever ends
in `Math.floor` become method calls, and all else stays (`Calculation.editedTo`). Each such call of
something else makes the text four characters shorter than it would be if only the calls of
`Math.floor` were edited (`Calculation.compares`), so the two texts differ as soon as there is
one. -/

namespace EstreeEmitter

open Passes

/-! ## Calculations -/

/-- The operators before an operand. -/
def unaryOperators : List String := ["-", "+", "!", "~", "typeof", "void", "delete"]

/-- The value is an expression of names, numbers, members, calls, operators and arrays. A name or an
operator has no quotes, parentheses or line feeds, and a property that is not computed is a name. -/
inductive Calculation : Value → Prop where
  | name {pos : Option Pos} {name : String} (hn : name.toList.all isOrdinary = true) :
    Calculation (.node pos (.identifier (.str name)))
  | integer {pos : Option Pos} {n : Int} {raw regex : Value} (hr : regex.isNull = true) :
    Calculation (.node pos (.literal (.scalar (.int n)) raw regex))
  | number {pos : Option Pos} {value extra : Value} (hn : isTidyNumber value extra = true) :
    Calculation (.node pos (.numericLiteral value extra))
  | property {pos pos' : Option Pos} {object computed : Value} {name : String}
    (ho : Calculation object) (hn : name.toList.all isOrdinary = true)
    (hc : computed.isTruthy = false) :
    Calculation
      (.node pos (.memberExpression object (.node pos' (.identifier (.str name))) computed))
  | item {pos : Option Pos} {object index computed : Value} (ho : Calculation object)
    (hi : Calculation index) (hc : computed.isTruthy = true) :
    Calculation (.node pos (.memberExpression object index computed))
  | call {pos : Option Pos} {callee : Value} {arguments : List Value} (hc : Calculation callee)
    (ha : ∀ v ∈ arguments, v.isPresent = true → Calculation v) :
    Calculation (.node pos (.callExpression callee (.list arguments)))
  | unary {pos : Option Pos} {operator : String} {argument isPrefix : Value}
    (ho : operator ∈ unaryOperators) (ha : Calculation argument) :
    Calculation (.node pos (.unaryExpression (.str operator) argument isPrefix))
  | binary {pos : Option Pos} {operator : String} {left right : Value}
    (ho : operator.toList.all isOrdinary = true) (hl : Calculation left) (hr : Calculation right) :
    Calculation (.node pos (.binaryExpression (.str operator) left right))
  | array {pos : Option Pos} {elements : List Value}
    (he : ∀ v ∈ elements, v.isPresent = true → Calculation v) :
    Calculation (.node pos (.arrayExpression (.list elements)))

theorem areExpressions_of_forall {items : List Value}
    (h : ∀ v ∈ items, v.isPresent = true → v.isExpression = true) :
    areExpressions items = true := by
  induction items with
  | nil => rfl
  | cons v items ih =>
      obtain ⟨hv, hitems⟩ := List.forall_mem_cons.mp h
      rw [areExpressions, ih hitems, Bool.and_true, Bool.or_eq_true]
      by_cases hn : v.isNull = true
      · exact .inl hn
      · exact .inr (hv (by simpa [Value.isPresent] using hn))

theorem Calculation.isExpression {v : Value} (h : Calculation v) : v.isExpression = true := by
  induction h with
  | name | integer | number => rfl
  | property ho hn hc ih => simp [Value.isExpression, Node.isExpression, ih]
  | item ho hi hc iho ihi => simp [Value.isExpression, Node.isExpression, iho, ihi]
  | call hc ha ihc iha =>
      simp [Value.isExpression, Node.isExpression, Value.isExpressionList, ihc,
        areExpressions_of_forall iha]
  | unary ho ha ih => exact ih
  | binary ho hl hr ihl ihr => simp [Value.isExpression, Node.isExpression, ihl, ihr]
  | array he ih => exact areExpressions_of_forall ih

/-! ## Texts with calls written in another way -/

/-- How a call is written, from what is called, its text and the text of the arguments. -/
abbrev CallWriter := Value → List Char → List Char → List Char

/-- The text if it could be made, else nothing. -/
def madeText (r : Except Fault (List Char)) : List Char := r.toOption.getD []

/-- The text of an operator beside its operand. -/
def unaryText (operator : Value) : List Char := madeText ((unaryOperator operator).bind id)

mutual

/-- The text of a calculation with calls written by `write`. -/
def Value.textWith (write : CallWriter) (d : Dialect) : Value → List Char
  | .node pos n => n.textWith write d pos
  | _ => []

/-- The text of a construct with calls written by `write`. -/
def Node.textWith (write : CallWriter) (d : Dialect) (pos : Option Pos) : Node → List Char
  | .callExpression callee arguments =>
    write callee (callee.textWith write d) (arguments.listTextWith write d)
  | .memberExpression object property computed =>
    object.textWith write d ++
      if computed.isTruthy then '[' :: (property.textWith write d ++ [']'])
      else '.' :: property.textWith write d
  | .unaryExpression operator argument isPrefix =>
    let operand := enclosed argument.isUnaryOrUpdate (argument.textWith write d)
    if isPrefix.isTruthy then unaryText operator ++ operand else operand ++ unaryText operator
  | .binaryExpression operator left right =>
    enclosed left.isBinary (left.textWith write d) ++
      (madeText (spacedOperator operator) ++ enclosed right.isBinary (right.textWith write d))
  | .arrayExpression elements => '[' :: (elements.listTextWith write d ++ [']'])
  | n => madeText (constructText d pos n)

/-- The text of a list field with calls written by `write`. -/
def Value.listTextWith (write : CallWriter) (d : Dialect) : Value → List Char
  | .list items => separatedWith write d true items
  | _ => []

/-- Texts with commas between them and calls written by `write`. -/
def separatedWith (write : CallWriter) (d : Dialect) (first : Bool) : List Value → List Char
  | [] => []
  | v :: rest =>
    (if first then [] else ", ".toList) ++
      ((if v.isPresent then v.textWith write d else d.nullWord.toList) ++
        separatedWith write d false rest)

end

/-- Calls as they are. -/
def asCall : CallWriter := fun _ text arguments => text ++ '(' :: (arguments ++ [')'])

/-- The value is the member `floor` of the name `Math`. -/
def Value.isMathFloor : Value → Bool
  | .node _ (.memberExpression (.node _ (.identifier (.scalar (.str object))))
      (.node _ (.identifier (.scalar (.str property)))) computed) =>
    object == "Math" && property == "floor" && !computed.isTruthy
  | _ => false

/-- Calls of `Math.floor` as method calls of the argument, and others as they are. -/
def asMethod : CallWriter := fun callee text arguments =>
  if callee.isMathFloor then '(' :: (arguments ++ ").floor".toList)
  else asCall callee text arguments

/-- The text of what is called ends in `Math.floor`. -/
def Value.endsInFloor (d : Dialect) (callee : Value) : Bool :=
  Passes.endsInFloor (madeText (expressionText d callee))

/-- Calls of what ends in `Math.floor` as method calls of the argument, behind the rest of what is
called, and others as they are. -/
def asTail (d : Dialect) : CallWriter := fun callee text arguments =>
  if callee.endsInFloor d then withoutFloor text ++ '(' :: (arguments ++ ").floor".toList)
  else asCall callee text arguments

/-! ## The text of a calculation -/

theorem literalText_int (d : Dialect) (n : Int) (raw : Value) {regex : Value}
    (h : regex.isNull = true) :
    d.literalText (.scalar (.int n)) raw regex = .ok (toString n).toList := by
  unfold Dialect.literalText
  rw [if_pos h]
  rfl

theorem exists_numericText {value extra : Value} (h : isTidyNumber value extra = true) :
    ∃ text, numericText value extra = .ok text ∧ text.all isOrdinary = true := by
  rw [isTidyNumber] at h
  cases ht : numericText value extra with
  | error fault => simp [ht] at h
  | ok text => exact ⟨text, rfl, by simpa [ht] using h⟩

theorem separatedText_eq_separatedWith (d : Dialect) (first : Bool) {items : List Value}
    (h : ∀ v ∈ items, v.isPresent = true → expressionText d v = .ok (v.textWith asCall d)) :
    separatedText d first items = .ok (separatedWith asCall d first items) := by
  induction items generalizing first with
  | nil => rfl
  | cons v items ih =>
      obtain ⟨hv, hitems⟩ := List.forall_mem_cons.mp h
      have hentry : (if v.isPresent then expressionText d v else .ok d.nullWord.toList) =
          .ok (if v.isPresent then v.textWith asCall d else d.nullWord.toList) := by
        split
        · exact hv ‹_›
        · rfl
      rw [separatedText, hentry, ih false hitems]
      cases first with
      | true => exact joined_ok_cons [] (joined_ok_cons _ (joined_singleton _))
      | false => exact joined_ok_cons ", ".toList (joined_ok_cons _ (joined_singleton _))

/-- **With calls as they are, this is the text of a calculation.** -/
theorem Calculation.expressionText_eq (d : Dialect) {v : Value} (h : Calculation v) :
    expressionText d v = .ok (v.textWith asCall d) := by
  induction h with
  | name hn => rfl
  | integer hr =>
      simp only [expressionText, constructText, Value.textWith, Node.textWith,
        literalText_int d _ _ hr]
      rfl
  | number hn =>
      obtain ⟨text, htext, -⟩ := exists_numericText hn
      simp only [expressionText, constructText, Value.textWith, Node.textWith, htext]
      rfl
  | property ho hn hc ih =>
      simp only [expressionText, constructText, Value.textWith, Node.textWith, ih, hc]
      exact joined_ok_cons _ (joined_ok_cons ['.'] (joined_singleton _))
  | item ho hi hc iho ihi =>
      simp only [expressionText, constructText, Value.textWith, Node.textWith, iho, ihi, hc]
      rfl
  | call hc ha ihc iha =>
      simp only [expressionText, constructText, Value.textWith, Node.textWith, listText,
        Value.listTextWith, ihc, separatedText_eq_separatedWith d true iha]
      rfl
  | @unary pos operator argument isPrefix ho ha ih =>
      have hoperator : unaryOperator (.str operator) = .ok (.ok (unaryText (.str operator))) := rfl
      simp only [expressionText, constructText, Value.textWith, Node.textWith, ih, hoperator,
        groupedText_ok]
      cases isPrefix.isTruthy with
      | true =>
          have htexts := joined_ok_cons (unaryText (.str operator))
            (joined_ok_cons (enclosed argument.isUnaryOrUpdate (argument.textWith asCall d))
              (joined_singleton (.ok [])))
          rwa [List.append_nil] at htexts
      | false => exact joined_ok_cons [] (joined_ok_cons _ (joined_singleton _))
  | binary ho hl hr ihl ihr =>
      simp only [expressionText, constructText, Value.textWith, Node.textWith, ihl, ihr,
        groupedText_ok]
      exact joined_ok_cons _ (joined_ok_cons _ (joined_singleton _))
  | array he ih =>
      simp only [expressionText, constructText, Value.textWith, Node.textWith, listText,
        Value.listTextWith, separatedText_eq_separatedWith d true ih]
      rfl

theorem Calculation.endsInFloor_eq {d : Dialect} {callee : Value} (h : Calculation callee) :
    callee.endsInFloor d = Passes.endsInFloor (callee.textWith asCall d) := by
  rw [Value.endsInFloor, h.expressionText_eq]
  rfl

/-! ## The text behind the pass -/

theorem all_isOrdinary_unaryText {operator : String} (ho : operator ∈ unaryOperators) :
    (unaryText (.str operator)).all isOrdinary = true := by
  have hall : unaryOperators.all (fun operator =>
      (unaryText (.str operator)).all isOrdinary) = true := by decide
  exact List.all_eq_true.mp hall operator ho

/-- No operator ends like a part of `Math.floor`. -/
theorem apart_unaryText {operator : String} (ho : operator ∈ unaryOperators) (rest : List Char) :
    Apart (unaryText (.str operator)) rest := by
  have hall : unaryOperators.all (fun operator =>
      (unaryText (.str operator)).getLast?.any (!floorName.contains ·)) = true := by decide
  have hends := List.all_eq_true.mp hall operator ho
  cases hlast : (unaryText (.str operator)).getLast? with
  | none => simp [hlast] at hends
  | some c =>
      obtain ⟨front, hfront⟩ := List.getLast?_eq_some_iff.mp hlast
      rw [hfront]
      exact apart_of_last (by simpa [hlast] using hends) front rest

theorem editedTo_spacedOperator {operator : String} (ho : operator.toList.all isOrdinary = true) :
    EditedTo (' ' :: operator.toList ++ [' ']) (' ' :: operator.toList ++ [' ']) := by
  refine editedTo_of_all ?_
  rw [List.all_append, List.all_cons, ho]
  rfl

theorem Passes.EditedTo.grouped {text edited : List Char} (h : EditedTo text edited)
    (grouped : Bool) : EditedTo (enclosed grouped text) (enclosed grouped edited) := by
  cases grouped with
  | false => exact h
  | true => exact h.group

theorem apart_separatedWith (d : Dialect) (items : List Value) (text : List Char) :
    Apart text (separatedWith asCall d false items) := by
  cases items with
  | nil => exact apart_of_all rfl text
  | cons v items => exact apart_of_head (by decide) text _

/-- A list is edited entry by entry, since a comma comes before every entry but the first. -/
theorem editedTo_separatedWith (d : Dialect) (first : Bool) {items : List Value}
    (h : ∀ v ∈ items, v.isPresent = true →
      EditedTo (v.textWith asCall d) (v.textWith (asTail d) d)) :
    EditedTo (separatedWith asCall d first items) (separatedWith (asTail d) d first items) := by
  induction items generalizing first with
  | nil => exact editedTo_of_all rfl
  | cons v items ih =>
      obtain ⟨hv, hitems⟩ := List.forall_mem_cons.mp h
      have hentry : EditedTo (if v.isPresent then v.textWith asCall d else d.nullWord.toList)
          (if v.isPresent then v.textWith (asTail d) d else d.nullWord.toList) := by
        split
        · exact hv ‹_›
        · exact editedTo_of_all (by cases d <;> decide)
      have hboth := hentry.append (ih false hitems) (apart_separatedWith d items _)
      cases first with
      | true => exact hboth
      | false =>
          have hcomma : EditedTo ", ".toList ", ".toList := editedTo_of_all (by decide)
          exact hcomma.append hboth (apart_of_last (by decide) [','] _)

/-- **The pass edits the calls of what ends in `Math.floor`.** -/
theorem Calculation.editedTo (d : Dialect) {v : Value} (h : Calculation v) :
    EditedTo (v.textWith asCall d) (v.textWith (asTail d) d) := by
  induction h with
  | name hn => exact editedTo_of_all hn
  | @integer pos n raw regex hr =>
      simp only [Value.textWith, Node.textWith, constructText, literalText_int d n raw hr]
      exact editedTo_of_all (all_isOrdinary_toString n)
  | number hn =>
      obtain ⟨text, htext, hall⟩ := exists_numericText hn
      simp only [Value.textWith, Node.textWith, constructText, htext]
      exact editedTo_of_all hall
  | @property pos pos' object computed name ho hn hc ih =>
      -- the object may end in `Math`, but a name opens no parenthesis
      have hname : ('.' :: name.toList).all isOrdinary = true := hn
      simp only [Value.textWith, Node.textWith, hc]
      exact ih.append (editedTo_of_all hname) (apart_of_all hname _)
  | item ho hi hc iho ihi =>
      simp only [Value.textWith, Node.textWith, hc]
      exact iho.append ihi.brackets (apart_of_head (by decide) _ _)
  | call hc ha ihc iha =>
      simp only [Value.textWith, Node.textWith, Value.listTextWith, asTail, hc.endsInFloor_eq]
      exact ihc.call (editedTo_separatedWith d true iha)
  | @unary pos operator argument isPrefix ho ha ih =>
      have hall := all_isOrdinary_unaryText ho
      simp only [Value.textWith, Node.textWith]
      cases isPrefix.isTruthy with
      | true =>
          -- the operand may start with a parenthesis, so the operator must not end in a name
          exact (editedTo_of_all hall).append (ih.grouped _) (apart_unaryText ho _)
      | false => exact (ih.grouped _).append (editedTo_of_all hall) (apart_of_all hall _)
  | @binary pos operator left right ho hl hr ihl ihr =>
      have hright := (editedTo_spacedOperator ho).append (ihr.grouped right.isBinary)
        (apart_of_last (by decide) _ _)
      exact (ihl.grouped left.isBinary).append hright (apart_of_head (by decide) _ _)
  | array he ih => exact (editedTo_separatedWith d true ih).brackets

/-! ## Calls of other things -/

mutual

/-- What is called in a calculation, at any depth. -/
def Value.callees : Value → List Value
  | .node _ n => n.callees
  | _ => []

/-- What is called in a construct. -/
def Node.callees : Node → List Value
  | .callExpression callee arguments => callee :: (callee.callees ++ arguments.listCallees)
  | .memberExpression object property _ => object.callees ++ property.callees
  | .unaryExpression _ argument _ => argument.callees
  | .binaryExpression _ left right => left.callees ++ right.callees
  | .arrayExpression elements => elements.listCallees
  | _ => []

/-- What is called in the entries of a list field. -/
def Value.listCallees : Value → List Value
  | .list items => calleesOf items
  | _ => []

/-- What is called in some entries. -/
def calleesOf : List Value → List Value
  | [] => []
  | v :: rest => v.callees ++ calleesOf rest

end

/-- What is called is not `Math.floor`, but its text ends in that. -/
def Value.isLookalike (d : Dialect) (callee : Value) : Bool :=
  callee.endsInFloor d && !callee.isMathFloor

/-- Texts with calls written in the two ways: they agree if no lookalike is called, and the first
one is four characters shorter for each that is. -/
structure Compares (d : Dialect) (tails methods : List Char) (callees : List Value) : Prop where
  agree : (∀ callee ∈ callees, callee.isLookalike d = false) → tails = methods
  length : tails.length + 4 * callees.countP (Value.isLookalike d) = methods.length

section

variable {d : Dialect}

theorem compares_refl (text : List Char) : Compares d text text [] := ⟨fun _ => rfl, rfl⟩

theorem Compares.append {tails methods tails' methods' : List Char} {callees callees' : List Value}
    (h : Compares d tails methods callees) (h' : Compares d tails' methods' callees') :
    Compares d (tails ++ tails') (methods ++ methods') (callees ++ callees') where
  agree hc := by
    obtain ⟨hleft, hright⟩ := List.forall_mem_append.mp hc
    rw [h.agree hleft, h'.agree hright]
  length := by
    have hlength := h.length
    have hlength' := h'.length
    rw [List.countP_append, List.length_append, List.length_append]
    omega

theorem Compares.cons {tails methods : List Char} {callee : Value} {callees : List Value}
    (h : Compares d tails methods callees) (hl : callee.isLookalike d = false) :
    Compares d tails methods (callee :: callees) where
  agree hc := h.agree fun other hm => hc other (List.mem_cons_of_mem callee hm)
  length := by rw [List.countP_cons_of_neg (by simp [hl]), h.length]

/-- A text before and a text behind make no difference. -/
theorem Compares.between {tails methods : List Char} {callees : List Value}
    (h : Compares d tails methods callees) (front behind : List Char) :
    Compares d (front ++ (tails ++ behind)) (front ++ (methods ++ behind)) callees := by
  have hall := (compares_refl front).append (h.append (compares_refl behind))
  rwa [List.nil_append, List.append_nil] at hall

theorem Compares.eq_iff {tails methods : List Char} {callees : List Value}
    (h : Compares d tails methods callees) :
    tails = methods ↔ ∀ callee ∈ callees, callee.isLookalike d = false := by
  refine ⟨fun heq callee hm => ?_, h.agree⟩
  have hlength := h.length
  rw [heq] at hlength
  have hnone : callees.countP (Value.isLookalike d) = 0 := by omega
  simpa using List.countP_eq_zero.mp hnone callee hm

theorem Compares.grouped {tails methods : List Char} {callees : List Value}
    (h : Compares d tails methods callees) (grouped : Bool) :
    Compares d (enclosed grouped tails) (enclosed grouped methods) callees := by
  cases grouped with
  | false => exact h
  | true => exact h.between ['('] [')']

end

theorem compares_separatedWith {d : Dialect} (first : Bool) {items : List Value}
    (h : ∀ v ∈ items, v.isPresent = true →
      Compares d (v.textWith (asTail d) d) (v.textWith asMethod d) v.callees) :
    Compares d (separatedWith (asTail d) d first items) (separatedWith asMethod d first items)
      (calleesOf items) := by
  induction items generalizing first with
  | nil => exact compares_refl []
  | cons v items ih =>
      obtain ⟨hv, hitems⟩ := List.forall_mem_cons.mp h
      have hentry : Compares d (if v.isPresent then v.textWith (asTail d) d else d.nullWord.toList)
          (if v.isPresent then v.textWith asMethod d else d.nullWord.toList) v.callees := by
        cases v with
        | node pos n => exact hv rfl
        | scalar value => cases value <;> exact compares_refl _
        | list | record => exact compares_refl _
      exact (compares_refl _).append (hentry.append (ih false hitems))

theorem Value.eq_of_isMathFloor {v : Value} (h : v.isMathFloor = true) :
    ∃ pos pos' pos'' computed, computed.isTruthy = false ∧
      v = .node pos (.memberExpression (.node pos' (.identifier (.str "Math")))
        (.node pos'' (.identifier (.str "floor"))) computed) := by
  unfold Value.isMathFloor at h
  split at h
  · simp only [Bool.and_eq_true, beq_iff_eq, Bool.not_eq_true'] at h
    obtain ⟨⟨rfl, rfl⟩, hc⟩ := h
    exact ⟨_, _, _, _, hc, rfl⟩
  · cases h

theorem Value.textWith_of_isMathFloor {v : Value} (h : v.isMathFloor = true) (write : CallWriter)
    (d : Dialect) :
    v.textWith write d = floorName ∧ expressionText d v = .ok floorName ∧ v.callees = [] := by
  obtain ⟨pos, pos', pos'', computed, hc, rfl⟩ := Value.eq_of_isMathFloor h
  simp only [Value.textWith, Node.textWith, expressionText, constructText, hc]
  exact ⟨rfl, rfl, rfl⟩

/-- Where the text of what is called ends in `Math.floor`, so does its edited text. -/
theorem Calculation.length_le_of_endsInFloor {d : Dialect} {callee : Value} (h : Calculation callee)
    (he : callee.endsInFloor d = true) :
    floorName.length ≤ (callee.textWith (asTail d) d).length := by
  have hedited := h.editedTo d
  rw [h.endsInFloor_eq] at he
  obtain ⟨front, -, -, hname⟩ := hedited.paired.exists_front he
  rw [← hedited.eq, hname, List.length_append]
  omega

theorem Calculation.compares_call {d : Dialect} {callee : Value} (h : Calculation callee)
    (hc : Compares d (callee.textWith (asTail d) d) (callee.textWith asMethod d) callee.callees)
    {tails methods : List Char} {callees : List Value} (ha : Compares d tails methods callees) :
    Compares d (asTail d callee (callee.textWith (asTail d) d) tails)
      (asMethod callee (callee.textWith asMethod d) methods)
      (callee :: (callee.callees ++ callees)) := by
  by_cases hfloor : callee.isMathFloor = true
  · -- nothing is left of the name, whichever way the call is written
    obtain ⟨htext, hmade, hnone⟩ := Value.textWith_of_isMathFloor hfloor (asTail d) d
    have hends : callee.endsInFloor d = true := by
      rw [Value.endsInFloor, hmade]
      rfl
    rw [asTail, if_pos hends, asMethod, if_pos hfloor, htext, hnone]
    exact (ha.between ['('] ").floor".toList).cons (by simp [Value.isLookalike, hfloor])
  · by_cases hends : callee.endsInFloor d = true
    · -- one of the calls that the two ways write differently
      have hlookalike : callee.isLookalike d = true := by simp [Value.isLookalike, hends, hfloor]
      have hname := h.length_le_of_endsInFloor hends
      have hlength := hc.length
      have hlength' := ha.length
      have hten : floorName.length = 10 := rfl
      have hseven : ").floor".toList.length = 7 := rfl
      rw [asTail, if_pos hends, asMethod, if_neg hfloor, asCall]
      refine ⟨fun hno => absurd (hno callee List.mem_cons_self) (by simp [hlookalike]), ?_⟩
      rw [List.countP_cons_of_pos hlookalike, List.countP_append]
      simp only [withoutFloor, List.length_append, List.length_cons, List.length_take,
        List.length_nil, hten]
      omega
    · rw [asTail, if_neg hends, asMethod, if_neg hfloor, asCall, asCall]
      exact (hc.append (ha.between ['('] [')'])).cons (by simp [Value.isLookalike, hends])

/-- **The two ways of writing calls, in a calculation.** -/
theorem Calculation.compares {d : Dialect} {v : Value} (h : Calculation v) :
    Compares d (v.textWith (asTail d) d) (v.textWith asMethod d) v.callees := by
  induction h with
  | name | integer | number => exact compares_refl _
  | @property pos pos' object computed name ho hn hc ih =>
      simp only [Value.textWith, Node.textWith, Value.callees, Node.callees, hc]
      exact ih.append (compares_refl _)
  | @item pos object index computed ho hi hc iho ihi =>
      simp only [Value.textWith, Node.textWith, Value.callees, Node.callees, hc]
      exact iho.append (ihi.between ['['] [']'])
  | @call pos callee arguments hc ha ihc iha =>
      exact hc.compares_call ihc (compares_separatedWith true iha)
  | @unary pos operator argument isPrefix ho ha ih =>
      simp only [Value.textWith, Node.textWith, Value.callees, Node.callees]
      cases isPrefix.isTruthy with
      | true => exact (compares_refl _).append (ih.grouped _)
      | false =>
          have hall := (ih.grouped argument.isUnaryOrUpdate).append
            (compares_refl (unaryText (.str operator)))
          rwa [List.append_nil] at hall
  | binary ho hl hr ihl ihr =>
      exact (ihl.grouped _).append ((compares_refl _).append (ihr.grouped _))
  | array he ih => exact (compares_separatedWith true ih).between ['['] [']']

/-- **Floor calls in the text of a calculation.** The calls that become method calls are those of
what ends in `Math.floor` in the text, and the rest of what is called stays before them. This is the
text of the calculation with exactly the calls of `Math.floor` as method calls if and only if
nothing else that is called ends so. -/
theorem floorCalls_calculation (d : Dialect) {v : Value} (h : Calculation v) :
    v.generate d = .ok (v.textWith asCall d) ∧
      floorCalls (v.textWith asCall d) = v.textWith (asTail d) d ∧
      (floorCalls (v.textWith asCall d) = v.textWith asMethod d ↔
        ∀ callee ∈ v.callees, callee.endsInFloor d = true → callee.isMathFloor = true) := by
  have hedited := (h.editedTo d).eq
  refine ⟨(generate_expression d h.isExpression).trans (h.expressionText_eq d), hedited, ?_⟩
  rw [hedited, h.compares.eq_iff]
  simp [Value.isLookalike]

/-- A member of a name, called with one argument. -/
def memberCall (object property : String) (argument : Value) : Value :=
  .node none (.callExpression
    (.node none (.memberExpression (.node none (.identifier (.str object)))
      (.node none (.identifier (.str property))) (.bool false)))
    (.list [argument]))

theorem calculation_memberCall {object property : String} {argument : Value}
    (ho : object.toList.all isOrdinary = true) (hp : property.toList.all isOrdinary = true)
    (ha : Calculation argument) : Calculation (memberCall object property argument) :=
  .call (.property (.name ho) hp rfl) fun _ hm _ => List.mem_singleton.mp hm ▸ ha

/-- A floor call with another one in its argument, beside a call of another member `floor`. -/
def nestedFloors : Value :=
  .node none (.arrayExpression (.list [
    memberCall "Math" "floor" (.node none (.binaryExpression (.str "/")
      (memberCall "Math" "floor" (.node none (.identifier (.str "x"))))
      (.node none (.literal (.scalar (.int 2)) .null .null)))),
    memberCall "my" "floor" (.node none (.identifier (.str "x")))]))

/-- Inner and outer floor calls become method calls, and the other call stays. -/
theorem floorCalls_nestedFloors :
    Calculation nestedFloors ∧
      nestedFloors.generate .ruby =
        .ok "[Math.floor(Math.floor(x) / 2), my.floor(x)]".toList ∧
      floorCalls "[Math.floor(Math.floor(x) / 2), my.floor(x)]".toList =
        nestedFloors.textWith asMethod .ruby ∧
      nestedFloors.textWith asMethod .ruby = "[((x).floor / 2).floor, my.floor(x)]".toList := by
  have hx : Calculation (.node none (.identifier (.str "x"))) := .name (by decide)
  have hinner : Calculation (memberCall "Math" "floor" (.node none (.identifier (.str "x")))) :=
    calculation_memberCall (by decide) (by decide) hx
  have hcalculation : Calculation nestedFloors := by
    refine .array (List.forall_mem_cons.mpr
      ⟨fun _ => ?_, List.forall_mem_singleton.mpr fun _ => ?_⟩)
    · exact calculation_memberCall (by decide) (by decide)
        (.binary (by decide) hinner (.integer rfl))
    · exact calculation_memberCall (by decide) (by decide) hx
  obtain ⟨hgenerate, -, hiff⟩ := floorCalls_calculation .ruby hcalculation
  have htext : nestedFloors.textWith asCall .ruby =
      "[Math.floor(Math.floor(x) / 2), my.floor(x)]".toList := rfl
  have hall : nestedFloors.callees.all (fun callee =>
      !callee.endsInFloor .ruby || callee.isMathFloor) = true := by decide
  rw [htext] at hgenerate hiff
  refine ⟨hcalculation, hgenerate, hiff.mpr fun callee hm he => ?_, rfl⟩
  simpa [he] using List.all_eq_true.mp hall callee hm

/-- Another name that ends in `Math` loses that end, and the call becomes a method call. -/
theorem floorCalls_myMath :
    Calculation (memberCall "myMath" "floor" (.node none (.identifier (.str "x")))) ∧
      (memberCall "myMath" "floor" (.node none (.identifier (.str "x")))).generate .ruby =
        .ok "myMath.floor(x)".toList ∧
      (memberCall "myMath" "floor" (.node none (.identifier (.str "x")))).textWith asMethod .ruby =
        "myMath.floor(x)".toList ∧
      floorCalls "myMath.floor(x)".toList = "my(x).floor".toList :=
  ⟨calculation_memberCall (by decide) (by decide) (.name (by decide)), rfl, rfl, rfl⟩

end EstreeEmitter
