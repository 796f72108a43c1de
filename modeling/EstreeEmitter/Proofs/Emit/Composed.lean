import EstreeEmitter.Proofs.Emit.Run

set_option autoImplicit false

/-! # How emissions are put together

Whatever the tree is, writing it is put together from few kinds of steps: text is added, lines are
closed, blank lines are taken back, a block is opened and closed, and an emission may stop for a
reason that lies in the tree. Lines are deleted in one place only, right behind a block, where the
line that goes is the `end` of that block. `Emission.Composed` says this once, and the trees are
gone through once, construct by construct (`composed_emit`). An invariant of emission is then proved
by induction over the few kinds of steps. -/

namespace EstreeEmitter

/-- The buffer is not the reason. -/
def Fault.NotBuffer (fault : Fault) : Prop := ∀ cause, fault ≠ .buffer cause

/-- A result that the buffer did not refuse. -/
def Unrefused {α : Type} (r : Except Fault α) : Prop := ∀ fault, r = .error fault → fault.NotBuffer

/-! ## Texts and checks

The texts of leaves and the checks of fields are made without the buffer. -/

section Results

variable {α β : Type}

@[simp] theorem unrefused_ok (a : α) : Unrefused (.ok a) := by
  intro fault h
  cases h

@[simp] theorem unrefused_error {fault : Fault} :
    Unrefused (.error fault : Except Fault α) ↔ fault.NotBuffer :=
  ⟨fun h => h fault rfl, fun h _ hf => by cases hf; exact h⟩

theorem Unrefused.bind {r : Except Fault α} {f : α → Except Fault β} (h : Unrefused r)
    (hf : ∀ a, Unrefused (f a)) : Unrefused (r >>= f) := by
  cases r with
  | ok a => exact hf a
  | error fault => exact unrefused_error.mpr (unrefused_error.mp h)

theorem Unrefused.map {r : Except Fault α} (f : α → β) (h : Unrefused r) :
    Unrefused (r.map f) := by
  cases r with
  | ok a => exact unrefused_ok (f a)
  | error fault => exact unrefused_error.mpr (unrefused_error.mp h)

end Results

theorem unrefused_asText (v : Value) : Unrefused v.asText := by
  unfold Value.asText
  split
  · simp
  · simp [Fault.NotBuffer]

theorem unrefused_fieldText (fields : List (String × Value)) (key : String) :
    Unrefused (fieldText fields key) := by
  unfold fieldText
  split
  · exact unrefused_asText _
  · simp

theorem unrefused_jsonText (ascii : Bool) (v : Value) : Unrefused (v.jsonText ascii) := by
  unfold Value.jsonText
  split
  · simp
  · simp [Fault.NotBuffer]

theorem unrefused_rawText? (v : Value) : Unrefused (rawText? v) := by
  unfold rawText?
  split
  · simp
  · simp
  · split <;> simp [Fault.NotBuffer]
  · split <;> simp [Fault.NotBuffer]
  · simp [Fault.NotBuffer]

theorem unrefused_rawOr (extra : Value) {other : Except Fault (List Char)} (h : Unrefused other) :
    Unrefused (rawOr extra other) := by
  refine (unrefused_rawText? extra).bind fun raw => ?_
  cases raw with
  | none => exact h
  | some cs => exact unrefused_ok cs

theorem unrefused_quote (d : Dialect) (v : Value) : Unrefused (d.quote v) := by
  cases d with
  | plain => exact unrefused_jsonText false v
  | ruby => exact (unrefused_jsonText false v).map _

theorem unrefused_stringText (d : Dialect) (value extra : Value) :
    Unrefused (d.stringText value extra) := by
  refine (unrefused_rawText? extra).bind fun raw => ?_
  cases raw with
  | none => exact unrefused_quote d value
  | some cs => exact unrefused_ok _

theorem unrefused_slashed {pattern flags : Except Fault (List Char)} (hp : Unrefused pattern)
    (hf : Unrefused flags) : Unrefused (slashed pattern flags) :=
  hp.bind fun _ => hf.bind fun _ => unrefused_ok _

theorem unrefused_literalText (d : Dialect) (value raw regex : Value) :
    Unrefused (d.literalText value raw regex) := by
  unfold Dialect.literalText
  split
  · split
    · simp
    · exact unrefused_quote d _
    · exact unrefused_jsonText true _
  · split
    · split
      · exact unrefused_slashed (unrefused_fieldText _ _) (unrefused_fieldText _ _)
      · simp [Fault.NotBuffer]
    · exact unrefused_asText raw

theorem unrefused_spacedOperator (operator : Value) : Unrefused (spacedOperator operator) :=
  (unrefused_asText operator).bind fun _ => unrefused_ok _

theorem unrefused_unaryOperator (operator : Value) : Unrefused (unaryOperator operator) := by
  unfold unaryOperator
  split
  · simp
  · simp
  · simp [Fault.NotBuffer]

/-- The text of a unary operator is refused, if at all, for another reason than the buffer. -/
theorem unrefused_of_unaryOperator {operator : Value} {text : Except Fault (List Char)}
    (h : unaryOperator operator = .ok text) : Unrefused text := by
  unfold unaryOperator at h
  split at h
  · cases h; simp
  · cases h; simp [Fault.NotBuffer]
  · cases h

theorem unrefused_requireEntries (v : Value) : Unrefused v.requireEntries := by
  unfold Value.requireEntries
  split <;> simp [Fault.NotBuffer]

theorem unrefused_requireNoEntries (v : Value) : Unrefused v.requireNoEntries := by
  unfold Value.requireNoEntries
  split
  · split <;> simp [Fault.NotBuffer]
  · split <;> simp [Fault.NotBuffer]
  · split <;> simp [Fault.NotBuffer]
  · simp [Fault.NotBuffer]

theorem unrefused_requireConstruct (v : Value) : Unrefused v.requireConstruct := by
  unfold Value.requireConstruct
  split <;> simp [Fault.NotBuffer]

theorem unrefused_requireLoopBody (v : Value) : Unrefused v.requireLoopBody := by
  unfold Value.requireLoopBody
  split
  · exact unrefused_requireEntries _
  · simp

namespace Emission

/-! ## Kinds of steps -/

/-- The emission is put together from steps that write, close or take back lines, from blocks, and
from blocks whose `end` line is deleted at once. It stops, if at all, for another reason than the
buffer. -/
inductive Composed : Emission → Prop where
  | nothing : Composed (pure ())
  | text (cs : List Char) : Composed (addChars cs)
  | newline : Composed newline
  | trim : Composed trim
  | stop {fault : Fault} (h : fault.NotBuffer) : Composed (stop fault)
  | seq {e e' : Emission} (h : Composed e) (h' : Composed e') : Composed (do e; e')
  | block {inner : Emission} (h : Composed inner) : Composed (block inner)
  | reopened {inner e : Emission} (h : Composed inner) (h' : Composed e) :
      Composed (do block inner; deleteLines 1; e)

theorem composed_add (s : String) : Composed (add s) := .text s.toList

/-- A check stops with its own fault. -/
theorem composed_require {check : Except Fault Unit} (h : Unrefused check) :
    Composed (require check) := by
  cases check with
  | ok _ => exact .nothing
  | error fault => exact .stop (h fault rfl)

/-- A text that could not be made stops with its own fault. -/
theorem composed_addResult {text : Except Fault (List Char)} (h : Unrefused text) :
    Composed (addResult text) := by
  cases text with
  | ok cs => exact .text cs
  | error fault => exact .stop (h fault rfl)

theorem Composed.choose {e e' : Emission} (condition : Bool) (h : Composed e) (h' : Composed e') :
    Composed (choose condition e e') := by
  cases condition with
  | true => exact h
  | false => exact h'

theorem Composed.onlyIf {e : Emission} (condition : Bool) (h : Composed e) :
    Composed (onlyIf condition e) :=
  h.choose condition .nothing

theorem Composed.parenthesized {e : Emission} (grouped : Bool) (h : Composed e) :
    Composed (parenthesized grouped e) :=
  ((composed_add _).onlyIf grouped).seq <| h.seq <| (composed_add _).onlyIf grouped

theorem Composed.ite {p : Prop} [Decidable p] {e e' : Emission} (h : Composed e)
    (h' : Composed e') : Composed (if p then e else e') := by
  split
  · exact h
  · exact h'

/-- The emission is a block, or it stops before it wrote anything. -/
inductive Enclosed : Emission → Prop where
  | block {inner : Emission} (h : Composed inner) : Enclosed (block inner)
  | stop {fault : Fault} (h : fault.NotBuffer) : Enclosed (stop fault)

theorem Enclosed.composed {e : Emission} (h : Enclosed e) : Composed e := by
  cases h with
  | block h => exact .block h
  | stop h => exact .stop h

/-- Behind a block the line of its `end` may be deleted. -/
theorem Enclosed.reopened {e e' : Emission} (h : Enclosed e) (h' : Composed e') :
    Composed (do e; deleteLines 1; e') := by
  cases h with
  | block h => exact .reopened h h'
  | @stop fault h =>
      -- what stops before it wrote anything never comes to the deletion
      have hs : (do Emission.stop fault; deleteLines 1; e') = Emission.stop fault := by
        funext b
        exact seq_of_error rfl
      rw [hs]
      exact .stop h

/-- Behind a block there may be something that takes the place of its `end` line. -/
theorem Enclosed.followed {e e' : Emission} (h : Enclosed e) (condition : Bool)
    (h' : Composed e') : Composed (do e; onlyIf condition do deleteLines 1; e') := by
  cases condition with
  | true => exact h.reopened h'
  | false => exact h.composed.seq .nothing

end Emission

open Emission

/-! ## All trees -/

mutual

/-- Writing a tree is put together from the known steps. -/
theorem composed_emit (d : Dialect) : ∀ v : Value, Composed (emit d v)
  | .node pos n => composed_emitNode d pos n
  | .scalar _ | .list _ | .record _ => Composed.stop (by simp [Fault.NotBuffer])

/-- Writing a construct is put together from the known steps. -/
theorem composed_emitNode (d : Dialect) (pos : Option Pos) :
    ∀ n : Node, Composed (emitNode d pos n)
  | .program body => composed_emitEach d false body
  | .file program => (composed_emit d program).onlyIf _
  | .expressionStatement expression => (composed_emit d expression).seq (Composed.newline.onlyIf _)
  | .importDeclaration source => (composed_add deleteMarker).seq Composed.newline
  | .blockStatement body => by
      cases d with
      | plain => exact composed_emitEach .plain false body
      | ruby => exact (composed_emitEach .ruby false body).block
  | .functionDeclaration id params body =>
      ((composed_add _).onlyIf _).seq <| (composed_emit d id).seq <| (composed_add _).seq <|
        (composed_emitArguments d params).seq <| (composed_add _).seq <|
          (composed_emit d body).seq Composed.newline
  | .variableDeclarator id init =>
      (composed_emit d id).seq <| ((composed_add _).onlyIf _).ite <|
        (composed_add _).seq (composed_emit d init)
  | .variableDeclaration kind declarations => composed_emitEach d d.isRuby declarations
  | .returnStatement argument => by
      cases d with
      | plain => exact (composed_emit .plain argument).onlyIf _
      | ruby =>
          exact (composed_add _).seq <|
            ((composed_emit .ruby argument).onlyIf _).seq Composed.newline
  | .ifStatement test consequent alternate => by
      cases d with
      | plain =>
          exact (composed_add _).seq <| (composed_emit .plain test).seq <|
            (composed_emit .plain consequent).seq <|
              ((composed_add _).seq (composed_emit .plain alternate)).onlyIf _
      | ruby =>
          have hb := enclosed_emitBody .ruby true consequent
          have he : Composed (do
              add "else "
              choose alternate.isIf (emit .ruby alternate) (emitBody .ruby false alternate)) :=
            (composed_add _).seq <|
              (composed_emit .ruby alternate).choose _
                (enclosed_emitBody .ruby false alternate).composed
          -- the line to delete is the `end` of the branch, which is written as a block
          exact (composed_add _).seq <| (composed_emit .ruby test).seq <| hb.followed _ he
  | .whileStatement test body => by
      cases d with
      | plain =>
          exact (composed_add _).seq <| (composed_emit .plain test).seq <| (composed_add _).seq <|
            composed_emit .plain body
      | ruby =>
          exact (composed_require (unrefused_requireConstruct body)).seq <| (composed_add _).seq <|
            (composed_emit .ruby test).seq <| (composed_add _).seq <|
              (enclosed_emitBody .ruby false body).composed
  | .doWhileStatement body test => by
      cases d with
      | plain =>
          exact (composed_add _).seq <| (composed_emit .plain body).seq <| Composed.trim.seq <|
            (composed_add _).seq <| (composed_emit .plain test).seq <|
              (composed_add _).seq Composed.newline
      | ruby =>
          exact (composed_add _).seq <| (enclosed_emitBody .ruby false body).composed.seq <|
            Composed.trim.seq <| (composed_add _).seq <|
              (composed_emit .ruby test).seq Composed.newline
  | .forStatement init test update body => by
      have hi := composed_emit d init
      have ht := composed_emit d test
      have hu := composed_emit d update
      cases d with
      | plain =>
          exact (composed_add _).seq <| (hi.onlyIf _).seq <| Composed.trim.seq <|
            (composed_add _).seq <| (ht.onlyIf _).seq <| (composed_add _).seq <|
              (hu.onlyIf _).seq <| (composed_add _).seq <| composed_emit .plain body
      | ruby =>
          -- only the body and the update stand in the block; the checks come before the header
          have hr := composed_require (unrefused_requireConstruct init)
          have hs := composed_require (unrefused_requireConstruct update)
          have hl : Composed (do
              emitLoopBody .ruby body
              onlyIf update.isPresent do emit .ruby update; newline) :=
            (composed_emitLoopBody .ruby body).seq <| (hu.seq Composed.newline).onlyIf _
          exact ((hi.choose _ (hr.seq <| hi.seq Composed.newline)).onlyIf _).seq <|
            (composed_require (unrefused_requireLoopBody body)).seq <| (hs.onlyIf _).seq <|
              (composed_add _).seq <| (ht.choose _ (composed_add _)).seq <|
                (composed_add _).seq hl.block
  | .breakStatement => (composed_add _).seq Composed.newline
  | .assignmentExpression operator left right =>
      (composed_emit d left).seq <| (composed_addResult (unrefused_spacedOperator operator)).seq <|
        composed_emit d right
  | .callExpression callee arguments =>
      (composed_emit d callee).seq <| (composed_add _).seq <|
        (composed_emitArguments d arguments).seq (composed_add _)
  | .memberExpression object property computed =>
      (composed_emit d object).seq <| Composed.ite
        ((composed_add _).seq <| (composed_emit d property).seq (composed_add _))
        ((composed_add _).seq (composed_emit d property))
  | .unaryExpression operator argument isPrefix => by
      simp only [emitNode]
      split
      · next fault h => exact Composed.stop (unrefused_unaryOperator operator fault h)
      · next text h =>
          have ht : Composed (addResult text) := composed_addResult (unrefused_of_unaryOperator h)
          exact (ht.onlyIf _).seq <| ((composed_emit d argument).parenthesized _).seq (ht.onlyIf _)
  | .updateExpression operator argument isPrefix => by
      have ht : Composed (addResult operator.asText) :=
        composed_addResult (unrefused_asText operator)
      exact (ht.onlyIf _).seq <| (composed_emit d argument).seq (ht.onlyIf _)
  | .binaryExpression operator left right =>
      ((composed_emit d left).parenthesized _).seq <|
        (composed_addResult (unrefused_spacedOperator operator)).seq <|
          (composed_emit d right).parenthesized _
  | .logicalExpression operator left right =>
      ((composed_emit d left).parenthesized _).seq <|
        (composed_addResult (unrefused_spacedOperator operator)).seq <|
          (composed_emit d right).parenthesized _
  | .conditionalExpression test consequent alternate =>
      (composed_add _).seq <| (composed_emit d test).seq <| (composed_add _).seq <|
        (composed_emit d consequent).seq <| (composed_add _).seq <|
          (composed_emit d alternate).seq (composed_add _)
  | .arrayExpression elements =>
      (composed_add _).seq <| (composed_emitArguments d elements).seq (composed_add _)
  | .identifier name => composed_addResult (unrefused_asText name)
  | .literal value raw regex => composed_addResult (unrefused_literalText d value raw regex)
  | .numericLiteral value extra =>
      composed_addResult (unrefused_rawOr extra (unrefused_jsonText true value))
  | .stringLiteral value extra => composed_addResult (unrefused_stringText d value extra)
  | .booleanLiteral value => composed_add _
  | .nullLiteral => composed_add _
  | .regExpLiteral pattern flags extra =>
      composed_addResult (unrefused_rawOr extra
        (unrefused_slashed (unrefused_asText pattern) (unrefused_asText flags)))
  | .bare => by
      cases pos <;> exact Composed.stop (by simp [Fault.unsupportedAt, Fault.NotBuffer])

theorem composed_emitEach (d : Dialect) (closing : Bool) :
    ∀ v : Value, Composed (emitEach d closing v)
  | .list items => composed_emitItems d closing items
  | .node pos n => by
      simp only [emitEach]
      exact composed_require (unrefused_requireNoEntries _)
  | .scalar _ | .record _ => composed_require (unrefused_requireNoEntries _)

theorem composed_emitItems (d : Dialect) (closing : Bool) :
    ∀ items : List Value, Composed (emitItems d closing items)
  | [] => Composed.nothing
  | v :: rest =>
      (composed_emit d v).seq <| (Composed.newline.onlyIf _).seq (composed_emitItems d closing rest)

theorem composed_emitArguments (d : Dialect) : ∀ v : Value, Composed (emitArguments d v)
  | .list items => composed_emitSeparated d true items
  | .node pos n => by
      simp only [emitArguments]
      exact composed_require (unrefused_requireNoEntries _)
  | .scalar _ | .record _ => composed_require (unrefused_requireNoEntries _)

theorem composed_emitSeparated (d : Dialect) (first : Bool) :
    ∀ items : List Value, Composed (emitSeparated d first items)
  | [] => Composed.nothing
  | v :: rest =>
      ((composed_add _).onlyIf _).seq <| ((composed_emit d v).choose _ (composed_add _)).seq <|
        composed_emitSeparated d false rest

/-- A branch or a loop body is written as a block. -/
theorem enclosed_emitBody (d : Dialect) (returning : Bool) :
    ∀ v : Value, Enclosed (emitBody d returning v)
  | .node pos n => by
      cases n with
      | blockStatement body => exact .block (composed_emitEach d false body)
      | expressionStatement expression =>
          have h := composed_emit d expression
          cases returning with
          | true => exact .block ((composed_add _).seq <| (h.onlyIf _).seq Composed.newline)
          | false => exact .block (h.seq Composed.newline)
      | _ => exact .block (composed_emitNode d pos _)
  | .scalar _ | .list _ | .record _ => .stop (by simp [Fault.NotBuffer])

theorem composed_emitLoopBody (d : Dialect) : ∀ v : Value, Composed (emitLoopBody d v)
  | .node pos n => by
      cases n with
      | blockStatement body => exact composed_emitEach d false body
      | _ => exact composed_emitNode d pos _
  | .scalar _ | .list _ | .record _ => Composed.stop (by simp [Fault.NotBuffer])

end

end EstreeEmitter
