import EstreeEmitter.Proofs.Passes.FlooredSteps
import EstreeEmitter.Proofs.Passes.Settled
import EstreeEmitter.Proofs.Passes.StepTrees
import EstreeEmitter.Proofs.Reader.Ends

set_option autoImplicit false

/-! # Increments that are statements

In a program whose increments are statements of their own, at any depth, writing the text and then
writing the increments out is the same as putting assignments in their place first and then writing
the text (`increments_generate_program`). This holds of the increments that the edit knows; the
others stay as they are, and the text then has a doubled sign left. Floor calls, which all
corrections together edit before the increments, do not get in the way. -/

namespace EstreeEmitter

open Text Passes Emission

/-! ## Statements -/

/-- The value is an initializer of a `for` loop, with an expression only as admitted. -/
def Value.isInitializerOf (admits : Bool → Value → Bool) : Value → Bool
  | .node _ (.variableDeclaration _ declarations) => declarations.isStillDeclaration
  | v => v.isNull || admits false v

mutual

/-- The value is a statement without doubled signs but in the expressions that are statements of
their own: these are as admitted. -/
def Value.isScript (admits : Bool → Value → Bool) : Value → Bool
  | .node _ n => n.isScript admits
  | _ => false

/-- The construct is such a statement. -/
def Node.isScript (admits : Bool → Value → Bool) : Node → Bool
  | .expressionStatement expression => admits false expression
  | .importDeclaration _ => true
  | .breakStatement => true
  | .returnStatement argument =>
    argument.isOptionalExpression && isStillText (returnText argument)
  | .variableDeclaration _ declarations => declarations.isStillDeclaration
  | .blockStatement body => body.isScriptList admits
  | .functionDeclaration id params body =>
    id.isExpression && params.isExpressionList && isStillText (signatureText id params) &&
      body.isScriptBlock admits
  | .ifStatement test consequent alternate =>
    test.isStill && consequent.isScriptBranch admits &&
      (alternate.isNull || alternate.isScript admits)
  | .whileStatement test body => test.isStill && body.isScript admits
  | .doWhileStatement body test => body.isScript admits && test.isStill
  | .forStatement init test update body =>
    init.isInitializerOf admits && (test.isNull || test.isStill) &&
      (body.isScript admits && (update.isNull || admits false update))
  | _ => false

/-- The value is such a statement as the first branch of a choice, which hands a bare expression
back. -/
def Value.isScriptBranch (admits : Bool → Value → Bool) : Value → Bool
  | .node _ n =>
    match n with
    | .expressionStatement expression => admits true expression
    | n => n.isScript admits
  | _ => false

/-- The value is a block of such statements. -/
def Value.isScriptBlock (admits : Bool → Value → Bool) : Value → Bool
  | .node _ (.blockStatement body) => body.isScriptList admits
  | _ => false

/-- The value is a list of such statements. -/
def Value.isScriptList (admits : Bool → Value → Bool) : Value → Bool
  | .list items => areScripts admits items
  | _ => false

/-- All values are such statements. -/
def areScripts (admits : Bool → Value → Bool) : List Value → Bool
  | [] => true
  | v :: rest => v.isScript admits && areScripts admits rest

end

mutual

/-- The statement with its increments written out where the edit knows them. -/
def Value.written : Value → Value
  | .node pos n => .node pos n.written
  | v => v

/-- The construct with its increments written out. -/
def Node.written : Node → Node
  | .expressionStatement expression => .expressionStatement (expression.writtenStep false)
  | .blockStatement body => .blockStatement body.writtenList
  | .functionDeclaration id params body => .functionDeclaration id params body.written
  | .ifStatement test consequent alternate =>
    .ifStatement test consequent.writtenBranch alternate.written
  | .whileStatement test body => .whileStatement test body.written
  | .doWhileStatement body test => .doWhileStatement body.written test
  | .forStatement init test update body =>
    .forStatement (init.writtenStep false) test (update.writtenStep false) body.written
  | n => n

/-- The first branch of a choice with its increments written out. -/
def Value.writtenBranch : Value → Value
  | .node pos n =>
    match n with
    | .expressionStatement expression =>
      .node pos (.expressionStatement (expression.writtenStep true))
    | n => .node pos n.written
  | v => v

/-- The list with its increments written out. -/
def Value.writtenList : Value → Value
  | .list items => .list (writtenItems items)
  | v => v

/-- Statements with their increments written out. -/
def writtenItems : List Value → List Value
  | [] => []
  | v :: rest => v.written :: writtenItems rest

end

/-! ## Headers -/

theorem isStillText_joined {word : List Char} (hw : word.all isGap = true)
    {rs : List (Except Fault (List Char))} (h : isStillText (joined rs) = true) :
    isStillText (joined (.ok word :: rs)) = true := by
  obtain ⟨text, hr, hs⟩ := makes_of_isMade h
  rw [joined_ok_cons word hr]
  exact decide_eq_true (isStill_append_of_gaps hw (of_decide_eq_true hs))

theorem isStillText_closed {r : Except Fault (List Char)} (h : isStillText r = true) :
    isStillText (joined [r, .ok [')']]) = true := by
  obtain ⟨text, rfl, hs⟩ := makes_of_isMade h
  rw [joined_ok_cons text (joined_singleton _)]
  exact decide_eq_true ((isStill_append_cons (by decide)).mpr ⟨of_decide_eq_true hs, by decide⟩)

variable {clean clean' : Bool}

/-- A construct with a header that has no doubled sign. -/
theorem Emission.Writes.twins_stillFramed {h e e' k k' : Emission} {r : Except Fault (List Char)}
    (hw : Writes h r) (hr : isStillText r = true) (hb : TwinBodies stepView clean e e')
    (hk : TwinEnds stepView clean' k k') :
    Twins stepView (clean && clean') (do h; e; k) (do h; e'; k') := by
  obtain ⟨text, ht, he⟩ := edits_of_isStillText hr
  exact hw.twins_framed ht he hb hk

theorem twins_method {id params body body' : Value} (pos : Option Pos)
    (hi : id.isExpression = true) (hp : params.isExpressionList = true)
    (hs : isStillText (signatureText id params) = true)
    (hb : TwinBodies stepView clean (emit .ruby body) (emit .ruby body')) :
    Twins stepView clean (emitNode .ruby pos (.functionDeclaration id params body))
      (emitNode .ruby pos (.functionDeclaration id params body')) := by
  have hw := (writes_add "def ").seq <| (writes_emit .ruby id hi).seq <| (writes_add "(").seq <|
    (writes_emitArguments .ruby params hp).seq <| (writes_add ")").last
  have h := hw.twins_stillFramed (isStillText_joined (by decide) hs) hb
    (twinEnds_newline keepsFrames_stepView)
  simp only [seq_assoc, Bool.and_true] at h
  exact h

theorem twins_loop {w e e' : Emission} {test : Except Fault (List Char)} (hw : Writes w test)
    (hs : isStillText test = true) (hb : TwinBodies stepView clean e e') :
    Twins stepView clean (do add "while ("; w; add ")"; e) (do add "while ("; w; add ")"; e') := by
  have h := ((writes_add "while (").seq <| hw.seq (writes_add ")").last).twins_stillFramed
    (isStillText_joined (by decide) (isStillText_closed hs)) hb
    (twinEnds_pure keepsFrames_stepView)
  simp only [seq_assoc, seq_pure, Bool.and_true] at h
  exact h

theorem twins_lateLoop {body body' test : Value} (pos : Option Pos) (ht : test.isStill = true)
    (hb : TwinBodies stepView clean (emitBody .ruby false body) (emitBody .ruby false body')) :
    Twins stepView clean (emitNode .ruby pos (.doWhileStatement body test))
      (emitNode .ruby pos (.doWhileStatement body' test)) := by
  obtain ⟨hv, hs⟩ := Bool.and_eq_true_iff.mp ht
  obtain ⟨text, hr, hstill⟩ := makes_of_isMade hs
  have hend : stepView.Edits true ("end while ".toList ++ text) ("end while ".toList ++ text) :=
    edits_of_isStill (isStill_append_of_gaps (by decide) (of_decide_eq_true hstill))
  have h := (writes_add "begin").twins_stillFramed (by decide) hb
    ((writes_emit .ruby test hv).twinEnds_lateTest hr hend)
  rw [Bool.and_true] at h
  exact h

theorem twins_choice {test consequent consequent' alternate alternate' : Value} (pos : Option Pos)
    (ht : test.isStill = true)
    (hc : TwinBodies stepView clean (emitBody .ruby true consequent)
      (emitBody .ruby true consequent'))
    (ha : TwinEnds stepView clean' (emitBranches alternate) (emitBranches alternate')) :
    Twins stepView (clean && clean')
      (emitNode .ruby pos (.ifStatement test consequent alternate))
      (emitNode .ruby pos (.ifStatement test consequent' alternate')) := by
  obtain ⟨hv, hs⟩ := Bool.and_eq_true_iff.mp ht
  have h := (writes_choice hv).twins_stillFramed
    (isStillText_joined (by decide) (by rwa [joined_singleton])) hc ha
  simp only [seq_assoc] at h
  exact h

theorem twinEnds_choice {test consequent consequent' alternate alternate' : Value}
    (pos : Option Pos) (ht : test.isStill = true)
    (hc : TwinBodies stepView clean (emitBody .ruby true consequent)
      (emitBody .ruby true consequent'))
    (ha : TwinEnds stepView clean' (emitBranches alternate) (emitBranches alternate')) :
    TwinEnds stepView (clean && clean')
      (emitBranches (.node pos (.ifStatement test consequent alternate)))
      (emitBranches (.node pos (.ifStatement test consequent' alternate'))) := by
  obtain ⟨hv, hs⟩ := Bool.and_eq_true_iff.mp ht
  have hif : isStillText (joined [.ok "if ".toList, expressionText .ruby test]) = true :=
    isStillText_joined (by decide) (by rwa [joined_singleton])
  obtain ⟨text, hr, hstill⟩ := makes_of_isMade hif
  have h := (writes_choice hv).twinEnds_elseIf hr
    (edits_of_isStill (isStill_append_of_gaps (by decide) (of_decide_eq_true hstill))) hc ha
  simp only [seq_assoc] at h
  exact h

/-! ## The parts of a `for` loop -/

/-- What the emitter does with the initializer of a `for` loop. -/
def emitInit (v : Value) : Emission :=
  onlyIf v.isPresent <| choose v.isDeclaration (emit .ruby v) do
    require v.requireConstruct
    emit .ruby v
    newline

theorem emitInit_of_isExpression {v : Value} (h : v.isExpression = true) :
    emitInit v = (do emit .ruby v; newline) := by
  cases v with
  | node pos n =>
      cases n with
      | variableDeclaration => cases h
      | _ => rfl
  | _ => cases h

/-- What the emitter does with the update of a `for` loop. -/
def emitUpdate (v : Value) : Emission := onlyIf v.isPresent do emit .ruby v; newline

theorem emitUpdate_of_isExpression {v : Value} (h : v.isExpression = true) :
    emitUpdate v = (do emit .ruby v; newline) := by
  rw [emitUpdate, isPresent_of_isExpression h]
  rfl

theorem Value.writtenStep_of_isNull {v : Value} (h : v.isNull = true) (returning : Bool) :
    v.writtenStep returning = v := by
  cases v with
  | scalar s => rfl
  | _ => cases h

theorem twins_init {v : Value} (h : v.isInitializerOf Value.isStepLine = true) :
    Twins stepView (v.isInitializerOf Value.isKnownLine) (emitInit v)
      (emitInit (v.writtenStep false)) := by
  have hline : ∀ {u : Value}, u.isStepLine false = true →
      Twins stepView (u.isKnownLine false) (emitInit u) (emitInit (u.writtenStep false)) := by
    intro u hu
    obtain ⟨_, _, hv, -, hv', -, -⟩ := Value.edits_line hu
    rw [emitInit_of_isExpression hv, emitInit_of_isExpression hv']
    exact twins_line hu
  cases v with
  | node pos n =>
      cases n with
      | variableDeclaration kind declarations =>
          have hclean : declarations.isStillDeclaration = true := h
          rw [Value.isInitializerOf, hclean]
          exact twins_declaration h
      | _ => exact hline h
  | scalar s =>
      cases s with
      | null => exact twins_pure
      | _ => exact hline h
  | list items => exact hline h
  | record fields => exact hline h

theorem twins_update {v : Value} (h : (v.isNull || v.isStepLine false) = true) :
    Twins stepView (v.isNull || v.isKnownLine false) (emitUpdate v)
      (emitUpdate (v.writtenStep false)) := by
  by_cases hn : v.isNull = true
  · rw [hn, Value.writtenStep_of_isNull hn, emitUpdate, Value.isPresent, hn]
    exact twins_pure
  · rw [Bool.not_eq_true] at hn
    rw [hn, Bool.false_or] at h ⊢
    obtain ⟨_, _, hv, -, hv', -, -⟩ := Value.edits_line h
    rw [emitUpdate_of_isExpression hv, emitUpdate_of_isExpression hv']
    exact twins_line h

theorem isOptionalExpression_of_isStepLine {v : Value}
    (h : (v.isNull || v.isStepLine false) = true) :
    v.isOptionalExpression = true ∧ (v.writtenStep false).isOptionalExpression = true := by
  by_cases hn : v.isNull = true
  · rw [Value.writtenStep_of_isNull hn, Value.isOptionalExpression, hn]
    exact ⟨rfl, rfl⟩
  · rw [Bool.not_eq_true] at hn
    rw [hn, Bool.false_or] at h
    obtain ⟨_, _, hv, -, hv', -, -⟩ := Value.edits_line h
    exact ⟨Bool.or_eq_true_iff.mpr (.inr hv), Bool.or_eq_true_iff.mpr (.inr hv')⟩

theorem requireConstruct_written {v : Value} {admits : Bool → Value → Bool}
    (h : v.isScript admits = true) :
    v.requireConstruct = .ok () ∧ v.written.requireConstruct = .ok () := by
  cases v with
  | node pos n => exact ⟨rfl, rfl⟩
  | _ => cases h

/-- The statements of a body can be gone through before and after the edit. -/
theorem requireLoopBody_written {v : Value} {admits : Bool → Value → Bool}
    (h : v.isScript admits = true) :
    v.requireLoopBody = .ok () ∧ v.written.requireLoopBody = .ok () := by
  cases v with
  | node pos n =>
      cases n with
      | blockStatement body =>
          cases body with
          | list items => exact ⟨rfl, rfl⟩
          | _ => cases h
      | _ => exact ⟨rfl, rfl⟩
  | _ => cases h

/-- A `for` loop: its initializer, and a loop with the update at the end of its body. -/
theorem twins_for {init test update body : Value} (pos : Option Pos)
    (hi : init.isInitializerOf Value.isStepLine = true)
    (ht : (test.isNull || test.isStill) = true) (hb : body.isScript Value.isStepLine = true)
    (hu : (update.isNull || update.isStepLine false) = true)
    (hbody : Twins stepView clean (emitLoopBody .ruby body) (emitLoopBody .ruby body.written)) :
    Twins stepView (init.isInitializerOf Value.isKnownLine &&
        (clean && (update.isNull || update.isKnownLine false)))
      (emitNode .ruby pos (.forStatement init test update body))
      (emitNode .ruby pos (Node.forStatement init test update body).written) := by
  obtain ⟨hrb, hrb'⟩ := requireLoopBody_written hb
  obtain ⟨hou, hou'⟩ := isOptionalExpression_of_isStepLine hu
  have htest : test.isOptionalExpression = true := by
    rw [Value.isOptionalExpression]
    rcases Bool.or_eq_true_iff.mp ht with hn | hs
    · rw [hn, Bool.true_or]
    · rw [(Bool.and_eq_true_iff.mp hs).1, Bool.or_true]
  have hstill : isStillText (loopTest test) = true := by
    rcases Bool.or_eq_true_iff.mp ht with hn | hs
    · rw [loopTest, Value.isPresent, hn]
      exact (by decide : isStillText (.ok "true".toList) = true)
    · obtain ⟨hv, hs⟩ := Bool.and_eq_true_iff.mp hs
      rwa [loopTest, isPresent_of_isExpression hv]
  have hloop := twins_loop (writes_loopTest htest) hstill
    ((hbody.seq (twins_update hu)).block keepsFrames_stepView)
  have hall := (twins_init hi).seq hloop
  -- the checks before the header go through, since the parts are well formed
  simp only [Node.written, emitNode, hrb, hrb', onlyIf_requireConstruct hou,
    onlyIf_requireConstruct hou']
  exact hall

/-! ## All statements -/

mutual

/-- Statements are written in step with what they become. -/
theorem twins_emit : ∀ v : Value, v.isScript Value.isStepLine = true →
    Twins stepView (v.isScript Value.isKnownLine) (emit .ruby v) (emit .ruby v.written)
  | .node pos n, h => twins_emitNode pos n h
  | .scalar _, h | .list _, h | .record _, h => by cases h

theorem twins_emitNode (pos : Option Pos) : ∀ n : Node, n.isScript Value.isStepLine = true →
    Twins stepView (n.isScript Value.isKnownLine) (emitNode .ruby pos n)
      (emitNode .ruby pos n.written)
  | .expressionStatement expression, h => twins_line h
  | .importDeclaration source, _ => (writes_add _).twins_still (by decide)
  | .breakStatement, _ => (writes_add _).twins_still (by decide)
  | .returnStatement argument, h => by
      obtain ⟨hv, hs⟩ := Bool.and_eq_true_iff.mp h
      have hw := ((writes_add "return ").seq (writes_optional hv).last).twins_still hs
      rw [seq_assoc] at hw
      simp only [Node.isScript, hv, hs, Bool.and_self]
      exact hw
  | .variableDeclaration kind declarations, h => by
      have hclean : declarations.isStillDeclaration = true := h
      rw [Node.isScript, hclean]
      exact twins_declaration h
  | .blockStatement body, h =>
      ((twins_emitEach body h).block keepsFrames_stepView).twins keepsFrames_stepView
  | .functionDeclaration id params body, h => by
      simp only [Node.isScript, Bool.and_eq_true] at h
      simp only [Node.isScript, h.1.1.1, h.1.1.2, h.1.2, Bool.true_and]
      exact twins_method pos h.1.1.1 h.1.1.2 h.1.2 (twinBodies_emit body h.2)
  | .ifStatement test consequent alternate, h => by
      simp only [Node.isScript, Bool.and_eq_true] at h
      simp only [Node.isScript, h.1.1, Bool.true_and]
      exact twins_choice pos h.1.1 (twinBodies_emitBranch consequent h.1.2)
        (twinEnds_emitBranches alternate h.2)
  | .whileStatement test body, h => by
      simp only [Node.isScript, Bool.and_eq_true] at h
      obtain ⟨hv, hs⟩ := Bool.and_eq_true_iff.mp h.1
      have hl := twins_loop (writes_emit .ruby test hv) hs (twinBodies_emitBody body h.2)
      obtain ⟨hrb, hrb'⟩ := requireConstruct_written h.2
      simp only [Node.isScript, h.1, Bool.true_and, Node.written, emitNode, hrb, hrb']
      exact hl
  | .doWhileStatement body test, h => by
      simp only [Node.isScript, Bool.and_eq_true] at h
      simp only [Node.isScript, h.2, Bool.and_true]
      exact twins_lateLoop pos h.2 (twinBodies_emitBody body h.1)
  | .forStatement init test update body, h => by
      simp only [Node.isScript, Bool.and_eq_true] at h
      have hf := twins_for pos h.1.1 h.1.2 h.2.1 h.2.2 (twins_emitLoopBody body h.2.1)
      simp only [Node.isScript, h.1.2, Bool.and_true]
      exact hf

theorem twinBodies_emit : ∀ v : Value, v.isScriptBlock Value.isStepLine = true →
    TwinBodies stepView (v.isScriptBlock Value.isKnownLine) (emit .ruby v) (emit .ruby v.written)
  | .node pos n, h => by
      cases n with
      | blockStatement body => exact (twins_emitEach body h).block keepsFrames_stepView
      | _ => cases h
  | .scalar _, h | .list _, h | .record _, h => by cases h

theorem twinBodies_emitBody : ∀ v : Value, v.isScript Value.isStepLine = true →
    TwinBodies stepView (v.isScript Value.isKnownLine) (emitBody .ruby false v)
      (emitBody .ruby false v.written)
  | .node pos n, h => by
      cases n with
      | blockStatement body => exact (twins_emitEach body h).block keepsFrames_stepView
      | _ => exact (twins_emitNode pos _ h).block keepsFrames_stepView
  | .scalar _, h | .list _, h | .record _, h => by cases h

theorem twinBodies_emitBranch : ∀ v : Value, v.isScriptBranch Value.isStepLine = true →
    TwinBodies stepView (v.isScriptBranch Value.isKnownLine) (emitBody .ruby true v)
      (emitBody .ruby true v.writtenBranch)
  | .node pos n, h => by
      cases n with
      | blockStatement body => exact (twins_emitEach body h).block keepsFrames_stepView
      | expressionStatement expression => exact (twins_returned h).block keepsFrames_stepView
      | _ => exact (twins_emitNode pos _ h).block keepsFrames_stepView
  | .scalar _, h | .list _, h | .record _, h => by cases h

theorem twins_emitLoopBody : ∀ v : Value, v.isScript Value.isStepLine = true →
    Twins stepView (v.isScript Value.isKnownLine) (emitLoopBody .ruby v)
      (emitLoopBody .ruby v.written)
  | .node pos n, h => by
      cases n with
      | blockStatement body => exact twins_emitEach body h
      | _ => exact twins_emitNode pos _ h
  | .scalar _, h | .list _, h | .record _, h => by cases h

theorem twinEnds_emitBranches : ∀ v : Value,
    (v.isNull || v.isScript Value.isStepLine) = true →
      TwinEnds stepView (v.isNull || v.isScript Value.isKnownLine) (emitBranches v)
        (emitBranches v.written)
  | .node pos n, h => by
      cases n with
      | ifStatement test consequent alternate =>
          have hi : (Node.ifStatement test consequent alternate).isScript Value.isStepLine = true :=
            h
          simp only [Node.isScript, Bool.and_eq_true] at hi
          have hc := twinEnds_choice pos hi.1.1 (twinBodies_emitBranch consequent hi.1.2)
            (twinEnds_emitBranches alternate hi.2)
          simp only [Value.isNull, Value.isScript, Node.isScript, hi.1.1, Bool.true_and,
            Bool.false_or]
          exact hc
      | blockStatement body =>
          exact ((twins_emitEach body h).block keepsFrames_stepView).twinEnds_otherwise
            keepsFrames_stepView
      | _ =>
          exact ((twins_emitNode pos _ h).block keepsFrames_stepView).twinEnds_otherwise
            keepsFrames_stepView
  | .scalar s, h => by
      cases s with
      | null => exact twinEnds_pure keepsFrames_stepView
      | _ => cases h
  | .list _, h | .record _, h => by cases h

theorem twins_emitEach : ∀ v : Value, v.isScriptList Value.isStepLine = true →
    Twins stepView (v.isScriptList Value.isKnownLine) (emitEach .ruby false v)
      (emitEach .ruby false v.writtenList)
  | .list items, h => twins_emitItems items h
  | .node .., h | .scalar _, h | .record _, h => by cases h

theorem twins_emitItems : ∀ items : List Value, areScripts Value.isStepLine items = true →
    Twins stepView (areScripts Value.isKnownLine items) (emitItems .ruby false items)
      (emitItems .ruby false (writtenItems items))
  | [], _ => twins_pure
  | v :: rest, h => by
      simp only [areScripts, Bool.and_eq_true] at h
      exact (twins_emit v h.1).seq (twins_emitItems rest h.2)

end

/-! ## Programs -/

/-- Apart from increments there is nothing to correct: the corrections before them find nothing in
the text, and what `puts` prints is in its final form once they are written out. -/
structure OnlySteps (table : Table) (text text' : List Char) : Prop where
  noMatch : ∀ c ∈ table, c.count text = 0
  noFloorCall : floorCount text = 0
  noCalledParameter : callableNotes text = []
  printed : stringifyPuts text' = text'

/-- Without a match and a called parameter, three edits are left. -/
theorem correct_eq_of_uncalled {table : Table} {text : List Char}
    (hm : ∀ c ∈ table, c.count text = 0) (hc : callableNotes (floorCalls text) = []) :
    correct table text = stringifyPuts (increments (floorCalls text)) := by
  have hmarked := markCallable_of_callableNotes_eq_nil hc
  have hregistry := registerCallable_of_callableNotes_eq_nil hc
  simp only [correct, Table.apply_of_count_eq_zero hm, hmarked, hregistry, passAllReferences,
    List.foldl_nil]

theorem OnlySteps.correct_eq {table : Table} {text : List Char}
    (h : OnlySteps table text (increments text)) : correct table text = increments text := by
  have hfloor := floorCalls_of_floorCount_eq_zero h.noFloorCall
  have hcalled : callableNotes (floorCalls text) = [] := by rw [hfloor, h.noCalledParameter]
  rw [correct_eq_of_uncalled h.noMatch hcalled, hfloor, h.printed]

/-- Before what is printed, there is nothing to correct but increments and floor calls. No line ends
in a backslash, which would hide its end from the search for the parenthesis of a call. -/
structure OnlyFloorsAndSteps (table : Table) (text : List Char) : Prop where
  noMatch : ∀ c ∈ table, c.count text = 0
  noCalledParameter : callableNotes (floorCalls text) = []
  noHiddenEnd : ¬['\\', '\n'] <:+: text

/-- A line that ends in a backslash hides its line feed, but the last line has none. -/
theorem getLast?_ne_backslash {lines : List (List Char)}
    (h : ¬['\\', '\n'] <:+: joinWith ['\n'] lines) :
    ∀ line ∈ lines.dropLast, line.getLast? ≠ some '\\' := by
  fun_induction joinWith ['\n'] lines with
  | case1 => simp
  | case2 line => simp
  | case3 line lines hne ih =>
      rw [List.append_assoc, List.singleton_append] at h
      rw [List.dropLast_cons_of_ne_nil hne]
      refine List.forall_mem_cons.mpr ⟨fun hlast => h ?_, ih fun hrest => h ?_⟩
      · obtain ⟨front, rfl⟩ := List.getLast?_eq_some_iff.mp hlast
        exact ⟨front, joinWith ['\n'] lines, by simp⟩
      · exact hrest.trans ((List.suffix_cons _ _).trans (List.suffix_append line _)).isInfix

/-- **Increments that are statements are written out as far as the edit knows them.** If the
increments of a program are statements of their own, the edit makes of its text the text of the
program with assignments in their place; so do all corrections together where there is nothing else
to correct. No doubled sign is left exactly if the edit knows all increments: if no index has
brackets in it, if the last name before a sign ends in a word, and if behind a sign all names are
words and the line starts with the sign. In this case floor calls, also those in an index, are
edited as they would be in the text with the assignments, and no doubled sign comes of it. -/
theorem increments_generate_program (pos : Option Pos) (items : List Value)
    (h : areScripts Value.isStepLine items = true) :
    ∃ text text', Value.generate .ruby (.node pos (.program (.list items))) = .ok text ∧
      Value.generate .ruby (.node pos (.program (.list (writtenItems items)))) = .ok text' ∧
      increments text = text' ∧
      (Stepless text' ↔ areScripts Value.isKnownLine items = true) ∧
      (∀ table, OnlySteps table text text' → correct table text = text') ∧
      (areScripts Value.isKnownLine items = true → ∀ table, OnlyFloorsAndSteps table text →
        correct table text = stringifyPuts (floorCalls text') ∧ Stepless (floorCalls text')) := by
  have htwins : Twins stepView (areScripts Value.isKnownLine items)
      (emit .ruby (.node pos (.program (.list items))))
      (emit .ruby (.node pos (.program (.list (writtenItems items))))) := twins_emitItems items h
  obtain ⟨lines, hg, hg', hcalm, hlines⟩ := htwins.generate keepsFrames_stepView
  -- the edit works line by line, and so do the two emissions
  have hedit : increments (joinWith ['\n'] lines) = joinWith ['\n'] (lines.map stepView.edit) :=
    increments_joinWith lines
  have hstepless : Stepless (joinWith ['\n'] (lines.map stepView.edit)) ↔
      areScripts Value.isKnownLine items = true := by
    rw [stepless_joinWith, ← hcalm, List.all_eq_true]
    exact forall₂_congr fun line _ => decide_eq_true_iff.symm
  refine ⟨_, _, hg, hg', hedit, hstepless, ?_, fun hknown table htable => ?_⟩
  · rw [← hedit]
    exact fun table => OnlySteps.correct_eq
  · have hnone := hstepless.mpr hknown
    have hsteps : ∀ line ∈ lines, Stepless (increments line) :=
      List.forall_mem_map.mp ((stepless_joinWith _).mp hnone)
    rw [correct_eq_of_uncalled htable.noMatch htable.noCalledParameter,
      increments_floorCalls_joinWith hlines hsteps (getLast?_ne_backslash htable.noHiddenEnd), hedit]
    exact ⟨rfl, (floors_floorCalls _).stepless hnone⟩

/-- A method with a loop and a choice in it: steps before and behind their operands, with dots and
an index, as an update, and handed back. -/
def steppingProgram : List Value :=
  let name (s : String) : Value := .node none (.identifier (.str s))
  let member (object property : Value) (computed : Bool) : Value :=
    .node none (.memberExpression object property (.bool computed))
  let step (operator : String) (operand : Value) (first : Bool) : Value :=
    .node none (.updateExpression (.str operator) operand (.bool first))
  let line (v : Value) : Value := .node none (.expressionStatement v)
  let block (body : List Value) : Value := .node none (.blockStatement (.list body))
  let call (f : String) (v : Value) : Value := .node none (.callExpression (name f) (.list [v]))
  let cell := member (member (name "a") (name "b") false) (call "at" (name "i")) true
  let loop : Value := .node none (.forStatement .null (name "i") (step "--" (name "i") false)
    (block [line (step "++" cell false)]))
  let choice : Value := .node none (.ifStatement (name "c") (line (step "++" (name "$n") false))
    (block [line (step "--" cell true)]))
  [.node none (.functionDeclaration (name "f") (.list [name "i"]) (block [loop, choice]))]

/-- The text of the program. -/
def steppingText : List Char :=
  ("def f(i)\n  while (i)\n    a.b[at(i)]++\n    i--\n  end\n" ++
    "  if c\n    return $n++\n  else\n    --a.b[at(i)]\n  end\nend\n\n").toList

/-- A step before an operand whose index is a floor call. -/
def flooredStep : Value :=
  let name (s : String) : Value := .node none (.identifier (.str s))
  let member (object property : Value) (computed : Bool) : Value :=
    .node none (.memberExpression object property (.bool computed))
  let floor : Value := .node none (.callExpression (member (name "Math") (name "floor") false)
    (.list [name "i"]))
  .node none (.expressionStatement (.node none (.updateExpression (.str "++")
    (member (name "a") floor true) (.bool true))))

/-- All increments of the programs are written out, by all corrections together. -/
theorem increments_generate_stepping : areScripts Value.isStepLine steppingProgram = true ∧
    Value.generate .ruby (.node none (.program (.list steppingProgram))) = .ok steppingText ∧
    correct Table.ruby steppingText =
      ("def f(i)\n  while (i)\n    a.b[at(i)] += 1\n    i -= 1\n  end\n" ++
        "  if c\n    return $n += 1\n  else\n    a.b[at(i)] -= 1\n  end\nend\n\n").toList ∧
    areScripts Value.isStepLine [flooredStep] = true ∧
    areScripts Value.isKnownLine [flooredStep] = true ∧
    Value.generate .ruby (.node none (.program (.list [flooredStep]))) =
      .ok "++a[Math.floor(i)]\n".toList ∧
    correct Table.ruby "++a[Math.floor(i)]\n".toList = "a[(i).floor] += 1\n".toList := by
  have hsteps : areScripts Value.isStepLine steppingProgram = true := by decide +kernel
  have htext : Value.generate .ruby (.node none (.program (.list steppingProgram))) =
      .ok steppingText := by decide +kernel
  obtain ⟨text, text', hg, -, hedit, -, hcorrect, -⟩ :=
    increments_generate_program none steppingProgram hsteps
  obtain rfl : text = steppingText := Except.ok.inj (hg.symm.trans htext)
  have hmatch : (Table.ruby.all fun c => c.count steppingText == 0) = true := by decide +kernel
  have honly : OnlySteps Table.ruby steppingText text' := by
    refine ⟨fun c hc => by simpa using List.all_eq_true.mp hmatch c hc, by decide +kernel,
      by decide +kernel, ?_⟩
    rw [← hedit]
    decide +kernel
  refine ⟨hsteps, htext, (hcorrect Table.ruby honly).trans ?_, ?_⟩
  · rw [← hedit]
    decide +kernel
  · -- the floor call is edited first, and its index is still one that the edit knows
    have hstep : areScripts Value.isStepLine [flooredStep] = true := by decide +kernel
    have hknown : areScripts Value.isKnownLine [flooredStep] = true := by decide +kernel
    have hfloor : Value.generate .ruby (.node none (.program (.list [flooredStep]))) =
        .ok "++a[Math.floor(i)]\n".toList := by decide +kernel
    obtain ⟨text, text', hg, -, hedit, -, -, hcorrect⟩ :=
      increments_generate_program none [flooredStep] hstep
    obtain rfl : text = "++a[Math.floor(i)]\n".toList := Except.ok.inj (hg.symm.trans hfloor)
    have hnone : (Table.ruby.all fun c => c.count "++a[Math.floor(i)]\n".toList == 0) = true := by
      decide +kernel
    have honly : OnlyFloorsAndSteps Table.ruby "++a[Math.floor(i)]\n".toList :=
      ⟨fun c hc => by simpa using List.all_eq_true.mp hnone c hc, by decide +kernel,
        by decide +kernel⟩
    refine ⟨hstep, hknown, hfloor, (hcorrect hknown Table.ruby honly).1.trans ?_⟩
    rw [← hedit]
    decide +kernel

/-- An increment whose operand has an index with an index in it. -/
def nestedStep : Value :=
  let name (s : String) : Value := .node none (.identifier (.str s))
  let cell (object index : Value) : Value :=
    .node none (.memberExpression object index (.bool true))
  let zero : Value := .node none (.numericLiteral (.scalar (.int 0)) .null)
  .node none (.expressionStatement (.node none (.updateExpression (.str "++")
    (cell (name "a") (cell (name "b") zero)) (.bool false))))

/-- The edit does not know an index with an index in it. -/
theorem translate_nestedStep : areScripts Value.isStepLine [nestedStep] = true ∧
    Value.translate Table.ruby (.node none (.program (.list [nestedStep]))) =
      .ok "a[b[0]]++\n".toList := by
  decide +kernel

end EstreeEmitter
