import EstreeEmitter.Proofs.Printer.Layout

set_option autoImplicit false

/-! # The emitter prints the lines of a program

The emitter works on one buffer: it opens a block, writes the statements, takes blank lines back,
writes an `end` line, and deletes this line again when an else branch follows. What comes out is the
same as laying out each statement by itself (`generate_program`). -/

namespace EstreeEmitter

open Text

open Emission

/-! ## Headers -/

theorem not_blank_of_joined {word text : List Char} {rs : List (Except Fault (List Char))}
    (hw : isBlankText word = false) (h : joined (.ok word :: rs) = .ok text) :
    isBlankText text = false := by
  rw [joined_cons_of_ok rfl] at h
  cases hr : joined rs with
  | error fault =>
      rw [hr] at h
      cases h
  | ok cs =>
      rw [hr] at h
      cases h
      rw [isBlankText_append, hw, Bool.false_and]

/-- What the emitter does with the alternate of an `if` statement. -/
def emitBranches (alternate : Value) : Emission :=
  onlyIf alternate.isPresent do
    deleteLines 1
    add "else "
    choose alternate.isIf (emit .ruby alternate) (emitBody .ruby false alternate)

/-- The lines of further branches, level by level. -/
def branchLines (others : Branches) (level : Nat) : List (List Char) := others.lines level

/-- A choice: its test, its first branch and its other branches. -/
theorem frames_choice {test consequent alternate : Value} (pos : Option Pos)
    (ht : Writes (emit .ruby test) (expressionText .ruby test))
    (hc : Encloses (emitBody .ruby true consequent) (bodyStatements true consequent))
    (ha : Closes (emitBranches alternate) ((branches alternate).map branchLines)) :
    Frames (emitNode .ruby pos (.ifStatement test consequent alternate))
      (joined [.ok "if ".toList, expressionText .ruby test]) (bodyStatements true consequent)
      ((branches alternate).map branchLines) := by
  have h := ((writes_add "if ").seq ht.last).frames
    (fun text => not_blank_of_joined rfl) hc ha
  rw [seq_assoc] at h
  exact h

/-! ## Else branches -/

/-- Blanks behind a text leave no trace on its line. -/
theorem lineAt_append_blank (level : Nat) (text : List Char) {blanks : List Char}
    (h : isBlankText blanks = true) : lineAt level (text ++ blanks) = lineAt level text := by
  rw [lineAt, ← List.append_assoc, trimRight_append_of_blank h, lineAt]

/-- In place of the `end` line, an else branch starts at the margin. -/
theorem deleteLines_add_else {e : Emission} {b : Buffer} {before : List (List Char)}
    (hc : b.closed = endLine b.level :: before) :
    (do deleteLines 1; add "else "; e) b =
      e (({ b with closed := before } : Buffer).add "else ".toList) := by
  rw [seq_of_ok (deleteLines_one_run hc), seq_of_ok (add_run _ _)]

/-- An `if` as an else branch goes on with the choice. -/
theorem closes_elseIf {test consequent alternate : Value} (pos : Option Pos)
    (ht : Writes (emit .ruby test) (expressionText .ruby test))
    (hc : Encloses (emitBody .ruby true consequent) (bodyStatements true consequent))
    (ha : Closes (emitBranches alternate) ((branches alternate).map branchLines)) :
    Closes (emitBranches (.node pos (.ifStatement test consequent alternate)))
      ((branches (.node pos (.ifStatement test consequent alternate))).map branchLines) := by
  have h := frames_choice pos ht hc ha
  rw [joined_cons_of_ok rfl, joined_singleton] at h
  -- the choice is framed behind `else ` on the open line, not from the margin
  refine ⟨fun hr b before hb hb' => ?_, fun hr b before hb hb' => ?_⟩
  · simp only [branches, map_eq_ok_iff, bind_eq_ok_iff, pure_eq_ok_iff] at hr
    obtain ⟨_, ⟨text, ht, ss, hs, others, ho, rfl⟩, rfl⟩ := hr
    refine (deleteLines_add_else hb').trans ?_
    refine (h.of_ok (map_eq_ok_iff.mpr ⟨text, ht, rfl⟩) hs (map_eq_ok_iff.mpr ⟨others, ho, rfl⟩)
      _ _ (hb.else_of_closed before)).trans ?_
    rfl
  · obtain ⟨c, hc⟩ := h.of_error (stops_of_bind _ branchLines Branches.elseIf
      (map_eq_error_iff.mp hr)) _ _ (hb.else_of_closed before)
    exact ⟨c, (deleteLines_add_else hb').trans hc⟩

/-- Any other else branch is a body of its own. -/
theorem Emission.Encloses.closes_otherwise {e : Emission} {body : Except Fault (List Statement)}
    (h : Encloses e body) :
    Closes (do deleteLines 1; add "else "; e)
      ((do return .otherwise (← body) : Except Fault Branches).map branchLines) where
  of_ok hr b before hb hc := by
    simp only [map_eq_ok_iff, bind_eq_ok_iff, pure_eq_ok_iff] at hr
    obtain ⟨_, ⟨ss, hs, rfl⟩, rfl⟩ := hr
    -- the blank behind `else` goes when the line is closed
    have hl : lineAt b.level "else ".toList = lineAt b.level "else".toList :=
      lineAt_append_blank b.level "else".toList (rfl : isBlankText [' '] = true)
    rw [deleteLines_add_else hc, h.of_ok hs _ _ (hb.else_of_closed before) rfl]
    simp only [branchLines, Branches.lines, framed, ← hl]
    rfl
  of_error hr b before hb hc := by
    simp only [map_eq_error_iff, bind_eq_error_iff, pure_ne_error, and_false, exists_false,
      or_false] at hr
    rw [deleteLines_add_else hc]
    exact h.of_error hr _ _ (hb.else_of_closed before)

/-- Behind an `end` line, taking blank lines back makes it the open line again. -/
theorem Buffer.Opens.trim_endLine {b : Buffer} {before : List (List Char)} (hb : b.Opens [])
    (hc : b.closed = endLine b.level :: before) :
    b.trim = { b with closed := before, openLine := margin b.level ++ "end".toList } := by
  have hend : isBlankText (endLine b.level) = false := isBlankText_lineAt b.level _
  have hl : trimRight (endLine b.level) = margin b.level ++ "end".toList := by
    rw [endLine, lineAt, trimRight_trimRight, trimRight_append_of_not_blank rfl]
    rfl
  obtain ⟨x, rest, hx, hr⟩ := Buffer.reopen_append (isBlankText_margin b.level) hend [] before
  cases hx
  refine Buffer.trim_of_reopen ?_
  rw [hb.openLine_eq, hc, List.append_nil, ← hl]
  exact hr

/-- A loop with its test behind the body takes the `end` line up again. -/
theorem closes_lateTest {test : Value}
    (h : Writes (emit .ruby test) (expressionText .ruby test)) :
    Closes (do trim; add " while "; emit .ruby test; newline) (do
      let text ← expressionText .ruby test
      return fun level => [lineAt level ("end while ".toList ++ text)]) := by
  refine ⟨fun hr b before hb hc => ?_, fun hr b before hb hc => ?_⟩
  · simp only [bind_eq_ok_iff, pure_eq_ok_iff] at hr
    obtain ⟨text, ht, rfl⟩ := hr
    have hopens : ({ b with closed := before, openLine := margin b.level ++ "end".toList } :
        Buffer).Opens "end".toList := ⟨hb.indentText_eq, rfl⟩
    have hline := (hopens.add " while ".toList).add text
    rw [seq_of_ok (trim_run b), hb.trim_endLine hc, seq_of_ok (add_run _ _),
      seq_of_ok (h.of_ok ht _), newline_run, hline.newline]
    rfl
  · simp only [bind_eq_error_iff, pure_ne_error, and_false, exists_false, or_false] at hr
    obtain ⟨cs, hcs⟩ := h.of_error hr (b.trim.add " while ".toList)
    exact ⟨_, by rw [seq_of_ok (trim_run b), seq_of_ok (add_run _ _), seq_of_error hcs]⟩

/-! ## Statements with a body -/

/-- A method behind its signature. -/
theorem prints_method {id params body : Value} (pos : Option Pos)
    (hi : Writes (emit .ruby id) (expressionText .ruby id))
    (hp : Writes (emitArguments .ruby params) (listText .ruby params))
    (hb : Encloses (emit .ruby body) (bodyStatements false body)) :
    Prints (emitNode .ruby pos (.functionDeclaration id params body))
      (constructStatements pos (.functionDeclaration id params body)) := by
  have hw := (writes_add "def ").seq <| hi.seq <| (writes_add "(").seq <| hp.seq <|
    (writes_add ")").last
  have h := hw.frames (fun text => not_blank_of_joined rfl) hb closes_newline
  rw [joined_cons_of_ok rfl] at h
  simp only [seq_assoc] at h
  exact Frames.prints (y := .ok ()) _ (fun _ level => [endLine level, []])
    (fun signature ss _ => .method signature ss) h fun _ _ _ _ => rfl

/-- A loop behind its test. -/
theorem prints_loop {w e : Emission} {test : Except Fault (List Char)}
    {body : Except Fault (List Statement)} (hw : Writes w test) (he : Encloses e body) :
    Prints (do add "while ("; w; add ")"; e) (do return [.loop (← test) (← body)]) := by
  have h := ((writes_add "while (").seq <| hw.seq <| (writes_add ")").last).frames
    (fun text => not_blank_of_joined rfl) he closes_pure
  have hj : joined [.ok "while (".toList, test, .ok ")".toList] =
      test.map fun text => "while (".toList ++ text ++ [')'] := by
    cases test with
    | ok text => simp [joined, Except.map, bind, Except.bind, pure, Except.pure]
    | error fault => rfl
  rw [hj] at h
  simp only [seq_assoc, seq_pure] at h
  exact Frames.prints (y := .ok ()) _ (fun _ level => [endLine level])
    (fun text ss _ => .loop text ss) h fun _ _ _ _ => rfl

/-- A loop before its test. -/
theorem prints_lateLoop {body test : Value} (pos : Option Pos)
    (hb : Encloses (emitBody .ruby false body) (bodyStatements false body))
    (ht : Writes (emit .ruby test) (expressionText .ruby test)) :
    Prints (emitNode .ruby pos (.doWhileStatement body test))
      (constructStatements pos (.doWhileStatement body test)) := by
  have h := (writes_add "begin").frames (fun text h => by cases h; rfl) hb (closes_lateTest ht)
  exact Frames.prints (x := .ok ()) (fun _ => "begin".toList) _
    (fun _ ss text => .lateLoop ss text) h fun _ _ _ _ => rfl

/-- A choice from the margin. -/
theorem prints_choice {test consequent alternate : Value} (pos : Option Pos)
    (ht : Writes (emit .ruby test) (expressionText .ruby test))
    (hc : Encloses (emitBody .ruby true consequent) (bodyStatements true consequent))
    (ha : Closes (emitBranches alternate) ((branches alternate).map branchLines)) :
    Prints (emitNode .ruby pos (.ifStatement test consequent alternate))
      (constructStatements pos (.ifStatement test consequent alternate)) := by
  have h := frames_choice pos ht hc ha
  rw [joined_cons_of_ok rfl, joined_singleton] at h
  exact Frames.prints _ _ (fun text ss others => .choice text ss others) h fun _ _ _ _ => rfl

/-! ## Declarations and clauses -/

theorem writes_optional {v : Value} (h : v.isOptionalExpression = true) :
    Writes (onlyIf v.isPresent (emit .ruby v)) (textIf v.isPresent (expressionText .ruby v)) := by
  rcases Bool.or_eq_true_iff.mp h with hn | he
  · have hp : v.isPresent = false := by simp [Value.isPresent, hn]
    rw [hp]
    exact writes_pure
  · exact (writes_emit .ruby v he).onlyIf _

/-- A value that is handed back stands on a line of its own. -/
theorem prints_return {v : Value} (h : v.isOptionalExpression = true) :
    Prints (do add "return "; onlyIf v.isPresent (emit .ruby v); newline)
      (do return [.line (← returnText v)]) := by
  have hw := ((writes_add "return ").seq (writes_optional h).last).line
  rw [seq_assoc] at hw
  exact hw

theorem isPresent_of_isExpression {v : Value} (h : v.isExpression = true) : v.isPresent = true := by
  cases v with
  | node pos n => rfl
  | _ => cases h

theorem isNull_of_isExpression {v : Value} (h : v.isExpression = true) : v.isNull = false := by
  cases v with
  | node pos n => rfl
  | _ => cases h

theorem writes_declarator : ∀ {v : Value}, v.isDeclarator = true →
    Writes (emit .ruby v) (declaratorText v)
  | .node pos (.variableDeclarator id init), h => by
      obtain ⟨hid, hinit⟩ := Bool.and_eq_true_iff.mp h
      have hi := writes_emit .ruby id hid
      rcases Bool.or_eq_true_iff.mp hinit with hn | he
      · have hw : Writes (add (" = " ++ Dialect.ruby.nullWord))
            (joined [.ok " = ".toList, .ok Dialect.ruby.nullWord.toList]) := writes_add _
        simp only [emit, emitNode, declaratorText, Value.isPresent, hn]
        exact hi.seq hw
      · simp only [emit, emitNode, declaratorText, Value.isPresent, isNull_of_isExpression he]
        exact hi.seq <| (writes_add _).seq (writes_emit .ruby init he).last

theorem prints_declarators : ∀ items : List Value, items.all Value.isDeclarator = true →
    Prints (emitItems .ruby true items) (declaratorLines items)
  | [], _ => prints_nil
  | v :: rest, h => by
      simp only [List.all_cons, Bool.and_eq_true] at h
      have hv := (writes_declarator h.1).line.seq (prints_declarators rest h.2)
      rw [seq_assoc] at hv
      have hr : declaratorLines (v :: rest) =
          (do return (← (do return [.line (← declaratorText v)])) ++ (← declaratorLines rest)) := by
        cases hd : declaratorText v <;>
          simp [declaratorLines, hd, bind, Except.bind, pure, Except.pure]
      rw [hr]
      exact hv

theorem prints_declaration : ∀ {v : Value}, v.isDeclaratorList = true →
    Prints (emitEach .ruby true v) (declarationStatements v)
  | .list items, h => prints_declarators items h

theorem requireConstruct_of_isExpression {v : Value} (h : v.isExpression = true) :
    v.requireConstruct = .ok () := by
  cases v with
  | node pos n => rfl
  | _ => cases h

/-- The check of an expression that may be absent goes through. -/
theorem onlyIf_requireConstruct {v : Value} (h : v.isOptionalExpression = true) :
    onlyIf v.isPresent (require v.requireConstruct) = pure () := by
  rcases Bool.or_eq_true_iff.mp h with hn | he
  · rw [Value.isPresent, hn]
    rfl
  · rw [isPresent_of_isExpression he, requireConstruct_of_isExpression he]
    rfl

/-- The initializer of a `for` loop stands before it. -/
theorem prints_init {v : Value} (h : v.isInitializer = true) :
    Prints (onlyIf v.isPresent <| choose v.isDeclaration (emit .ruby v) do
      require v.requireConstruct
      emit .ruby v
      newline) (initStatements v) := by
  cases v with
  | node pos n =>
      cases n with
      | variableDeclaration kind declarations => exact prints_declaration h
      | _ => exact (writes_emit .ruby (.node pos _) h).line
  | scalar s =>
      cases s with
      | null => exact prints_nil
      | _ => cases h
  | list items => cases h
  | record fields => cases h

theorem prints_update {v : Value} (h : v.isOptionalExpression = true) :
    Prints (onlyIf v.isPresent do emit .ruby v; newline) (updateStatements v) := by
  rcases Bool.or_eq_true_iff.mp h with hn | he
  · simp only [updateStatements, Value.isPresent, hn]
    exact prints_nil
  · rw [updateStatements, isPresent_of_isExpression he]
    exact (writes_emit .ruby v he).line

theorem writes_loopTest {v : Value} (h : v.isOptionalExpression = true) :
    Writes (choose v.isPresent (emit .ruby v) (add "true")) (loopTest v) := by
  rcases Bool.or_eq_true_iff.mp h with hn | he
  · simp only [loopTest, Value.isPresent, hn]
    exact writes_add _
  · rw [loopTest, isPresent_of_isExpression he]
    exact writes_emit .ruby v he

theorem isBody_of_isBlock {v : Value} (h : v.isBlock = true) : v.isBody = true := by
  unfold Value.isBlock at h
  split at h
  · exact h
  · cases h

theorem requireConstruct_of_isBody {v : Value} (h : v.isBody = true) :
    v.requireConstruct = .ok () := by
  cases v with
  | node pos n => rfl
  | _ => cases h

theorem requireLoopBody_of_isBody {v : Value} (h : v.isBody = true) :
    v.requireLoopBody = .ok () := by
  cases v with
  | node pos n =>
      cases n with
      | blockStatement body =>
          cases body with
          | list items => rfl
          | _ => cases h
      | _ => rfl
  | _ => cases h

/-- The statements of a `for` loop are those of its initializer, and a loop around those of its body
and of its update. -/
theorem constructStatements_for (pos : Option Pos) (init test update body : Value) :
    constructStatements pos (.forStatement init test update body) =
      (do return (← initStatements init) ++ (← (do return [.loop (← loopTest test)
        (← (do return (← bodyStatements false body) ++ (← updateStatements update)))]))) := by
  simp only [constructStatements]
  cases initStatements init with
  | error fault => rfl
  | ok before =>
      cases loopTest test with
      | error fault => rfl
      | ok text =>
          cases bodyStatements false body with
          | error fault => rfl
          | ok inner => cases updateStatements update <;> rfl

/-- A `for` loop is its initializer and a loop with the update at the end of its body. -/
theorem prints_for {init test update body : Value} (pos : Option Pos)
    (hi : init.isInitializer = true) (ht : test.isOptionalExpression = true)
    (hu : update.isOptionalExpression = true) (hb : body.isBody = true)
    (h : Prints (emitLoopBody .ruby body) (bodyStatements false body)) :
    Prints (emitNode .ruby pos (.forStatement init test update body))
      (constructStatements pos (.forStatement init test update body)) := by
  -- the checks before the header go through, since the parts are well formed
  have hrb : require body.requireLoopBody = pure () := by
    rw [requireLoopBody_of_isBody hb]
    rfl
  have hru := onlyIf_requireConstruct hu
  have hloop := prints_loop (writes_loopTest ht) (h.seq (prints_update hu)).block
  have hp := (prints_init hi).seq hloop
  rw [constructStatements_for]
  simp only [emitNode, hrb, hru]
  exact hp

/-! ## All statements -/

mutual

/-- Writing a statement prints it. -/
theorem prints_emit : ∀ v : Value, v.isStatement = true → Prints (emit .ruby v) (statements v)
  | .node pos n, h => prints_emitNode pos n h
  | .scalar _, h | .list _, h | .record _, h => by cases h

theorem prints_emitNode (pos : Option Pos) :
    ∀ n : Node, n.isStatement = true → Prints (emitNode .ruby pos n) (constructStatements pos n)
  | .expressionStatement expression, h => (writes_emit .ruby expression h).line
  | .importDeclaration source, _ => (writes_add _).line
  | .breakStatement, _ => (writes_add _).line
  | .returnStatement argument, h => prints_return h
  | .variableDeclaration kind declarations, h => prints_declaration h
  | .functionDeclaration id params body, h => by
      simp only [Node.isStatement, Bool.and_eq_true] at h
      exact prints_method pos (writes_emit .ruby id h.1.1)
        (writes_emitArguments .ruby params h.1.2) (encloses_emit body h.2)
  | .ifStatement test consequent alternate, h => by
      simp only [Node.isStatement, Bool.and_eq_true, Bool.or_eq_true] at h
      exact prints_choice pos (writes_emit .ruby test h.1.1)
        (encloses_emitBody true consequent h.1.2) (closes_emitBranches alternate h.2)
  | .whileStatement test body, h => by
      simp only [Node.isStatement, Bool.and_eq_true] at h
      have hl := prints_loop (writes_emit .ruby test h.1) (encloses_emitBody false body h.2)
      simp only [emitNode, requireConstruct_of_isBody h.2]
      exact hl
  | .doWhileStatement body test, h => by
      simp only [Node.isStatement, Bool.and_eq_true] at h
      exact prints_lateLoop pos (encloses_emitBody false body h.1) (writes_emit .ruby test h.2)
  | .forStatement init test update body, h => by
      simp only [Node.isStatement, Bool.and_eq_true] at h
      exact prints_for pos h.1.1.1 h.1.1.2 h.1.2 h.2 (prints_emitLoopBody body h.2)

theorem encloses_emit :
    ∀ v : Value, v.isBlock = true → Encloses (emit .ruby v) (bodyStatements false v)
  | .node pos n, h => by
      cases n with
      | blockStatement body => exact (prints_emitEach body h).block
      | _ => cases h
  | .scalar _, h | .list _, h | .record _, h => by cases h

theorem encloses_emitBody (returning : Bool) : ∀ v : Value, v.isBody = true →
    Encloses (emitBody .ruby returning v) (bodyStatements returning v)
  | .node pos n, h => by
      cases n with
      | blockStatement body => exact (prints_emitEach body h).block
      | expressionStatement expression =>
          have he : expression.isExpression = true := h
          cases returning with
          | true => exact (prints_return (Bool.or_eq_true_iff.mpr (Or.inr he))).block
          | false => exact (writes_emit .ruby expression he).line.block
      | _ => exact (prints_emitNode pos _ h).block
  | .scalar _, h | .list _, h | .record _, h => by cases h

theorem prints_emitLoopBody :
    ∀ v : Value, v.isBody = true → Prints (emitLoopBody .ruby v) (bodyStatements false v)
  | .node pos n, h => by
      cases n with
      | blockStatement body => exact prints_emitEach body h
      | expressionStatement expression => exact (writes_emit .ruby expression h).line
      | _ => exact prints_emitNode pos _ h
  | .scalar _, h | .list _, h | .record _, h => by cases h

theorem closes_emitBranches : ∀ v : Value, v.isNull = true ∨ v.isBody = true →
    Closes (emitBranches v) ((branches v).map branchLines)
  | .node pos n, h => by
      have hb : (Value.node pos n).isBody = true := h.resolve_left nofun
      cases n with
      | ifStatement test consequent alternate =>
          have hi : (Node.ifStatement test consequent alternate).isStatement = true := hb
          simp only [Node.isStatement, Bool.and_eq_true, Bool.or_eq_true] at hi
          exact closes_elseIf pos (writes_emit .ruby test hi.1.1)
            (encloses_emitBody true consequent hi.1.2) (closes_emitBranches alternate hi.2)
      | blockStatement body => exact (prints_emitEach body hb).block.closes_otherwise
      | expressionStatement expression =>
          exact (writes_emit .ruby expression hb).line.block.closes_otherwise
      | _ => exact (prints_emitNode pos _ hb).block.closes_otherwise
  | .scalar s, h => by
      cases s with
      | null => exact closes_pure
      | _ => rcases h with h | h <;> cases h
  | .list _, h | .record _, h => by rcases h with h | h <;> cases h

theorem prints_emitEach :
    ∀ v : Value, v.isStatementList = true → Prints (emitEach .ruby false v) (listStatements v)
  | .list items, h => prints_emitItems items h
  | .node _ _, h | .scalar _, h | .record _, h => by cases h

theorem prints_emitItems : ∀ items : List Value, areStatements items = true →
    Prints (emitItems .ruby false items) (allStatements items)
  | [], _ => prints_nil
  | v :: rest, h => by
      simp only [areStatements, Bool.and_eq_true] at h
      exact (prints_emit v h.1).seq (prints_emitItems rest h.2)

end

/-- An emission that prints statements makes a text of their lines and one empty line. -/
theorem Emission.Prints.generate {v : Value} {r : Except Fault (List Statement)}
    (h : Prints (emit .ruby v) r) :
    Value.generate .ruby v = r.map fun ss => joinWith ['\n'] (linesOf 0 ss ++ [[]]) := by
  rw [Value.generate]
  cases hr : r with
  | ok ss =>
      rw [h.of_ok hr _ Buffer.opens_fresh]
      simp [Buffer.text, Buffer.lines, Buffer.addLines, Buffer.fresh, Buffer.empty, Except.map,
        margin]
  | error fault =>
      obtain ⟨c, hc⟩ := h.of_error hr _ Buffer.opens_fresh
      rw [hc]
      rfl

theorem prints_program (pos : Option Pos) {items : List Value} (h : areStatements items = true) :
    Prints (emit .ruby (.node pos (.program (.list items)))) (allStatements items) :=
  prints_emitItems items h

/-- **The emitter prints programs line by line.** The text of a well-formed program is that of the
lines of its statements, each laid out by itself, and one empty line; where a statement has no text,
there is none for the program, with the same fault. -/
theorem generate_program (pos : Option Pos) (items : List Value) (h : areStatements items = true) :
    Value.generate .ruby (.node pos (.program (.list items))) =
      (allStatements items).map fun ss => joinWith ['\n'] (linesOf 0 ss ++ [[]]) :=
  (prints_program pos h).generate

/-- A method with a chain of branches in it: the first is a bare expression, the second ends with a
method of its own, and the last holds a loop; behind the method stands a `for` loop. -/
def nestedProgram : List Value :=
  let name (s : String) : Value := .node none (.identifier (.str s))
  let block (body : List Value) : Value := .node none (.blockStatement (.list body))
  let inner : Value := .node none (.functionDeclaration (name "h") (.list []) (block []))
  let last : Value := .node none (.doWhileStatement (block []) (name "z"))
  let chain : Value := .node none (.ifStatement (name "x")
    (.node none (.expressionStatement (name "g")))
    (.node none (.ifStatement (name "y") (block [inner]) (block [last]))))
  [.node none (.functionDeclaration (name "f") (.list [name "x"]) (block [chain])),
    .node none (.forStatement (name "i") .null .null (.node none .breakStatement))]

/-- The nested program is well formed and prints with one `end` for its chain of branches. -/
theorem generate_program_nested : areStatements nestedProgram = true ∧
    Value.generate .ruby (.node none (.program (.list nestedProgram))) =
      .ok ("def f(x)\n  if x\n    return g\n  else if y\n    def h()\n    end\n  else\n" ++
        "    begin\n    end while z\n  end\nend\n\ni\nwhile (true)\n  break\nend\n").toList :=
  ⟨rfl, (generate_program none nestedProgram rfl).trans (by decide +kernel)⟩

end EstreeEmitter
