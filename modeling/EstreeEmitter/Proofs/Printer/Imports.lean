import EstreeEmitter.Proofs.Corrections.Marker
import EstreeEmitter.Proofs.Emit.Standalone
import EstreeEmitter.Proofs.Printer.Program
import EstreeEmitter.Session

set_option autoImplicit false

/-! # Imports leave no trace

An import is written as a marker line of its own, and the first correction removes it. Statements at
the top of a program stand alone, so the text of a program is that of its statements one after the
other (`generate_program_cons`), and markers are removed from it statement by statement. A program
and the same program without its imports are therefore translated in the same way
(`translate_without_imports`). -/

namespace EstreeEmitter

open Text Emission

/-! ## Statements at the top of a program -/

/-- The value is an import. -/
def Value.isImport : Value → Bool
  | .node _ (.importDeclaration _) => true
  | _ => false

/-- The value is a statement that can stand at the top of a program, which a block cannot. What a
statement writes behind a word of its own may be anything, blocks as statements included. -/
def Value.isTopLevel : Value → Bool
  | .node _ n =>
    match n with
    | .expressionStatement expression => expression.isExpression
    | .variableDeclaration _ declarations => declarations.isDeclaratorList
    | .forStatement init _ _ _ => init.isInitializer
    | .importDeclaration _ | .functionDeclaration .. | .returnStatement _ | .ifStatement ..
    | .whileStatement .. | .doWhileStatement .. | .breakStatement => true
    | _ => false
  | _ => false

/-- A branch that is no `if` ends with the line of its `end`, and so does the branch before it. -/
theorem endsLine_otherwise {body : Emission} (hb : EndsLine body) {alternate : Value}
    (h : alternate.isIf = false) : EndsLine (do body; emitBranches alternate) := by
  have ha := (enclosed_emitBody .ruby false alternate).endsLine
  unfold emitBranches
  rw [h]
  cases alternate.isPresent with
  | true => exact ((ha.after _).after _).after _
  | false =>
      have hp := seq_pure body
      exact hp.symm ▸ hb

theorem eq_of_isIf {v : Value} (h : v.isIf = true) :
    ∃ pos test consequent alternate, v = .node pos (.ifStatement test consequent alternate) := by
  unfold Value.isIf at h
  split at h
  · exact ⟨_, _, _, _, rfl⟩
  · cases h

/-- A chain of branches ends with the line of an `end`. -/
theorem endsLine_emitBranches {body : Emission} (hb : EndsLine body) (alternate : Value) :
    EndsLine (do body; emitBranches alternate) := by
  cases hi : alternate.isIf with
  | false => exact endsLine_otherwise hb hi
  | true =>
      -- the recursion goes down the chain, from an `if` to the branch behind it
      obtain ⟨pos, test, consequent, next, rfl⟩ := eq_of_isIf hi
      have hc := enclosed_emitBody .ruby true consequent
      have hn := endsLine_emitBranches hc.endsLine next
      have he : EndsLine (emit .ruby (.node pos (.ifStatement test consequent next))) :=
        (hn.after _).after _
      exact ((he.after _).after _).after _
termination_by sizeOf alternate

/-! ## They stand alone -/

theorem standalone_declarators : ∀ items : List Value, items.all Value.isDeclarator = true →
    Standalone (emitItems .ruby true items)
  | [], _ => standalone_pure
  | v :: rest, h => by
      simp only [List.all_cons, Bool.and_eq_true] at h
      have hv := (writes_declarator h.1).standalone.seq (standalone_declarators rest h.2)
      rwa [seq_assoc] at hv

theorem standalone_declaration : ∀ {v : Value}, v.isDeclaratorList = true →
    Standalone (emitEach .ruby true v)
  | .list items, h => standalone_declarators items h

/-- The initializer of a `for` loop. -/
theorem standalone_init {v : Value} (h : v.isInitializer = true) :
    Standalone (onlyIf v.isPresent <| choose v.isDeclaration (emit .ruby v) do
      require v.requireConstruct
      emit .ruby v
      newline) := by
  cases v with
  | node pos n =>
      cases n with
      | variableDeclaration kind declarations => exact standalone_declaration h
      | _ => exact (writes_emit .ruby (.node pos _) h).standalone
  | scalar s =>
      cases s with
      | null => exact standalone_pure
      | _ => cases h
  | list items => cases h
  | record fields => cases h

/-- **A statement at the top of a program stands alone.** -/
theorem standalone_emit : ∀ {v : Value}, v.isTopLevel = true → Standalone (emit .ruby v)
  | .node pos n, h => by
      cases n with
      | expressionStatement expression => exact (writes_emit .ruby expression h).standalone
      | importDeclaration source => exact (writes_add deleteMarker).standalone
      | breakStatement => exact (writes_add "break").standalone
      | variableDeclaration kind declarations => exact standalone_declaration h
      | returnStatement argument =>
          exact standalone_word "return " rfl
            (((composed_emit .ruby argument).onlyIf _).seq .newline) (endsLine_newline.after _)
      | functionDeclaration id params body =>
          exact standalone_word "def " rfl
            ((composed_emit .ruby id).seq <| (composed_add _).seq <|
              (composed_emitArguments .ruby params).seq <| (composed_add _).seq <|
                (composed_emit .ruby body).seq .newline)
            (((((endsLine_newline.after _).after _).after _).after _).after _)
      | ifStatement test consequent alternate =>
          have hb := enclosed_emitBody .ruby true consequent
          have he := (composed_add "else ").seq <| (composed_emit .ruby alternate).choose
            alternate.isIf (enclosed_emitBody .ruby false alternate).composed
          exact standalone_word "if " rfl
            ((composed_emit .ruby test).seq <| hb.followed alternate.isPresent he)
            ((endsLine_emitBranches hb.endsLine alternate).after _)
      | whileStatement test body =>
          have hb := enclosed_emitBody .ruby false body
          exact (standalone_require _).seq <| standalone_word "while (" rfl
            ((composed_emit .ruby test).seq <| (composed_add _).seq hb.composed)
            ((hb.endsLine.after _).after _)
      | doWhileStatement body test =>
          have hb := enclosed_emitBody .ruby false body
          exact standalone_word "begin" rfl
            (hb.composed.seq <| Composed.trim.seq <| (composed_add _).seq <|
              (composed_emit .ruby test).seq .newline)
            ((((endsLine_newline.after _).after _).after _).after _)
      | forStatement init test update body =>
          have hl := (composed_emitLoopBody .ruby body).seq <|
            ((composed_emit .ruby update).seq .newline).onlyIf update.isPresent
          exact (standalone_init h).seq <| (standalone_require _).seq <|
            ((standalone_require _).onlyIf _).seq <| standalone_word "while (" rfl
              (((composed_emit .ruby test).choose _ (composed_add _)).seq <|
                (composed_add _).seq hl.block)
              (((endsLine_block _).after _).after _)
      | _ => cases h

theorem standalone_emitItems : ∀ items : List Value, items.all Value.isTopLevel = true →
    Standalone (emitItems .ruby false items)
  | [], _ => standalone_pure
  | v :: rest, h => by
      simp only [List.all_cons, Bool.and_eq_true] at h
      exact (standalone_emit h.1).seq <| standalone_pure.seq (standalone_emitItems rest h.2)

/-! ## Programs -/

/-- The program of statements. -/
def programOf (pos : Option Pos) (items : List Value) : Value := .node pos (.program (.list items))

/-- **The text of a program is that of its statements one after the other.** -/
theorem generate_program_cons (pos : Option Pos) {v : Value} {rest : List Value}
    (hv : v.isTopLevel = true) (hrest : rest.all Value.isTopLevel = true) :
    (programOf pos (v :: rest)).generate .ruby =
      do return (← v.generate .ruby) ++ (← (programOf pos rest).generate .ruby) :=
  (standalone_emit hv).text_seq (standalone_emitItems rest hrest)

theorem wholeLines_closedText (lines : List (List Char)) :
    WholeLines (Buffer.closedText lines) := by
  cases lines with
  | nil => exact .inl rfl
  | cons line lines =>
      rw [Buffer.closedText_cons]
      exact .inr (by simp)

/-- The text of a value in Ruby without markers. -/
def unmarkedText (v : Value) : Except Fault (List Char) :=
  (v.generate .ruby).map (withoutMarkers true 0)

/-- Markers are removed statement by statement. -/
theorem unmarkedText_program_cons (pos : Option Pos) {v : Value} {rest : List Value}
    (hv : v.isTopLevel = true) (hrest : rest.all Value.isTopLevel = true) :
    unmarkedText (programOf pos (v :: rest)) =
      do return (← unmarkedText v) ++ (← unmarkedText (programOf pos rest)) := by
  unfold unmarkedText
  rw [generate_program_cons pos hv hrest]
  cases ht : v.generate .ruby with
  | error fault => rfl
  | ok text =>
      obtain ⟨lines, rfl⟩ := (standalone_emit hv).exists_lines ht
      cases (programOf pos rest).generate .ruby with
      | error fault => rfl
      | ok later =>
          exact congrArg Except.ok <| withoutMarkers_append (wholeLines_closedText lines) later
            (Nat.zero_le _) fun _ => rfl

/-- Nothing is left of an import. -/
theorem unmarkedText_of_isImport : ∀ {v : Value}, v.isImport = true → unmarkedText v = .ok []
  | .node _ (.importDeclaration _), _ => by
      have hm : withoutMarkers true 0 (deleteMarker.toList ++ ['\n']) = [] := by decide +kernel
      exact congrArg Except.ok hm

theorem unmarkedText_filter (pos : Option Pos) {items : List Value}
    (h : items.all Value.isTopLevel = true) :
    unmarkedText (programOf pos (items.filter (!·.isImport))) =
      unmarkedText (programOf pos items) := by
  induction items with
  | nil => rfl
  | cons v rest ih =>
      simp only [List.all_cons, Bool.and_eq_true] at h
      obtain ⟨hv, hrest⟩ := h
      rw [unmarkedText_program_cons pos hv hrest, ← ih hrest]
      cases hi : v.isImport with
      | true =>
          rw [List.filter_cons_of_neg (by simp [hi]), unmarkedText_of_isImport hi]
          cases unmarkedText (programOf pos (rest.filter (!·.isImport))) <;> rfl
      | false =>
          have hkept : (rest.filter (!·.isImport)).all Value.isTopLevel = true :=
            List.all_eq_true.mpr fun w hw =>
              List.all_eq_true.mp hrest w (List.mem_of_mem_filter hw)
          rw [List.filter_cons_of_pos (by simp [hi]), unmarkedText_program_cons pos hv hkept]

/-- **Imports leave no trace.** A program whose statements can stand at the top, with imports at any
places among them, is translated with the table for Ruby as the program without these imports. -/
theorem translate_without_imports (pos : Option Pos) {items : List Value}
    (h : items.all Value.isTopLevel = true) :
    Value.translate Table.ruby (.node pos (.program (.list items))) =
      Value.translate Table.ruby (.node pos (.program (.list (items.filter (!·.isImport))))) := by
  obtain ⟨later, hlater⟩ := exists_correct_eq
  have htranslate : ∀ v : Value, v.translate Table.ruby = (unmarkedText v).map later := by
    intro v
    unfold Value.translate unmarkedText
    cases v.generate .ruby with
    | error fault => rfl
    | ok text => exact congrArg Except.ok (hlater text)
  rw [htranslate, htranslate]
  exact congrArg (Except.map later) (unmarkedText_filter pos h).symm

/-- Imports around a method with a bare block in it and before a statement. -/
def importingProgram : List Value :=
  let name (s : String) : Value := .node none (.identifier (.str s))
  let block (body : List Value) : Value := .node none (.blockStatement (.list body))
  let statement : Value := .node none (.expressionStatement (name "x"))
  [.node none (.importDeclaration (.str "a")),
    .node none (.functionDeclaration (name "f") (.list [name "x"]) (block [block [statement]])),
    .node none (.importDeclaration (.str "b")), statement]

theorem translate_without_imports_mixed :
    importingProgram.all Value.isTopLevel = true ∧
      (importingProgram.filter (!·.isImport)).length = 2 ∧
      Value.translate Table.ruby
          (.node none (.program (.list (importingProgram.filter (!·.isImport))))) =
        .ok "def f(x)\n\n    x\n  end\nend\n\nx\n".toList ∧
      Value.translate Table.ruby (.node none (.program (.list importingProgram))) =
        .ok "def f(x)\n\n    x\n  end\nend\n\nx\n".toList := by
  have htext : Value.translate Table.ruby
      (.node none (.program (.list (importingProgram.filter (!·.isImport))))) =
        .ok "def f(x)\n\n    x\n  end\nend\n\nx\n".toList := by decide +kernel
  exact ⟨rfl, rfl, htext, (translate_without_imports none rfl).trans htext⟩

end EstreeEmitter
