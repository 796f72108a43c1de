import EstreeEmitter.Proofs.Reader.Marks

set_option autoImplicit false

/-! # What the `end` lines of a program close

Every body is written as a block with an `end` line, and every construct writes its header before
its body. A block that stands among statements has no header: its `end` closes nothing. So the text
of a program has as many `end` lines as headers and one more for every such block
(`generate_end_lines`), and the lines are balanced just where there is none. -/

namespace EstreeEmitter

open Text Emission

/-! ## Programs with blocks among their statements -/

mutual

/-- The value is a statement; unlike in `Value.isStatement`, a block is one too. -/
def Value.isAnyStatement : Value → Bool
  | .node _ n => n.isAnyStatement
  | _ => false

/-- The construct is a statement or a block. -/
def Node.isAnyStatement : Node → Bool
  | .blockStatement body => body.isAnyStatementList
  | .functionDeclaration id params body =>
    id.isExpression && params.isExpressionList && body.isAnyBlock
  | .ifStatement test consequent alternate =>
    test.isExpression && consequent.isAnyStatement && (alternate.isNull || alternate.isAnyStatement)
  | .whileStatement test body => test.isExpression && body.isAnyStatement
  | .doWhileStatement body test => body.isAnyStatement && test.isExpression
  | .forStatement init test update body =>
    init.isInitializer && test.isOptionalExpression && update.isOptionalExpression &&
      body.isAnyStatement
  | n => n.isStatement

/-- The value is a block. -/
def Value.isAnyBlock : Value → Bool
  | .node _ (.blockStatement body) => body.isAnyStatementList
  | _ => false

/-- The value is a list of statements and blocks. -/
def Value.isAnyStatementList : Value → Bool
  | .list items => areAnyStatements items
  | _ => false

/-- All values are statements or blocks. -/
def areAnyStatements : List Value → Bool
  | [] => true
  | v :: rest => v.isAnyStatement && areAnyStatements rest

end

mutual

/-- The number of blocks that stand among statements, in a statement or a list of them. -/
def Value.bareBlocks : Value → Nat
  | .node _ n => n.bareBlocks
  | .list items => bareBlocksOf items
  | _ => 0

/-- The number of blocks that stand among statements, in a construct that does so itself. -/
def Node.bareBlocks : Node → Nat
  | .blockStatement body => body.bareBlocks + 1
  | .functionDeclaration _ _ body => body.bareBlocksInside
  | .ifStatement _ consequent alternate =>
    consequent.bareBlocksInside + alternate.bareBlocksInside
  | .whileStatement _ body => body.bareBlocksInside
  | .doWhileStatement body _ => body.bareBlocksInside
  | .forStatement _ _ _ body => body.bareBlocksInside
  | _ => 0

/-- The number of blocks that stand among statements, in a body; a block that is the body is none of
them. -/
def Value.bareBlocksInside : Value → Nat
  | .node _ n =>
    match n with
    | .blockStatement body => body.bareBlocks
    | n => n.bareBlocks
  | _ => 0

/-- The number of blocks that stand among statements, in several of them. -/
def bareBlocksOf : List Value → Nat
  | [] => 0
  | v :: rest => v.bareBlocks + bareBlocksOf rest

end

/-! ## Texts at the start of a line -/

/-- The texts of declared variables. -/
def declarationStarts : Value → List (Except Fault (List Char))
  | .list items => items.map declaratorText
  | _ => []

/-- The text of an expression that may be absent. -/
def optionalStarts (v : Value) : List (Except Fault (List Char)) :=
  if v.isPresent then [expressionText .ruby v] else []

/-- The texts of the initializer of a `for` loop. -/
def initStarts : Value → List (Except Fault (List Char))
  | .node _ (.variableDeclaration _ declarations) => declarationStarts declarations
  | v => optionalStarts v

mutual

/-- The texts that a tree gives to the start of a line. All other lines start with a word of the
emitter. -/
def Value.lineStarts : Value → List (Except Fault (List Char))
  | .node _ n => n.lineStarts
  | .list items => lineStartsOf items
  | _ => []

/-- The texts that a construct gives to the start of a line. -/
def Node.lineStarts : Node → List (Except Fault (List Char))
  | .expressionStatement expression => [expressionText .ruby expression]
  | .variableDeclaration _ declarations => declarationStarts declarations
  | .blockStatement body => body.lineStarts
  | .functionDeclaration _ _ body => body.lineStarts
  | .ifStatement _ consequent alternate => consequent.consequentStarts ++ alternate.lineStarts
  | .whileStatement _ body => body.lineStarts
  | .doWhileStatement body _ => body.lineStarts
  | .forStatement init _ update body =>
    initStarts init ++ (body.lineStarts ++ optionalStarts update)
  | _ => []

/-- The texts that the first branch of a choice gives to the start of a line: a bare expression is
handed back, behind a `return`. -/
def Value.consequentStarts : Value → List (Except Fault (List Char))
  | .node _ n =>
    match n with
    | .expressionStatement _ => []
    | n => n.lineStarts
  | _ => []

/-- The texts that several trees give to the start of a line. -/
def lineStartsOf : List Value → List (Except Fault (List Char))
  | [] => []
  | v :: rest => v.lineStarts ++ lineStartsOf rest

end

/-- The text does not start with a keyword. -/
def isPlainStart : Except Fault (List Char) → Bool
  | .ok text => !startsWithKeyword (trimLeft text)
  | .error _ => true

theorem mark?_of_isPlainStart {r : Except Fault (List Char)} (h : isPlainStart r = true)
    (text : List Char) (ht : r = .ok text) : mark? text = none := by
  subst ht
  exact mark?_of_plain (by simpa [isPlainStart] using h)

/-! ## Simple statements -/

/-- A text behind a word of the emitter. -/
theorem exists_of_joined {word text : List Char} {rs : List (Except Fault (List Char))}
    (h : joined (.ok word :: rs) = .ok text) : ∃ rest, text = word ++ rest := by
  rw [joined_cons_of_ok rfl, map_eq_ok_iff] at h
  obtain ⟨rest, -, rfl⟩ := h
  exact ⟨rest, rfl⟩

theorem tallies_expression {v : Value} (he : v.isExpression = true)
    (hl : ∀ leaf ∈ v.leaves, OneLine leaf) (hs : isPlainStart (expressionText .ruby v) = true) :
    Tallies 0 (do emit .ruby v; newline) :=
  (writes_emit .ruby v he).tallies (oneLine_expressionText v he hl) (mark?_of_isPlainStart hs)

theorem tallies_return {v : Value} (he : v.isOptionalExpression = true)
    (hl : ∀ leaf ∈ v.leaves, OneLine leaf) :
    Tallies 0 (do add "return "; onlyIf v.isPresent (emit .ruby v); newline) := by
  have hw := (writes_add "return ").seq (writes_optional he).last
  have ht := hw.tallies (oneLine_returnText he hl) fun text ht => by
    obtain ⟨rest, rfl⟩ := exists_of_joined ht
    have hword : firstWord (trimLeft ("return ".toList ++ rest)) = "return".toList := rfl
    refine mark?_eq_none ?_
    rw [hword]
    decide
  rw [seq_assoc] at ht
  exact ht

theorem tallies_declarators : ∀ items : List Value, items.all Value.isDeclarator = true →
    (∀ leaf ∈ leavesOf items, OneLine leaf) →
    (∀ start ∈ items.map declaratorText, isPlainStart start = true) →
    Tallies 0 (emitItems .ruby true items)
  | [], _, _, _ => tallies_pure
  | v :: rest, hd, hl, hs => by
      simp only [List.all_cons, Bool.and_eq_true] at hd
      simp only [leavesOf, List.forall_mem_append] at hl
      simp only [List.map_cons, List.forall_mem_cons] at hs
      have hv := (writes_declarator hd.1).tallies (oneLine_declaratorText hd.1 hl.1)
        (mark?_of_isPlainStart hs.1)
      have h := hv.seq (tallies_declarators rest hd.2 hl.2 hs.2)
      rw [seq_assoc] at h
      exact h

theorem tallies_declaration {v : Value} (hd : v.isDeclaratorList = true)
    (hl : ∀ leaf ∈ v.leaves, OneLine leaf)
    (hs : ∀ start ∈ declarationStarts v, isPlainStart start = true) :
    Tallies 0 (emitEach .ruby true v) := by
  cases v with
  | list items => exact tallies_declarators items hd hl hs
  | _ => cases hd

theorem tallies_optional {v : Value} (he : v.isOptionalExpression = true)
    (hl : ∀ leaf ∈ v.leaves, OneLine leaf)
    (hs : ∀ start ∈ optionalStarts v, isPlainStart start = true) :
    Tallies 0 (onlyIf v.isPresent do emit .ruby v; newline) := by
  rcases Bool.or_eq_true_iff.mp he with hn | he
  · rw [Value.isPresent, hn]
    exact tallies_pure
  · rw [optionalStarts, isPresent_of_isExpression he] at hs
    rw [isPresent_of_isExpression he]
    exact tallies_expression he hl (hs _ List.mem_cons_self)

theorem tallies_init {v : Value} (hi : v.isInitializer = true)
    (hl : ∀ leaf ∈ v.leaves, OneLine leaf)
    (hs : ∀ start ∈ initStarts v, isPlainStart start = true) :
    Tallies 0 (onlyIf v.isPresent <| choose v.isDeclaration (emit .ruby v) do
      require v.requireConstruct
      emit .ruby v
      newline) := by
  cases v with
  | node pos n =>
      cases n with
      | variableDeclaration kind declarations => exact tallies_declaration hi hl hs
      | _ => exact tallies_expression hi hl (hs _ List.mem_cons_self)
  | scalar s =>
      cases s with
      | null => exact tallies_pure
      | _ => cases hi
  | list items => cases hi
  | record fields => cases hi

/-! ## Constructs with a body -/

/-- A header is known by its first word. -/
theorem mark?_of_joined {word : String} {rs : List (Except Fault (List Char))}
    (h : ∀ rest, firstWord (trimLeft (word.toList ++ rest)) ∈ headerWords) (text : List Char)
    (ht : joined (.ok word.toList :: rs) = .ok text) : mark? text = some .opens := by
  obtain ⟨rest, rfl⟩ := exists_of_joined ht
  exact mark?_of_headerWord (h rest)

theorem tallies_method {id params body : Value} {k : Nat} (pos : Option Pos)
    (hi : id.isExpression = true) (hp : params.isExpressionList = true)
    (hli : ∀ leaf ∈ id.leaves, OneLine leaf) (hlp : ∀ leaf ∈ params.leaves, OneLine leaf)
    (hb : TalliesBody k (emit .ruby body)) :
    Tallies k (emitNode .ruby pos (.functionDeclaration id params body)) := by
  have hw := (writes_add "def ").seq <| (writes_emit .ruby id hi).seq <| (writes_add "(").seq <|
    (writes_emitArguments .ruby params hp).seq <| (writes_add ")").last
  have h := hw.tallies_framed
    (by simp [oneLine_expressionText id hi hli, oneLine_listText params hp hlp])
    (mark?_of_joined fun rest => (by decide : "def".toList ∈ headerWords)) hb talliesEnd_newline
  simp only [seq_assoc] at h
  exact h

theorem tallies_loop {w e : Emission} {test : Except Fault (List Char)} {k : Nat}
    (hw : Writes w test) (ho : OneLine test) (he : TalliesBody k e) :
    Tallies k (do add "while ("; w; add ")"; e) := by
  have h := ((writes_add "while (").seq <| hw.seq <| (writes_add ")").last).tallies_framed
    (by simp [ho])
    (mark?_of_joined fun rest => (by decide : "while".toList ∈ headerWords)) he talliesEnd_pure
  simp only [seq_assoc, seq_pure] at h
  exact h

theorem tallies_lateLoop {body test : Value} {k : Nat} (pos : Option Pos)
    (ht : test.isExpression = true) (hl : ∀ leaf ∈ test.leaves, OneLine leaf)
    (hb : TalliesBody k (emitBody .ruby false body)) :
    Tallies k (emitNode .ruby pos (.doWhileStatement body test)) :=
  (writes_add "begin").tallies_framed (by decide) (fun text h => by cases h; decide) hb
    (talliesEnd_lateTest (writes_emit .ruby test ht) (oneLine_expressionText test ht hl))

/-- The header of a choice. -/
theorem writes_choice {test : Value} (ht : test.isExpression = true) :
    Writes (do add "if "; emit .ruby test)
      (joined [.ok "if ".toList, expressionText .ruby test]) :=
  (writes_add "if ").seq (writes_emit .ruby test ht).last

theorem tallies_choice {test consequent alternate : Value} {m n : Nat} (pos : Option Pos)
    (ht : test.isExpression = true) (hl : ∀ leaf ∈ test.leaves, OneLine leaf)
    (hc : TalliesBody m (emitBody .ruby true consequent))
    (ha : TalliesEnd n (emitBranches alternate)) :
    Tallies (m + n) (emitNode .ruby pos (.ifStatement test consequent alternate)) := by
  have h := (writes_choice ht).tallies_framed (by simp [oneLine_expressionText test ht hl])
    (mark?_of_joined fun rest => (by decide : "if".toList ∈ headerWords)) hc ha
  rw [seq_assoc] at h
  exact h

theorem talliesEnd_choice {test consequent alternate : Value} {m n : Nat} (pos : Option Pos)
    (ht : test.isExpression = true) (hl : ∀ leaf ∈ test.leaves, OneLine leaf)
    (hc : TalliesBody m (emitBody .ruby true consequent))
    (ha : TalliesEnd n (emitBranches alternate)) :
    TalliesEnd (m + n) (emitBranches (.node pos (.ifStatement test consequent alternate))) := by
  have h := (writes_choice ht).talliesEnd_elseIf (by simp [oneLine_expressionText test ht hl])
    hc ha
  simp only [seq_assoc] at h
  exact h

theorem requireConstruct_of_isAnyStatement {v : Value} (h : v.isAnyStatement = true) :
    v.requireConstruct = .ok () := by
  cases v with
  | node pos n => rfl
  | _ => cases h

theorem requireLoopBody_of_isAnyStatement {v : Value} (h : v.isAnyStatement = true) :
    v.requireLoopBody = .ok () := by
  cases v with
  | node pos n =>
      cases n with
      | blockStatement body =>
          cases body with
          | list items => rfl
          | _ => cases h
      | _ => rfl
  | _ => cases h

/-- A `for` loop: its initializer, and a loop with the update at the end of its body. -/
theorem tallies_for {init test update body : Value} {k : Nat} (pos : Option Pos)
    (hi : Tallies 0 (onlyIf init.isPresent <| choose init.isDeclaration (emit .ruby init) do
      require init.requireConstruct
      emit .ruby init
      newline))
    (ht : test.isOptionalExpression = true) (hlt : ∀ leaf ∈ test.leaves, OneLine leaf)
    (hu : update.isOptionalExpression = true)
    (hupdate : Tallies 0 (onlyIf update.isPresent do emit .ruby update; newline))
    (hb : body.isAnyStatement = true) (hbody : Tallies k (emitLoopBody .ruby body)) :
    Tallies k (emitNode .ruby pos (.forStatement init test update body)) := by
  -- the checks before the header go through, since the parts are well formed
  have hrb : require body.requireLoopBody = pure () := by
    rw [requireLoopBody_of_isAnyStatement hb]
    rfl
  have hru := onlyIf_requireConstruct hu
  have hloop := tallies_loop (writes_loopTest ht) (oneLine_loopTest ht hlt)
    (hbody.seq hupdate).block
  have h := hi.seq hloop
  rw [Nat.zero_add] at h
  simp only [emitNode, hrb, hru]
  exact h

/-! ## All statements -/

mutual

/-- Writing a statement closes one construct more than it opens for every block among its
statements. -/
theorem tallies_emit : ∀ v : Value, v.isAnyStatement = true →
    (∀ leaf ∈ v.leaves, OneLine leaf) → (∀ start ∈ v.lineStarts, isPlainStart start = true) →
    Tallies v.bareBlocks (emit .ruby v)
  | .node pos n, hw, hl, hs => tallies_emitNode pos n hw hl hs
  | .scalar _, hw, _, _ | .list _, hw, _, _ | .record _, hw, _, _ => by cases hw

theorem tallies_emitNode (pos : Option Pos) : ∀ n : Node, n.isAnyStatement = true →
    (∀ leaf ∈ n.leaves, OneLine leaf) → (∀ start ∈ n.lineStarts, isPlainStart start = true) →
    Tallies n.bareBlocks (emitNode .ruby pos n)
  | .expressionStatement expression, hw, hl, hs =>
      tallies_expression hw hl (hs _ List.mem_cons_self)
  | .importDeclaration source, _, _, _ =>
      (writes_add _).tallies (by decide) (fun text h => by cases h; decide)
  | .breakStatement, _, _, _ =>
      (writes_add _).tallies (by decide) (fun text h => by cases h; decide)
  | .returnStatement argument, hw, hl, _ => tallies_return hw hl
  | .variableDeclaration kind declarations, hw, hl, hs => tallies_declaration hw hl hs
  | .blockStatement body, hw, hl, hs => (tallies_emitEach body hw hl hs).block.tallies
  | .functionDeclaration id params body, hw, hl, hs => by
      simp only [Node.isAnyStatement, Bool.and_eq_true] at hw
      simp only [Node.leaves, List.forall_mem_append] at hl
      exact tallies_method pos hw.1.1 hw.1.2 hl.1 hl.2.1
        (talliesBody_emit body hw.2 hl.2.2 hs)
  | .ifStatement test consequent alternate, hw, hl, hs => by
      simp only [Node.isAnyStatement, Bool.and_eq_true, Bool.or_eq_true] at hw
      simp only [Node.leaves, List.forall_mem_append] at hl
      simp only [Node.lineStarts, List.forall_mem_append] at hs
      exact tallies_choice pos hw.1.1 hl.1 (talliesBody_consequent consequent hw.1.2 hl.2.1 hs.1)
        (talliesEnd_emitBranches alternate hw.2 hl.2.2 hs.2)
  | .whileStatement test body, hw, hl, hs => by
      simp only [Node.isAnyStatement, Bool.and_eq_true] at hw
      simp only [Node.leaves, List.forall_mem_append] at hl
      have h := tallies_loop (writes_emit .ruby test hw.1) (oneLine_expressionText test hw.1 hl.1)
        (talliesBody_emitBody body hw.2 hl.2 hs)
      simp only [emitNode, requireConstruct_of_isAnyStatement hw.2]
      exact h
  | .doWhileStatement body test, hw, hl, hs => by
      simp only [Node.isAnyStatement, Bool.and_eq_true] at hw
      simp only [Node.leaves, List.forall_mem_append] at hl
      exact tallies_lateLoop pos hw.2 hl.2 (talliesBody_emitBody body hw.1 hl.1 hs)
  | .forStatement init test update body, hw, hl, hs => by
      simp only [Node.isAnyStatement, Bool.and_eq_true] at hw
      simp only [Node.leaves, List.forall_mem_append] at hl
      simp only [Node.lineStarts, List.forall_mem_append] at hs
      exact tallies_for pos (tallies_init hw.1.1.1 hl.1 hs.1) hw.1.1.2 hl.2.1 hw.1.2
        (tallies_optional hw.1.2 hl.2.2.1 hs.2.2) hw.2
        (tallies_emitLoopBody body hw.2 hl.2.2.2 hs.2.1)

/-- The body of a method. -/
theorem talliesBody_emit : ∀ v : Value, v.isAnyBlock = true →
    (∀ leaf ∈ v.leaves, OneLine leaf) → (∀ start ∈ v.lineStarts, isPlainStart start = true) →
    TalliesBody v.bareBlocksInside (emit .ruby v)
  | .node pos n, hw, hl, hs => by
      cases n with
      | blockStatement body => exact (tallies_emitEach body hw hl hs).block
      | _ => cases hw
  | .scalar _, hw, _, _ | .list _, hw, _, _ | .record _, hw, _, _ => by cases hw

/-- The first branch of a choice. -/
theorem talliesBody_consequent : ∀ v : Value, v.isAnyStatement = true →
    (∀ leaf ∈ v.leaves, OneLine leaf) →
    (∀ start ∈ v.consequentStarts, isPlainStart start = true) →
    TalliesBody v.bareBlocksInside (emitBody .ruby true v)
  | .node pos n, hw, hl, hs => by
      cases n with
      | blockStatement body => exact (tallies_emitEach body hw hl hs).block
      | expressionStatement expression =>
          have he : expression.isExpression = true := hw
          exact (tallies_return (Bool.or_eq_true_iff.mpr (Or.inr he)) hl).block
      | _ => exact (tallies_emitNode pos _ hw hl hs).block
  | .scalar _, hw, _, _ | .list _, hw, _, _ | .record _, hw, _, _ => by cases hw

/-- A loop body or a last branch. -/
theorem talliesBody_emitBody : ∀ v : Value, v.isAnyStatement = true →
    (∀ leaf ∈ v.leaves, OneLine leaf) → (∀ start ∈ v.lineStarts, isPlainStart start = true) →
    TalliesBody v.bareBlocksInside (emitBody .ruby false v)
  | .node pos n, hw, hl, hs => by
      cases n with
      | blockStatement body => exact (tallies_emitEach body hw hl hs).block
      | expressionStatement expression =>
          exact (tallies_expression hw hl (hs _ List.mem_cons_self)).block
      | _ => exact (tallies_emitNode pos _ hw hl hs).block
  | .scalar _, hw, _, _ | .list _, hw, _, _ | .record _, hw, _, _ => by cases hw

theorem tallies_emitLoopBody : ∀ v : Value, v.isAnyStatement = true →
    (∀ leaf ∈ v.leaves, OneLine leaf) → (∀ start ∈ v.lineStarts, isPlainStart start = true) →
    Tallies v.bareBlocksInside (emitLoopBody .ruby v)
  | .node pos n, hw, hl, hs => by
      cases n with
      | blockStatement body => exact tallies_emitEach body hw hl hs
      | _ => exact tallies_emitNode pos _ hw hl hs
  | .scalar _, hw, _, _ | .list _, hw, _, _ | .record _, hw, _, _ => by cases hw

theorem talliesEnd_emitBranches : ∀ v : Value, v.isNull = true ∨ v.isAnyStatement = true →
    (∀ leaf ∈ v.leaves, OneLine leaf) → (∀ start ∈ v.lineStarts, isPlainStart start = true) →
    TalliesEnd v.bareBlocksInside (emitBranches v)
  | .node pos n, hw, hl, hs => by
      have hn : n.isAnyStatement = true := hw.resolve_left nofun
      cases n with
      | ifStatement test consequent alternate =>
          simp only [Node.isAnyStatement, Bool.and_eq_true, Bool.or_eq_true] at hn
          simp only [Value.leaves, Node.leaves, List.forall_mem_append] at hl
          simp only [Value.lineStarts, Node.lineStarts, List.forall_mem_append] at hs
          exact talliesEnd_choice pos hn.1.1 hl.1
            (talliesBody_consequent consequent hn.1.2 hl.2.1 hs.1)
            (talliesEnd_emitBranches alternate hn.2 hl.2.2 hs.2)
      | blockStatement body =>
          exact (tallies_emitEach body hn hl hs).block.talliesEnd_otherwise
      | expressionStatement expression =>
          exact (tallies_expression hn hl (hs _ List.mem_cons_self)).block.talliesEnd_otherwise
      | _ => exact (tallies_emitNode pos _ hn hl hs).block.talliesEnd_otherwise
  | .scalar s, hw, _, _ => by
      cases s with
      | null => exact talliesEnd_pure
      | _ => rcases hw with hw | hw <;> cases hw
  | .list _, hw, _, _ | .record _, hw, _, _ => by rcases hw with hw | hw <;> cases hw

theorem tallies_emitEach : ∀ v : Value, v.isAnyStatementList = true →
    (∀ leaf ∈ v.leaves, OneLine leaf) → (∀ start ∈ v.lineStarts, isPlainStart start = true) →
    Tallies v.bareBlocks (emitEach .ruby false v)
  | .list items, hw, hl, hs => tallies_emitItems items hw hl hs
  | .node _ _, hw, _, _ | .scalar _, hw, _, _ | .record _, hw, _, _ => by cases hw

theorem tallies_emitItems : ∀ items : List Value, areAnyStatements items = true →
    (∀ leaf ∈ leavesOf items, OneLine leaf) →
    (∀ start ∈ lineStartsOf items, isPlainStart start = true) →
    Tallies (bareBlocksOf items) (emitItems .ruby false items)
  | [], _, _, _ => tallies_pure
  | v :: rest, hw, hl, hs => by
      simp only [areAnyStatements, Bool.and_eq_true] at hw
      simp only [leavesOf, List.forall_mem_append] at hl
      simp only [lineStartsOf, List.forall_mem_append] at hs
      exact (tallies_emit v hw.1 hl.1 hs.1).seq (tallies_emitItems rest hw.2 hl.2 hs.2)

end

/-! ## The lines of a program -/

/-- There are as many `end` lines as headers, and no front part of the lines has more. -/
def BalancedLines (lines : List (List Char)) : Prop :=
  lines.countP isEndLine = lines.countP isHeaderLine ∧
    ∀ n, (lines.take n).countP isEndLine ≤ (lines.take n).countP isHeaderLine

/-- The lines of a text from an empty buffer, and their marks. -/
theorem Buffer.Grows.splitLines_text {c : Buffer} {marks : List Mark}
    (h : Buffer.fresh.Grows c marks) :
    splitLines c.text = c.lines ∧ c.lines.filterMap mark? = marks := by
  have hopen : c.openLine = [] := by
    rw [h.opens.openLine_eq, h.level_eq]
    rfl
  constructor
  · refine splitOn_joinWith (by simp [Buffer.lines]) fun line hl => ?_
    rcases List.mem_append.mp hl with hl | hl
    · exact h.oneLine (fun _ hm => absurd hm List.not_mem_nil) line (List.mem_reverse.mp hl)
    · rw [List.mem_singleton.mp hl, hopen]
      exact List.not_mem_nil
  · have hm : c.marks = marks := h.marks_eq
    rw [Buffer.lines, hopen, List.filterMap_append, List.filterMap_reverse, ← Buffer.marks, hm]
    exact List.append_nil _

theorem Surplus.countP_lines {k : Nat} {lines : List (List Char)}
    (h : Surplus k (lines.filterMap mark?)) :
    lines.countP isEndLine = lines.countP isHeaderLine + k ∧
      ∀ n, (lines.take n).countP isEndLine ≤ (lines.take n).countP isHeaderLine + k := by
  constructor
  · rw [countP_isEndLine, countP_isHeaderLine]
    exact h.total
  · intro n
    obtain ⟨m, hm⟩ := exists_take_filterMap_mark? lines n
    rw [countP_isEndLine, countP_isHeaderLine, hm]
    exact h.front m

/-- **Every `end` but those of bare blocks closes a construct.** A well-formed program with blocks
among its statements, with its leaves on one line and no keyword where they start one, has a text.
This has as many `end` lines as headers and one more for every block that stands among statements,
and no front part of the lines has more than that. So the lines are balanced where, and only where,
no block stands among statements. -/
theorem generate_end_lines (pos : Option Pos) (items : List Value)
    (hw : areAnyStatements items = true) (hl : ∀ leaf ∈ leavesOf items, OneLine leaf)
    (hs : ∀ start ∈ lineStartsOf items, isPlainStart start = true) :
    ∃ text, Value.generate .ruby (.node pos (.program (.list items))) = .ok text ∧
      (splitLines text).countP isEndLine =
        (splitLines text).countP isHeaderLine + bareBlocksOf items ∧
      (∀ n, ((splitLines text).take n).countP isEndLine ≤
        ((splitLines text).take n).countP isHeaderLine + bareBlocksOf items) ∧
      (BalancedLines (splitLines text) ↔ bareBlocksOf items = 0) := by
  obtain ⟨marks, hsurplus, hrun⟩ := tallies_emitItems items hw hl hs
  obtain ⟨c, hc, hgrows⟩ := hrun Buffer.fresh Buffer.opens_fresh
  obtain ⟨hlines, hmarks⟩ := hgrows.splitLines_text
  have hg : Value.generate .ruby (.node pos (.program (.list items))) = .ok c.text := by
    have he : emit .ruby (.node pos (.program (.list items))) Buffer.fresh = .ok () c := hc
    rw [Value.generate, he]
  obtain ⟨htotal, hfront⟩ := Surplus.countP_lines (hmarks ▸ hsurplus)
  rw [← hlines] at htotal hfront
  refine ⟨c.text, hg, htotal, hfront, fun hbalanced => ?_, fun hnone => ?_⟩
  · have := hbalanced.1
    omega
  · rw [hnone] at htotal hfront
    exact ⟨htotal, hfront⟩

/-- A program of one block. -/
def blockProgram : List Value :=
  let name (s : String) : Value := .node none (.identifier (.str s))
  let block (body : List Value) : Value := .node none (.blockStatement (.list body))
  [block [.node none (.expressionStatement (name "x"))]]

/-- A block by itself has an `end` line that closes nothing. -/
theorem generate_end_lines_bare_block :
    areAnyStatements blockProgram = true ∧ (∀ leaf ∈ leavesOf blockProgram, OneLine leaf) ∧
    (∀ start ∈ lineStartsOf blockProgram, isPlainStart start = true) ∧
    Value.generate .ruby (.node none (.program (.list blockProgram))) =
      .ok "\n  x\nend\n".toList ∧
    ¬BalancedLines (splitLines "\n  x\nend\n".toList) := by
  exact ⟨rfl, by decide, by decide, by decide +kernel, fun h => absurd h.1 (by decide +kernel)⟩

/-- The nested program, with blocks that stand among the statements of a branch and of a block. -/
def nestedBlocks : List Value :=
  let name (s : String) : Value := .node none (.identifier (.str s))
  let block (body : List Value) : Value := .node none (.blockStatement (.list body))
  nestedProgram ++ [.node none (.ifStatement (name "x") (block [block [block []]]) .null)]

/-- Two blocks by themselves leave two `end` lines over. -/
theorem generate_end_lines_nested :
    areAnyStatements nestedBlocks = true ∧ (∀ leaf ∈ leavesOf nestedBlocks, OneLine leaf) ∧
    (∀ start ∈ lineStartsOf nestedBlocks, isPlainStart start = true) ∧
    bareBlocksOf nestedBlocks = 2 ∧
    ∃ text, Value.generate .ruby (.node none (.program (.list nestedBlocks))) = .ok text ∧
      (splitLines text).countP isEndLine = (splitLines text).countP isHeaderLine + 2 ∧
      ¬BalancedLines (splitLines text) := by
  have hl : ∀ leaf ∈ leavesOf nestedBlocks, OneLine leaf := by decide
  have hs : ∀ start ∈ lineStartsOf nestedBlocks, isPlainStart start = true := by decide
  obtain ⟨text, hg, htotal, -, hbalanced⟩ := generate_end_lines none nestedBlocks rfl hl hs
  exact ⟨rfl, hl, hs, rfl, text, hg, htotal, fun h => by cases hbalanced.mp h⟩

end EstreeEmitter
