import EstreeEmitter.Proofs.Printer.Layout
import EstreeEmitter.Proofs.Text.Scan

set_option autoImplicit false

/-! # Reading statements back from lines

A reader goes through the lines with a stack of open constructs. A line with `def`, `if`, `while` or
`begin` opens one, `else if` and `else` go on with the next branch of a choice, and `end` and
`end while` close the innermost one; any other line is a statement of its own. A line must stand at
the margin of the constructs that are open.

What can be read back of laid-out statements is their skeleton: a statement without text leaves no
trace, and neither do blanks at the end of a text. -/

namespace EstreeEmitter

open Text

/-! ## Kinds of lines -/

/-- The words that open, continue and close constructs. -/
def keywords : List (List Char) :=
  ["def".toList, "if".toList, "while".toList, "begin".toList, "else".toList, "end".toList]

/-- The word at the front of a text. -/
def firstWord (text : List Char) : List Char := text.takeWhile isWord

/-- The text starts with one of the keywords. -/
def startsWithKeyword (text : List Char) : Bool := keywords.contains (firstWord text)

/-- What a line is for the reader. -/
inductive LineKind where
  | blank
  | simple (text : List Char)
  | method (signature : List Char)
  | loop (test : List Char)
  | lateLoop
  | choice (test : List Char)
  | elseIf (test : List Char)
  | otherwise
  | close
  | closeLate (test : List Char)

/-- What stands behind leading words and a space; nothing when the words are all there is. -/
def argument? (words text : List Char) : Option (List Char) :=
  if text = words then some [] else after? (words ++ [' ']) text

/-- The test of a loop, which stands in parentheses. -/
def loopTest? (text : List Char) : Option (List Char) := do
  let inner ← after? "while (".toList text
  if inner.getLast? = some ')' then some inner.dropLast else none

/-- The kind of a line of a body, from its text behind the margin. -/
def bodyLine? (text : List Char) : Option LineKind :=
  if firstWord text = "def".toList then (argument? "def".toList text).map .method
  else if firstWord text = "if".toList then (argument? "if".toList text).map .choice
  else if firstWord text = "while".toList then (loopTest? text).map .loop
  else if text = "begin".toList then some .lateLoop
  else if startsWithKeyword text then none
  else some (.simple text)

/-- The kind of a line that ends a body, from its text behind the margin. -/
def closingLine? (text : List Char) : Option LineKind :=
  if text = "else".toList then some .otherwise
  else if text = "end".toList then some .close
  else if firstWord text = "else".toList then (argument? "else if".toList text).map .elseIf
  else if firstWord text = "end".toList then (argument? "end while".toList text).map .closeLate
  else none

/-- The kind of a line with `level` constructs open. -/
def lineKind? (level : Nat) (line : List Char) : Option LineKind :=
  if isBlankText line then some .blank
  else
    match after? (margin level) line with
    | some text => bodyLine? text
    | none => (after? (margin (level - 1)) line).bind closingLine?

/-! ## The reader -/

/-- A construct that is open. A choice keeps its branches before the present one, latest first. -/
inductive Frame where
  | method (signature : List Char)
  | loop (test : List Char)
  | lateLoop
  | choice (done : List (List Char × List Statement)) (test : List Char)
  | otherwise (done : List (List Char × List Statement)) (test : List Char) (body : List Statement)

/-- The open constructs, innermost first, each with the statements before it, and the statements of
the innermost body; statements are kept latest first. -/
structure Reader where
  stack : List (Frame × List Statement)
  read : List Statement

/-- A choice from its branches: those before one of them, this one, and those behind it. -/
def chooseAmong : List (List Char × List Statement) → List Char → List Statement → Branches →
    Statement
  | [], test, body, others => .choice test body others
  | (t, b) :: done, test, body, others => chooseAmong done t b (.elseIf test body others)

namespace Reader

/-- The reader inside a new construct. -/
def push (r : Reader) (frame : Frame) : Reader := ⟨(frame, r.read) :: r.stack, []⟩

/-- The construct that an `end` line closes. -/
def close? (body : List Statement) : Frame → Option Statement
  | .method signature => some (.method signature body)
  | .loop test => some (.loop test body)
  | .lateLoop => none
  | .choice done test => some (chooseAmong done test body .none)
  | .otherwise done test first => some (chooseAmong done test first (.otherwise body))

/-- The reader behind a line of the given kind; `none` when the line cannot stand here. -/
def take? : Reader → LineKind → Option Reader
  | r, .blank => some r
  | r, .simple text => some ⟨r.stack, .line text :: r.read⟩
  | r, .method signature => some (r.push (.method signature))
  | r, .loop test => some (r.push (.loop test))
  | r, .lateLoop => some (r.push .lateLoop)
  | r, .choice test => some (r.push (.choice [] test))
  | ⟨(.choice done t, before) :: outer, read⟩, .elseIf test =>
    some ⟨(.choice ((t, read.reverse) :: done) test, before) :: outer, []⟩
  | ⟨(.choice done t, before) :: outer, read⟩, .otherwise =>
    some ⟨(.otherwise done t read.reverse, before) :: outer, []⟩
  | ⟨(frame, before) :: outer, read⟩, .close =>
    (close? read.reverse frame).map fun s => ⟨outer, s :: before⟩
  | ⟨(.lateLoop, before) :: outer, read⟩, .closeLate test =>
    some ⟨outer, .lateLoop read.reverse test :: before⟩
  | _, _ => none

/-- The reader behind a line. -/
def step? (r : Reader) (line : List Char) : Option Reader :=
  (lineKind? r.stack.length line).bind r.take?

/-- The reader behind several lines. -/
def run? (r : Reader) (lines : List (List Char)) : Option Reader := lines.foldlM step? r

end Reader

/-- The statements on lines, when every construct that is opened is closed. -/
def readLines? (lines : List (List Char)) : Option (List Statement) := do
  let r ← Reader.run? ⟨[], []⟩ lines
  if r.stack.isEmpty then some r.read.reverse else none

/-- The statements of a text. -/
def readText? (text : List Char) : Option (List Statement) := readLines? (splitLines text)

/-! ## Skeletons -/

mutual

/-- What can be read back of a statement. -/
def Statement.skeleton : Statement → List Statement
  | .line text => if isBlankText text then [] else [.line (trimRight text)]
  | .method signature body => [.method (trimRight signature) (skeletonOf body)]
  | .loop test body => [.loop test (skeletonOf body)]
  | .lateLoop body test => [.lateLoop (skeletonOf body) (trimRight test)]
  | .choice test body others => [.choice (trimRight test) (skeletonOf body) others.skeleton]

/-- What can be read back of the other branches of a choice. -/
def Branches.skeleton : Branches → Branches
  | .none => .none
  | .elseIf test body others => .elseIf (trimRight test) (skeletonOf body) others.skeleton
  | .otherwise body => .otherwise (skeletonOf body)

/-- What can be read back of statements in order. -/
def skeletonOf : List Statement → List Statement
  | [] => []
  | s :: rest => s.skeleton ++ skeletonOf rest

end

mutual

/-- The texts of the simple statements, inner ones included. -/
def Statement.simpleTexts : Statement → List (List Char)
  | .line text => [text]
  | .method _ body => simpleTextsOf body
  | .loop _ body => simpleTextsOf body
  | .lateLoop body _ => simpleTextsOf body
  | .choice _ body others => simpleTextsOf body ++ others.simpleTexts

/-- The texts of the simple statements in the other branches of a choice. -/
def Branches.simpleTexts : Branches → List (List Char)
  | .none => []
  | .elseIf _ body others => simpleTextsOf body ++ others.simpleTexts
  | .otherwise body => simpleTextsOf body

/-- The texts of the simple statements among several. -/
def simpleTextsOf : List Statement → List (List Char)
  | [] => []
  | s :: rest => s.simpleTexts ++ simpleTextsOf rest

end

/-! ## The kinds of laid-out lines -/

theorem firstWord_trimRight (text : List Char) : firstWord (trimRight text) = firstWord text :=
  takeWhile_isWord_trimRight text

theorem argument?_trimRight (words : List Char) (h : Trimmed words) (arg : List Char) :
    argument? words (trimRight (words ++ ' ' :: arg)) = some (trimRight arg) := by
  by_cases hb : isBlankText arg = true
  · -- the space behind the words is trimmed with the argument
    have hs : isBlankText (' ' :: arg) = true := by
      rw [← List.singleton_append, isBlankText_append, hb]
      rfl
    rw [trimRight_append_of_blank hs, h, argument?, if_pos rfl, trimRight_eq_nil_iff.mpr hb]
  · have hs : trimRight (words ++ ' ' :: arg) = words ++ [' '] ++ trimRight arg := by
      rw [← List.singleton_append, ← List.append_assoc,
        trimRight_append_of_not_blank (by simpa using hb)]
    have hne : words ++ [' '] ++ trimRight arg ≠ words := by simp
    rw [hs, argument?, if_neg hne, after?_append]

theorem bodyLine?_method (signature : List Char) :
    bodyLine? (trimRight ("def ".toList ++ signature)) = some (.method (trimRight signature)) := by
  have hw : firstWord (trimRight ("def ".toList ++ signature)) = "def".toList :=
    firstWord_trimRight _
  have ha : argument? "def".toList (trimRight ("def ".toList ++ signature)) =
      some (trimRight signature) := argument?_trimRight "def".toList rfl signature
  rw [bodyLine?, if_pos hw, ha]
  rfl

theorem bodyLine?_choice (test : List Char) :
    bodyLine? (trimRight ("if ".toList ++ test)) = some (.choice (trimRight test)) := by
  have hw : firstWord (trimRight ("if ".toList ++ test)) = "if".toList := firstWord_trimRight _
  have ha : argument? "if".toList (trimRight ("if ".toList ++ test)) = some (trimRight test) :=
    argument?_trimRight "if".toList rfl test
  rw [bodyLine?, if_neg (by rw [hw]; decide), if_pos hw, ha]
  rfl

theorem bodyLine?_loop (test : List Char) :
    bodyLine? (trimRight ("while (".toList ++ test ++ [')'])) = some (.loop test) := by
  have ht : trimRight ("while (".toList ++ test ++ [')']) =
      "while (".toList ++ (test ++ [')']) := by
    rw [trimRight_append_of_not_blank rfl, List.append_assoc]
    rfl
  have hw : firstWord ("while (".toList ++ (test ++ [')'])) = "while".toList := rfl
  have hl : loopTest? ("while (".toList ++ (test ++ [')'])) = some test := by
    rw [loopTest?, after?_append]
    simp
  rw [ht, bodyLine?, if_neg (by rw [hw]; decide), if_neg (by rw [hw]; decide), if_pos hw, hl]
  rfl

theorem bodyLine?_simple {text : List Char} (h : startsWithKeyword text = false) :
    bodyLine? (trimRight text) = some (.simple (trimRight text)) := by
  have hk : startsWithKeyword (trimRight text) = false := by
    rw [startsWithKeyword, firstWord_trimRight]
    exact h
  -- none of the words that the reader asks for is in front
  have hne : ∀ word ∈ keywords, firstWord (trimRight text) ≠ word := by
    rintro word hw rfl
    rw [startsWithKeyword, List.contains_iff_mem.mpr hw] at hk
    cases hk
  have hbegin : trimRight text ≠ "begin".toList := by
    intro ht
    rw [ht] at hk
    cases hk
  rw [bodyLine?, if_neg (hne _ (by decide)), if_neg (hne _ (by decide)), if_neg (hne _ (by decide)),
    if_neg hbegin, hk]
  rfl

theorem closingLine?_elseIf (test : List Char) :
    closingLine? (trimRight ("else if ".toList ++ test)) = some (.elseIf (trimRight test)) := by
  have hw : firstWord (trimRight ("else if ".toList ++ test)) = "else".toList :=
    firstWord_trimRight _
  have ha : argument? "else if".toList (trimRight ("else if ".toList ++ test)) =
      some (trimRight test) := argument?_trimRight "else if".toList rfl test
  have hne : ∀ word : List Char, argument? "else if".toList word = none →
      trimRight ("else if ".toList ++ test) ≠ word := by
    rintro word hn rfl
    rw [ha] at hn
    cases hn
  rw [closingLine?, if_neg (hne _ rfl), if_neg (hne _ rfl), if_pos hw, ha]
  rfl

theorem closingLine?_closeLate (test : List Char) :
    closingLine? (trimRight ("end while ".toList ++ test)) =
      some (.closeLate (trimRight test)) := by
  have hw : firstWord (trimRight ("end while ".toList ++ test)) = "end".toList :=
    firstWord_trimRight _
  have ha : argument? "end while".toList (trimRight ("end while ".toList ++ test)) =
      some (trimRight test) := argument?_trimRight "end while".toList rfl test
  have hne : ∀ word : List Char, argument? "end while".toList word = none →
      trimRight ("end while ".toList ++ test) ≠ word := by
    rintro word hn rfl
    rw [ha] at hn
    cases hn
  rw [closingLine?, if_neg (hne _ rfl), if_neg (hne _ rfl), if_neg (by rw [hw]; decide), if_pos hw,
    ha]
  rfl

theorem margin_succ (level : Nat) : margin (level + 1) = margin level ++ [' ', ' '] := by
  rw [margin, List.replicate_succ', List.flatten_append]
  rfl

theorem lineAt_of_not_blank (level : Nat) {text : List Char} (h : isBlankText text = false) :
    lineAt level text = margin level ++ trimRight text := trimRight_append_of_not_blank h

theorem lineKind?_blank (level : Nat) {line : List Char} (h : isBlankText line = true) :
    lineKind? level line = some .blank := by
  rw [lineKind?, if_pos h]

theorem lineKind?_lineAt (level : Nat) {text : List Char} (h : isBlankText text = false) :
    lineKind? level (lineAt level text) = bodyLine? (trimRight text) := by
  have hl : ¬isBlankText (lineAt level text) = true := by simp [isBlankText_lineAt, h]
  rw [lineKind?, if_neg hl, lineAt_of_not_blank level h, after?_append]

/-- A word at the margin outside of the innermost construct closes its body. -/
theorem lineKind?_lineAt_outer (level : Nat) {text : List Char} (h : text.head? = some 'e') :
    lineKind? (level + 1) (lineAt level text) = closingLine? (trimRight text) := by
  obtain ⟨rest, rfl⟩ := List.head?_eq_some_iff.mp h
  have hb : isBlankText ('e' :: rest) = false := rfl
  have hl : ¬isBlankText (lineAt level ('e' :: rest)) = true := by simp [isBlankText_lineAt, hb]
  obtain ⟨tail, ht⟩ : ∃ tail, trimRight ('e' :: rest) = 'e' :: tail := by
    rw [trimRight]
    cases trimRight rest with
    | nil => exact ⟨[], rfl⟩
    | cons c cs => exact ⟨c :: cs, rfl⟩
  -- the letter stands where the margin of the body has a space
  have hn : after? (margin (level + 1)) (margin level ++ 'e' :: tail) = none := by
    rw [margin_succ, after?_append_append]
    rfl
  rw [lineKind?, if_neg hl, lineAt_of_not_blank level hb, ht, hn]
  show (after? (margin level) (margin level ++ 'e' :: tail)).bind closingLine? = _
  rw [after?_append]
  rfl

/-! ## Running the reader over laid-out statements -/

namespace Reader

theorem run?_cons (r : Reader) (line : List Char) (lines : List (List Char)) :
    r.run? (line :: lines) = (r.step? line).bind fun next => next.run? lines := rfl

theorem run?_append (r : Reader) (lines lines' : List (List Char)) :
    r.run? (lines ++ lines') = (r.run? lines).bind fun next => next.run? lines' :=
  List.foldlM_append

theorem step?_blank (r : Reader) {line : List Char} (h : isBlankText line = true) :
    r.step? line = some r := by
  rw [step?, lineKind?_blank _ h]
  rfl

theorem run?_blanks (r : Reader) {lines : List (List Char)}
    (h : ∀ line ∈ lines, isBlankText line = true) : r.run? lines = some r := by
  induction lines with
  | nil => rfl
  | cons line lines ih =>
      rw [run?_cons, step?_blank r (h line List.mem_cons_self)]
      exact ih fun l hl => h l (List.mem_cons_of_mem _ hl)

/-- Blank lines at the end of a body do not matter. -/
theorem run?_dropBlankEnd (r : Reader) (lines : List (List Char)) :
    r.run? (dropBlankEnd lines) = r.run? lines := by
  have hsplit : dropBlankEnd lines ++ lines.rtakeWhile isBlankText = lines :=
    List.rdropWhile_append_rtakeWhile
  have hblank : ∀ line ∈ lines.rtakeWhile isBlankText, isBlankText line = true :=
    fun line hl => List.mem_rtakeWhile_imp hl
  conv_rhs => rw [← hsplit, run?_append]
  cases r.run? (dropBlankEnd lines) with
  | none => rfl
  | some next => exact (run?_blanks next hblank).symm

theorem step?_lineAt (r : Reader) {text : List Char} {kind : LineKind}
    (hb : isBlankText text = false) (hk : bodyLine? (trimRight text) = some kind) :
    r.step? (lineAt r.stack.length text) = r.take? kind := by
  rw [step?, lineKind?_lineAt _ hb, hk]
  rfl

theorem step?_lineAt_outer (frame : Frame × List Statement) (outer : List (Frame × List Statement))
    (read : List Statement) {text : List Char} {kind : LineKind} (h : text.head? = some 'e')
    (hk : closingLine? (trimRight text) = some kind) :
    (Reader.mk (frame :: outer) read).step? (lineAt outer.length text) =
      (Reader.mk (frame :: outer) read).take? kind := by
  rw [step?, List.length_cons, lineKind?_lineAt_outer _ h, hk]
  rfl

/-- A header and a body, up to what closes it. -/
theorem run?_framed {r : Reader} {frame : Frame × List Statement}
    {outer : List (Frame × List Statement)} {header : List Char} {body : List Statement}
    (closing : List (List Char))
    (hh : r.step? (lineAt outer.length header) = some ⟨frame :: outer, []⟩)
    (hb : (Reader.mk (frame :: outer) []).run? (linesOf (outer.length + 1) body) =
      some ⟨frame :: outer, (skeletonOf body).reverse ++ []⟩) :
    r.run? (framed outer.length header (linesOf (outer.length + 1) body) closing) =
      (Reader.mk (frame :: outer) (skeletonOf body).reverse).run? closing := by
  rw [framed, List.cons_append, run?_cons, hh, Option.bind_some, run?_append, run?_dropBlankEnd, hb,
    List.append_nil]
  rfl

/-- An `end` line behind a body, and the lines that follow it. -/
theorem run?_endLine (frame : Frame) (before : List Statement)
    (outer : List (Frame × List Statement)) (read : List Statement) (lines : List (List Char)) :
    (Reader.mk ((frame, before) :: outer) read).run? (endLine outer.length :: lines) =
      (close? read.reverse frame).bind fun s => (Reader.mk outer (s :: before)).run? lines := by
  have hk : closingLine? (trimRight "end".toList) = some .close := rfl
  rw [run?_cons, endLine, step?_lineAt_outer (frame, before) outer read rfl hk, take?]
  cases close? read.reverse frame <;> rfl

end Reader

mutual

theorem Statement.run?_lines : ∀ (s : Statement) (r : Reader),
    (∀ text ∈ s.simpleTexts, startsWithKeyword text = false) →
      r.run? (s.lines r.stack.length) = some ⟨r.stack, s.skeleton.reverse ++ r.read⟩
  | .line text, r, h => by
      rw [Statement.lines, Reader.run?_cons, Statement.skeleton]
      by_cases hb : isBlankText text = true
      · rw [Reader.step?_blank r (by rw [isBlankText_lineAt, hb]), if_pos hb]
        rfl
      · have hk := bodyLine?_simple (h text (List.mem_singleton.mpr rfl))
        rw [r.step?_lineAt (by simpa using hb) hk, if_neg hb]
        rfl
  | .method signature body, ⟨outer, read⟩, h => by
      have hh := (Reader.mk outer read).step?_lineAt rfl (bodyLine?_method signature)
      have hb := run?_linesOf body ⟨(.method (trimRight signature), read) :: outer, []⟩ h
      rw [Statement.lines, Reader.run?_framed _ hh hb, Reader.run?_endLine, List.reverse_reverse]
      rfl
  | .loop test body, ⟨outer, read⟩, h => by
      have hh := (Reader.mk outer read).step?_lineAt rfl (bodyLine?_loop test)
      have hb := run?_linesOf body ⟨(.loop test, read) :: outer, []⟩ h
      rw [Statement.lines, Reader.run?_framed _ hh hb, Reader.run?_endLine, List.reverse_reverse]
      rfl
  | .lateLoop body test, ⟨outer, read⟩, h => by
      have hk : bodyLine? (trimRight "begin".toList) = some .lateLoop := rfl
      have hh := (Reader.mk outer read).step?_lineAt rfl hk
      have hb := run?_linesOf body ⟨(.lateLoop, read) :: outer, []⟩ h
      have hc := Reader.step?_lineAt_outer (.lateLoop, read) outer (skeletonOf body).reverse
        rfl (closingLine?_closeLate test)
      rw [Statement.lines, Reader.run?_framed _ hh hb, Reader.run?_cons, hc, Reader.take?,
        List.reverse_reverse]
      rfl
  | .choice test body others, ⟨outer, read⟩, h => by
      rw [Statement.simpleTexts, List.forall_mem_append] at h
      have hh := (Reader.mk outer read).step?_lineAt rfl (bodyLine?_choice test)
      have hb := run?_linesOf body ⟨(.choice [] (trimRight test), read) :: outer, []⟩ h.1
      rw [Statement.lines, Reader.run?_framed _ hh hb, Branches.run?_lines others _ _ _ _ _ h.2,
        List.reverse_reverse]
      rfl

theorem Branches.run?_lines : ∀ (others : Branches) (done : List (List Char × List Statement))
    (test : List Char) (before : List Statement) (outer : List (Frame × List Statement))
    (read : List Statement),
    (∀ text ∈ others.simpleTexts, startsWithKeyword text = false) →
      (Reader.mk ((.choice done test, before) :: outer) read).run? (others.lines outer.length) =
        some ⟨outer, chooseAmong done test read.reverse others.skeleton :: before⟩
  | .none, done, test, before, outer, read, _ => by
      rw [Branches.lines, Reader.run?_endLine]
      rfl
  | .elseIf t body others, done, test, before, outer, read, h => by
      rw [Branches.simpleTexts, List.forall_mem_append] at h
      have hh := Reader.step?_lineAt_outer (.choice done test, before) outer read rfl
        (closingLine?_elseIf t)
      -- the branch that was read joins those before it
      have hb := run?_linesOf body
        ⟨(.choice ((test, read.reverse) :: done) (trimRight t), before) :: outer, []⟩ h.1
      rw [Branches.lines, Reader.run?_framed _ hh hb, Branches.run?_lines others _ _ _ _ _ h.2,
        List.reverse_reverse]
      rfl
  | .otherwise body, done, test, before, outer, read, h => by
      have hk : closingLine? (trimRight "else".toList) = some .otherwise := rfl
      have hh := Reader.step?_lineAt_outer (.choice done test, before) outer read rfl hk
      have hb := run?_linesOf body ⟨(.otherwise done test read.reverse, before) :: outer, []⟩ h
      rw [Branches.lines, Reader.run?_framed _ hh hb, Reader.run?_endLine, List.reverse_reverse]
      rfl

theorem run?_linesOf : ∀ (ss : List Statement) (r : Reader),
    (∀ text ∈ simpleTextsOf ss, startsWithKeyword text = false) →
      r.run? (linesOf r.stack.length ss) = some ⟨r.stack, (skeletonOf ss).reverse ++ r.read⟩
  | [], r, _ => rfl
  | s :: rest, r, h => by
      rw [simpleTextsOf, List.forall_mem_append] at h
      rw [linesOf, Reader.run?_append, Statement.run?_lines s r h.1]
      have hr := run?_linesOf rest ⟨r.stack, s.skeleton.reverse ++ r.read⟩ h.2
      rw [Option.bind_some, hr, skeletonOf]
      simp

end

theorem readLines?_linesOf {ss : List Statement}
    (h : ∀ text ∈ simpleTextsOf ss, startsWithKeyword text = false) :
    readLines? (linesOf 0 ss ++ [[]]) = some (skeletonOf ss) := by
  have hr : Reader.run? ⟨[], []⟩ (linesOf 0 ss) = some ⟨[], (skeletonOf ss).reverse ++ []⟩ :=
    run?_linesOf ss ⟨[], []⟩ h
  have hb : (Reader.mk [] ((skeletonOf ss).reverse ++ [])).run? [[]] =
      some ⟨[], (skeletonOf ss).reverse ++ []⟩ := Reader.run?_blanks _ (by decide)
  rw [readLines?, Reader.run?_append, hr, Option.bind_some, hb]
  simp

/-! ## From lines to a text -/

theorem lineFeed_not_mem_lineAt {text : List Char} (h : '\n' ∉ text) (level : Nat) :
    '\n' ∉ lineAt level text := by
  intro hm
  rw [lineAt, trimRight_eq_rdropWhile] at hm
  rcases List.mem_append.mp ((List.rdropWhile_prefix isBlank _).subset hm) with hm | hm
  · have hs : '\n' ∈ [' ', ' '] := by
      obtain ⟨part, hp, hc⟩ := List.mem_flatten.mp hm
      rwa [List.eq_of_mem_replicate hp] at hc
    exact absurd hs (by decide)
  · exact h hm

/-- The text of laid-out statements gives back what can be read of them. -/
theorem readText?_joinWith {ss : List Statement} (hn : ∀ text ∈ textsOf ss, '\n' ∉ text)
    (hk : ∀ text ∈ simpleTextsOf ss, startsWithKeyword text = false) :
    readText? (joinWith ['\n'] (linesOf 0 ss ++ [[]])) = some (skeletonOf ss) := by
  have hlines : ∀ line ∈ linesOf 0 ss ++ [[]], '\n' ∉ line := by
    intro line hl
    rcases List.mem_append.mp hl with hl | hl
    · rcases laidOut_of_mem_linesOf 0 ss (List.Subset.refl _) line hl with
        rfl | ⟨level, text, ht, rfl⟩
      · simp
      · exact lineFeed_not_mem_lineAt (hn text ht) level
    · simp [List.mem_singleton.mp hl]
  rw [readText?, splitLines, splitOn_joinWith (by simp) hlines, readLines?_linesOf hk]

/-! ## Statements that are read back whole -/

theorem trimmed_of_append {cs ds : List Char} (h : Trimmed (cs ++ ds)) : Trimmed ds := by
  by_cases hb : isBlankText ds = true
  · -- a blank end goes whole, so it is empty where nothing goes
    have ht : trimRight cs = cs ++ ds := by rw [← trimRight_append_of_blank hb, h]
    have hle : (trimRight cs).length ≤ cs.length := by
      rw [trimRight_eq_rdropWhile]
      exact (List.rdropWhile_prefix isBlank _).length_le
    rw [ht, List.length_append] at hle
    have hd : ds = [] := List.eq_nil_of_length_eq_zero (by omega)
    rw [hd]
    rfl
  · rw [Trimmed, trimRight_append_of_not_blank (by simpa using hb)] at h
    exact List.append_cancel_left h

mutual

theorem Statement.skeleton_eq_self : ∀ s : Statement,
    (∀ text ∈ s.texts, text ≠ [] ∧ Trimmed text) → s.skeleton = [s]
  | .line text, h => by
      obtain ⟨hne, ht⟩ := h text (List.mem_singleton.mpr rfl)
      have hb : ¬isBlankText text = true := by
        rw [← trimRight_eq_nil_iff, ht]
        exact hne
      rw [Statement.skeleton, if_neg hb, ht]
  | .method signature body, h => by
      simp only [Statement.texts, List.forall_mem_cons] at h
      rw [Statement.skeleton, trimmed_of_append h.1.2, skeletonOf_eq_self body h.2.2]
  | .loop test body, h => by
      simp only [Statement.texts, List.forall_mem_cons] at h
      rw [Statement.skeleton, skeletonOf_eq_self body h.2.2]
  | .lateLoop body test, h => by
      simp only [Statement.texts, List.forall_mem_cons] at h
      rw [Statement.skeleton, trimmed_of_append h.2.1.2, skeletonOf_eq_self body h.2.2]
  | .choice test body others, h => by
      simp only [Statement.texts, List.forall_mem_cons, List.forall_mem_append] at h
      rw [Statement.skeleton, trimmed_of_append h.1.2, skeletonOf_eq_self body h.2.1,
        Branches.skeleton_eq_self others h.2.2]

theorem Branches.skeleton_eq_self : ∀ others : Branches,
    (∀ text ∈ others.texts, text ≠ [] ∧ Trimmed text) → others.skeleton = others
  | .none, _ => rfl
  | .elseIf test body others, h => by
      simp only [Branches.texts, List.forall_mem_cons, List.forall_mem_append] at h
      rw [Branches.skeleton, trimmed_of_append h.1.2, skeletonOf_eq_self body h.2.1,
        Branches.skeleton_eq_self others h.2.2]
  | .otherwise body, h => by
      simp only [Branches.texts, List.forall_mem_cons] at h
      rw [Branches.skeleton, skeletonOf_eq_self body h.2.2]

/-- Statements that all have texts without blank ends are their own skeleton. -/
theorem skeletonOf_eq_self : ∀ ss : List Statement,
    (∀ text ∈ textsOf ss, text ≠ [] ∧ Trimmed text) → skeletonOf ss = ss
  | [], _ => rfl
  | s :: rest, h => by
      simp only [textsOf, List.forall_mem_append] at h
      rw [skeletonOf, Statement.skeleton_eq_self s h.1, skeletonOf_eq_self rest h.2]
      rfl

end

end EstreeEmitter
