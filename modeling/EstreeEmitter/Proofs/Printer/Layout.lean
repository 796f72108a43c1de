import EstreeEmitter.Proofs.Printer.Statement
import EstreeEmitter.Proofs.Result
import EstreeEmitter.Proofs.Text.Blank

set_option autoImplicit false

/-! # Emissions that lay out lines

The invariant that joins the buffer with the layout is on the open line: a statement starts with the
open line at the margin of its level, and leaves it there (`Prints`). A body starts behind a header
on the open line and ends behind its `end` line (`Encloses`); the header is not blank, so taking
blank lines back stops there at the latest. What follows a body may put other lines in the place of
its `end` (`Closes`), and a header, a body and what follows it make a statement (`Frames`). -/

namespace EstreeEmitter

open Text

/-! ## Laid-out lines -/

/-- The line is empty or one of the texts at some level. -/
def LaidOut (texts : List (List Char)) (line : List Char) : Prop :=
  line = [] ∨ ∃ level, ∃ text ∈ texts, line = lineAt level text

theorem laidOut_lineAt {texts : List (List Char)} {text : List Char} (h : text ∈ texts)
    (level : Nat) : LaidOut texts (lineAt level text) :=
  .inr ⟨level, text, h, rfl⟩

theorem laidOut_of_mem_framed {texts : List (List Char)} {level : Nat} {header line : List Char}
    {body closing : List (List Char)} (hh : header ∈ texts) (hb : ∀ l ∈ body, LaidOut texts l)
    (hc : ∀ l ∈ closing, LaidOut texts l) (h : line ∈ framed level header body closing) :
    LaidOut texts line := by
  simp only [framed, List.cons_append, List.mem_cons, List.mem_append] at h
  rcases h with rfl | h | h
  · exact laidOut_lineAt hh level
  · exact hb line ((List.rdropWhile_prefix isBlankText _).subset h)
  · exact hc line h

theorem laidOut_of_mem_singleton {texts : List (List Char)} {text : List Char} (h : text ∈ texts)
    (level : Nat) : ∀ l ∈ [lineAt level text], LaidOut texts l := by
  intro l hl
  rw [List.mem_singleton.mp hl]
  exact laidOut_lineAt h level

mutual

theorem Statement.laidOut_of_mem_lines (level : Nat) {texts : List (List Char)} :
    ∀ s : Statement, s.texts ⊆ texts → ∀ line ∈ s.lines level, LaidOut texts line
  | .line text, hs, line, h => laidOut_of_mem_singleton (hs List.mem_cons_self) level line h
  | .method signature body, hs, line, h => by
      obtain ⟨hd, he, hb⟩ : _ ∈ texts ∧ _ ∈ texts ∧ textsOf body ⊆ texts := by
        simpa only [Statement.texts, List.cons_subset] using hs
      refine laidOut_of_mem_framed hd (laidOut_of_mem_linesOf (level + 1) body hb)
        (fun l hl => ?_) h
      rcases List.mem_cons.mp hl with rfl | hl
      · exact laidOut_lineAt he level
      · exact .inl (List.mem_singleton.mp hl)
  | .loop test body, hs, line, h => by
      obtain ⟨hd, he, hb⟩ : _ ∈ texts ∧ _ ∈ texts ∧ textsOf body ⊆ texts := by
        simpa only [Statement.texts, List.cons_subset] using hs
      exact laidOut_of_mem_framed hd (laidOut_of_mem_linesOf (level + 1) body hb)
        (laidOut_of_mem_singleton he level) h
  | .lateLoop body test, hs, line, h => by
      obtain ⟨hd, he, hb⟩ : _ ∈ texts ∧ _ ∈ texts ∧ textsOf body ⊆ texts := by
        simpa only [Statement.texts, List.cons_subset] using hs
      exact laidOut_of_mem_framed hd (laidOut_of_mem_linesOf (level + 1) body hb)
        (laidOut_of_mem_singleton he level) h
  | .choice test body others, hs, line, h => by
      obtain ⟨hd, hb, ho⟩ : _ ∈ texts ∧ textsOf body ⊆ texts ∧ others.texts ⊆ texts := by
        simpa only [Statement.texts, List.cons_subset, List.append_subset] using hs
      exact laidOut_of_mem_framed hd (laidOut_of_mem_linesOf (level + 1) body hb)
        (Branches.laidOut_of_mem_lines level others ho) h

theorem Branches.laidOut_of_mem_lines (level : Nat) {texts : List (List Char)} :
    ∀ others : Branches, others.texts ⊆ texts → ∀ line ∈ others.lines level, LaidOut texts line
  | .none, hs, line, h => laidOut_of_mem_singleton (hs List.mem_cons_self) level line h
  | .elseIf test body others, hs, line, h => by
      obtain ⟨hd, hb, ho⟩ : _ ∈ texts ∧ textsOf body ⊆ texts ∧ others.texts ⊆ texts := by
        simpa only [Branches.texts, List.cons_subset, List.append_subset] using hs
      exact laidOut_of_mem_framed hd (laidOut_of_mem_linesOf (level + 1) body hb)
        (Branches.laidOut_of_mem_lines level others ho) h
  | .otherwise body, hs, line, h => by
      obtain ⟨hd, he, hb⟩ : _ ∈ texts ∧ _ ∈ texts ∧ textsOf body ⊆ texts := by
        simpa only [Branches.texts, List.cons_subset] using hs
      exact laidOut_of_mem_framed hd (laidOut_of_mem_linesOf (level + 1) body hb)
        (laidOut_of_mem_singleton he level) h

/-- Every line of statements is empty or one of their texts behind a margin. -/
theorem laidOut_of_mem_linesOf (level : Nat) {texts : List (List Char)} :
    ∀ ss : List Statement, textsOf ss ⊆ texts → ∀ line ∈ linesOf level ss, LaidOut texts line
  | [], _, line, h => by cases h
  | s :: rest, hs, line, h => by
      obtain ⟨hf, hr⟩ := List.append_subset.mp hs
      rcases List.mem_append.mp h with h | h
      · exact Statement.laidOut_of_mem_lines level s hf line h
      · exact laidOut_of_mem_linesOf level rest hr line h

end

/-- The line has no blanks at its end. -/
def Trimmed (line : List Char) : Prop := trimRight line = line

theorem trimmed_of_mem_linesOf {level : Nat} {ss : List Statement} {line : List Char}
    (h : line ∈ linesOf level ss) : Trimmed line := by
  rcases laidOut_of_mem_linesOf level ss (List.Subset.refl _) line h with rfl | ⟨l, text, -, rfl⟩
  · rfl
  · exact trimRight_trimRight _

theorem linesOf_append (level : Nat) (ss ss' : List Statement) :
    linesOf level (ss ++ ss') = linesOf level ss ++ linesOf level ss' := by
  induction ss with
  | nil => rfl
  | cons s rest ih => simp [linesOf, ih]

theorem linesOf_singleton (level : Nat) (s : Statement) : linesOf level [s] = s.lines level := by
  simp [linesOf]

/-! ## The open line -/

namespace Buffer

/-- The open line holds the indentation of the present level and then the given text. -/
structure Opens (b : Buffer) (text : List Char) : Prop where
  indentText_eq : b.indentText = [' ', ' ']
  openLine_eq : b.openLine = margin b.level ++ text

/-- The buffer with more closed lines and its open line back at the margin. -/
def addLines (b : Buffer) (lines : List (List Char)) : Buffer :=
  { b with closed := lines.reverse ++ b.closed, openLine := margin b.level }

theorem indentation_eq_margin {b : Buffer} (h : b.indentText = [' ', ' ']) :
    b.indentation = margin b.level := by
  rw [indentation, margin, h]

theorem opens_fresh : fresh.Opens [] := ⟨rfl, rfl⟩

theorem Opens.add {b : Buffer} {text : List Char} (h : b.Opens text) (cs : List Char) :
    (b.add cs).Opens (text ++ cs) where
  indentText_eq := h.indentText_eq
  openLine_eq := by
    show b.openLine ++ cs = margin b.level ++ (text ++ cs)
    rw [h.openLine_eq, List.append_assoc]

theorem Opens.addLines {b : Buffer} {text : List Char} (h : b.Opens text)
    (lines : List (List Char)) : (b.addLines lines).Opens [] where
  indentText_eq := h.indentText_eq
  openLine_eq := (List.append_nil _).symm

theorem Opens.addLines_nil {b : Buffer} (h : b.Opens []) : b.addLines [] = b := by
  have ho : margin b.level = b.openLine := by rw [h.openLine_eq, List.append_nil]
  simp [Buffer.addLines, ho]

/-- An else branch starts where its `end` line was. -/
theorem Opens.else_of_closed {b : Buffer} (h : b.Opens []) (before : List (List Char)) :
    (({ b with closed := before } : Buffer).add "else ".toList).Opens "else ".toList := by
  have hb : ({ b with closed := before } : Buffer).Opens [] := ⟨h.indentText_eq, h.openLine_eq⟩
  exact hb.add _

theorem addLines_addLines (b : Buffer) (lines lines' : List (List Char)) :
    (b.addLines lines).addLines lines' = b.addLines (lines ++ lines') := by
  simp [addLines]

theorem addLines_add (b : Buffer) (cs : List Char) (lines : List (List Char)) :
    (b.add cs).addLines lines = b.addLines lines := rfl

/-- A new line closes what is on the open line. -/
theorem Opens.newline {b : Buffer} {text : List Char} (h : b.Opens text) :
    b.newline = b.addLines [lineAt b.level text] := by
  simp [Buffer.newline, Buffer.addLines, lineAt, h.openLine_eq,
    indentation_eq_margin h.indentText_eq]

/-- The first line of a body starts one level deeper. -/
theorem Opens.indent_newline {b : Buffer} {text : List Char} (h : b.Opens text) :
    b.indent.newline.Opens [] where
  indentText_eq := h.indentText_eq
  openLine_eq := by
    rw [List.append_nil]
    exact indentation_eq_margin (b := b.indent) h.indentText_eq

/-- Behind blank lines, the latest line with text becomes the open one. -/
theorem reopen_append {line header : List Char} (hl : isBlankText line = true)
    (hh : isBlankText header = false) (lines before : List (List Char)) :
    ∃ x rest, lines.dropWhile isBlankText ++ header :: before = x :: rest ∧
      reopen line (lines ++ header :: before) = (trimRight x, rest) := by
  induction lines generalizing line with
  | nil =>
      refine ⟨header, before, rfl, ?_⟩
      cases before with
      | nil => simp [reopen, hl]
      | cons y ys => simp [reopen, hl, hh]
  | cons y ys ih =>
      -- the open line is blank, so the search goes on with the latest closed one
      rw [List.cons_append, reopen, if_pos hl]
      by_cases hy : isBlankText y = true
      · rw [List.dropWhile_cons_of_pos hy]
        exact ih hy
      · rw [List.dropWhile_cons_of_neg hy]
        refine ⟨y, ys ++ header :: before, rfl, ?_⟩
        obtain ⟨z, zs, hz⟩ : ∃ z zs, ys ++ header :: before = z :: zs := by
          cases ys <;> simp
        rw [hz, reopen, if_neg hy]

theorem trim_of_reopen {b : Buffer} {line : List Char} {before : List (List Char)}
    (h : reopen b.openLine b.closed = (line, before)) :
    b.trim = { b with closed := before, openLine := line } := by
  rw [trim, h]

/-- A line that was reopened is closed as it was. -/
theorem newline_of_trimmed {b : Buffer} (hi : b.indentText = [' ', ' ']) {line : List Char}
    (h : Trimmed line) (before : List (List Char)) :
    ({ b with closed := before, openLine := trimRight line } : Buffer).newline =
      { b with closed := line :: before, openLine := margin b.level } := by
  have hm : b.indentation = margin b.level := indentation_eq_margin hi
  have hl : trimRight (trimRight line) = line := (trimRight_trimRight line).trans h
  show ({ b with closed := trimRight (trimRight line) :: before, openLine := b.indentation } :
    Buffer) = _
  rw [hl, hm]

end Buffer

/-- The line that blank lines are taken back to is trimmed, if all lines are. -/
theorem trimmed_of_dropWhile {lines before rest : List (List Char)} {header line : List Char}
    (hl : ∀ l ∈ lines, Trimmed l) (hh : Trimmed header)
    (h : lines.dropWhile isBlankText ++ header :: before = line :: rest) : Trimmed line := by
  cases hd : lines.dropWhile isBlankText with
  | nil =>
      rw [hd] at h
      cases h
      exact hh
  | cons y ys =>
      rw [hd] at h
      cases h
      have hm : line ∈ lines.dropWhile isBlankText := by
        rw [hd]
        exact List.mem_cons_self
      exact hl line ((List.dropWhile_suffix isBlankText).subset hm)

theorem isBlankText_margin (level : Nat) : isBlankText (margin level) = true := by
  induction level with
  | zero => rfl
  | succ n ih =>
      have hm : margin (n + 1) = [' ', ' '] ++ margin n := by
        simp [margin, List.replicate_succ]
      rw [hm, isBlankText_append, ih]
      rfl

theorem isBlankText_lineAt (level : Nat) (text : List Char) :
    isBlankText (lineAt level text) = isBlankText text := by
  rw [lineAt, isBlankText_trimRight, isBlankText_append, isBlankText_margin, Bool.true_and]

namespace Emission

/-! ## Whole statements -/

/-- From the margin, the emission closes the lines of the given statements and comes back to the
margin; or it stops with the given fault. -/
structure Prints (e : Emission) (r : Except Fault (List Statement)) : Prop where
  of_ok : ∀ {ss : List Statement}, r = .ok ss →
    ∀ b : Buffer, b.Opens [] → e b = .ok () (b.addLines (linesOf b.level ss))
  of_error : ∀ {fault : Fault}, r = .error fault →
    ∀ b : Buffer, b.Opens [] → ∃ c, e b = .error fault c

theorem prints_nil : Prints (pure ()) (.ok []) where
  of_ok h b hb := by
    cases h
    rw [linesOf, hb.addLines_nil]
    rfl
  of_error h := by cases h

/-- Statements after statements. -/
theorem Prints.seq {e e' : Emission} {r r' : Except Fault (List Statement)} (h : Prints e r)
    (h' : Prints e' r') : Prints (do e; e') (do return (← r) ++ (← r')) where
  of_ok hc b hb := by
    simp only [bind_eq_ok_iff, pure_eq_ok_iff] at hc
    obtain ⟨ss, hr, ss', hr', rfl⟩ := hc
    rw [seq_of_ok (h.of_ok hr b hb), h'.of_ok hr' _ (hb.addLines _), linesOf_append]
    exact congrArg _ (Buffer.addLines_addLines b _ _)
  of_error hc b hb := by
    simp only [bind_eq_error_iff, pure_ne_error, and_false, exists_false, or_false] at hc
    rcases hc with hr | ⟨ss, hr, hr'⟩
    · obtain ⟨c, hc⟩ := h.of_error hr b hb
      exact ⟨c, seq_of_error hc⟩
    · rw [seq_of_ok (h.of_ok hr b hb)]
      exact h'.of_error hr' _ (hb.addLines _)

/-- A text on a line of its own is a statement. -/
theorem Writes.line {e : Emission} {r : Except Fault (List Char)} (h : Writes e r) :
    Prints (do e; newline) (do return [.line (← r)]) where
  of_ok hc b hb := by
    simp only [bind_eq_ok_iff, pure_eq_ok_iff] at hc
    obtain ⟨cs, hr, rfl⟩ := hc
    rw [seq_of_ok (h.of_ok hr b), newline_run, (hb.add cs).newline, linesOf_singleton]
    rfl
  of_error hc b hb := by
    simp only [bind_eq_error_iff, pure_ne_error, and_false, exists_false, or_false] at hc
    obtain ⟨cs, hcs⟩ := h.of_error hc b
    exact ⟨b.add cs, seq_of_error hcs⟩

/-! ## Bodies -/

/-- Behind a header on the open line, the emission closes the header, the lines of a body and its
`end`, and comes back to the margin; or it stops with the given fault. -/
structure Encloses (e : Emission) (r : Except Fault (List Statement)) : Prop where
  of_ok : ∀ {ss : List Statement}, r = .ok ss → ∀ (b : Buffer) (header : List Char),
    b.Opens header → isBlankText header = false →
      e b = .ok () (b.addLines
        (framed b.level header (linesOf (b.level + 1) ss) [endLine b.level]))
  of_error : ∀ {fault : Fault}, r = .error fault → ∀ (b : Buffer) (header : List Char),
    b.Opens header → ∃ c, e b = .error fault c

/-- The end of a block takes back the blank lines of its body, but not its header. -/
theorem closeBlock_addLines {b : Buffer} {header : List Char} (hb : b.Opens header)
    (hh : isBlankText header = false) {lines : List (List Char)} (ht : ∀ l ∈ lines, Trimmed l) :
    closeBlock (b.indent.newline.addLines lines) b.level =
      b.addLines (framed b.level header lines [endLine b.level]) := by
  have hline : isBlankText (lineAt b.level header) = false := by
    rw [isBlankText_lineAt, hh]
  -- `x` is the last line with text: one of the body, or the header where the body has none
  obtain ⟨x, rest, hx, hr⟩ := Buffer.reopen_append (isBlankText_margin (b.level + 1)) hline
    lines.reverse b.closed
  have hxt : Trimmed x :=
    trimmed_of_dropWhile (fun l hl => ht l (List.mem_reverse.mp hl)) (trimRight_trimRight _) hx
  have hclosed : (b.indent.newline.addLines lines).closed =
      lines.reverse ++ lineAt b.level header :: b.closed := by
    show lines.reverse ++ trimRight b.openLine :: b.closed = _
    rw [hb.openLine_eq]
    rfl
  have htrim : (b.indent.newline.addLines lines).trim =
      { b.indent.newline.addLines lines with closed := rest, openLine := trimRight x } :=
    Buffer.trim_of_reopen (by rw [hclosed]; exact hr)
  have hopens : ({ b with closed := x :: rest, openLine := margin b.level } : Buffer).Opens [] :=
    ⟨hb.indentText_eq, (List.append_nil _).symm⟩
  have hreverse : (framed b.level header lines [endLine b.level]).reverse ++ b.closed =
      endLine b.level :: x :: rest := by
    rw [← hx]
    simp [framed, dropBlankEnd, List.rdropWhile]
  rw [closeBlock, htrim]
  show ((({ b with closed := rest, openLine := trimRight x } : Buffer).newline.add
    "end".toList).newline) = _
  rw [Buffer.newline_of_trimmed hb.indentText_eq hxt, (hopens.add _).newline, Buffer.addLines_add]
  simp only [Buffer.addLines, hreverse]
  rfl

/-- What is printed one level deeper makes a body. -/
theorem Prints.block {inner : Emission} {r : Except Fault (List Statement)} (h : Prints inner r) :
    Encloses (block inner) r where
  of_ok {ss} hr b header hb hh := by
    rw [block_of_ok (h.of_ok hr _ hb.indent_newline) rfl]
    exact congrArg _ (closeBlock_addLines hb hh (fun _ hl => trimmed_of_mem_linesOf hl))
  of_error {fault} hr b header hb := by
    obtain ⟨c, hc⟩ := h.of_error hr _ hb.indent_newline
    exact ⟨c, block_of_error hc⟩

/-! ## A header, a body, and what closes it -/

/-- Behind the `end` line of a body, the emission puts other lines in its place; or it stops with
the given fault. -/
structure Closes (e : Emission) (closing : Except Fault (Nat → List (List Char))) : Prop where
  of_ok : ∀ {lines : Nat → List (List Char)}, closing = .ok lines →
    ∀ (b : Buffer) (before : List (List Char)), b.Opens [] → b.closed = endLine b.level :: before →
      e b = .ok () (({ b with closed := before } : Buffer).addLines (lines b.level))
  of_error : ∀ {fault : Fault}, closing = .error fault →
    ∀ (b : Buffer) (before : List (List Char)), b.Opens [] → b.closed = endLine b.level :: before →
      ∃ c, e b = .error fault c

theorem closes_pure : Closes (pure ()) (.ok fun level => [endLine level]) where
  of_ok h b before hb hc := by
    cases h
    have ho : margin b.level = b.openLine := by rw [hb.openLine_eq, List.append_nil]
    simp [Buffer.addLines, ho, ← hc]
  of_error h := by cases h

/-- A method is followed by an empty line. -/
theorem closes_newline : Closes newline (.ok fun level => [endLine level, []]) where
  of_ok h b before hb hc := by
    cases h
    have hl : lineAt b.level [] = [] := by
      rw [lineAt, List.append_nil]
      exact trimRight_eq_nil_iff.mpr (isBlankText_margin b.level)
    rw [newline_run, hb.newline, hl]
    simp [Buffer.addLines, hc]
  of_error h := by cases h

/-- The first of three parts that is a fault. -/
def Stops {α β γ : Type} (header : Except Fault α) (body : Except Fault β)
    (closing : Except Fault γ) (fault : Fault) : Prop :=
  header = .error fault ∨ (∃ a, header = .ok a) ∧
    (body = .error fault ∨ (∃ b, body = .ok b) ∧ closing = .error fault)

/-- Three parts that are put together stop with the first fault among them, also after changes of
the outer ones. -/
theorem stops_of_bind {α β γ α' γ' δ : Type} {x : Except Fault α} {body : Except Fault β}
    {y : Except Fault γ} {fault : Fault} (f : α → α') (g : γ → γ') (make : α → β → γ → δ)
    (h : (do return make (← x) (← body) (← y)) = .error fault) :
    Stops (x.map f) body (y.map g) fault := by
  simp only [bind_eq_error_iff, pure_ne_error, and_false, exists_false, or_false] at h
  simp only [Stops, map_eq_error_iff, map_eq_ok_iff]
  rcases h with hx | ⟨a, hx, hs | ⟨ss, hs, hy⟩⟩
  · exact Or.inl hx
  · exact Or.inr ⟨⟨f a, a, hx, rfl⟩, Or.inl hs⟩
  · exact Or.inr ⟨⟨f a, a, hx, rfl⟩, Or.inr ⟨⟨ss, hs⟩, hy⟩⟩

/-- The emission writes a header, a body and what closes it, behind what is on the open line. -/
structure Frames (e : Emission) (header : Except Fault (List Char))
    (body : Except Fault (List Statement)) (closing : Except Fault (Nat → List (List Char))) :
    Prop where
  of_ok : ∀ {text : List Char} {ss : List Statement} {lines : Nat → List (List Char)},
    header = .ok text → body = .ok ss → closing = .ok lines →
      ∀ (b : Buffer) (lead : List Char), b.Opens lead →
        e b = .ok () (b.addLines
          (framed b.level (lead ++ text) (linesOf (b.level + 1) ss) (lines b.level)))
  of_error : ∀ {fault : Fault}, Stops header body closing fault →
    ∀ (b : Buffer) (lead : List Char), b.Opens lead → ∃ c, e b = .error fault c

theorem Writes.frames {w e k : Emission} {header : Except Fault (List Char)}
    {body : Except Fault (List Statement)} {closing : Except Fault (Nat → List (List Char))}
    (hw : Writes w header) (hn : ∀ text, header = .ok text → isBlankText text = false)
    (he : Encloses e body) (hk : Closes k closing) :
    Frames (do w; e; k) header body closing := by
  -- the body ends behind an `end` line, which is what the closing emission starts from
  have hbody : ∀ {text ss}, header = .ok text → body = .ok ss →
      ∀ (b : Buffer) (lead : List Char), b.Opens lead → (do w; e; k) b =
        k (b.addLines (framed b.level (lead ++ text) (linesOf (b.level + 1) ss)
          [endLine b.level])) := by
    intro text ss ht hs b lead hb
    have hblank : isBlankText (lead ++ text) = false := by
      rw [isBlankText_append, hn text ht, Bool.and_false]
    rw [seq_of_ok (hw.of_ok ht b), seq_of_ok (he.of_ok hs _ _ (hb.add text) hblank)]
    rfl
  have hclosed : ∀ (b : Buffer) (text : List Char) (lines : List (List Char)),
      (b.addLines (framed b.level text lines [endLine b.level])).closed =
        endLine b.level :: ((lineAt b.level text :: dropBlankEnd lines).reverse ++ b.closed) := by
    intro b text lines
    simp [Buffer.addLines, framed]
  refine ⟨fun ht hs hc b lead hb => ?_, ?_⟩
  · rw [hbody ht hs b lead hb, hk.of_ok hc _ _ (hb.addLines _) (hclosed b _ _)]
    simp [Buffer.addLines, framed]
  · rintro fault (ht | ⟨⟨text, ht⟩, hs | ⟨⟨ss, hs⟩, hc⟩⟩) b lead hb
    · obtain ⟨cs, hcs⟩ := hw.of_error ht b
      exact ⟨_, seq_of_error hcs⟩
    · obtain ⟨c, hc⟩ := he.of_error hs _ _ (hb.add text)
      exact ⟨c, by rw [seq_of_ok (hw.of_ok ht b), seq_of_error hc]⟩
    · rw [hbody ht hs b lead hb]
      exact hk.of_error hc _ _ (hb.addLines _) (hclosed b _ _)

/-- What is framed is a statement when its lines are framed the same way. -/
theorem Frames.prints {α β : Type} {e : Emission} {x : Except Fault α} {y : Except Fault β}
    {body : Except Fault (List Statement)} (header : α → List Char)
    (lines : β → Nat → List (List Char)) (make : α → List Statement → β → Statement)
    (h : Frames e (x.map header) body (y.map lines))
    (hm : ∀ a ss c level, (make a ss c).lines level =
      framed level (header a) (linesOf (level + 1) ss) (lines c level)) :
    Prints e (do return [make (← x) (← body) (← y)]) where
  of_ok hr b hb := by
    simp only [bind_eq_ok_iff, pure_eq_ok_iff] at hr
    obtain ⟨a, hx, ss, hs, c, hy, rfl⟩ := hr
    rw [h.of_ok (map_eq_ok_iff.mpr ⟨a, hx, rfl⟩) hs (map_eq_ok_iff.mpr ⟨c, hy, rfl⟩) b [] hb,
      linesOf_singleton, hm]
    rfl
  of_error hr b hb :=
    h.of_error (stops_of_bind header lines (fun a ss c => [make a ss c]) hr) b [] hb

end Emission

end EstreeEmitter
