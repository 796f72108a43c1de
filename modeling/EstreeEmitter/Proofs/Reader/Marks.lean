import EstreeEmitter.Proofs.Buffer.Trim
import EstreeEmitter.Proofs.Reader.Program

set_option autoImplicit false

/-! # Lines that open and close constructs

A line with `def`, `if`, `while` or `begin` in front opens a construct, and an `end` or `end while`
line closes one. The lines of a buffer are followed by these marks alone. Blank lines have none, and
neither the margin of a line nor the blanks at its end matter, so closing a line and taking blank
lines back keep the marks: an emission is known by the marks that it adds (`Tallies`), and of these
it matters by how much the closing ones are in the majority (`Surplus`). -/

namespace EstreeEmitter

open Text

/-! ## Marks -/

/-- What a line does to the constructs that are open. -/
inductive Mark where
  | opens
  | closes
  deriving DecidableEq, Repr

/-- The words that a header starts with. -/
def headerWords : List (List Char) :=
  ["def".toList, "if".toList, "while".toList, "begin".toList]

/-- The text of a line without the blanks around it. -/
def lineText (line : List Char) : List Char := trimRight (trimLeft line)

/-- The line is the header of a construct. -/
def isHeaderLine (line : List Char) : Bool := headerWords.contains (firstWord (lineText line))

/-- The line is `end`, or `end while` with what may follow it. -/
def isEndLine (line : List Char) : Bool :=
  lineText line == "end".toList || (argument? "end while".toList (lineText line)).isSome

/-- The mark of a line. -/
def mark? (line : List Char) : Option Mark :=
  if isHeaderLine line then some .opens else if isEndLine line then some .closes else none

/-! ### What the mark of a line does not depend on -/

theorem trimLeft_trimRight (cs : List Char) :
    trimLeft (trimRight cs) = trimRight (trimLeft cs) := by
  induction cs with
  | nil => rfl
  | cons c cs ih =>
      by_cases hc : isBlank c = true
      · have hl : trimLeft (c :: cs) = trimLeft cs := List.dropWhile_cons_of_pos hc
        rw [hl, ← ih, trimRight]
        cases trimRight cs with
        | nil => simp [hc]
        | cons d ds => exact List.dropWhile_cons_of_pos hc
      · have hl : ∀ ds, trimLeft (c :: ds) = c :: ds := fun ds => List.dropWhile_cons_of_neg hc
        rw [hl, trimRight]
        cases trimRight cs with
        | nil => simpa [hc] using hl []
        | cons d ds => exact hl (d :: ds)

theorem lineText_trimRight (line : List Char) : lineText (trimRight line) = lineText line := by
  rw [lineText, trimLeft_trimRight, trimRight_trimRight, lineText]

theorem lineText_append_of_blank {blanks : List Char} (h : isBlankText blanks = true)
    (text : List Char) : lineText (blanks ++ text) = lineText text := by
  rw [lineText, trimLeft, List.dropWhile_append_of_pos (List.all_eq_true.mp h), lineText, trimLeft]

theorem mark?_eq_of_lineText {line line' : List Char} (h : lineText line = lineText line') :
    mark? line = mark? line' := by
  rw [mark?, mark?, isHeaderLine, isHeaderLine, isEndLine, isEndLine, h]

@[simp] theorem mark?_trimRight (line : List Char) : mark? (trimRight line) = mark? line :=
  mark?_eq_of_lineText (lineText_trimRight line)

@[simp] theorem mark?_lineAt (level : Nat) (text : List Char) :
    mark? (lineAt level text) = mark? text := by
  rw [lineAt, mark?_trimRight]
  exact mark?_eq_of_lineText (lineText_append_of_blank (isBlankText_margin level) text)

theorem mark?_of_blank {line : List Char} (h : isBlankText line = true) : mark? line = none := by
  have hl : lineText line = lineText [] := by
    simpa using lineText_append_of_blank h []
  exact mark?_eq_of_lineText hl

/-! ### The marks of texts -/

theorem firstWord_lineText (line : List Char) :
    firstWord (lineText line) = firstWord (trimLeft line) := firstWord_trimRight _

theorem mark?_of_headerWord {line : List Char} (h : firstWord (trimLeft line) ∈ headerWords) :
    mark? line = some .opens := by
  rw [mark?, isHeaderLine, firstWord_lineText, List.contains_iff_mem.mpr h, if_pos rfl]

/-- An `end` line starts with this word. -/
theorem firstWord_of_isEndLine {line : List Char} (h : isEndLine line = true) :
    firstWord (trimLeft line) = "end".toList := by
  rw [← firstWord_lineText]
  rcases Bool.or_eq_true_iff.mp h with he | he
  · rw [eq_of_beq he]
    rfl
  · unfold argument? at he
    split at he
    · rename_i ht
      rw [ht]
      rfl
    · obtain ⟨rest, hr⟩ := Option.isSome_iff_exists.mp he
      rw [after?_eq_some_iff.mp hr]
      rfl

theorem mark?_eq_none {line : List Char}
    (h : firstWord (trimLeft line) ∉ "end".toList :: headerWords) : mark? line = none := by
  rw [List.mem_cons, not_or] at h
  have hheader : isHeaderLine line = false := by
    rw [isHeaderLine, firstWord_lineText]
    exact Bool.eq_false_iff.mpr fun hc => h.2 (List.contains_iff_mem.mp hc)
  have hend : isEndLine line = false :=
    Bool.eq_false_iff.mpr fun hc => h.1 (firstWord_of_isEndLine hc)
  simp [mark?, hheader, hend]

theorem mark?_of_plain {text : List Char} (h : startsWithKeyword (trimLeft text) = false) :
    mark? text = none := by
  have hsub : "end".toList :: headerWords ⊆ keywords := by decide
  refine mark?_eq_none fun hm => ?_
  rw [startsWithKeyword, List.contains_iff_mem.mpr (hsub hm)] at h
  cases h

theorem mark?_end : mark? "end".toList = some .closes := by decide

theorem mark?_endWhile (test : List Char) :
    mark? ("end while ".toList ++ test) = some .closes := by
  have hw : firstWord (trimLeft ("end while ".toList ++ test)) = "end".toList := rfl
  have ht : lineText ("end while ".toList ++ test) =
      trimRight ("end while".toList ++ ' ' :: test) := rfl
  have hheader : isHeaderLine ("end while ".toList ++ test) = false := by
    rw [isHeaderLine, firstWord_lineText, hw]
    rfl
  have hend : isEndLine ("end while ".toList ++ test) = true := by
    have ha := argument?_trimRight "end while".toList rfl test
    rw [isEndLine, ht, ha]
    exact Bool.or_true _
  simp only [mark?, hheader, hend]
  rfl

/-! ## Surplus -/

/-- The marks close `k` constructs more than they open, and no front part of them closes more. -/
structure Surplus (k : Nat) (marks : List Mark) : Prop where
  total : marks.count .closes = marks.count .opens + k
  front : ∀ n, (marks.take n).count .closes ≤ (marks.take n).count .opens + k

theorem surplus_nil : Surplus 0 [] := ⟨rfl, fun n => by simp⟩

theorem surplus_closes : Surplus 1 [.closes] where
  total := rfl
  front n := by
    cases n with
    | zero => simp
    | succ n => simp

theorem Surplus.append {k k' : Nat} {marks marks' : List Mark} (h : Surplus k marks)
    (h' : Surplus k' marks') : Surplus (k + k') (marks ++ marks') where
  total := by
    rw [List.count_append, List.count_append, h.total, h'.total]
    omega
  front n := by
    have hf := h.front n
    have hf' := h'.front (n - marks.length)
    rw [List.take_append, List.count_append, List.count_append]
    omega

/-- A header makes up for one closing mark behind it. -/
theorem Surplus.opened {k : Nat} {marks : List Mark} (h : Surplus (k + 1) marks) :
    Surplus k (.opens :: marks) where
  total := by
    rw [List.count_cons_of_ne (by decide), List.count_cons_self, h.total]
    omega
  front n := by
    cases n with
    | zero => simp
    | succ n =>
        have hf := h.front n
        rw [List.take_succ_cons, List.count_cons_of_ne (by decide), List.count_cons_self]
        omega

/-! ### Marks and lines -/

theorem isHeaderLine_eq_false_of_isEndLine {line : List Char} (h : isEndLine line = true) :
    isHeaderLine line = false := by
  rw [isHeaderLine, firstWord_lineText, firstWord_of_isEndLine h]
  decide

theorem countP_isEndLine (lines : List (List Char)) :
    lines.countP isEndLine = (lines.filterMap mark?).count .closes := by
  rw [List.count, List.countP_filterMap]
  refine List.countP_congr fun line _ => ?_
  cases he : isEndLine line with
  | true => simp [mark?, he, isHeaderLine_eq_false_of_isEndLine he]
  | false => cases hh : isHeaderLine line <;> simp [mark?, he, hh]

theorem countP_isHeaderLine (lines : List (List Char)) :
    lines.countP isHeaderLine = (lines.filterMap mark?).count .opens := by
  rw [List.count, List.countP_filterMap]
  refine List.countP_congr fun line _ => ?_
  cases hh : isHeaderLine line with
  | true => simp [mark?, hh]
  | false => cases he : isEndLine line <;> simp [mark?, he, hh]

/-- The marks of front lines are front marks. -/
theorem exists_take_filterMap_mark? (lines : List (List Char)) (n : Nat) :
    ∃ m, (lines.take n).filterMap mark? = (lines.filterMap mark?).take m := by
  obtain ⟨rest, hr⟩ := (List.take_prefix n lines).filterMap mark?
  exact ⟨_, by rw [← hr, List.take_left]⟩

/-! ## The marks of a buffer -/

namespace Buffer

/-- The marks of the closed lines in order. -/
def marks (b : Buffer) : List Mark := (b.closed.filterMap mark?).reverse

/-- At the margin of its level, `c` has the closed lines of `b` up to blank ones, and more with the
given marks. -/
structure Grows (b c : Buffer) (marks : List Mark) : Prop where
  opens : c.Opens []
  level_eq : c.level = b.level
  marks_eq : c.marks = b.marks ++ marks
  oneLine : (∀ line ∈ b.closed, '\n' ∉ line) → ∀ line ∈ c.closed, '\n' ∉ line

theorem Grows.trans {b c d : Buffer} {marks marks' : List Mark} (h : b.Grows c marks)
    (h' : c.Grows d marks') : b.Grows d (marks ++ marks') where
  opens := h'.opens
  level_eq := h'.level_eq.trans h.level_eq
  marks_eq := by rw [h'.marks_eq, h.marks_eq, List.append_assoc]
  oneLine hb := h'.oneLine (h.oneLine hb)

theorem grows_self {b : Buffer} (h : b.Opens []) : b.Grows b [] :=
  ⟨h, rfl, (List.append_nil _).symm, id⟩

/-- Text on the open line is not yet on a closed one. -/
theorem Grows.of_add {b c : Buffer} {cs : List Char} {marks : List Mark}
    (h : (b.add cs).Grows c marks) : b.Grows c marks :=
  ⟨h.opens, h.level_eq, h.marks_eq, h.oneLine⟩

theorem not_mem_lineAt {text : List Char} (h : '\n' ∉ text) (level : Nat) :
    '\n' ∉ lineAt level text := by
  intro hm
  rcases List.mem_append.mp ((trimRight_isPrefix _).subset hm) with hm | hm
  · simp [margin] at hm
  · exact h hm

theorem Opens.grows_newline {b : Buffer} {text : List Char} (h : b.Opens text)
    (hn : '\n' ∉ text) : b.Grows b.newline (mark? text).toList := by
  rw [h.newline]
  refine ⟨h.addLines _, rfl, ?_, ?_⟩
  · cases hm : mark? text <;> simp [marks, Buffer.addLines, hm]
  · intro hb line hl
    rcases List.mem_cons.mp hl with rfl | hl
    · exact not_mem_lineAt hn b.level
    · exact hb line hl

theorem Opens.grows_endLine {b : Buffer} (h : b.Opens []) :
    b.Grows (b.addLines [endLine b.level]) [.closes] := by
  have hend := (h.add "end".toList).grows_newline (by decide)
  rw [(h.add _).newline, List.nil_append, mark?_end] at hend
  exact hend.of_add

/-- Taking blank lines back keeps the marks. -/
theorem filterMap_reopen (line : List Char) (before : List (List Char)) :
    ((reopen line before).1 :: (reopen line before).2).filterMap mark? =
      (line :: before).filterMap mark? := by
  obtain ⟨blanks, last, hsplit, hlast, hblanks⟩ := reopen_spec line before
  have hnone : blanks.filterMap mark? = [] :=
    List.filterMap_eq_nil_iff.mpr fun l hl => mark?_of_blank (hblanks l hl)
  rw [hsplit, List.filterMap_append, hnone, List.nil_append, hlast]
  simp [List.filterMap_cons]

theorem not_mem_reopen (line : List Char) (before : List (List Char))
    (h : ∀ l ∈ line :: before, '\n' ∉ l) :
    ∀ l ∈ (reopen line before).1 :: (reopen line before).2, '\n' ∉ l := by
  obtain ⟨blanks, last, hsplit, hlast, -⟩ := reopen_spec line before
  rw [hsplit, List.forall_mem_append, List.forall_mem_cons] at h
  obtain ⟨-, hn, hrest⟩ := h
  rw [List.forall_mem_cons, hlast]
  exact ⟨fun hm => hn ((trimRight_isPrefix last).subset hm), hrest⟩

/-- A new line behind the last line with text, at another level. -/
theorem Opens.grows_trim_newline {b : Buffer} (h : b.Opens []) (level : Nat) :
    ({ b with level } : Buffer).Grows ({ b.trim with level } : Buffer).newline [] := by
  have hblank : isBlankText b.openLine = true := by
    rw [h.openLine_eq, List.append_nil, isBlankText_margin]
  refine ⟨⟨h.indentText_eq, ?_⟩, rfl, ?_, fun hb => ?_⟩
  · rw [List.append_nil]
    exact indentation_eq_margin (b := { b.trim with level }) h.indentText_eq
  · have hr := filterMap_reopen b.openLine b.closed
    rw [List.filterMap_cons_none (mark?_of_blank hblank)] at hr
    rw [List.append_nil, marks, marks, ← hr]
    simp [Buffer.newline, trim, List.filterMap_cons]
  · have hopen : '\n' ∉ b.openLine := by
      rw [h.openLine_eq]
      simp [margin]
    have hr := not_mem_reopen b.openLine b.closed (List.forall_mem_cons.mpr ⟨hopen, hb⟩)
    rw [List.forall_mem_cons] at hr
    exact List.forall_mem_cons.mpr ⟨fun hm => hr.1 ((trimRight_isPrefix _).subset hm), hr.2⟩

end Buffer

namespace Emission

/-! ## Emissions by the marks they add -/

/-- From the margin, the emission adds lines that close `k` constructs more than they open, and
comes back to the margin. -/
def Tallies (k : Nat) (e : Emission) : Prop :=
  ∃ marks, Surplus k marks ∧ ∀ b : Buffer, b.Opens [] → ∃ c, e b = .ok () c ∧ b.Grows c marks

/-- Behind a header on the open line, the emission adds the header, lines that close `k` constructs
more than they open, and an `end` line. -/
def TalliesBody (k : Nat) (e : Emission) : Prop :=
  ∃ marks, Surplus k marks ∧ ∀ (b : Buffer) (header : List Char), b.Opens header → '\n' ∉ header →
    ∃ c, e b = .ok () (c.addLines [endLine c.level]) ∧
      b.Grows c ((mark? header).toList ++ marks)

/-- Behind the `end` line of a body, the emission puts lines in its place that close one construct
and `k` more. -/
def TalliesEnd (k : Nat) (e : Emission) : Prop :=
  ∃ marks, Surplus (k + 1) marks ∧ ∀ b : Buffer, b.Opens [] →
    ∃ c, e (b.addLines [endLine b.level]) = .ok () c ∧ b.Grows c marks

theorem tallies_pure : Tallies 0 (pure ()) :=
  ⟨[], surplus_nil, fun b hb => ⟨b, rfl, Buffer.grows_self hb⟩⟩

theorem Tallies.seq {k k' : Nat} {e e' : Emission} (h : Tallies k e) (h' : Tallies k' e') :
    Tallies (k + k') (do e; e') := by
  obtain ⟨marks, hs, hrun⟩ := h
  obtain ⟨marks', hs', hrun'⟩ := h'
  refine ⟨marks ++ marks', hs.append hs', fun b hb => ?_⟩
  obtain ⟨c, hc, hgrows⟩ := hrun b hb
  obtain ⟨d, hd, hgrows'⟩ := hrun' c hgrows.opens
  exact ⟨d, (seq_of_ok hc).trans hd, hgrows.trans hgrows'⟩

/-- A line of its own without a mark. -/
theorem Writes.tallies {e : Emission} {r : Except Fault (List Char)} (h : Writes e r)
    (ho : OneLine r) (hm : ∀ text, r = .ok text → mark? text = none) :
    Tallies 0 (do e; newline) := by
  obtain ⟨text, ht, hn⟩ := oneLine_iff.mp ho
  refine ⟨[], surplus_nil, fun b hb => ⟨(b.add text).newline, seq_of_ok (h.of_ok ht b), ?_⟩⟩
  have hgrows := (hb.add text).grows_newline hn
  rw [List.nil_append, hm text ht] at hgrows
  exact hgrows.of_add

/-- A block is a body. -/
theorem Tallies.block {k : Nat} {e : Emission} (h : Tallies k e) : TalliesBody k (block e) := by
  obtain ⟨marks, hs, hrun⟩ := h
  refine ⟨marks, hs, fun b header hb hn => ?_⟩
  obtain ⟨c, hc, hgrows⟩ := hrun b.indent.newline hb.indent_newline
  have hheader := hb.grows_newline hn
  -- the body may end with blank lines, which are taken back before the `end` line
  have hback := hgrows.opens.grows_trim_newline b.level
  refine ⟨({ c.trim with level := b.level } : Buffer).newline, ?_, hback.opens, rfl, ?_,
    fun hclosed => hback.oneLine (hgrows.oneLine (hheader.oneLine hclosed))⟩
  · rw [block_of_ok hc hgrows.level_eq, closeBlock, (hback.opens.add _).newline]
    rfl
  · calc ({ c.trim with level := b.level } : Buffer).newline.marks
      _ = c.marks := hback.marks_eq.trans (List.append_nil _)
      _ = b.newline.marks ++ marks := hgrows.marks_eq
      _ = b.marks ++ ((mark? header).toList ++ marks) := by
          rw [hheader.marks_eq, List.append_assoc]

/-- A block by itself has no header: its `end` closes nothing. -/
theorem TalliesBody.tallies {k : Nat} {e : Emission} (h : TalliesBody k e) : Tallies (k + 1) e := by
  obtain ⟨marks, hs, hrun⟩ := h
  refine ⟨marks ++ [.closes], hs.append surplus_closes, fun b hb => ?_⟩
  obtain ⟨c, hc, hgrows⟩ := hrun b [] hb List.not_mem_nil
  exact ⟨_, hc, hgrows.trans hgrows.opens.grows_endLine⟩

/-! ## A header, a body, and what closes it -/

theorem talliesEnd_pure : TalliesEnd 0 (pure ()) :=
  ⟨[.closes], surplus_closes, fun _ hb => ⟨_, rfl, hb.grows_endLine⟩⟩

/-- A method is followed by an empty line. -/
theorem talliesEnd_newline : TalliesEnd 0 newline := by
  refine ⟨[.closes], surplus_closes, fun b hb => ⟨_, newline_run _, ?_⟩⟩
  exact hb.grows_endLine.trans ((hb.addLines _).grows_newline List.not_mem_nil)

/-- A loop with its test behind the body takes the `end` line up again. -/
theorem talliesEnd_lateTest {e : Emission} {r : Except Fault (List Char)} (h : Writes e r)
    (ho : OneLine r) : TalliesEnd 0 (do trim; add " while "; e; newline) := by
  obtain ⟨text, ht, hn⟩ := oneLine_iff.mp ho
  refine ⟨[.closes], surplus_closes, fun b hb =>
    ⟨(b.add ("end while ".toList ++ text)).newline, ?_, ?_⟩⟩
  · have htrim : (b.addLines [endLine b.level]).trim = b.add "end".toList := by
      rw [(hb.addLines _).trim_endLine rfl, Buffer.add, hb.openLine_eq, List.append_nil]
      rfl
    rw [seq_of_ok (trim_run _), htrim, seq_of_ok (add_run _ _), seq_of_ok (h.of_ok ht _),
      newline_run, Buffer.add_add, Buffer.add_add]
    rfl
  · have hgrows := (hb.add ("end while ".toList ++ text)).grows_newline (by simpa using hn)
    rw [List.nil_append, mark?_endWhile] at hgrows
    exact hgrows.of_add

/-- Behind a text on the open line: a header, a body, and what closes it. -/
theorem Writes.grows_framed {h e k : Emission} {r : Except Fault (List Char)} {m n : Nat}
    (hw : Writes h r) (ho : OneLine r) (hb : TalliesBody m e) (hk : TalliesEnd n k) :
    ∃ text marks, r = .ok text ∧ Surplus (m + n + 1) marks ∧
      ∀ (b : Buffer) (lead : List Char), b.Opens lead → '\n' ∉ lead →
        ∃ c, (do h; e; k) b = .ok () c ∧ b.Grows c ((mark? (lead ++ text)).toList ++ marks) := by
  obtain ⟨text, ht, hn⟩ := oneLine_iff.mp ho
  obtain ⟨marks, hs, hbody⟩ := hb
  obtain ⟨marks', hs', hend⟩ := hk
  refine ⟨text, marks ++ marks', ht, hs.append hs', fun b lead hlead hl => ?_⟩
  obtain ⟨c, hc, hgrows⟩ := hbody (b.add text) (lead ++ text) (hlead.add text) (by simp [hl, hn])
  obtain ⟨d, hd, hgrows'⟩ := hend c hgrows.opens
  refine ⟨d, ?_, ?_⟩
  · rw [seq_of_ok (hw.of_ok ht b), seq_of_ok hc, hd]
  · rw [← List.append_assoc]
    exact hgrows.of_add.trans hgrows'

/-- A construct with its header. -/
theorem Writes.tallies_framed {h e k : Emission} {r : Except Fault (List Char)} {m n : Nat}
    (hw : Writes h r) (ho : OneLine r) (hm : ∀ text, r = .ok text → mark? text = some .opens)
    (hb : TalliesBody m e) (hk : TalliesEnd n k) : Tallies (m + n) (do h; e; k) := by
  obtain ⟨text, marks, ht, hs, hrun⟩ := hw.grows_framed ho hb hk
  refine ⟨.opens :: marks, hs.opened, fun b hopens => ?_⟩
  obtain ⟨c, hc, hgrows⟩ := hrun b [] hopens List.not_mem_nil
  rw [List.nil_append, hm text ht] at hgrows
  exact ⟨c, hc, hgrows⟩

/-- In place of an `end` line, an else branch starts at the margin. -/
theorem deleteLines_endLine {e : Emission} {b : Buffer} (hb : b.Opens []) :
    (do deleteLines 1; add "else "; e) (b.addLines [endLine b.level]) =
      e (b.add "else ".toList) := by
  have hself : ({ b.addLines [endLine b.level] with closed := b.closed } : Buffer) = b :=
    hb.addLines_nil
  have hclosed : (b.addLines [endLine b.level]).closed =
      endLine (b.addLines [endLine b.level]).level :: b.closed := rfl
  rw [deleteLines_add_else hclosed, hself]

/-- A last branch. -/
theorem TalliesBody.talliesEnd_otherwise {k : Nat} {e : Emission} (h : TalliesBody k e) :
    TalliesEnd k (do deleteLines 1; add "else "; e) := by
  obtain ⟨marks, hs, hrun⟩ := h
  refine ⟨marks ++ [.closes], hs.append surplus_closes, fun b hb => ?_⟩
  obtain ⟨c, hc, hgrows⟩ := hrun (b.add "else ".toList) _ (hb.add _) (by decide)
  have helse : mark? ([] ++ "else ".toList) = none := by decide
  rw [helse] at hgrows
  exact ⟨_, (deleteLines_endLine hb).trans hc, hgrows.of_add.trans hgrows.opens.grows_endLine⟩

/-- A choice that goes on: its header stands behind `else` and opens nothing. -/
theorem Writes.talliesEnd_elseIf {h e k : Emission} {r : Except Fault (List Char)} {m n : Nat}
    (hw : Writes h r) (ho : OneLine r) (hb : TalliesBody m e) (hk : TalliesEnd n k) :
    TalliesEnd (m + n) (do deleteLines 1; add "else "; h; e; k) := by
  obtain ⟨text, marks, -, hs, hrun⟩ := hw.grows_framed ho hb hk
  refine ⟨marks, hs, fun b hopens => ?_⟩
  obtain ⟨c, hc, hgrows⟩ := hrun (b.add "else ".toList) _ (hopens.add _) (by decide)
  have helse : mark? (([] ++ "else ".toList) ++ text) = none := by
    have hword : firstWord (trimLeft (([] ++ "else ".toList) ++ text)) = "else".toList := rfl
    refine mark?_eq_none ?_
    rw [hword]
    decide
  rw [helse] at hgrows
  exact ⟨c, (deleteLines_endLine hopens).trans hc, hgrows.of_add⟩

end Emission

end EstreeEmitter
