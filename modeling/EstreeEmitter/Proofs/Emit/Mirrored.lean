import EstreeEmitter.Proofs.Reader.Marks

set_option autoImplicit false

/-! # Emissions that go in step

Two emissions go in step if the second one writes the lines of the first one, edited line by line
(`Twins`). An edit that neither fills nor empties a line takes part in everything that the buffer
does: lines are closed, blank lines are taken back and `end` lines are deleted at the same places in
both buffers (`Buffer.Mirrors`). So it is enough to compare the lines one by one. Along the way it
is recorded whether all edited lines have a property (`Buffer.isCalm`). -/

namespace EstreeEmitter

open Text

/-- An edit of single lines, a property of the edited ones, and what the lines are before. -/
structure LineView where
  edit : List Char → List Char
  calm : List Char → Bool
  admits : List Char → Prop

namespace LineView

variable {w : LineView}

/-- At every level, a line with `text` is admitted and becomes one with `text'`, and `clean` says
whether this one has the property. -/
structure Edits (w : LineView) (clean : Bool) (text text' : List Char) : Prop where
  blank_eq : isBlankText text' = isBlankText text
  edit_eq : ∀ level, w.edit (lineAt level text) = lineAt level text'
  calm_eq : ∀ level, w.calm (lineAt level text') = clean
  admits : ∀ level, w.admits (lineAt level text)

/-- An admitted line without blanks at its end, before and after the edit, that the edit neither
fills nor empties. -/
structure Sound (w : LineView) (line : List Char) : Prop where
  trimmed : Trimmed line
  trimmed_edit : Trimmed (w.edit line)
  blank_eq : isBlankText (w.edit line) = isBlankText line
  admits : w.admits line

/-- The edit keeps the lines that stand around statements, and they have the property. -/
structure KeepsFrames (w : LineView) : Prop where
  empty : w.Edits true [] []
  otherwise : w.Edits true "else ".toList "else ".toList
  close : w.Edits true "end".toList "end".toList

theorem Edits.sound {clean : Bool} {text text' : List Char} (h : w.Edits clean text text')
    (level : Nat) : w.Sound (lineAt level text) where
  trimmed := trimRight_trimRight _
  trimmed_edit := by
    rw [h.edit_eq]
    exact trimRight_trimRight _
  blank_eq := by rw [h.edit_eq, isBlankText_lineAt, isBlankText_lineAt, h.blank_eq]
  admits := h.admits level

theorem KeepsFrames.edit_nil (h : w.KeepsFrames) : w.edit [] = [] := h.empty.edit_eq 0

theorem KeepsFrames.calm_nil (h : w.KeepsFrames) : w.calm [] = true := h.empty.calm_eq 0

theorem KeepsFrames.sound_nil (h : w.KeepsFrames) : w.Sound [] := h.empty.sound 0

/-- A blank line has the property. -/
theorem Sound.calm_of_blank (hk : w.KeepsFrames) {line : List Char} (h : w.Sound line)
    (hb : isBlankText line = true) : w.calm (w.edit line) = true := by
  have hnil : w.edit line = [] := by
    rw [← h.trimmed_edit, trimRight_eq_nil_iff, h.blank_eq, hb]
  rw [hnil, hk.calm_nil]

end LineView

namespace Buffer

variable {w : LineView} {b b' c c' d d' : Buffer} {text text' : List Char}

/-! ## Two buffers in step -/

/-- All closed lines have the property. -/
def isCalm (w : LineView) (b : Buffer) : Bool := b.closed.all w.calm

/-- The second buffer has the closed lines of the first one, edited, and both have a text of their
own on the open line. -/
structure Mirrors (w : LineView) (text text' : List Char) (b b' : Buffer) : Prop where
  opens : b.Opens text
  opens' : b'.Opens text'
  level_eq : b'.level = b.level
  closed_eq : b'.closed = b.closed.map w.edit
  sound : ∀ line ∈ b.closed, w.Sound line

/-- From `b` and `b'`, two buffers at the margin of the same level are reached, in step; `clean`
says whether all edited lines on the way have the property. -/
structure Advances (w : LineView) (clean : Bool) (b b' c c' : Buffer) : Prop where
  mirrors : Mirrors w [] [] c c'
  level_eq : c.level = b.level
  isCalm_eq : c'.isCalm w = (b'.isCalm w && clean)

theorem Advances.trans {clean clean' : Bool} (h : Advances w clean b b' c c')
    (h' : Advances w clean' c c' d d') : Advances w (clean && clean') b b' d d' where
  mirrors := h'.mirrors
  level_eq := h'.level_eq.trans h.level_eq
  isCalm_eq := by rw [h'.isCalm_eq, h.isCalm_eq, Bool.and_assoc]

theorem Mirrors.advances_self (h : Mirrors w [] [] b b') : Advances w true b b' b b' :=
  ⟨h, rfl, (Bool.and_true _).symm⟩

theorem Mirrors.add (h : Mirrors w text text' b b') (cs cs' : List Char) :
    Mirrors w (text ++ cs) (text' ++ cs') (b.add cs) (b'.add cs') :=
  ⟨h.opens.add cs, h.opens'.add cs', h.level_eq, h.closed_eq, h.sound⟩

/-- Text on the open line is not yet on a closed one. -/
theorem Advances.of_add {clean : Bool} {cs cs' : List Char}
    (h : Advances w clean (b.add cs) (b'.add cs') c c') : Advances w clean b b' c c' :=
  ⟨h.mirrors, h.level_eq, h.isCalm_eq⟩

/-- Both buffers close a line. -/
theorem Mirrors.newline {clean : Bool} (h : Mirrors w text text' b b')
    (he : w.Edits clean text text') : Advances w clean b b' b.newline b'.newline := by
  rw [h.opens.newline, h.opens'.newline]
  have hedit : w.edit (lineAt b.level text) = lineAt b'.level text' := by
    rw [he.edit_eq, h.level_eq]
  refine ⟨⟨h.opens.addLines _, h.opens'.addLines _, h.level_eq, ?_, ?_⟩, rfl, ?_⟩
  · simp [addLines, h.closed_eq, hedit]
  · exact List.forall_mem_cons.mpr ⟨he.sound b.level, h.sound⟩
  · simp [isCalm, addLines, he.calm_eq, Bool.and_comm]

/-- Both buffers close a header, and the first line of the body starts one level deeper. -/
theorem Mirrors.indent_newline {clean : Bool} (h : Mirrors w text text' b b')
    (he : w.Edits clean text text') : Mirrors w [] [] b.indent.newline b'.indent.newline ∧
      b'.indent.newline.isCalm w = (b'.isCalm w && clean) := by
  have hclose := h.newline he
  refine ⟨⟨h.opens.indent_newline, h.opens'.indent_newline, ?_, hclose.mirrors.closed_eq,
    hclose.mirrors.sound⟩, hclose.isCalm_eq⟩
  show b'.level + 1 = b.level + 1
  rw [h.level_eq]

/-! ## Blank lines taken back -/

theorem reopen_of_blank {line : List Char} (h : isBlankText line = true)
    (lines : List (List Char)) : reopen line lines = reopen [] lines := by
  cases lines with
  | nil => rw [reopen, reopen, trimRight_eq_nil_iff.mpr h, trimRight]
  | cons previous before =>
      rw [reopen, if_pos h]
      rfl

/-- Taking blank lines back does the same to edited lines. -/
theorem reopen_map (hk : w.KeepsFrames) {line : List Char} {lines : List (List Char)}
    (h : ∀ l ∈ line :: lines, w.Sound l) :
    reopen (w.edit line) (lines.map w.edit) =
        (w.edit (reopen line lines).1, (reopen line lines).2.map w.edit) ∧
      (∀ l ∈ (reopen line lines).1 :: (reopen line lines).2, w.Sound l) ∧
      ((reopen line lines).1 :: (reopen line lines).2).all (w.calm ∘ w.edit) =
        (line :: lines).all (w.calm ∘ w.edit) := by
  induction lines generalizing line with
  | nil =>
      have hline := h line List.mem_cons_self
      rw [List.map_nil, reopen, reopen, hline.trimmed, hline.trimmed_edit]
      exact ⟨rfl, h, rfl⟩
  | cons previous before ih =>
      have hline := h line List.mem_cons_self
      rw [List.map_cons, reopen, reopen, hline.blank_eq]
      by_cases hb : isBlankText line = true
      · rw [if_pos hb, if_pos hb]
        obtain ⟨hr, hs, hc⟩ := ih fun l hl => h l (List.mem_cons_of_mem _ hl)
        refine ⟨hr, hs, hc.trans ?_⟩
        rw [List.all_cons (a := line), Function.comp_apply, hline.calm_of_blank hk hb,
          Bool.true_and]
      · rw [if_neg hb, if_neg hb, hline.trimmed, hline.trimmed_edit]
        exact ⟨rfl, h, rfl⟩

/-- Both buffers start a new line behind the last line with text, at another level. -/
theorem Mirrors.trim_newline (hk : w.KeepsFrames) (h : Mirrors w [] [] b b') (level : Nat) :
    Advances w true { b with level } { b' with level } ({ b.trim with level } : Buffer).newline
      ({ b'.trim with level } : Buffer).newline := by
  have hblank : isBlankText b.openLine = true := by
    rw [h.opens.openLine_eq, List.append_nil, isBlankText_margin]
  have hblank' : isBlankText b'.openLine = true := by
    rw [h.opens'.openLine_eq, List.append_nil, isBlankText_margin]
  obtain ⟨hr, hs, hc⟩ := reopen_map hk (List.forall_mem_cons.mpr ⟨hk.sound_nil, h.sound⟩)
  have hfirst := hs _ List.mem_cons_self
  -- the closed lines of both buffers, with the line that was taken up closed again
  have hclosed : ({ b.trim with level } : Buffer).newline.closed =
      (reopen [] b.closed).1 :: (reopen [] b.closed).2 := by
    show trimRight (reopen b.openLine b.closed).1 :: (reopen b.openLine b.closed).2 = _
    rw [reopen_of_blank hblank, hfirst.trimmed]
  have hclosed' : ({ b'.trim with level } : Buffer).newline.closed =
      ((reopen [] b.closed).1 :: (reopen [] b.closed).2).map w.edit := by
    show trimRight (reopen b'.openLine b'.closed).1 :: (reopen b'.openLine b'.closed).2 = _
    rw [reopen_of_blank hblank', h.closed_eq, ← hk.edit_nil, hr, hfirst.trimmed_edit]
    simp [hk.edit_nil]
  refine ⟨⟨⟨h.opens.indentText_eq, ?_⟩, ⟨h.opens'.indentText_eq, ?_⟩, rfl, ?_, ?_⟩, rfl, ?_⟩
  · rw [List.append_nil]
    exact indentation_eq_margin (b := { b.trim with level }) h.opens.indentText_eq
  · rw [List.append_nil]
    exact indentation_eq_margin (b := { b'.trim with level }) h.opens'.indentText_eq
  · rw [hclosed', hclosed]
  · rw [hclosed]
    exact hs
  · rw [isCalm, hclosed', List.all_map, hc, Bool.and_true, isCalm, h.closed_eq, List.all_map,
      List.all_cons, Function.comp_apply, hk.edit_nil, hk.calm_nil, Bool.true_and]

end Buffer

namespace Emission

open Buffer

variable {w : LineView} {e e' : Emission} {clean clean' : Bool}

/-! ## Emissions in step -/

/-- From the margin, both emissions go through in step and come back to the margin. -/
def Twins (w : LineView) (clean : Bool) (e e' : Emission) : Prop :=
  ∀ b b', Mirrors w [] [] b b' →
    ∃ c c', e b = .ok () c ∧ e' b' = .ok () c' ∧ Advances w clean b b' c c'

/-- Behind a header on the open line, both emissions go through in step and end with an `end`
line. -/
def TwinBodies (w : LineView) (clean : Bool) (e e' : Emission) : Prop :=
  ∀ b b' header, Mirrors w header header b b' → w.Edits true header header →
    ∃ c c', e b = .ok () (c.addLines [endLine c.level]) ∧
      e' b' = .ok () (c'.addLines [endLine c'.level]) ∧ Advances w clean b b' c c'

/-- Behind the `end` line of a body, both emissions put other lines in its place, in step. -/
def TwinEnds (w : LineView) (clean : Bool) (e e' : Emission) : Prop :=
  ∀ b b', Mirrors w [] [] b b' →
    ∃ c c', e (b.addLines [endLine b.level]) = .ok () c ∧
      e' (b'.addLines [endLine b'.level]) = .ok () c' ∧ Advances w clean b b' c c'

theorem twins_pure : Twins w true (pure ()) (pure ()) :=
  fun b b' h => ⟨b, b', rfl, rfl, h.advances_self⟩

theorem Twins.seq {f f' : Emission} (h : Twins w clean e e') (h' : Twins w clean' f f') :
    Twins w (clean && clean') (do e; f) (do e'; f') := by
  intro b b' hb
  obtain ⟨c, c', hc, hc', hbc⟩ := h b b' hb
  obtain ⟨d, d', hd, hd', hcd⟩ := h' c c' hbc.mirrors
  exact ⟨d, d', (seq_of_ok hc).trans hd, (seq_of_ok hc').trans hd', hbc.trans hcd⟩

/-- Both write a line of its own. -/
theorem Writes.twins {r r' : Except Fault (List Char)} {text text' : List Char}
    (h : Writes e r) (h' : Writes e' r') (hr : r = .ok text) (hr' : r' = .ok text')
    (he : w.Edits clean text text') : Twins w clean (do e; newline) (do e'; newline) := by
  intro b b' hb
  exact ⟨_, _, seq_of_ok (h.of_ok hr b), seq_of_ok (h'.of_ok hr' b'),
    ((hb.add text text').newline he).of_add⟩

/-- The end line of a body is the same in both buffers. -/
theorem advances_endLine (hk : w.KeepsFrames) {b b' : Buffer} (h : Mirrors w [] [] b b') :
    Advances w true b b' (b.addLines [endLine b.level]) (b'.addLines [endLine b'.level]) := by
  have hend := ((h.add "end".toList "end".toList).newline hk.close).of_add
  rw [(h.opens.add _).newline, (h.opens'.add _).newline, List.nil_append] at hend
  exact hend

/-- A block is a body. -/
theorem Twins.block (hk : w.KeepsFrames) (h : Twins w clean e e') :
    TwinBodies w clean (block e) (block e') := by
  intro b b' header hb he
  obtain ⟨hinner, hcalm⟩ := hb.indent_newline he
  obtain ⟨c, c', hc, hc', hbc⟩ := h _ _ hinner
  -- the lines inside are one level deeper; the level of the header comes back with the `end` line
  have hlevel : c'.level = b'.level + 1 := by
    rw [hbc.mirrors.level_eq, hbc.level_eq, hb.level_eq]
    rfl
  have hback := hbc.mirrors.trim_newline hk b.level
  have hclose : ∀ {d : Buffer} {level : Nat}, ({ d.trim with level } : Buffer).newline.Opens [] →
      closeBlock d level = ({ d.trim with level } : Buffer).newline.addLines [endLine level] := by
    intro d level hd
    rw [closeBlock, (hd.add _).newline]
    rfl
  refine ⟨_, _, ?_, ?_, hback.mirrors, rfl, ?_⟩
  · rw [block_of_ok hc hbc.level_eq, hclose hback.mirrors.opens]
    rfl
  · rw [block_of_ok hc' hlevel, hb.level_eq, hclose hback.mirrors.opens']
    rfl
  · rw [hback.isCalm_eq, Bool.and_true]
    exact hbc.isCalm_eq.trans (by rw [hcalm, Bool.and_true])

/-- A block by itself has a blank line for its header. -/
theorem TwinBodies.twins (hk : w.KeepsFrames) (h : TwinBodies w clean e e') :
    Twins w clean e e' := by
  intro b b' hb
  obtain ⟨c, c', hc, hc', hbc⟩ := h b b' [] hb hk.empty
  have hend := hbc.trans (advances_endLine hk hbc.mirrors)
  rw [Bool.and_true] at hend
  exact ⟨_, _, hc, hc', hend⟩

/-! ## A header, a body, and what closes it -/

theorem twinEnds_pure (hk : w.KeepsFrames) : TwinEnds w true (pure ()) (pure ()) :=
  fun _ _ hb => ⟨_, _, rfl, rfl, advances_endLine hk hb⟩

/-- A method is followed by an empty line. -/
theorem twinEnds_newline (hk : w.KeepsFrames) : TwinEnds w true newline newline := by
  intro b b' hb
  have hend := advances_endLine hk hb
  exact ⟨_, _, newline_run _, newline_run _, hend.trans (hend.mirrors.newline hk.empty)⟩

/-- A loop with its test behind the body takes the `end` line up again. -/
theorem Writes.twinEnds_lateTest {r : Except Fault (List Char)} {text : List Char}
    (h : Writes e r) (hr : r = .ok text)
    (he : w.Edits true ("end while ".toList ++ text) ("end while ".toList ++ text)) :
    TwinEnds w true (do trim; add " while "; e; newline) (do trim; add " while "; e; newline) := by
  have hrun : ∀ {d : Buffer}, d.Opens [] →
      (do trim; add " while "; e; newline) (d.addLines [endLine d.level]) =
        .ok () (d.add ("end while ".toList ++ text)).newline := by
    intro d hd
    have htrim : (d.addLines [endLine d.level]).trim = d.add "end".toList := by
      rw [(hd.addLines _).trim_endLine rfl, Buffer.add, hd.openLine_eq, List.append_nil]
      rfl
    rw [seq_of_ok (trim_run _), htrim, seq_of_ok (add_run _ _), seq_of_ok (h.of_ok hr _),
      newline_run, Buffer.add_add, Buffer.add_add]
    rfl
  intro b b' hb
  exact ⟨_, _, hrun hb.opens, hrun hb.opens', ((hb.add _ _).newline he).of_add⟩

/-- Behind the same text on both open lines: a header, bodies in step, and what closes them. -/
theorem Writes.advances_framed {h k k' : Emission} {r : Except Fault (List Char)}
    {text lead : List Char} (hw : Writes h r) (hr : r = .ok text)
    (he : w.Edits true (lead ++ text) (lead ++ text)) (hb : TwinBodies w clean e e')
    (hk : TwinEnds w clean' k k') {b b' : Buffer} (hlead : Mirrors w lead lead b b') :
    ∃ c c', (do h; e; k) b = .ok () c ∧ (do h; e'; k') b' = .ok () c' ∧
      Advances w (clean && clean') b b' c c' := by
  obtain ⟨c, c', hc, hc', hbc⟩ := hb _ _ _ (hlead.add text text) he
  obtain ⟨d, d', hd, hd', hcd⟩ := hk c c' hbc.mirrors
  refine ⟨d, d', ?_, ?_, hbc.of_add.trans hcd⟩
  · rw [seq_of_ok (hw.of_ok hr b), seq_of_ok hc, hd]
  · rw [seq_of_ok (hw.of_ok hr b'), seq_of_ok hc', hd']

/-- A construct with its header. -/
theorem Writes.twins_framed {h k k' : Emission} {r : Except Fault (List Char)} {text : List Char}
    (hw : Writes h r) (hr : r = .ok text) (he : w.Edits true text text)
    (hb : TwinBodies w clean e e') (hk : TwinEnds w clean' k k') :
    Twins w (clean && clean') (do h; e; k) (do h; e'; k') :=
  fun _ _ hlead => hw.advances_framed hr he hb hk hlead

/-- A last branch. -/
theorem TwinBodies.twinEnds_otherwise (hk : w.KeepsFrames) (h : TwinBodies w clean e e') :
    TwinEnds w clean (do deleteLines 1; add "else "; e) (do deleteLines 1; add "else "; e') := by
  intro b b' hb
  obtain ⟨c, c', hc, hc', hbc⟩ := h _ _ _ (hb.add "else ".toList "else ".toList) hk.otherwise
  have hend := hbc.of_add.trans (advances_endLine hk hbc.mirrors)
  rw [Bool.and_true] at hend
  exact ⟨_, _, (deleteLines_endLine hb.opens).trans hc, (deleteLines_endLine hb.opens').trans hc',
    hend⟩

/-- A choice that goes on. -/
theorem Writes.twinEnds_elseIf {h k k' : Emission} {r : Except Fault (List Char)}
    {text : List Char} (hw : Writes h r) (hr : r = .ok text)
    (he : w.Edits true ("else ".toList ++ text) ("else ".toList ++ text))
    (hb : TwinBodies w clean e e') (hk : TwinEnds w clean' k k') :
    TwinEnds w (clean && clean') (do deleteLines 1; add "else "; h; e; k)
      (do deleteLines 1; add "else "; h; e'; k') := by
  intro b b' hopens
  obtain ⟨c, c', hc, hc', hbc⟩ :=
    hw.advances_framed hr he hb hk (hopens.add "else ".toList "else ".toList)
  exact ⟨c, c', (deleteLines_endLine hopens.opens).trans hc,
    (deleteLines_endLine hopens.opens').trans hc', hbc.of_add⟩

/-! ## Whole texts -/

/-- Two trees that are written in step: the second text is the first one, edited line by line. -/
theorem Twins.generate {v v' : Value} (hk : w.KeepsFrames)
    (h : Twins w clean (emit .ruby v) (emit .ruby v')) :
    ∃ lines, v.generate .ruby = .ok (joinWith ['\n'] lines) ∧
      v'.generate .ruby = .ok (joinWith ['\n'] (lines.map w.edit)) ∧
      (lines.map w.edit).all w.calm = clean ∧ ∀ line ∈ lines, w.admits line := by
  have hfresh : Mirrors w [] [] Buffer.fresh Buffer.fresh :=
    ⟨opens_fresh, opens_fresh, rfl, rfl, fun _ hl => by cases hl⟩
  obtain ⟨c, c', hc, hc', hbc⟩ := h _ _ hfresh
  have hopen : c.openLine = [] := by
    rw [hbc.mirrors.opens.openLine_eq, hbc.level_eq]
    rfl
  have hopen' : c'.openLine = [] := by
    rw [hbc.mirrors.opens'.openLine_eq, hbc.mirrors.level_eq, hbc.level_eq]
    rfl
  have hcalm : c'.closed.all w.calm = clean := hbc.isCalm_eq
  refine ⟨c.closed.reverse ++ [[]], ?_, ?_, ?_, ?_⟩
  · simp only [Value.generate, hc, Buffer.text, Buffer.lines, hopen]
  · simp only [Value.generate, hc', Buffer.text, Buffer.lines, hopen', List.map_append,
      List.map_reverse, ← hbc.mirrors.closed_eq, List.map_singleton, hk.edit_nil]
  · rw [List.map_append, List.map_reverse, ← hbc.mirrors.closed_eq, List.all_append,
      List.all_reverse, hcalm, List.map_singleton, hk.edit_nil]
    simp [hk.calm_nil]
  · intro line hline
    rcases List.mem_append.mp hline with hl | hl
    · exact (hbc.mirrors.sound line (List.mem_reverse.mp hl)).admits
    · rw [List.mem_singleton.mp hl]
      exact hk.sound_nil.admits

end Emission

end EstreeEmitter
