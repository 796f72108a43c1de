import EstreeEmitter.Proofs.Text.Blank
import EstreeEmitter.Proofs.Text.Cut
import EstreeEmitter.Proofs.Text.Scan

set_option autoImplicit false

/-! # The shape of a text in lines

The shape of a text says for each of its lines whether it is blank. The shape of a text in two parts
follows from the shapes of the parts, so a part can be replaced by another one of the same shape
(`lineShape_append_congr`). An edit of the pieces of a text that keeps the shape of every piece
keeps the shape of the text. -/

namespace EstreeEmitter.Text

/-- For every line of a text, whether it is blank. -/
def lineShape (cs : List Char) : List Bool := (splitLines cs).map isBlankText

/-- Two shapes one behind the other: the last line of the first goes on with the first line of the
second. -/
def joinShapes : List Bool → List Bool → List Bool
  | [], shape => shape
  | [b], [] => [b]
  | [b], b' :: shape => (b && b') :: shape
  | b :: b' :: rest, shape => b :: joinShapes (b' :: rest) shape

theorem lineShape_ne_nil (cs : List Char) : lineShape cs ≠ [] :=
  fun h => splitOn_ne_nil '\n' cs (List.map_eq_nil_iff.mp h)

theorem lineShape_lineFeed_cons (cs : List Char) :
    lineShape ('\n' :: cs) = true :: lineShape cs := rfl

theorem lineShape_cons {c : Char} (h : c ≠ '\n') (cs : List Char) :
    lineShape (c :: cs) = joinShapes [isBlank c] (lineShape cs) := by
  rw [lineShape, splitLines, splitOn, if_neg (by simpa using h), lineShape, splitLines]
  cases hs : splitOn '\n' cs with
  | nil => exact absurd hs (splitOn_ne_nil '\n' cs)
  | cons line lines => rfl

theorem joinShapes_singleton_assoc (b : Bool) {shape shape' : List Bool} (h : shape ≠ [])
    (h' : shape' ≠ []) :
    joinShapes [b] (joinShapes shape shape') = joinShapes (joinShapes [b] shape) shape' := by
  obtain ⟨x, xs, rfl⟩ := List.exists_cons_of_ne_nil h
  obtain ⟨y, ys, rfl⟩ := List.exists_cons_of_ne_nil h'
  cases xs with
  | nil => simp [joinShapes, Bool.and_assoc]
  | cons x' xs => rfl

/-- The shape of a text in two parts. -/
theorem lineShape_append (cs ds : List Char) :
    lineShape (cs ++ ds) = joinShapes (lineShape cs) (lineShape ds) := by
  induction cs with
  | nil =>
      obtain ⟨b, rest, hb⟩ := List.exists_cons_of_ne_nil (lineShape_ne_nil ds)
      have hn : lineShape [] = [true] := rfl
      rw [List.nil_append, hb, hn, joinShapes, Bool.true_and]
  | cons c cs ih =>
      by_cases hc : c = '\n'
      · subst hc
        obtain ⟨b, rest, hb⟩ := List.exists_cons_of_ne_nil (lineShape_ne_nil cs)
        rw [List.cons_append, lineShape_lineFeed_cons, ih, lineShape_lineFeed_cons, hb, joinShapes]
      · rw [List.cons_append, lineShape_cons hc, ih, lineShape_cons hc,
          joinShapes_singleton_assoc _ (lineShape_ne_nil cs) (lineShape_ne_nil ds)]

/-- Parts of a text may be replaced by parts of the same shape. -/
theorem lineShape_append_congr {cs cs' ds ds' : List Char} (h : lineShape cs = lineShape cs')
    (h' : lineShape ds = lineShape ds') : lineShape (cs ++ ds) = lineShape (cs' ++ ds') := by
  rw [lineShape_append, lineShape_append, h, h']

theorem lineShape_append_left (cs : List Char) {ds ds' : List Char}
    (h : lineShape ds = lineShape ds') : lineShape (cs ++ ds) = lineShape (cs ++ ds') :=
  lineShape_append_congr rfl h

theorem lineShape_of_not_mem {cs : List Char} (h : '\n' ∉ cs) :
    lineShape cs = [isBlankText cs] := by
  rw [lineShape, splitLines, splitOn_of_not_mem h]
  rfl

/-- Two texts on one line that are not blank have the same shape. -/
theorem lineShape_eq_of_not_blank {cs ds : List Char} (hc : '\n' ∉ cs) (hd : '\n' ∉ ds)
    (hc' : isBlankText cs = false) (hd' : isBlankText ds = false) :
    lineShape cs = lineShape ds := by
  rw [lineShape_of_not_mem hc, lineShape_of_not_mem hd, hc', hd']

/-- An edit that keeps the shape of every piece keeps the shape of the text. -/
theorem Cuts.lineShape_paste {α : Type} {Covers : α → List Char → Prop} (write : α → List Char)
    {stretches : List (Stretch α)} {text : List Char} (h : Cuts Covers stretches text)
    (hw : ∀ {piece covered}, Covers piece covered → lineShape (write piece) = lineShape covered) :
    lineShape (paste write stretches) = lineShape text := by
  induction h with
  | nil => rfl
  | @keep c stretches rest h ih =>
      rw [paste_cons, ← List.singleton_append]
      exact lineShape_append_congr rfl ih
  | @found piece covered rest stretches hp h ih =>
      have hpiece : paste write [.found piece] = write piece := by simp [paste]
      rw [paste_cons, hpiece]
      exact lineShape_append_congr (hw hp) ih

/-- An edit of lines that keeps the shape of every line keeps the shape of the text. -/
theorem lineShape_joinWith_map {f : List Char → List Char} (separator : List Char)
    {lines : List (List Char)} (h : ∀ line ∈ lines, lineShape (f line) = lineShape line) :
    lineShape (joinWith separator (lines.map f)) = lineShape (joinWith separator lines) := by
  induction lines with
  | nil => rfl
  | cons line lines ih =>
      have hline := h line List.mem_cons_self
      have hlines := ih fun l hl => h l (List.mem_cons_of_mem _ hl)
      cases lines with
      | nil => exact hline
      | cons next lines =>
          rw [List.map_cons, joinWith_cons _ _ (by simp), joinWith_cons _ _ (by simp)]
          exact lineShape_append_congr (lineShape_append_congr hline rfl) hlines

theorem not_mem_of_mem_splitOn {separator : Char} {cs part : List Char}
    (h : part ∈ splitOn separator cs) : separator ∉ part := by
  fun_induction splitOn separator cs generalizing part with
  | case1 => simp_all
  | case2 c cs hc ih =>
      rcases List.mem_cons.mp h with rfl | h
      · simp
      · exact ih h
  | case3 c cs hc hnil ih => exact absurd hnil (splitOn_ne_nil separator cs)
  | case4 c cs hc first parts hsplit ih =>
      have hne : separator ≠ c := fun he => hc (by rw [he]; exact beq_self_eq_true c)
      rw [hsplit] at ih
      rcases List.mem_cons.mp h with rfl | h
      · simp [hne, ih List.mem_cons_self]
      · exact ih (List.mem_cons_of_mem _ h)

/-- A text has one line more than it has line feeds. -/
theorem length_splitOn (separator : Char) (cs : List Char) :
    (splitOn separator cs).length = cs.count separator + 1 := by
  fun_induction splitOn separator cs with
  | case1 => rfl
  | case2 c cs hc ih => rw [List.length_cons, ih, eq_of_beq hc, List.count_cons_self]
  | case3 c cs hc hnil ih => exact absurd hnil (splitOn_ne_nil separator cs)
  | case4 c cs hc part parts hsplit ih =>
      have hne : c ≠ separator := by simpa using hc
      rw [hsplit] at ih
      rw [List.length_cons, List.count_cons_of_ne hne, ← ih, List.length_cons]

end EstreeEmitter.Text
