import EstreeEmitter.Proofs.Corrections.Weight
import EstreeEmitter.Proofs.Passes.Weight
import EstreeEmitter.Session

set_option autoImplicit false

/-! # Texts that the corrections leave as they are

A run of all corrections gives a text back exactly when none of them has anything to edit in it: no
edit is undone by a later one. Translated texts are not always of this kind, since a correction can
make a text that an earlier one would have edited. -/

namespace EstreeEmitter

open Text Passes

/-- There is nothing to correct in the text: no pattern of the table matches, no floor call can be
edited, no method calls a parameter, no increment is left to be written out, and what `puts` prints
is in its final form. -/
structure Settled (table : Table) (code : List Char) : Prop where
  noMatch : ∀ c ∈ table, c.count code = 0
  noFloorCall : floorCount code = 0
  noCalledParameter : callableNotes code = []
  noIncrement : incrementCount code = 0
  printed : stringifyPuts code = code

theorem Settled.correct_eq {table : Table} {code : List Char} (h : Settled table code) :
    correct table code = code := by
  have hfloor : floorCalls (table.apply code) = code := by
    rw [Table.apply_of_count_eq_zero h.noMatch, floorCalls_of_floorCount_eq_zero h.noFloorCall]
  have hmarked := markCallable_of_callableNotes_eq_nil h.noCalledParameter
  have hregistry := registerCallable_of_callableNotes_eq_nil h.noCalledParameter
  have hsteps := increments_of_incrementCount_eq_zero h.noIncrement
  simp only [correct, hfloor, hmarked, hregistry, passAllReferences, List.foldl_nil, hsteps,
    h.printed]

/-- With a table whose corrections all make a text lighter, a text that is given back is settled. -/
theorem settled_of_correct_eq {table : Table} (ht : table.all Correction.lightens = true)
    {code : List Char} (h : correct table code = code) : Settled table code := by
  -- the text after each pass, and what the pass takes from its weight
  obtain ⟨tabled, htabled⟩ : ∃ t, t = table.apply code := ⟨_, rfl⟩
  obtain ⟨floored, hfloored⟩ : ∃ t, t = floorCalls tabled := ⟨_, rfl⟩
  obtain ⟨marked, hmarked⟩ : ∃ t, t = markCallable floored := ⟨_, rfl⟩
  obtain ⟨referred, hreferred⟩ : ∃ t, t = passAllReferences (registerCallable floored []) marked :=
    ⟨_, rfl⟩
  obtain ⟨stepped, hstepped⟩ : ∃ t, t = increments referred := ⟨_, rfl⟩
  have hcode : stringifyPuts stepped = code := by
    rw [hstepped, hreferred, hmarked, hfloored, htabled]
    exact h
  have wtable := Table.weight_apply_le ht code
  have wfloor := weight_floorCalls tabled
  have wmark := weight_markCallable floored
  have wrefer := weight_passAllReferences (registerCallable floored []) marked
  have wstep := weight_increments referred
  have wputs := weight_stringifyPuts stepped
  rw [← htabled] at wtable
  rw [← hfloored] at wfloor
  rw [← hmarked] at wmark
  rw [← hreferred] at wrefer
  rw [← hstepped] at wstep
  rw [hcode] at wputs
  -- all weights are the same, so no pass has found anything
  have htable : ∀ c ∈ table, c.count code = 0 :=
    Table.count_eq_zero_of_weight_eq ht (by rw [← htabled]; omega)
  have htabled' : tabled = code := htabled.trans (Table.apply_of_count_eq_zero htable)
  have hfloor : floorCount tabled = 0 := by omega
  have hfloored' : floored = code := by
    rw [hfloored, floorCalls_of_floorCount_eq_zero hfloor, htabled']
  have hmark : callableNotes floored = [] := List.length_eq_zero_iff.mp (by omega)
  have hreferred' : referred = code := by
    rw [hreferred, registerCallable_of_callableNotes_eq_nil hmark, hmarked,
      markCallable_of_callableNotes_eq_nil hmark, hfloored']
    rfl
  have hstep : incrementCount referred = 0 := by omega
  have hstepped' : stepped = code := by
    rw [hstepped, increments_of_incrementCount_eq_zero hstep, hreferred']
  exact ⟨htable, htabled' ▸ hfloor, hfloored' ▸ hmark, hreferred' ▸ hstep, hstepped' ▸ hcode⟩

/-- **When a translated text is left as it is.** Correcting the translation of a tree once more
changes nothing exactly if there is nothing to correct in the translation. -/
theorem correct_translate_eq_iff (v : Value) :
    (v.translate Table.ruby).map (correct Table.ruby) = v.translate Table.ruby ↔
      ∀ text, v.translate Table.ruby = .ok text → Settled Table.ruby text := by
  cases v.translate Table.ruby with
  | error fault => exact ⟨fun _ => nofun, fun _ => rfl⟩
  | ok code =>
      constructor
      · intro h text ht
        cases ht
        exact settled_of_correct_eq Table.lightens_ruby (Except.ok.inj h)
      · intro h
        exact congrArg Except.ok (h code rfl).correct_eq

/-- The statement `Math.abs(Math.max(a, b))`. -/
def absOfMax : Value :=
  let name (s : String) : Value := .node none (.identifier (.str s))
  let call (method : String) (arguments : List Value) : Value :=
    .node none (.callExpression
      (.node none (.memberExpression (name "Math") (name method) (.bool false))) (.list arguments))
  .node none (.program (.list [.node none (.expressionStatement
    (call "abs" [call "max" [name "a", name "b"]]))]))

set_option maxRecDepth 20000 in
/-- Correcting a translation can change it: the pattern for the outer call does not take an argument
with a call in it, and the inner call is edited after that pattern was tried. -/
theorem correct_translate_absOfMax :
    absOfMax.translate Table.ruby = .ok "Math.abs([a, b].max)\n".toList ∧
      correct Table.ruby "Math.abs([a, b].max)\n".toList = "([a, b].max).abs\n".toList ∧
      "([a, b].max).abs\n".toList ≠ "Math.abs([a, b].max)\n".toList := by
  decide +kernel

end EstreeEmitter
