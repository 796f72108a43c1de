import EstreeEmitter.Proofs.Text.Cut
import EstreeEmitter.Text.Case
import Mathlib.Algebra.BigOperators.Group.List.Basic
import Mathlib.Tactic.Ring

set_option autoImplicit false

/-! # The weight of a text

Every character has a weight, the same for a letter in both cases. The weights are chosen so that
each correction of a text makes it lighter, and turning printed operands into texts leaves the
weight as it is: a run of corrections that gives back its text has then corrected nothing. -/

namespace EstreeEmitter.Text

/-- The characters with a weight, letters in lower case. -/
def weights : List (Char × Int) :=
  [(' ', 1), ('.', 1), ('=', 1), ('@', 1), ('m', 1), ('p', 1), ('n', 3), ('+', 4), ('-', 4),
    ('_', -1), ('d', -1), ('c', -2)]

/-- The weight of a code point that is in lower case. -/
def codeWeight (n : Nat) : Int := ((weights.find? fun w => w.1.toNat == n).map (·.2)).getD 0

/-- The weight of a character. -/
def charWeight (c : Char) : Int := codeWeight (lowerCode c.toNat)

/-- The weight of a text. -/
def weight (cs : List Char) : Int := (cs.map charWeight).sum

@[simp] theorem weight_nil : weight [] = 0 := rfl

@[simp] theorem weight_cons (c : Char) (cs : List Char) :
    weight (c :: cs) = charWeight c + weight cs := by
  rw [weight, List.map_cons, List.sum_cons]
  rfl

@[simp] theorem weight_append (cs ds : List Char) : weight (cs ++ ds) = weight cs + weight ds := by
  rw [weight, List.map_append, List.sum_append]
  rfl

theorem weight_nonneg {cs : List Char} (h : ∀ c ∈ cs, 0 ≤ charWeight c) : 0 ≤ weight cs := by
  induction cs with
  | nil => exact Int.le_refl 0
  | cons c cs ih =>
      have hc := h c List.mem_cons_self
      have hcs := ih fun d hd => h d (List.mem_cons_of_mem _ hd)
      rw [weight_cons]
      omega

/-- What an edit of the pieces takes from the weight of a text is at least what it takes from the
pieces. -/
theorem Cuts.weight_paste {α : Type} {Covers : α → List Char → Prop} (write : α → List Char)
    (loss : α → Nat) {stretches : List (Stretch α)} {text : List Char}
    (h : Cuts Covers stretches text)
    (hw : ∀ {piece covered}, Covers piece covered →
      weight (write piece) + loss piece ≤ weight covered) :
    weight (paste write stretches) + ((pieces stretches).map loss).sum ≤ weight text := by
  induction h with
  | nil => exact Int.le_refl 0
  | @keep c stretches rest h ih =>
      have hp : pieces (.keep c :: stretches) = pieces stretches := rfl
      rw [paste_cons, weight_append, weight_cons, hp]
      simp only [paste, List.flatMap_cons, List.flatMap_nil, List.append_nil, weight_cons,
        weight_nil] at ih ⊢
      omega
  | @found piece covered rest stretches hc h ih =>
      have hpiece := hw hc
      have hp : pieces (.found piece :: stretches) = piece :: pieces stretches := rfl
      rw [paste_cons, weight_append, weight_append, hp, List.map_cons, List.sum_cons]
      simp only [paste, List.flatMap_cons, List.flatMap_nil, List.append_nil] at ih ⊢
      omega

end EstreeEmitter.Text
