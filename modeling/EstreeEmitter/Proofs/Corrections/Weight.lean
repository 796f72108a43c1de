import EstreeEmitter.Corrections.Default
import EstreeEmitter.Proofs.Pattern.Fits
import EstreeEmitter.Proofs.Text.Weight
import Mathlib.Tactic.Ring

set_option autoImplicit false

/-! # Corrections that make a text lighter

`bound?` finds a least weight for what a pattern covers outside of its first group. A correction
whose replacement puts less in its place, and the group back where there is one, makes the text
lighter with every match (`lightens`). All corrections of the table for Ruby are of this kind. -/

namespace EstreeEmitter

open Text Pattern

/-! ## The least weight of what a pattern covers -/

/-- A least weight of what a pattern covers outside of its first group, and whether it has that
group. -/
structure Bound where
  least : Int
  grouped : Bool

/-- No letter that counts as the code point `n` is lighter than `least`. -/
def isAtLeast (least : Int) (n : Nat) : Bool :=
  (lowerClass (lowerCode n)).all (least ≤ codeWeight ·)

/-- The member of a set is a code point, and no letter that counts as it has a negative weight. -/
def CharItem.isHeavy : CharItem → Bool
  | .code n => n ≤ basicLimit && isAtLeast 0 n
  | _ => false

/-- The least weight of what a pattern covers, for patterns of the kind that the table has. -/
def Pattern.bound? : Pattern → Option Bound
  | .empty => some ⟨0, false⟩
  | .anchor _ => some ⟨0, false⟩
  | .char negated n folding =>
    if !negated && folding == .simple && isAtLeast (codeWeight (lowerCode n)) n then
      some ⟨codeWeight (lowerCode n), false⟩
    else none
  | .set s =>
    if !s.negated && s.folding == .simple && s.items.all CharItem.isHeavy then some ⟨0, false⟩
    else none
  | .seq p q => do
    let a ← bound? p
    let b ← bound? q
    if a.grouped && b.grouped then none else some ⟨a.least + b.least, a.grouped || b.grouped⟩
  | .rep _ _ _ p => do
    let a ← bound? p
    if !a.grouped && 0 ≤ a.least then some ⟨0, false⟩ else none
  | .group index _ => if index == 1 then some ⟨0, true⟩ else none
  | _ => none

/-- The text of a group in captures. -/
def groupText (captures : Captures) (index : Nat) : List Char :=
  ((captures.closed? index).map (·.2)).getD []

theorem le_charWeight {least : Int} {n : Nat} {c : Char} (h : isAtLeast least n = true)
    (hs : Folding.simple.same n c.toNat = true) : least ≤ charWeight c := by
  have hm : lowerCode c.toNat ∈ lowerClass (lowerCode n) := List.contains_iff_mem.mp hs
  exact of_decide_eq_true (List.all_eq_true.mp h _ hm)

theorem charWeight_nonneg_of_isHeavy {item : CharItem} {ascii : Bool} {c : Char}
    (h : item.isHeavy = true) (hc : item.contains .simple ascii c = true) : 0 ≤ charWeight c := by
  cases item with
  | code n =>
      simp only [CharItem.isHeavy, Bool.and_eq_true, decide_eq_true_eq] at h
      rw [CharItem.contains, if_pos h.1] at hc
      exact le_charWeight h.2 hc
  | range low high => cases h
  | category k negated => cases h

/-- The captures and the weight that `bound?` promises. -/
structure Bound.Holds (b : Bound) (captures : Captures) (text : List Char) (captures' : Captures) :
    Prop where
  captures_eq : b.grouped = false → captures' = captures
  le_weight : b.least + (if b.grouped then weight (groupText captures' 1) else 0) ≤ weight text

theorem bound?_rep {greed : Greed} {low : Nat} {high : Option Nat} {p : Pattern} {b : Bound}
    (h : (Pattern.rep greed low high p).bound? = some b) :
    b = ⟨0, false⟩ ∧ ∃ a, p.bound? = some a ∧ a.grouped = false ∧ 0 ≤ a.least := by
  obtain ⟨a, ha, hb⟩ := Option.bind_eq_some_iff.mp h
  obtain ⟨hg, ⟨⟩⟩ := Option.ite_none_right_eq_some.mp hb
  simp only [Bool.and_eq_true, Bool.not_eq_true', decide_eq_true_eq] at hg
  exact ⟨rfl, a, ha, hg.1, hg.2⟩

/-- What a pattern covers is as heavy as its bound and the text of the first group together. -/
theorem holds_of_fits {p : Pattern} {captures captures' : Captures} {text : List Char}
    (hf : Fits p captures text captures') :
    ∀ {b : Bound}, p.bound? = some b → b.Holds captures text captures' := by
  induction hf with
  | empty | anchor =>
      intro b hb
      cases hb
      exact ⟨fun _ => rfl, by simp⟩
  | @char negated n folding c captures h =>
      intro b hb
      obtain ⟨hc, ⟨⟩⟩ := Option.ite_none_right_eq_some.mp hb
      simp only [Bool.and_eq_true, Bool.not_eq_true', beq_iff_eq] at hc
      obtain ⟨⟨rfl, rfl⟩, hw⟩ := hc
      have hle := le_charWeight hw (by simpa using h)
      exact ⟨fun _ => rfl, by simpa using hle⟩
  | @set s c captures h =>
      intro b hb
      obtain ⟨hc, ⟨⟩⟩ := Option.ite_none_right_eq_some.mp hb
      simp only [Bool.and_eq_true, Bool.not_eq_true', beq_iff_eq] at hc
      obtain ⟨⟨hneg, hfold⟩, hitems⟩ := hc
      rw [CharSet.contains, hneg, hfold] at h
      obtain ⟨item, hm, hi⟩ := List.any_eq_true.mp (by simpa using h)
      have hle := charWeight_nonneg_of_isHeavy (List.all_eq_true.mp hitems item hm) hi
      exact ⟨fun _ => rfl, by simpa using hle⟩
  | @seq p q captures captures' captures'' text text' h h' ih ih' =>
      intro b hb
      obtain ⟨bp, hp, hb⟩ := Option.bind_eq_some_iff.mp hb
      obtain ⟨bq, hq, hb⟩ := Option.bind_eq_some_iff.mp hb
      obtain ⟨hg, ⟨⟩⟩ := Option.ite_none_left_eq_some.mp hb
      obtain ⟨hkeep, hle⟩ := ih hp
      obtain ⟨hkeep', hle'⟩ := ih' hq
      -- at most one of the two holds the group, so its text is still there at the end
      cases hgp : bp.grouped with
      | false =>
          refine ⟨fun hgq => ?_, ?_⟩
          · rw [hkeep' hgq, hkeep hgp]
          · rw [weight_append]
            simp only [hgp, Bool.false_or, Bool.false_eq_true, if_false] at hle ⊢
            omega
      | true =>
          have hgq : bq.grouped = false := by simpa [hgp] using hg
          refine ⟨nofun, ?_⟩
          rw [weight_append]
          simp only [hgp, hgq, hkeep' hgq, Bool.true_or, Bool.false_eq_true, if_true, if_false]
            at hle hle' ⊢
          omega
  | @group index p start captures captures' text h ih =>
      intro b hb
      obtain ⟨hi, ⟨⟩⟩ := Option.ite_none_right_eq_some.mp hb
      rw [beq_iff_eq] at hi
      subst hi
      exact ⟨nofun, by simp [groupText, Captures.closed?]⟩
  | stop =>
      intro b hb
      obtain ⟨rfl, -⟩ := bound?_rep hb
      exact ⟨fun _ => rfl, by simp⟩
  | again h h' ih ih' =>
      intro b hb
      obtain ⟨rfl, a, ha, hg, hle⟩ := bound?_rep hb
      obtain ⟨hkeep, hp⟩ := ih ha
      obtain ⟨hkeep', hrest⟩ := ih' hb
      refine ⟨fun hb => by rw [hkeep' hb, hkeep hg], ?_⟩
      rw [weight_append]
      simp only [hg, Bool.false_eq_true, if_false] at hp hrest ⊢
      omega
  | _ =>
      intro b hb
      cases hb

/-! ## Corrections -/

/-- The weight of what a template puts in the place of a match, without groups. -/
def TemplatePart.ownWeight : TemplatePart → Int
  | .char c => charWeight c
  | .group _ => 0

/-- The part is a character or the first group. -/
def TemplatePart.isPlain : TemplatePart → Bool
  | .char _ => true
  | .group index => index == 1

/-- The correction puts less in the place of a match than the match has outside of its first group,
and puts the group back if there is one. -/
def Correction.lightens (c : Correction) : Bool :=
  match c.pattern.bound? with
  | some b =>
    (c.template.map TemplatePart.ownWeight).sum < b.least && c.template.all TemplatePart.isPlain &&
      c.template.count (.group 1) == (if b.grouped then 1 else 0)
  | none => false

theorem weight_expand {t : Template} (h : t.all TemplatePart.isPlain = true) (m : Pattern.Match) :
    weight (t.expand m) =
      (t.map TemplatePart.ownWeight).sum +
        t.count (.group 1) * weight (groupText m.captures 1) := by
  induction t with
  | nil => simp [Template.expand]
  | cons part t ih =>
      simp only [List.all_cons, Bool.and_eq_true] at h
      have ht := ih h.2
      cases part with
      | char c =>
          have hc : Template.expand (.char c :: t) m = c :: Template.expand t m := rfl
          rw [hc, weight_cons, ht, List.map_cons, List.sum_cons, List.count_cons_of_ne (by simp)]
          simp only [TemplatePart.ownWeight]
          omega
      | group index =>
          have hi : index = 1 := by simpa [TemplatePart.isPlain] using h.1
          subst hi
          have hc : Template.expand (.group 1 :: t) m =
              groupText m.captures 1 ++ Template.expand t m := rfl
          rw [hc, weight_append, ht, List.map_cons, List.sum_cons, List.count_cons_self]
          simp only [TemplatePart.ownWeight]
          push_cast
          ring

theorem Correction.weight_expand_lt {c : Correction} (h : c.lightens = true) {m : Pattern.Match}
    {text : List Char} (hm : MatchCovers c.pattern m text) :
    weight (c.template.expand m) + 1 ≤ weight text := by
  unfold Correction.lightens at h
  split at h
  · rename_i b hb
    simp only [Bool.and_eq_true, decide_eq_true_eq, beq_iff_eq] at h
    obtain ⟨⟨hlt, hplain⟩, hcount⟩ := h
    have hle := (holds_of_fits hm.2 hb).le_weight
    rw [weight_expand hplain, hcount]
    cases hg : b.grouped with
    | true =>
        simp only [hg, if_true] at hle ⊢
        push_cast
        omega
    | false =>
        simp only [hg, Bool.false_eq_true, if_false] at hle ⊢
        push_cast
        omega
  · cases h

theorem Correction.weight_apply {c : Correction} (h : c.lightens = true) (code : List Char) :
    weight (c.apply code) + c.count code ≤ weight code := by
  have hw := (cuts_stretches c.pattern code).weight_paste c.template.expand (fun _ => 1)
    fun hm => by simpa using c.weight_expand_lt h hm
  simpa [Correction.apply, Correction.count, Correction.stretches] using hw

theorem Correction.apply_of_count_eq_zero {c : Correction} {code : List Char}
    (h : c.count code = 0) : c.apply code = code := by
  have hp : pieces (c.pattern.stretches code) = [] := List.length_eq_zero_iff.mp h
  refine (cuts_stretches c.pattern code).paste_eq fun m hm => ?_
  rw [hp] at hm
  cases hm

/-! ## Tables -/

theorem Table.weight_apply_le {t : Table} (h : t.all Correction.lightens = true)
    (code : List Char) : weight (t.apply code) ≤ weight code := by
  induction t generalizing code with
  | nil => exact Int.le_refl _
  | cons c t ih =>
      simp only [List.all_cons, Bool.and_eq_true] at h
      have hc := c.weight_apply h.1 code
      have ht : weight (Table.apply (c :: t) code) ≤ weight (c.apply code) := ih h.2 (c.apply code)
      omega

/-- A table that leaves the weight as it is has found no match. -/
theorem Table.count_eq_zero_of_weight_eq {t : Table} (h : t.all Correction.lightens = true)
    {code : List Char} (hw : weight (t.apply code) = weight code) :
    ∀ c ∈ t, c.count code = 0 := by
  induction t with
  | nil => exact nofun
  | cons c t ih =>
      simp only [List.all_cons, Bool.and_eq_true] at h
      have hc := c.weight_apply h.1 code
      have ht := Table.weight_apply_le h.2 (c.apply code)
      have hw' : weight (Table.apply t (c.apply code)) = weight code := hw
      have hcount : c.count code = 0 := by omega
      rw [Correction.apply_of_count_eq_zero hcount] at hw'
      intro d hd
      rcases List.mem_cons.mp hd with rfl | hd
      · exact hcount
      · exact ih h.2 hw' d hd

theorem Table.apply_of_count_eq_zero {t : Table} {code : List Char}
    (h : ∀ c ∈ t, c.count code = 0) : t.apply code = code := by
  induction t with
  | nil => rfl
  | cons c t ih =>
      have hc := Correction.apply_of_count_eq_zero (h c List.mem_cons_self)
      show Table.apply t (c.apply code) = code
      rw [hc, ih fun d hd => h d (List.mem_cons_of_mem _ hd)]

set_option maxRecDepth 20000 in
/-- Every correction of the table for Ruby makes a text lighter. -/
theorem Table.lightens_ruby : Table.ruby.all Correction.lightens = true := by decide +kernel

end EstreeEmitter
