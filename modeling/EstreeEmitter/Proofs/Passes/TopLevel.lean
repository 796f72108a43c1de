import EstreeEmitter.Proofs.Passes.Literals

set_option autoImplicit false

/-! # Depth in brackets, and operands at the top level

A reader of a text knows its place among the literals (`Place`) and counts the brackets that are
open outside of them (`Brackets.rise`). A text ends level when it leads outside of literals and
closes what it opens (`Brackets.EndsLevel`).

The split of a sum is described with these words alone. Its operands, joined by plus signs, are the
sum; no operand holds a plus sign behind a part of it that ends level (`Whole`); and every operand
but the last ends level. -/

namespace EstreeEmitter.Passes

open Text

/-! ## Depth -/

/-- The characters that open brackets and those that close them. -/
structure Brackets where
  opening : List Char
  closing : List Char

namespace Brackets

/-- Parentheses only. -/
def round : Brackets := ⟨['('], [')']⟩

/-- Parentheses and square brackets, which may close each other. -/
def roundOrSquare : Brackets := ⟨['(', '['], [')', ']']⟩

/-- How much deeper a character leads a reader at a place. Brackets in literals do not count. -/
def turn (k : Brackets) : Place → Char → Int
  | .outside, c => if c ∈ k.opening then 1 else if c ∈ k.closing then -1 else 0
  | .inside .., _ | .hidden .., _ => 0

/-- How much deeper a text leads a reader at a place. -/
def rise (k : Brackets) : Place → List Char → Int
  | _, [] => 0
  | p, c :: cs => k.turn p c + k.rise (p.next c) cs

/-- The text leads a reader at a place, so many brackets deep, outside of literals and brackets. -/
structure EndsLevel (k : Brackets) (depth : Int) (p : Place) (cs : List Char) : Prop where
  outside : p.after cs = .outside
  level : depth + k.rise p cs = 0

theorem endsLevel_nil_iff {k : Brackets} {depth : Int} {p : Place} :
    k.EndsLevel depth p [] ↔ depth = 0 ∧ p = .outside := by
  constructor
  · rintro ⟨hp, hd⟩
    exact ⟨by simpa [rise] using hd, hp⟩
  · rintro ⟨hd, hp⟩
    exact ⟨hp, by simpa [rise] using hd⟩

theorem endsLevel_cons_iff {k : Brackets} {depth : Int} {p : Place} {c : Char} {cs : List Char} :
    k.EndsLevel depth p (c :: cs) ↔ k.EndsLevel (depth + k.turn p c) (p.next c) cs := by
  have hsum : depth + k.rise p (c :: cs) = depth + k.turn p c + k.rise (p.next c) cs := by
    rw [rise]
    omega
  constructor
  · rintro ⟨hp, hd⟩
    exact ⟨hp, by rw [← hsum, hd]⟩
  · rintro ⟨hp, hd⟩
    exact ⟨hp, by rw [hsum, hd]⟩

end Brackets

/-! ## Texts without a plus sign at the top level -/

/-- No plus sign in the text is at the top level, for a reader at a place and so many brackets
deep. -/
def Whole (depth : Int) (p : Place) (cs : List Char) : Prop :=
  ∀ before rest, cs = before ++ plus ++ rest → ¬Brackets.roundOrSquare.EndsLevel depth p before

/-- A plus sign at the top level comes next. -/
def plusNext (depth : Int) : Place → List Char → Bool
  | .outside, cs => depth == 0 && plus.isPrefixOf cs
  | .inside .., _ | .hidden .., _ => false

theorem plusNext_iff {depth : Int} {p : Place} {cs : List Char} :
    plusNext depth p cs = true ↔ depth = 0 ∧ p = .outside ∧ plus <+: cs := by
  cases p <;> simp [plusNext]

theorem plusNext_of_ne {c : Char} (h : c ≠ ' ') (depth : Int) (p : Place) (cs : List Char) :
    plusNext depth p (c :: cs) = false := by
  by_contra hplus
  obtain ⟨-, -, rest, hcs⟩ := plusNext_iff.mp (by simpa using hplus)
  exact h (List.cons.inj hcs).1.symm

theorem whole_nil (depth : Int) (p : Place) : Whole depth p [] := by
  intro before rest h
  simp [plus] at h

theorem whole_cons_iff {depth : Int} {p : Place} {c : Char} {cs : List Char} :
    Whole depth p (c :: cs) ↔
      plusNext depth p (c :: cs) = false ∧
        Whole (depth + Brackets.roundOrSquare.turn p c) (p.next c) cs := by
  constructor
  · intro h
    constructor
    · by_contra hplus
      obtain ⟨hd, hp, rest, hcs⟩ := plusNext_iff.mp (by simpa using hplus)
      exact h [] rest hcs.symm (Brackets.endsLevel_nil_iff.mpr ⟨hd, hp⟩)
    · intro before rest hcs hl
      exact h (c :: before) rest (by rw [hcs]; rfl) (Brackets.endsLevel_cons_iff.mpr hl)
  · rintro ⟨hplus, h⟩ before rest hcs hl
    cases before with
    | nil =>
        obtain ⟨hd, hp⟩ := Brackets.endsLevel_nil_iff.mp hl
        have : plusNext depth p (c :: cs) = true := plusNext_iff.mpr ⟨hd, hp, rest, hcs.symm⟩
        rw [hplus] at this
        cases this
    | cons d before =>
        obtain ⟨rfl, htail⟩ := List.cons.inj hcs
        exact h before rest htail (Brackets.endsLevel_cons_iff.mp hl)

/-! ## The split by places -/

/-- The operands of a sum for a reader at a place. -/
def operandsAt (depth : Int) : Place → List Char → List (List Char)
  | .outside, cs => splitFrom depth none cs
  | .inside q _, cs => splitFrom depth (some q) cs
  | .hidden .., [] => [[]]
  | .hidden q _, c :: cs => consFirst c (splitFrom depth (some q) cs)

theorem operandsAt_nil (depth : Int) (p : Place) : operandsAt depth p [] = [[]] := by
  cases p <;> simp [operandsAt, splitFrom]

/-- At the top level a space starts a plus sign, or it is passed over. -/
theorem splitFrom_space (cs : List Char) :
    splitFrom 0 none (' ' :: cs) =
      if plus.isPrefixOf (' ' :: cs) then [] :: splitFrom 0 none (cs.drop 2)
      else consFirst ' ' (splitFrom 0 none cs) := by
  rw [splitFrom.eq_def]
  dsimp only
  rw [if_neg (by decide), if_neg (by decide), if_neg (by decide), if_pos (by decide)]
  split
  · rw [if_pos (by simp [plus])]
    rfl
  · rename_i hne
    rw [if_neg]
    intro h
    obtain ⟨rest, hrest⟩ := List.isPrefixOf_iff_prefix.mp h
    exact hne rest (List.cons.inj hrest).2.symm

/-- Any other character outside of literals is passed over, as deep as it leads. -/
theorem splitFrom_turn {depth : Int} {c : Char} (hq : isQuote c = false)
    (hs : ¬(depth = 0 ∧ c = ' ')) (cs : List Char) :
    splitFrom depth none (c :: cs) =
      consFirst c (splitFrom (depth + Brackets.roundOrSquare.turn .outside c) none cs) := by
  by_cases ho : c ∈ ['(', '[']
  · have hturn : Brackets.roundOrSquare.turn .outside c = 1 := if_pos ho
    have hopen : c = '(' ∨ c = '[' := by simpa using ho
    rw [hturn]
    simp [splitFrom.eq_def depth none (c :: cs), hq, hopen]
  · by_cases hc : c ∈ [')', ']']
    · have hturn : Brackets.roundOrSquare.turn .outside c = -1 := (if_neg ho).trans (if_pos hc)
      have hopen : ¬(c = '(' ∨ c = '[') := by simpa using ho
      have hclose : c = ')' ∨ c = ']' := by simpa using hc
      rw [hturn]
      simp [splitFrom.eq_def depth none (c :: cs), hq, hopen, hclose, Int.sub_eq_add_neg]
    · have hturn : Brackets.roundOrSquare.turn .outside c = 0 := (if_neg ho).trans (if_neg hc)
      have hmarks : c ∉ ['(', '[', ')', ']'] := by
        simp only [List.mem_cons, List.not_mem_nil, or_false, not_or] at ho hc ⊢
        exact ⟨ho.1, ho.2, hc⟩
      rw [hturn, Int.add_zero]
      exact splitFrom_cons hq hmarks (fun hd hc => hs ⟨hd, hc⟩) cs

/-- The split goes on by one character, or it has come to a plus sign at the top level. -/
theorem operandsAt_cons (depth : Int) (p : Place) (c : Char) (cs : List Char) :
    operandsAt depth p (c :: cs) =
      if plusNext depth p (c :: cs) then [] :: operandsAt 0 .outside (cs.drop 2)
      else consFirst c
        (operandsAt (depth + Brackets.roundOrSquare.turn p c) (p.next c) cs) := by
  cases p with
  | hidden q hq => simp [operandsAt, plusNext, Brackets.turn, Place.next]
  | inside q hq =>
      have hslash : '\\' ≠ q := (ne_of_isQuote hq rfl).symm
      by_cases hb : c = '\\'
      · subst hb
        cases cs <;> simp [operandsAt, plusNext, Brackets.turn, Place.next, hslash, splitFrom,
          consFirst]
      · simp only [operandsAt, splitFrom_inside hb, plusNext, Brackets.turn, Place.next, if_neg hb]
        by_cases hcq : c = q <;> simp [hcq]
  | outside =>
      by_cases hq : isQuote c = true
      · have hturn : Brackets.roundOrSquare.turn .outside c = 0 := by
          rcases isQuote_iff.mp hq with rfl | rfl <;> rfl
        have hnext : Place.outside.next c = .inside c hq := dif_pos hq
        rw [plusNext_of_ne (ne_of_isQuote hq rfl), hturn, hnext]
        simp [operandsAt, splitFrom.eq_def depth none (c :: cs), hq]
      · have hquote : isQuote c = false := by simpa using hq
        rw [Place.next_outside hquote]
        by_cases hs : depth = 0 ∧ c = ' '
        · obtain ⟨rfl, rfl⟩ := hs
          exact splitFrom_space cs
        · have hplus : plusNext depth .outside (c :: cs) = false := by
            by_contra h
            obtain ⟨hd, -, rest, hcs⟩ := plusNext_iff.mp (by simpa using h)
            exact hs ⟨hd, (List.cons.inj hcs).1.symm⟩
          rw [hplus]
          exact splitFrom_turn hquote hs cs

theorem joinWith_operandsAt (depth : Int) (p : Place) (cs : List Char) :
    joinWith plus (operandsAt depth p cs) = cs := by
  cases p with
  | outside => exact joinWith_splitFrom depth none cs
  | inside q hq => exact joinWith_splitFrom depth (some q) cs
  | hidden q hq =>
      cases cs with
      | nil => rfl
      | cons c cs =>
          rw [operandsAt, joinWith_consFirst _ _ (splitFrom_ne_nil _ _ _)]
          exact congrArg (c :: ·) (joinWith_splitFrom depth (some q) cs)

/-- A text without a plus sign at the top level is its only operand. -/
theorem operandsAt_of_whole {depth : Int} {p : Place} {cs : List Char} (h : Whole depth p cs) :
    operandsAt depth p cs = [cs] := by
  induction cs generalizing depth p with
  | nil => exact operandsAt_nil depth p
  | cons c cs ih =>
      obtain ⟨hplus, htail⟩ := whole_cons_iff.mp h
      rw [operandsAt_cons, hplus, ih htail]
      rfl

/-! ## The operands -/

/-- Texts as the operands of a sum: none holds a plus sign at the top level, and each but the last
leads back to the top level. The first one starts at a place and depth, the others at the top
level. -/
inductive Operands : Int → Place → List (List Char) → Prop where
  | last {depth : Int} {p : Place} {part : List Char} (h : Whole depth p part) :
    Operands depth p [part]
  | cons {depth : Int} {p : Place} {part : List Char} {parts : List (List Char)}
    (h : Whole depth p part) (hl : Brackets.roundOrSquare.EndsLevel depth p part)
    (h' : Operands 0 .outside parts) : Operands depth p (part :: parts)

/-- A character in front of the first operand that does not start a plus sign. -/
theorem Operands.consFirst {depth : Int} {p : Place} {c : Char} {cs : List Char}
    {parts : List (List Char)} (hplus : plusNext depth p (c :: cs) = false)
    (hcs : joinWith plus parts = cs)
    (h : Operands (depth + Brackets.roundOrSquare.turn p c) (p.next c) parts) :
    Operands depth p (consFirst c parts) := by
  -- a plus sign in front of the first operand would be one in front of the whole text
  have hfirst {part : List Char} (hpart : part <+: cs) : plusNext depth p (c :: part) = false := by
    by_contra hn
    obtain ⟨hd, hp, hpre⟩ := plusNext_iff.mp (by simpa using hn)
    have : plusNext depth p (c :: cs) = true :=
      plusNext_iff.mpr ⟨hd, hp, hpre.trans ((List.prefix_cons_inj c).mpr hpart)⟩
    rw [hplus] at this
    cases this
  cases h with
  | last hw => exact .last (whole_cons_iff.mpr ⟨hfirst ⟨[], by simpa [joinWith] using hcs⟩, hw⟩)
  | @cons _ _ part parts hw hl hrest =>
      have hpart : part <+: cs := by
        cases parts with
        | nil => cases hrest
        | cons next parts =>
            rw [← hcs, joinWith_cons plus part (by simp), List.append_assoc]
            exact List.prefix_append _ _
      exact .cons (whole_cons_iff.mpr ⟨hfirst hpart, hw⟩) (Brackets.endsLevel_cons_iff.mpr hl) hrest

theorem operands_operandsAt (depth : Int) (p : Place) (cs : List Char) :
    Operands depth p (operandsAt depth p cs) := by
  -- a plus sign is passed over at once, so the induction is on the length
  induction hn : cs.length using Nat.strong_induction_on generalizing depth p cs with
  | _ n ih =>
      cases cs with
      | nil =>
          rw [operandsAt_nil]
          exact .last (whole_nil depth p)
      | cons c cs =>
          rw [operandsAt_cons]
          rw [List.length_cons] at hn
          split
          · rename_i hplus
            obtain ⟨rfl, rfl, -⟩ := plusNext_iff.mp hplus
            refine .cons (whole_nil 0 .outside) (Brackets.endsLevel_nil_iff.mpr ⟨rfl, rfl⟩) ?_
            exact ih _ (by rw [List.length_drop]; omega) 0 .outside _ rfl
          · rename_i hplus
            exact .consFirst (by simpa using hplus) (joinWith_operandsAt _ _ cs)
              (ih _ (by omega) _ _ cs rfl)

theorem Operands.whole {parts : List (List Char)} (h : Operands 0 .outside parts) :
    ∀ part ∈ parts, Whole 0 .outside part := by
  induction parts with
  | nil => cases h
  | cons first others ih =>
      intro part hp
      cases h with
      | last hw =>
          rw [List.mem_singleton.mp hp]
          exact hw
      | cons hw _ hrest =>
          rcases List.mem_cons.mp hp with rfl | hp
          · exact hw
          · exact ih hrest part hp

theorem Operands.endsLevel {parts : List (List Char)} (h : Operands 0 .outside parts) :
    ∀ part ∈ parts.dropLast, Brackets.roundOrSquare.EndsLevel 0 .outside part := by
  induction parts with
  | nil => cases h
  | cons first others ih =>
      intro part hp
      cases h with
      | last => cases hp
      | cons _ hl hrest =>
          have hne : others ≠ [] := by
            rintro rfl
            cases hrest
          rw [List.dropLast_cons_of_ne_nil hne] at hp
          rcases List.mem_cons.mp hp with rfl | hp
          · exact hl
          · exact ih hrest part hp

/-- **A sum is divided at its plus signs at the top level, and nothing is lost.** The operands with
plus signs between them are the text. An operand is not divided again: no plus sign in it stands
behind text that ends outside of literals and brackets. Every operand but the last ends there, so
that only plus signs at the top level divide. -/
theorem splitTopLevel_lossless (text : List Char) :
    joinWith " + ".toList (splitTopLevel text) = text ∧
    (∀ part ∈ splitTopLevel text, splitTopLevel part = [part] ∧
      ∀ before rest, part = before ++ " + ".toList ++ rest →
        ¬Brackets.roundOrSquare.EndsLevel 0 .outside before) ∧
    ∀ part ∈ (splitTopLevel text).dropLast,
      Brackets.roundOrSquare.EndsLevel 0 .outside part := by
  have hparts : Operands 0 .outside (splitTopLevel text) := operands_operandsAt 0 .outside text
  refine ⟨joinWith_splitFrom 0 none text, ?_, hparts.endsLevel⟩
  intro part hp
  have hw : Whole 0 .outside part := hparts.whole part hp
  exact ⟨operandsAt_of_whole hw, hw⟩

-- the depth may be below zero in between
example : splitTopLevel "a) + (b + c".toList = ["a) + (b".toList, "c".toList] := by decide +kernel

end EstreeEmitter.Passes
