import EstreeEmitter.Text.Blank
import EstreeEmitter.Text.Word
import Mathlib.Data.List.DropRight

set_option autoImplicit false

/-! # Blanks at the end of a text

Trimming drops the longest blank end: it changes nothing twice, it leaves nothing exactly of a blank
text, and it reaches only the last part of a text that is not blank. A blank is no word character,
so trimming leaves the word at the front of a text as it is. -/

namespace EstreeEmitter.Text

theorem isBlankText_append (cs ds : List Char) :
    isBlankText (cs ++ ds) = (isBlankText cs && isBlankText ds) := List.all_append

/-- Dropping from the right passes to the last part that is not dropped whole. -/
theorem rdropWhile_append {α : Type} (p : α → Bool) (xs ys : List α) :
    (xs ++ ys).rdropWhile p =
      if ys.all p then xs.rdropWhile p else xs ++ ys.rdropWhile p := by
  rw [List.rdropWhile, List.reverse_append, List.dropWhile_append]
  by_cases h : ys.all p = true
  · have hn : (ys.reverse.dropWhile p).isEmpty = true := by
      simpa [List.dropWhile_eq_nil_iff] using h
    rw [if_pos hn, if_pos h]
    rfl
  · have hn : ¬(ys.reverse.dropWhile p).isEmpty = true := by
      simpa [List.dropWhile_eq_nil_iff] using h
    rw [if_neg hn, if_neg h, List.reverse_append, List.reverse_reverse]
    rfl

theorem trimRight_eq_rdropWhile (cs : List Char) : trimRight cs = cs.rdropWhile isBlank := by
  induction cs with
  | nil => rfl
  | cons c cs ih =>
      have hc : (c :: cs).rdropWhile isBlank =
          if cs.all isBlank then [c].rdropWhile isBlank else [c] ++ cs.rdropWhile isBlank :=
        rdropWhile_append isBlank [c] cs
      rw [trimRight, ih, hc]
      by_cases h : cs.all isBlank = true
      · have hn : cs.rdropWhile isBlank = [] := by
          simpa [List.rdropWhile_eq_nil_iff] using h
        rw [hn, if_pos h, List.rdropWhile_singleton]
      · have hn : cs.rdropWhile isBlank ≠ [] := by
          simpa [List.rdropWhile_eq_nil_iff] using h
        rw [if_neg h]
        cases hc : cs.rdropWhile isBlank with
        | nil => exact absurd hc hn
        | cons x xs => rfl

theorem trimRight_trimRight (cs : List Char) : trimRight (trimRight cs) = trimRight cs := by
  simp only [trimRight_eq_rdropWhile, List.rdropWhile_idempotent]

theorem trimRight_eq_nil_iff {cs : List Char} : trimRight cs = [] ↔ isBlankText cs = true := by
  rw [trimRight_eq_rdropWhile, List.rdropWhile_eq_nil_iff, isBlankText, List.all_eq_true]

/-- The end of a text that is not blank keeps all before it. -/
theorem trimRight_append_of_not_blank {cs ds : List Char} (h : isBlankText ds = false) :
    trimRight (cs ++ ds) = cs ++ trimRight ds := by
  have hd : ¬ds.all isBlank = true := by simpa [isBlankText] using h
  simp only [trimRight_eq_rdropWhile, rdropWhile_append, if_neg hd]

/-- A blank end goes altogether. -/
theorem trimRight_append_of_blank {cs ds : List Char} (h : isBlankText ds = true) :
    trimRight (cs ++ ds) = trimRight cs := by
  simp only [trimRight_eq_rdropWhile, rdropWhile_append, if_pos (show ds.all isBlank = true from h)]

theorem isBlankText_trimRight (cs : List Char) : isBlankText (trimRight cs) = isBlankText cs := by
  rw [Bool.eq_iff_iff, ← trimRight_eq_nil_iff, trimRight_trimRight, trimRight_eq_nil_iff]

theorem trimRight_isPrefix (cs : List Char) : trimRight cs <+: cs := by
  rw [trimRight_eq_rdropWhile]
  exact List.rdropWhile_prefix isBlank cs

/-- What stands behind a text keeps it up to its blank end at least. -/
theorem trimRight_isPrefix_trimRight {cs ds : List Char} (h : cs <+: ds) :
    trimRight cs <+: trimRight ds := by
  obtain ⟨rest, rfl⟩ := h
  by_cases hr : isBlankText rest = true
  · exact ⟨[], by rw [List.append_nil, trimRight_append_of_blank hr]⟩
  · rw [trimRight_append_of_not_blank (by simpa using hr)]
    exact (trimRight_isPrefix cs).trans (List.prefix_append cs _)

/-- Trimming the last part of a text leaves what trimming the whole leaves, and maybe more. -/
theorem trimRight_append_isPrefix (cs ds : List Char) :
    trimRight (cs ++ ds) <+: cs ++ trimRight ds := by
  by_cases hd : isBlankText ds = true
  · rw [trimRight_append_of_blank hd]
    exact (trimRight_isPrefix cs).trans (List.prefix_append cs _)
  · exact ⟨[], by rw [List.append_nil, trimRight_append_of_not_blank (by simpa using hd)]⟩

/-- The code points of the blank characters. -/
def blankCodes : List Nat :=
  [0x09, 0x0A, 0x0B, 0x0C, 0x0D, 0x1C, 0x1D, 0x1E, 0x1F, 0x20, 0x85, 0xA0, 0x1680, 0x2000, 0x2001,
    0x2002, 0x2003, 0x2004, 0x2005, 0x2006, 0x2007, 0x2008, 0x2009, 0x200A, 0x2028, 0x2029, 0x202F,
    0x205F, 0x3000]

theorem toNat_mem_blankCodes {c : Char} (h : isBlank c = true) : c.toNat ∈ blankCodes := by
  simp only [isBlank, Bool.or_eq_true, Bool.and_eq_true, decide_eq_true_eq, beq_iff_eq] at h
  simp only [blankCodes, List.mem_cons, List.not_mem_nil, or_false]
  omega

theorem isWord_eq_false_of_isBlank {c : Char} (h : isBlank c = true) : isWord c = false := by
  have hall : ∀ n ∈ blankCodes, isWord (Char.ofNat n) = false := by decide +kernel
  simpa using hall _ (toNat_mem_blankCodes h)

theorem isAlpha_eq_false_of_isBlank {c : Char} (h : isBlank c = true) : c.isAlpha = false := by
  have hall : ∀ n ∈ blankCodes, (Char.ofNat n).isAlpha = false := by decide +kernel
  simpa using hall _ (toNat_mem_blankCodes h)

/-- The word at the front of a text stands before its blank end. -/
theorem takeWhile_isWord_trimRight (cs : List Char) :
    (trimRight cs).takeWhile isWord = cs.takeWhile isWord := by
  induction cs with
  | nil => rfl
  | cons c cs ih =>
      by_cases hc : isWord c = true
      · have hb : isBlank c = false := by
          by_contra h
          rw [isWord_eq_false_of_isBlank (by simpa using h)] at hc
          cases hc
        have ht : trimRight (c :: cs) = c :: trimRight cs := by
          rw [trimRight]
          cases trimRight cs with
          | nil => simp [hb]
          | cons x xs => rfl
        rw [ht, List.takeWhile_cons_of_pos hc, List.takeWhile_cons_of_pos hc, ih]
      · rw [List.takeWhile_cons_of_neg hc, trimRight]
        cases trimRight cs with
        | nil => by_cases hb : isBlank c = true <;> simp [hb, hc]
        | cons x xs => exact List.takeWhile_cons_of_neg hc

end EstreeEmitter.Text
