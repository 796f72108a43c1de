import EstreeEmitter.Json.Printer
import EstreeEmitter.Proofs.Passes.Balanced

set_option autoImplicit false

/-! # JSON text is balanced

Numbers are written with ordinary characters. In a quoted text everything that could end it, or that
would end the line, is written with a backslash. So the text of a JSON value is balanced, whatever
texts stand in it (`Json.balanced_text`). -/

namespace EstreeEmitter

open Passes

/-! ## Numbers -/

theorem isOrdinary_of_isDigit {c : Char} (h : c.isDigit = true) : isOrdinary c = true := by
  have hne : ∀ d : Char, d.isDigit = false → c ≠ d := by
    rintro d hd rfl
    rw [h] at hd
    cases hd
  have hquote : isQuote c = false := by
    simp [isQuote, hne '\'' (by decide), hne '"' (by decide)]
  exact isOrdinary_iff.mpr ⟨hquote, hne _ (by decide), hne _ (by decide), hne _ (by decide)⟩

theorem all_isOrdinary_toDigits (n : Nat) : (Nat.toDigits 10 n).all isOrdinary = true := by
  refine List.all_eq_true.mpr fun c hc => isOrdinary_of_isDigit ?_
  exact Nat.isDigit_of_mem_toDigits (by omega) (by omega) hc

theorem all_isOrdinary_toString (n : Int) : (toString n).toList.all isOrdinary = true := by
  rw [Int.toString_eq_repr, Int.repr_eq_if]
  split
  · rw [Nat.toList_repr]
    exact all_isOrdinary_toDigits _
  · rw [String.toList_append, Nat.toList_repr, List.all_append, all_isOrdinary_toDigits]
    decide

namespace Binary64

theorem all_isOrdinary_exponentText (n : Int) :
    (exponentText n).toList.all isOrdinary = true := by
  have hdigits : (toString n.natAbs).toList.all isOrdinary = true := by
    rw [Nat.toString_eq_repr, Nat.toList_repr]
    exact all_isOrdinary_toDigits _
  have hsign : (if n < 0 then "e-" else "e+").toList.all isOrdinary = true := by
    split <;> decide
  unfold exponentText
  dsimp only
  rw [String.toList_append, List.all_append, hsign, Bool.true_and]
  split
  · rw [String.toList_append, List.all_append, hdigits]
    decide
  · exact hdigits

theorem Decimal.all_isOrdinary_text (d : Decimal) : d.text.toList.all isOrdinary = true := by
  have hdigits := all_isOrdinary_toDigits d.digits
  have hpoint : isOrdinary '.' = true := by decide
  have hzeros : ∀ n, (List.replicate n '0').all isOrdinary = true := by
    intro n
    simp [(by decide : isOrdinary '0' = true)]
  unfold Decimal.text
  dsimp only
  generalize Nat.toDigits 10 d.digits = digits at hdigits ⊢
  split
  · split
    · rfl
    · rw [String.toList_append, String.toList_ofList, List.all_append, hdigits,
        all_isOrdinary_exponentText, Bool.and_self]
    · rw [List.all_cons] at hdigits
      simp only [String.toList_append, String.toList_ofList, List.all_append, List.all_cons,
        all_isOrdinary_exponentText, hpoint, hdigits, Bool.true_and, Bool.and_true]
  · split
    · simp only [String.toList_append, String.toList_ofList, List.all_append, hzeros, hdigits,
        Bool.and_true]
      decide
    · split
      · simp only [String.toList_append, String.toList_ofList, List.all_append, hzeros, hdigits,
          Bool.true_and]
        decide
      · -- the point parts the digits in two
        rw [← List.take_append_drop (Int.toNat _) digits, List.all_append] at hdigits
        rw [String.toList_ofList, List.all_append, List.all_cons, hpoint, Bool.true_and]
        exact hdigits

theorem all_isOrdinary_text (x : Binary64) : (x.text Json.words).toList.all isOrdinary = true := by
  have hsign : ∀ negative : Bool, (if negative then "-" else "").toList.all isOrdinary = true := by
    decide
  cases x with
  | nan => decide
  | infinite negative =>
      rw [text, String.toList_append, List.all_append, hsign]
      decide
  | finite negative m e =>
      rw [text, String.toList_append, List.all_append, hsign, Bool.true_and]
      split
      · decide
      · exact Decimal.all_isOrdinary_text _

end Binary64

namespace Json

/-! ## Quoted text -/

/-- A character that stands for itself between double quotes. -/
def isQuotable (c : Char) : Bool := !(c == '"' || c == '\\' || c == '\n')

theorem quotedBody_cons {c : Char} {cs : List Char} (hc : isQuotable c = true)
    (h : QuotedBody '"' cs) : QuotedBody '"' (c :: cs) := by
  simp only [isQuotable, Bool.not_eq_true', Bool.or_eq_false_iff, beq_eq_false_iff_ne] at hc
  exact .char hc.1.1 hc.1.2 hc.2 h

theorem isQuotable_hexDigit (n : Nat) : isQuotable (hexDigit (n % 16)) = true := by
  have hall : ∀ m < 16, isQuotable (hexDigit m) = true := by decide
  exact hall (n % 16) (Nat.mod_lt n (by omega))

theorem quotedBody_hexText (width n : Nat) : QuotedBody '"' (hexText width n) := by
  induction width generalizing n with
  | zero => exact .nil
  | succ width ih => exact (ih (n / 16)).append (quotedBody_cons (isQuotable_hexDigit n) .nil)

theorem quotedBody_unitEscape (n : Nat) : QuotedBody '"' (unitEscape n) :=
  .escape (quotedBody_hexText 4 n)

theorem quotedBody_ite {p : Prop} [Decidable p] {cs ds : List Char}
    (h : p → QuotedBody '"' cs) (h' : ¬p → QuotedBody '"' ds) :
    QuotedBody '"' (if p then cs else ds) := by
  split
  · exact h ‹_›
  · exact h' ‹_›

theorem quotedBody_quoteChar (ascii : Bool) (c : Char) : QuotedBody '"' (quoteChar ascii c) := by
  have hpair : ∀ d, QuotedBody '"' ['\\', d] := fun d => .escape .nil
  have hunit := quotedBody_unitEscape
  -- the short escapes, the controls, what is not ASCII; any other character stands for itself
  refine quotedBody_ite (fun _ => hpair _) fun hquote => quotedBody_ite (fun _ => hpair _)
    fun hslash => quotedBody_ite (fun _ => hpair _) fun hline => ?_
  refine quotedBody_ite (fun _ => hpair _) fun _ => quotedBody_ite (fun _ => hpair _)
    fun _ => quotedBody_ite (fun _ => hpair _) fun _ => quotedBody_ite (fun _ => hpair _)
    fun _ => ?_
  refine quotedBody_ite (fun _ => hunit _) fun _ => quotedBody_ite (fun _ => ?_) fun _ => ?_
  · exact quotedBody_ite (fun _ => hunit _) fun _ => (hunit _).append (hunit _)
  · exact quotedBody_cons (by simp [isQuotable, hquote, hslash, hline]) .nil

theorem quotedBody_flatMap_quoteChar (ascii : Bool) (cs : List Char) :
    QuotedBody '"' (cs.flatMap (quoteChar ascii)) := by
  induction cs with
  | nil => exact .nil
  | cons c cs ih => exact (quotedBody_quoteChar ascii c).append ih

theorem balanced_quote (ascii : Bool) (cs : List Char) : Balanced (quote ascii cs) :=
  (quotedBody_flatMap_quoteChar ascii cs).balanced rfl

/-! ## Values -/

theorem balanced_scalarText (ascii : Bool) (s : Scalar) : Balanced (scalarText ascii s) := by
  cases s with
  | null => exact balanced_of_all (by rfl)
  | bool b => cases b <;> exact balanced_of_all (by rfl)
  | int n => exact balanced_of_all (all_isOrdinary_toString n)
  | real x => exact balanced_of_all x.all_isOrdinary_text
  | str s => exact balanced_quote ascii s.toList

mutual

/-- The text of a JSON value is balanced. -/
theorem balanced_text (ascii : Bool) : ∀ j : Json, Balanced (j.text ascii)
  | .scalar s => balanced_scalarText ascii s
  | .arr items => .char (by decide) <|
      (balanced_itemsText ascii items).append (.char (by decide) .nil)
  | .obj members => .char (by decide) <|
      (balanced_membersText ascii members).append (.char (by decide) .nil)

theorem balanced_itemsText (ascii : Bool) : ∀ items : List Json, Balanced (itemsText ascii items)
  | [] => .nil
  | [j] => balanced_text ascii j
  | j :: k :: rest => (balanced_text ascii j).append <| .char (by decide) <| .char (by decide) <|
      balanced_itemsText ascii (k :: rest)

theorem balanced_membersText (ascii : Bool) :
    ∀ members : List (String × Json), Balanced (membersText ascii members)
  | [] => .nil
  | [(k, j)] => (balanced_quote ascii k.toList).append <| .char (by decide) <|
      .char (by decide) <| balanced_text ascii j
  | (k, j) :: m :: rest =>
      ((balanced_quote ascii k.toList).append <| .char (by decide) <| .char (by decide) <|
        balanced_text ascii j).append <| .char (by decide) <| .char (by decide) <|
          balanced_membersText ascii (m :: rest)

end

end Json

end EstreeEmitter
