import EstreeEmitter.Proofs.Passes.ClosingParen
import EstreeEmitter.Proofs.Passes.TopLevel

set_option autoImplicit false

/-! # Parentheses around a whole text

Two scanners ask about the first parenthesis of a text: one where it closes, the other whether it
stays open up to the last character. On one line they take the same steps (`scans_cons`), so they
see the same (`staysOpenAt_eq`), except that the second one is content when the parenthesis is never
closed. Then more parentheses are opened than closed (`rise_of_closingAt_eq_none`). So in a line
that closes what it opens, the whole text is unwrapped exactly when its first parenthesis closes at
its last character. -/

namespace EstreeEmitter.Passes

open Text

/-! ## The two scans side by side -/

/-- The scan for a closing parenthesis by a reader at a place. -/
def closingAt (depth : Nat) : Place → List Char → Option Nat
  | .outside, cs => closingFrom depth none cs
  | .inside q _, cs => closingFrom depth (some q) cs
  | .hidden .., [] => none
  | .hidden q _, _ :: cs => (closingFrom depth (some q) cs).map (· + 1)

/-- The check that a parenthesis stays open by a reader at a place. -/
def staysOpenAt (depth : Nat) : Place → List Char → Bool
  | .outside, cs => staysOpen depth none cs
  | .inside q _, cs => staysOpen depth (some q) cs
  | .hidden .., [] => true
  | .hidden q _, _ :: cs => staysOpen depth (some q) cs

/-- On one line both scans are at the parenthesis that closes, or both go on by one character, as
deep as the character leads. -/
theorem scans_cons (depth : Nat) (p : Place) {c : Char} (hn : c ≠ '\n') (cs : List Char) :
    (closingAt depth p (c :: cs) = some 0 ∧ staysOpenAt (depth + 1) p (c :: cs) = cs.isEmpty) ∨
    ∃ depth' : Nat, (depth' : Int) = depth + Brackets.round.turn p c ∧
      closingAt depth p (c :: cs) = (closingAt depth' (p.next c) cs).map (· + 1) ∧
      staysOpenAt (depth + 1) p (c :: cs) = staysOpenAt (depth' + 1) (p.next c) cs := by
  cases p with
  | hidden q hq => exact .inr ⟨depth, by simp [Brackets.turn], rfl, rfl⟩
  | inside q hq =>
      refine .inr ⟨depth, by simp [Brackets.turn], ?_⟩
      by_cases hb : c = '\\'
      · have hslash : '\\' ≠ q := (ne_of_isQuote hq rfl).symm
        subst hb
        rw [Place.next, if_neg hslash, if_pos rfl]
        cases cs with
        | nil => exact ⟨rfl, rfl⟩
        | cons d cs => simp [closingAt, staysOpenAt, closingFrom, staysOpen, Function.comp_def]
      · rw [closingAt, staysOpenAt, closingFrom_inside hn hb, staysOpen_inside hb, Place.next,
          if_neg hb]
        by_cases hcq : c = q
        · rw [if_pos hcq, if_pos hcq]
          exact ⟨rfl, rfl⟩
        · rw [if_neg hcq, if_neg hcq]
          exact ⟨rfl, rfl⟩
  | outside =>
      by_cases hq : isQuote c = true
      · have hnext : Place.outside.next c = .inside c hq := dif_pos hq
        have hturn : Brackets.round.turn .outside c = 0 := by
          rcases isQuote_iff.mp hq with rfl | rfl <;> rfl
        refine .inr ⟨depth, by omega, ?_⟩
        rw [hnext]
        simp [closingAt, staysOpenAt, closingFrom, staysOpen, hq, hn]
      · rw [Place.next_outside (by simpa using hq)]
        by_cases ho : c = '('
        · subst ho
          refine .inr ⟨depth + 1, rfl, ?_⟩
          simp [closingAt, staysOpenAt, closingFrom, staysOpen, isQuote]
        · by_cases hc : c = ')'
          · subst hc
            cases depth with
            | zero =>
                refine .inl ⟨rfl, ?_⟩
                cases cs <;> simp [staysOpenAt, staysOpen, isQuote]
            | succ depth =>
                refine .inr ⟨depth, by simp [Brackets.turn, Brackets.round], ?_⟩
                simp [closingAt, staysOpenAt, closingFrom, staysOpen, isQuote]
          · have hturn : Brackets.round.turn .outside c = 0 := by
              simp [Brackets.turn, Brackets.round, ho, hc]
            refine .inr ⟨depth, by omega, ?_⟩
            simp [closingAt, staysOpenAt, closingFrom, staysOpen, hq, hn, ho, hc]

/-- A parenthesis stays open unless the scan for its end finds it before the last character. -/
theorem staysOpenAt_eq {depth : Nat} {p : Place} {cs : List Char} (hn : '\n' ∉ cs) :
    staysOpenAt (depth + 1) p cs = (closingAt depth p cs).all (· + 1 == cs.length) := by
  induction cs generalizing depth p with
  | nil => cases p <;> simp [staysOpenAt, staysOpen, closingAt, closingFrom]
  | cons c cs ih =>
      obtain ⟨hc, hcs⟩ : '\n' ≠ c ∧ '\n' ∉ cs := by simpa using hn
      rcases scans_cons depth p hc.symm cs with ⟨hclose, hopen⟩ | ⟨depth', -, hclose, hopen⟩
      · rw [hclose, hopen]
        cases cs <;> rfl
      · rw [hclose, hopen, ih hcs]
        cases closingAt depth' (p.next c) cs with
        | none => rfl
        | some n => simp

/-- Where no closing parenthesis is found, no more are closed than are open. -/
theorem rise_of_closingAt_eq_none {depth : Nat} {p : Place} {cs : List Char} (hn : '\n' ∉ cs)
    (h : closingAt depth p cs = none) : 0 ≤ depth + Brackets.round.rise p cs := by
  induction cs generalizing depth p with
  | nil =>
      rw [Brackets.rise]
      omega
  | cons c cs ih =>
      obtain ⟨hc, hcs⟩ : '\n' ≠ c ∧ '\n' ∉ cs := by simpa using hn
      rw [Brackets.rise]
      rcases scans_cons depth p hc.symm cs with ⟨hclose, -⟩ | ⟨depth', hd, hclose, -⟩
      · rw [hclose] at h
        cases h
      · rw [hclose, Option.map_eq_none_iff] at h
        have := ih hcs h
        omega

/-! ## Unwrapping -/

/-- Text behind a parenthesis that closes in it is unwrapped when it closes at the end. -/
theorem unwrap?_of_closingOffset? {inner : List Char} {n : Nat} (hn : '\n' ∉ inner)
    (h : closingOffset? inner = some n) :
    unwrap? ('(' :: inner) = if n + 1 = inner.length then some inner.dropLast else none := by
  have hopen : staysOpen 0 none ('(' :: inner) = (n + 1 == inner.length) := by
    have hfirst : staysOpen 0 none ('(' :: inner) = staysOpenAt 1 .outside inner := by
      simp [staysOpen, staysOpenAt, isQuote]
    have hfound : closingAt 0 .outside inner = some n := h
    rw [hfirst, staysOpenAt_eq hn, hfound]
    rfl
  by_cases hlast : n + 1 = inner.length
  · obtain ⟨before, rest, rfl, rfl, -⟩ := closingOffset?_eq_some_iff.mp h
    have hrest : rest = [] := by
      rw [List.length_append, List.length_cons] at hlast
      exact List.length_eq_zero_iff.mp (by omega)
    subst hrest
    rw [if_pos hlast, unwrap?, hopen, hlast]
    simp [List.getLast?_cons]
  · rw [if_neg hlast, unwrap?, hopen, if_neg]
    simp [hlast]

theorem unwrap?_cons_of_ne {c : Char} (h : c ≠ '(') (cs : List Char) :
    unwrap? (c :: cs) = none := by
  unfold unwrap?
  split
  · rename_i heq
    exact absurd (List.cons.inj heq).1 h
  · rfl

/-- A text that closes what it opens closes its first parenthesis. -/
theorem exists_closingOffset? {inner : List Char} (hn : '\n' ∉ inner)
    (hlevel : Brackets.round.rise .outside ('(' :: inner) = 0) :
    ∃ n, closingOffset? inner = some n := by
  cases h : closingOffset? inner with
  | some n => exact ⟨n, rfl⟩
  | none =>
      have hdeep : 0 ≤ (0 : Nat) + Brackets.round.rise .outside inner :=
        rise_of_closingAt_eq_none hn h
      have hstep : Brackets.round.rise .outside ('(' :: inner) =
          1 + Brackets.round.rise .outside inner := rfl
      omega

/-- What unwrapping gives is decided by the scan for the closing parenthesis. -/
theorem unwrap?_eq_ite {text : List Char} (hn : '\n' ∉ text)
    (hlevel : Brackets.round.rise .outside text = 0) :
    unwrap? text =
      if text.head? = some '(' ∧ closingParen? text 1 = some (text.length - 1) then
        some text.tail.dropLast
      else none := by
  cases text with
  | nil => rfl
  | cons c inner =>
      by_cases hc : c = '('
      · subst hc
        have hinner : '\n' ∉ inner := fun h => hn (List.mem_cons_of_mem _ h)
        obtain ⟨n, h⟩ := exists_closingOffset? hinner hlevel
        have hparen : closingParen? ('(' :: inner) 1 = some (1 + n) := by
          rw [closingParen?, List.drop_one, List.tail_cons, h]
          rfl
        rw [unwrap?_of_closingOffset? hinner h, hparen]
        refine if_congr ?_ rfl rfl
        rw [List.length_cons, Option.some.injEq]
        constructor
        · intro hlast
          exact ⟨rfl, by omega⟩
        · rintro ⟨-, hlast⟩
          omega
      · have hhead : ¬(c :: inner).head? = some '(' := by simpa using hc
        rw [unwrap?_cons_of_ne hc, if_neg fun h => hhead h.1]

/-- **The two parenthesis scanners agree.** Let a text on one line close as many parentheses as it
opens, those in literals apart. It is unwrapped to what stands between its first and last character
if and only if it starts with a parenthesis that closes at its last character, and to nothing
otherwise. A literal that is still open at the end makes no difference. -/
theorem unwrap?_iff_closingParen? {text : List Char} (hn : '\n' ∉ text)
    (hlevel : Brackets.round.rise .outside text = 0) :
    (unwrap? text = some text.tail.dropLast ↔
      text.head? = some '(' ∧ closingParen? text 1 = some (text.length - 1)) ∧
    (¬(text.head? = some '(' ∧ closingParen? text 1 = some (text.length - 1)) →
      unwrap? text = none) := by
  rw [unwrap?_eq_ite hn hlevel]
  constructor
  · constructor
    · intro h
      by_contra hne
      rw [if_neg hne] at h
      cases h
    · intro h
      rw [if_pos h]
  · intro h
    rw [if_neg h]

/-- A text in parentheses with parentheses in its literals. -/
def quotedParentheses : List Char := "(f(')') + \"\\\"(\")".toList

/-- Parentheses in literals do not count. -/
theorem unwrap?_quotedParentheses :
    '\n' ∉ quotedParentheses ∧ Brackets.round.rise .outside quotedParentheses = 0 ∧
      closingParen? quotedParentheses 1 = some 15 ∧
      unwrap? quotedParentheses = some quotedParentheses.tail.dropLast := by
  have hn : '\n' ∉ quotedParentheses := by decide +kernel
  have hlevel : Brackets.round.rise .outside quotedParentheses = 0 := by decide +kernel
  have hclose : closingParen? quotedParentheses 1 = some 15 := by decide +kernel
  exact ⟨hn, hlevel, hclose, (unwrap?_iff_closingParen? hn hlevel).1.mpr ⟨rfl, hclose⟩⟩

end EstreeEmitter.Passes
