import EstreeEmitter.Interpolation
import EstreeEmitter.Passes.Brackets

set_option autoImplicit false

/-! # Balanced text

`Balanced` is a grammar of texts on one line: ordinary characters, quoted texts, and balanced texts
in parentheses. A scanner for parentheses passes over a balanced text and is in the state in which
it came (`closingFrom_append`, `staysOpen_append`), so it ends where a balanced text ends. Escaping
interpolation keeps a text balanced (`Balanced.escapeInterpolation`). -/

namespace EstreeEmitter.Passes

/-! ## The grammar -/

/-- A character that means nothing to the scanners: no quote, parenthesis or line feed. -/
def isOrdinary (c : Char) : Bool := !(isQuote c || c == '(' || c == ')' || c == '\n')

/-- The text can stand between two quotes `q`: on one line, with every `q` and every backslash in it
behind a backslash. -/
inductive QuotedBody (q : Char) : List Char → Prop where
  | nil : QuotedBody q []
  | char {c : Char} {cs : List Char} (hq : c ≠ q) (hb : c ≠ '\\') (hn : c ≠ '\n')
    (h : QuotedBody q cs) : QuotedBody q (c :: cs)
  | escape {c : Char} {cs : List Char} (h : QuotedBody q cs) : QuotedBody q ('\\' :: c :: cs)

/-- The parentheses of the text are in pairs and its quotes are closed, on one line. -/
inductive Balanced : List Char → Prop where
  | nil : Balanced []
  | char {c : Char} {cs : List Char} (hc : isOrdinary c = true) (h : Balanced cs) :
    Balanced (c :: cs)
  | group {inner rest : List Char} (h : Balanced inner) (h' : Balanced rest) :
    Balanced ('(' :: (inner ++ ')' :: rest))
  | quoted {q : Char} {body rest : List Char} (hq : isQuote q = true) (h : QuotedBody q body)
    (h' : Balanced rest) : Balanced (q :: (body ++ q :: rest))

theorem isOrdinary_iff {c : Char} :
    isOrdinary c = true ↔ isQuote c = false ∧ c ≠ '(' ∧ c ≠ ')' ∧ c ≠ '\n' := by
  simp [isOrdinary, and_assoc]

theorem isQuote_iff {c : Char} : isQuote c = true ↔ c = '\'' ∨ c = '"' := by
  simp [isQuote]

theorem ne_of_isQuote {q c : Char} (hq : isQuote q = true) (hc : isQuote c = false) : q ≠ c := by
  rintro rfl
  rw [hq] at hc
  cases hc

theorem QuotedBody.append {q : Char} {cs ds : List Char} (h : QuotedBody q cs)
    (h' : QuotedBody q ds) : QuotedBody q (cs ++ ds) := by
  induction h with
  | nil => exact h'
  | char hq hb hn _ ih => exact .char hq hb hn ih
  | escape _ ih => exact .escape ih

theorem Balanced.append {cs ds : List Char} (h : Balanced cs) (h' : Balanced ds) :
    Balanced (cs ++ ds) := by
  induction h with
  | nil => exact h'
  | char hc _ ih => exact .char hc ih
  | group hi _ _ ih =>
      rw [List.cons_append, List.append_assoc, List.cons_append]
      exact .group hi ih
  | quoted hq hb _ ih =>
      rw [List.cons_append, List.append_assoc, List.cons_append]
      exact .quoted hq hb ih

theorem balanced_of_all {cs : List Char} (h : cs.all isOrdinary = true) : Balanced cs := by
  induction cs with
  | nil => exact .nil
  | cons c cs ih =>
      obtain ⟨hc, hcs⟩ := Bool.and_eq_true_iff.mp h
      exact .char hc (ih hcs)

theorem Balanced.parenthesized {cs : List Char} (h : Balanced cs) :
    Balanced ('(' :: (cs ++ [')'])) := .group h .nil

theorem QuotedBody.balanced {q : Char} {body : List Char} (hq : isQuote q = true)
    (h : QuotedBody q body) : Balanced (q :: (body ++ [q])) := .quoted hq h .nil

/-! ## Closing parentheses -/

/-- Inside quotes a character that is not hidden is passed over, and the quote itself ends them. -/
theorem closingFrom_inside {q c : Char} (hn : c ≠ '\n') (hb : c ≠ '\\') (depth : Nat)
    (cs : List Char) :
    closingFrom depth (some q) (c :: cs) =
      (closingFrom depth (if c = q then none else some q) cs).map (· + 1) := by
  have hline : ¬(c == '\n') = true := by simpa using hn
  have hhide : ¬(c == '\\') = true := by simpa using hb
  cases cs with
  | nil => simp [closingFrom]
  | cons d ds =>
      rw [closingFrom, if_neg hline, if_neg hhide]
      by_cases hq : c = q
      · rw [if_pos (beq_iff_eq.mpr hq), if_pos hq]
      · rw [if_neg (by simpa using hq), if_neg hq]

/-- From inside quotes the scan comes out behind the closing one. -/
theorem closingFrom_quoted {q : Char} {body : List Char} (hq : isQuote q = true)
    (h : QuotedBody q body) (depth : Nat) (rest : List Char) :
    closingFrom depth (some q) (body ++ q :: rest) =
      (closingFrom depth none rest).map (· + (body.length + 1)) := by
  induction h with
  | nil =>
      rw [List.nil_append, closingFrom_inside (ne_of_isQuote hq rfl) (ne_of_isQuote hq rfl),
        if_pos rfl]
      rfl
  | @char c cs hcq hb hn _ ih =>
      rw [List.cons_append, closingFrom_inside hn hb, if_neg hcq, ih]
      simp [Function.comp_def, Nat.add_assoc]
  | @escape c cs _ ih =>
      rw [List.cons_append, List.cons_append, closingFrom, ih]
      simp [Function.comp_def, Nat.add_assoc]

/-- The scan passes over a balanced text. -/
theorem closingFrom_append {cs : List Char} (h : Balanced cs) (depth : Nat) (rest : List Char) :
    closingFrom depth none (cs ++ rest) =
      (closingFrom depth none rest).map (· + cs.length) := by
  induction h generalizing depth rest with
  | nil => simp
  | @char c cs hc _ ih =>
      obtain ⟨hquote, hopen, hclose, hline⟩ := isOrdinary_iff.mp hc
      simp [closingFrom, hquote, hopen, hclose, hline, ih, Function.comp_def, Nat.add_assoc]
  | @group inner tail _ _ ihi ih =>
      -- the group is scanned one deeper, and its end leads back to the present depth
      have hopen : closingFrom depth none ('(' :: (inner ++ ')' :: (tail ++ rest))) =
          (closingFrom (depth + 1) none (inner ++ ')' :: (tail ++ rest))).map (· + 1) := by
        simp [closingFrom, isQuote]
      have hclose : closingFrom (depth + 1) none (')' :: (tail ++ rest)) =
          (closingFrom depth none (tail ++ rest)).map (· + 1) := by
        simp [closingFrom, isQuote]
      have htext : '(' :: (inner ++ ')' :: tail) ++ rest =
          '(' :: (inner ++ ')' :: (tail ++ rest)) := by simp
      rw [htext, hopen, ihi, hclose, ih]
      simp only [Option.map_map, Function.comp_def, List.length_cons, List.length_append]
      congr 1
      funext n
      omega
  | @quoted q body tail hq hb _ ih =>
      have hopen : closingFrom depth none (q :: (body ++ q :: (tail ++ rest))) =
          (closingFrom depth (some q) (body ++ q :: (tail ++ rest))).map (· + 1) := by
        simp [closingFrom, ne_of_isQuote hq (c := '\n') rfl, hq]
      have htext : q :: (body ++ q :: tail) ++ rest = q :: (body ++ q :: (tail ++ rest)) := by simp
      rw [htext, hopen, closingFrom_quoted hq hb, ih]
      simp only [Option.map_map, Function.comp_def, List.length_cons, List.length_append]
      congr 1
      funext n
      omega

/-- **The scan for a closing parenthesis ends behind a balanced text.** -/
theorem closingParen?_of_balanced {cs : List Char} (h : Balanced cs) (rest : List Char) :
    closingParen? (cs ++ ')' :: rest) 0 = some cs.length := by
  have hclose : closingFrom 0 none (')' :: rest) = some 0 := by simp [closingFrom, isQuote]
  rw [closingParen?, List.drop_zero, closingOffset?, closingFrom_append h, hclose]
  simp

/-! ## Enclosing parentheses -/

theorem staysOpen_inside {q c : Char} (hb : c ≠ '\\') (depth : Nat) (cs : List Char) :
    staysOpen depth (some q) (c :: cs) = staysOpen depth (if c = q then none else some q) cs := by
  have hhide : ¬(c == '\\') = true := by simpa using hb
  cases cs with
  | nil => simp [staysOpen]
  | cons d ds =>
      rw [staysOpen, if_neg hhide]
      by_cases hq : c = q
      · rw [if_pos (beq_iff_eq.mpr hq), if_pos hq]
      · rw [if_neg (by simpa using hq), if_neg hq]

theorem staysOpen_quoted {q : Char} {body : List Char} (hq : isQuote q = true)
    (h : QuotedBody q body) (depth : Nat) (rest : List Char) :
    staysOpen depth (some q) (body ++ q :: rest) = staysOpen depth none rest := by
  induction h with
  | nil => rw [List.nil_append, staysOpen_inside (ne_of_isQuote hq rfl), if_pos rfl]
  | char hcq hb _ _ ih => rw [List.cons_append, staysOpen_inside hb, if_neg hcq, ih]
  | escape _ ih =>
      rw [List.cons_append, List.cons_append, staysOpen, if_pos (beq_self_eq_true _), ih]

/-- Inside parentheses a balanced text closes none of them. -/
theorem staysOpen_append {cs : List Char} (h : Balanced cs) (depth : Nat) (rest : List Char) :
    staysOpen (depth + 1) none (cs ++ rest) = staysOpen (depth + 1) none rest := by
  induction h generalizing depth rest with
  | nil => rfl
  | char hc _ ih =>
      obtain ⟨hquote, hopen, hclose, -⟩ := isOrdinary_iff.mp hc
      simp [staysOpen, hquote, hopen, hclose, ih]
  | group _ _ ihi ih =>
      rw [List.cons_append, List.append_assoc, List.cons_append, staysOpen]
      simp [isQuote, ihi, staysOpen, ih]
  | quoted hq hb _ ih =>
      rw [List.cons_append, List.append_assoc, List.cons_append, staysOpen, if_pos hq,
        staysOpen_quoted hq hb, ih]

/-- **A balanced text in parentheses is unwrapped.** -/
theorem unwrap?_of_balanced {cs : List Char} (h : Balanced cs) :
    unwrap? ('(' :: (cs ++ [')'])) = some cs := by
  have hlast : ('(' :: (cs ++ [')'])).getLast? = some ')' := by simp [List.getLast?_cons]
  have hopen : staysOpen 0 none ('(' :: (cs ++ [')'])) = true := by
    simp [staysOpen, isQuote, staysOpen_append h 0]
  simp [unwrap?, hlast, hopen]

/-! ## Escapes against interpolation -/

/-- A character keeps its place, or it is a number sign and gets a backslash. -/
theorem escapeInterpolation_cons (c : Char) (cs : List Char) :
    escapeInterpolation (c :: cs) = c :: escapeInterpolation cs ∨
      c = '#' ∧ escapeInterpolation (c :: cs) = '\\' :: '#' :: escapeInterpolation cs := by
  cases cs with
  | nil => exact .inl rfl
  | cons d ds =>
      rw [escapeInterpolation]
      split
      · rename_i h
        exact .inr ⟨by simpa using (Bool.and_eq_true_iff.mp h).1, rfl⟩
      · exact .inl rfl

theorem escapeInterpolation_cons_of_ne {c : Char} (hc : c ≠ '#') (cs : List Char) :
    escapeInterpolation (c :: cs) = c :: escapeInterpolation cs :=
  (escapeInterpolation_cons c cs).resolve_right fun h => hc h.1

/-- A text and what follows are escaped apart, unless what follows makes an interpolation. -/
theorem escapeInterpolation_append_cons {c : Char} (hc : opensInterpolation c = false)
    (cs rest : List Char) :
    escapeInterpolation (cs ++ c :: rest) =
      escapeInterpolation cs ++ escapeInterpolation (c :: rest) := by
  induction cs with
  | nil => rfl
  | cons d ds ih =>
      cases ds with
      | nil => simp [escapeInterpolation, hc]
      | cons e es =>
          rw [List.cons_append, List.cons_append, escapeInterpolation, escapeInterpolation]
          rw [List.cons_append] at ih
          split <;> rw [ih] <;> rfl

theorem QuotedBody.escapeInterpolation {q : Char} {body : List Char} (hq : isQuote q = true)
    (h : QuotedBody q body) : QuotedBody q (escapeInterpolation body) := by
  have hsign : '#' ≠ q := (ne_of_isQuote hq rfl).symm
  induction h with
  | nil => exact .nil
  | @char c cs hcq hb hn _ ih =>
      rcases escapeInterpolation_cons c cs with h | ⟨-, h⟩
      · rw [h]
        exact .char hcq hb hn ih
      · rw [h]
        exact .escape ih
  | @escape c cs _ ih =>
      rw [escapeInterpolation_cons_of_ne (by decide)]
      rcases escapeInterpolation_cons c cs with h | ⟨-, h⟩
      · rw [h]
        exact .escape ih
      · -- the new backslash is hidden by the old one, and the number sign stands by itself
        rw [h]
        exact .escape (.char hsign (by decide) (by decide) ih)

theorem Balanced.escapeInterpolation {cs : List Char} (h : Balanced cs) :
    Balanced (escapeInterpolation cs) := by
  induction h with
  | nil => exact .nil
  | @char c cs hc _ ih =>
      rcases escapeInterpolation_cons c cs with h | ⟨-, h⟩
      · rw [h]
        exact .char hc ih
      · rw [h]
        exact .char (by decide) (.char (by decide) ih)
  | @group inner rest _ _ ihi ih =>
      rw [escapeInterpolation_cons_of_ne (by decide), escapeInterpolation_append_cons (by decide),
        escapeInterpolation_cons_of_ne (by decide)]
      exact .group ihi ih
  | @quoted q body rest hq hb _ ih =>
      have hsign : q ≠ '#' := ne_of_isQuote hq rfl
      have hopen : opensInterpolation q = false := by
        rcases isQuote_iff.mp hq with rfl | rfl <;> rfl
      rw [escapeInterpolation_cons_of_ne hsign, escapeInterpolation_append_cons hopen,
        escapeInterpolation_cons_of_ne hsign]
      exact .quoted hq (hb.escapeInterpolation hq) ih

end EstreeEmitter.Passes
