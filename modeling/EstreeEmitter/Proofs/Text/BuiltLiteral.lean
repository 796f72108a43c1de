import EstreeEmitter.Estree.Builder
import EstreeEmitter.Proofs.Text.RawLiteral

set_option autoImplicit false

/-! # Built literals in Ruby

A string literal that is built from its value gets a raw text of its own: backslashes are doubled,
and then the quote gets a backslash. In double quotes the emitter puts backslashes before number
signs afterwards. `Spells` says how the characters of a value may be written between two quotes; a
built literal is written so (`generate_string`), whatever backslashes, quotes and number signs stand
next to each other in the value. Hence it ends where it should and is read back as its value
(`rubyValue?_string`). -/

namespace EstreeEmitter

open Text Passes

/-! ## Spelled values -/

/-- A backslash may stand before the character between the quotes `q`. -/
def IsEscape (q c : Char) : Prop := c = '\\' ∨ c = q ∨ q = '"' ∧ c = '#'

/-- The characters of a value, as they are written between the quotes `q`: by themselves or behind a
backslash. The quote and the backslash need one, and in double quotes a number sign that would start
an interpolation. -/
inductive Spells (q : Char) : List Char → List Char → Prop where
  | nil : Spells q [] []
  | plain {c : Char} {value body : List Char} (hq : c ≠ q) (hb : c ≠ '\\')
    (hi : q = '"' → c = '#' → body.head?.any opensInterpolation = false)
    (h : Spells q value body) : Spells q (c :: value) (c :: body)
  | escaped {c : Char} {value body : List Char} (hc : IsEscape q c) (h : Spells q value body) :
    Spells q (c :: value) ('\\' :: c :: body)

section

variable {q : Char} {value body : List Char}

theorem Spells.escapesNext_eq (h : Spells q value body) : escapesNext false body = false := by
  induction h with
  | nil => rfl
  | plain hq hb hi h ih => rw [escapesNext_cons hb, ih]
  | escaped hc h ih => simpa [escapesNext] using ih

/-- What a character is that no backslash escapes: not the quote, no number sign of an
interpolation, and a backslash only before a character that may have one. -/
theorem Spells.of_unescaped (h : Spells q value body) (hquote : isQuote q = true)
    {before rest : List Char} {c : Char} (hbody : body = before ++ c :: rest)
    (hb : escapesNext false before = false) :
    c ≠ q ∧ (q = '"' → c = '#' → rest.head?.any opensInterpolation = false) ∧
      (c = '\\' → ∃ d behind, rest = d :: behind ∧ IsEscape q d) := by
  induction h generalizing before with
  | nil => exact absurd hbody.symm (by simp)
  | @plain d value body hq hd hi h ih =>
      cases before with
      | nil =>
          obtain ⟨rfl, rfl⟩ := List.cons.inj hbody
          exact ⟨hq, hi, fun hc => absurd hc hd⟩
      | cons e before =>
          obtain ⟨rfl, htail⟩ := List.cons.inj hbody
          exact ih htail (by rwa [escapesNext_cons hd] at hb)
  | @escaped d value body hd h ih =>
      cases before with
      | nil =>
          obtain ⟨rfl, rfl⟩ := List.cons.inj hbody
          exact ⟨(ne_of_isQuote hquote rfl).symm, fun _ hc => absurd hc (by decide),
            fun _ => ⟨d, body, rfl, hd⟩⟩
      | cons e before =>
          obtain ⟨rfl, htail⟩ := List.cons.inj hbody
          cases before with
          | nil =>
              -- this is the escaped character itself
              cases hb
          | cons e before =>
              obtain ⟨-, hrest⟩ := List.cons.inj htail
              exact ih hrest (by simpa [escapesNext] using hb)

end

/-! ## Reading -/

/-- A value in single quotes is read back. -/
theorem singleBody?_of_spells {value body : List Char} (h : Spells '\'' value body) :
    singleBody? (body ++ ['\'']) = some value := by
  induction h with
  | nil => rfl
  | plain hq hb hi h ih => rw [List.cons_append, singleBody?_plain hq hb, ih]; rfl
  | escaped hc h ih =>
      rcases hc with rfl | rfl | ⟨hq, -⟩
      · rw [List.cons_append, List.cons_append, singleBody?, ih]
        rfl
      · rw [List.cons_append, List.cons_append, singleBody?, ih]
        rfl
      · cases hq

/-- A value in double quotes is read back. -/
theorem doubleBody?_of_spells {value body : List Char} (h : Spells '"' value body) :
    doubleBody? rubyEscape? (body ++ ['"']) = some value := by
  induction h with
  | nil => rfl
  | @plain c value body hq hb hi h ih =>
      have hsign : (c == '#' && (body ++ ['"']).head?.any opensInterpolation) = false := by
        by_cases hc : c = '#'
        · have hbody := hi rfl hc
          cases body with
          | nil => simp [opensInterpolation]
          | cons d ds => simpa [hc] using hbody
        · simp [hc]
      rw [List.cons_append, doubleBody?_cons hq hb hsign, ih]
      rfl
  | escaped hc h ih =>
      rw [List.cons_append, List.cons_append]
      rcases hc with rfl | rfl | ⟨-, rfl⟩ <;> rw [doubleBody?_escape (by decide), ih] <;> rfl

/-! ## Built literals -/

/-- A character with a backslash before it, if it is a backslash or the quote. -/
def escapedChar (q c : Char) : List Char := if c == '\\' || c == q then ['\\', c] else [c]

/-- Replacing one character goes character by character. -/
theorem replaceAll_singleton (old : Char) (new cs : List Char) :
    replaceAll [old] new cs = cs.flatMap fun c => if c == old then new else [c] := by
  have hscan : ∀ before, paste (fun _ => new)
      (cut (fun _ rest => (after? [old] rest).map fun _ => ((), 1)) before 0 cs) =
        cs.flatMap fun c => if c == old then new else [c] := by
    induction cs with
    | nil => exact fun _ => rfl
    | cons c cs ih =>
        intro before
        rw [List.flatMap_cons, ← ih (c :: before), cut]
        by_cases hc : c = old
        · simp [after?, hc, paste]
        · simp [after?, hc, Ne.symm hc, paste]
  exact hscan []

/-- Both replacements together: each character of the value is escaped on its own. -/
theorem quotedRaw_eq {q : Char} (hq : q ≠ '\\') (value : List Char) :
    Value.quotedRaw value [q] = q :: (value.flatMap (escapedChar q) ++ [q]) := by
  have hboth : ∀ c, ((if c == '\\' then ['\\', '\\'] else [c]).flatMap fun d =>
      if d == q then ['\\', q] else [d]) = escapedChar q c := by
    intro c
    by_cases hb : c = '\\'
    · simp [escapedChar, hb, hq.symm]
    · by_cases hc : c = q
      · simp [escapedChar, hc, hq]
      · simp [escapedChar, hb, hc]
  rw [Value.quotedRaw, replaceAll_singleton, replaceAll_singleton, List.flatMap_assoc]
  simp only [hboth]
  rfl

/-- In single quotes the raw text is the literal. -/
theorem spells_single (value : List Char) :
    Spells '\'' value (value.flatMap (escapedChar '\'')) := by
  induction value with
  | nil => exact .nil
  | cons c value ih =>
      rw [List.flatMap_cons, escapedChar]
      split
      · rename_i hc
        simp only [Bool.or_eq_true, beq_iff_eq] at hc
        exact .escaped (hc.imp_right .inl) ih
      · rename_i hc
        simp only [Bool.or_eq_true, beq_iff_eq, not_or] at hc
        exact .plain hc.2 hc.1 (fun hq => absurd hq (by decide)) ih

/-- In double quotes the number signs of interpolations are escaped afterwards, and no other escape
is torn apart. -/
theorem spells_double (value : List Char) :
    Spells '"' value (escapeInterpolation (value.flatMap (escapedChar '"'))) := by
  induction value with
  | nil => exact .nil
  | cons c value ih =>
      rw [List.flatMap_cons, escapedChar]
      split
      · rename_i hc
        -- a backslash and what it escapes: neither is a number sign
        simp only [Bool.or_eq_true, beq_iff_eq] at hc
        have hsign : c ≠ '#' := by rintro rfl; simp at hc
        rw [List.cons_append, List.singleton_append, escapeInterpolation_cons_of_ne (by decide),
          escapeInterpolation_cons_of_ne hsign]
        exact .escaped (hc.imp_right .inl) ih
      · rename_i hc
        simp only [Bool.or_eq_true, beq_iff_eq, not_or] at hc
        rw [List.singleton_append, escapeInterpolation_cons_eq]
        split
        · rename_i hi
          rw [Bool.and_eq_true, beq_iff_eq] at hi
          rw [hi.1]
          exact .escaped (.inr (.inr ⟨rfl, rfl⟩)) ih
        · rename_i hi
          -- what follows opens an interpolation in the literal only if it did in the raw text
          refine .plain hc.2 hc.1 (fun _ hsign => ?_) ih
          have hopens := any_head?_escapeInterpolation (value.flatMap (escapedChar '"'))
          exact hopens.trans (by simpa [hsign] using hi)

/-- The text of a built literal, between its quotes, spells the value. -/
theorem generate_string {q : Char} (hq : isQuote q = true) (value : String) :
    ∃ body, (Value.string value (String.ofList [q])).generate .ruby = .ok (q :: (body ++ [q])) ∧
      Spells q value.toList body := by
  have hne : q ≠ '\\' := ne_of_isQuote hq rfl
  have hraw : rawText? (Value.rawExtra (Value.quotedRaw value.toList [q]) (.str value)) =
      .ok (some (Value.quotedRaw value.toList [q])) :=
    congrArg (fun cs => Except.ok (some cs)) String.toList_ofList
  have htext : (Value.string value (String.ofList [q])).generate .ruby =
      .ok (Dialect.ruby.rawString (q :: (value.toList.flatMap (escapedChar q) ++ [q]))) := by
    rw [← quotedRaw_eq hne, generate_expression .ruby rfl, Value.string, String.toList_ofList,
      Value.ofNode, expressionText, constructText, Dialect.stringText, hraw]
    rfl
  rcases isQuote_iff.mp hq with rfl | rfl
  · exact ⟨_, htext, spells_single value.toList⟩
  · refine ⟨_, htext.trans (congrArg Except.ok ?_), spells_double value.toList⟩
    have hstart : ∀ cs, Dialect.ruby.rawString ('"' :: cs) = '"' :: escapeInterpolation cs :=
      escapeInterpolation_cons_of_ne (by decide)
    rw [hstart, escapeInterpolation_append_cons (by decide)]
    rfl

/-- **Built literals are read back by Ruby.** For every value and both quotes, the literal that is
built from them has a text between these quotes that Ruby reads as the value. A quote in it is
unescaped exactly if it is the first or the last character. The only escapes are those of the
backslash, of the quote and, in double quotes, of the number sign, and there no number sign that
would start an interpolation is unescaped. -/
theorem rubyValue?_string (value : String) {q : Char} (hq : isQuote q = true) :
    ∃ body text, text = q :: (body ++ [q]) ∧
      (Value.string value (String.ofList [q])).generate .ruby = .ok text ∧
      rubyValue? text = some value.toList ∧
      (∀ before rest, text = before ++ q :: rest →
        (escapesNext false before = false ↔ before = [] ∨ rest = [])) ∧
      (∀ before c rest, body = before ++ '\\' :: c :: rest → escapesNext false before = false →
        c = '\\' ∨ c = q ∨ q = '"' ∧ c = '#') ∧
      (q = '"' → ∀ before c rest, text = before ++ '#' :: c :: rest →
        opensInterpolation c = true → escapesNext false before = true) := by
  obtain ⟨body, htext, hs⟩ := generate_string hq value
  refine ⟨body, _, rfl, htext, ?_, fun before rest => ?_, fun before c rest hbody hb => ?_, ?_⟩
  · rcases isQuote_iff.mp hq with rfl | rfl
    · exact singleBody?_of_spells hs
    · exact doubleBody?_of_spells hs
  · refine escapesNext_quote_iff (ne_of_isQuote hq rfl) (fun before rest hbody => ?_)
      hs.escapesNext_eq
    exact eq_true_of_ne_false fun hb => (hs.of_unescaped hq hbody hb).1 rfl
  · obtain ⟨d, behind, hrest, hd⟩ := (hs.of_unescaped hq hbody hb).2.2 rfl
    rw [(List.cons.inj hrest).1]
    exact hd
  · rintro rfl before c rest
    refine escapesNext_sign fun before rest hbody hopens => eq_true_of_ne_false fun hb => ?_
    have hsign := (hs.of_unescaped hq hbody hb).2.1 rfl rfl
    rw [hopens] at hsign
    cases hsign

/-- Backslashes before quotes and number signs, a line feed, and a number sign at the end. -/
theorem rubyValue?_string_marks :
    ∃ text, (Value.string "\\#\x7bx\x7d\"\\\"##@y\n'#" "\"").generate .ruby = .ok text ∧
      rubyValue? text = some "\\#\x7bx\x7d\"\\\"##@y\n'#".toList := by
  obtain ⟨-, text, -, htext, hvalue, -⟩ :=
    rubyValue?_string "\\#\x7bx\x7d\"\\\"##@y\n'#" (show isQuote '"' = true from rfl)
  exact ⟨text, htext, hvalue⟩

end EstreeEmitter
