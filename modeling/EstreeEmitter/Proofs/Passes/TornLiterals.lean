import EstreeEmitter.Proofs.Passes.Literals
import EstreeEmitter.Proofs.Passes.SiteScan

set_option autoImplicit false

/-! # Increments and literals

Writing increments out leaves a reader of the code where it was (`after_trailingSteps`) and takes no
character out of the literals (`length_quotedChars_le`). It adds some exactly where the index of an
operand opens a literal and the bracket that seems to close the index stands in this literal
(`Tears`). So the literals of a line stay as they are exactly where no index does this
(`literalTexts_increments_iff`). -/

namespace EstreeEmitter.Passes

open Text

/-! ## Written-out operators -/

/-- The place behind characters that mean nothing to a reader: nothing is hidden any more. -/
def Place.settled : Place → Place
  | .outside => .outside
  | .inside q h | .hidden q h => .inside q h

theorem Place.next_eq_settled (p : Place) {c : Char} (hq : isQuote c = false) (hb : c ≠ '\\') :
    p.next c = p.settled := by
  cases p with
  | outside => exact next_outside hq
  | inside q h => rw [next, if_neg (ne_of_isQuote h hq).symm, if_neg hb, settled]
  | hidden q h => rfl

theorem Place.settled_settled (p : Place) : p.settled.settled = p.settled := by
  cases p <;> rfl

theorem Place.after_eq_settled (p : Place) {c : Char} {cs : List Char}
    (h : ∀ d ∈ c :: cs, isQuote d = false ∧ d ≠ '\\') : p.after (c :: cs) = p.settled := by
  obtain ⟨hq, hb⟩ := h c List.mem_cons_self
  rw [after_cons, next_eq_settled p hq hb]
  induction cs with
  | nil => rfl
  | cons d ds ih =>
      obtain ⟨hdq, hdb⟩ := h d (by simp)
      rw [after_cons, next_eq_settled _ hdq hdb, settled_settled]
      refine ih fun e he => h e ?_
      simp only [List.mem_cons] at he ⊢
      tauto

theorem quotedChars_of_ne_outside {p : Place} (h : p ≠ .outside) {cs : List Char}
    (hc : ∀ c ∈ cs, isQuote c = false) : quotedChars p cs = cs := by
  induction cs generalizing p with
  | nil => rfl
  | cons c cs ih =>
      have hcovers : p.covers c = true := by
        cases p with
        | outside => exact absurd rfl h
        | inside | hidden => rfl
      rw [quotedChars, hcovers, ih (Place.next_ne_outside h (hc c List.mem_cons_self))
        fun d hd => hc d (List.mem_cons_of_mem _ hd)]
      rfl

section

variable {sign : Char}

theorem quiet_stepText (hs : IsSign sign) {c : Char} (h : c ∈ stepText sign) :
    isQuote c = false ∧ c ≠ '\\' := by
  have hall : (stepText sign).all (fun c => !isQuote c && c != '\\') = true := by
    rcases hs with rfl | rfl <;> decide
  simpa using List.all_eq_true.mp hall c h

theorem quiet_signs (hs : IsSign sign) {c : Char} (h : c ∈ [sign, sign]) :
    isQuote c = false ∧ c ≠ '\\' := by
  obtain rfl : c = sign := by simpa using h
  exact quiet_stepText hs (by simp [stepText])

/-- The written-out operator leads a reader to the same place as the doubled sign. -/
theorem Place.after_stepText (hs : IsSign sign) (p : Place) :
    p.after (stepText sign) = p.after [sign, sign] := by
  rw [p.after_eq_settled fun _ => quiet_signs hs]
  exact p.after_eq_settled fun _ => quiet_stepText hs

theorem length_quotedChars_stepText (hs : IsSign sign) {p : Place} (h : p ≠ .outside) :
    (quotedChars p [sign, sign]).length < (quotedChars p (stepText sign)).length := by
  rw [quotedChars_of_ne_outside h fun _ hc => (quiet_signs hs hc).1,
    quotedChars_of_ne_outside h fun _ hc => (quiet_stepText hs hc).1]
  simp [stepText]

theorem quotedChars_stepText_outside (hs : IsSign sign) :
    quotedChars .outside (stepText sign) = quotedChars .outside [sign, sign] := by
  rw [quotedChars_of_plain fun _ hc => (quiet_signs hs hc).1,
    quotedChars_of_plain fun _ hc => (quiet_stepText hs hc).1]

theorem length_quotedChars_stepText_le (hs : IsSign sign) (p : Place) :
    (quotedChars p [sign, sign]).length ≤ (quotedChars p (stepText sign)).length := by
  by_cases h : p = .outside
  · rw [h, quotedChars_stepText_outside hs]
  · exact (length_quotedChars_stepText hs h).le

theorem Place.after_token (hs : IsSign sign) (p : Place) (token : Token) :
    p.after (token.text sign) = p.after (token.source sign) := by
  cases token with
  | quoted text => rfl
  | step x => rw [Token.text, Token.source, after_append, after_append, after_stepText hs]

/-- A doubled sign does not end a literal. -/
theorem after_source_step (hs : IsSign sign) {x : List Char} :
    Place.outside.after (Token.source sign (.step x)) = .outside ↔
      Place.outside.after x = .outside := by
  rw [Token.source, Place.after_append]
  constructor
  · intro h
    by_contra hne
    exact Place.after_ne_outside hne (fun _ hc => (quiet_signs hs hc).1) h
  · intro h
    rw [h]
    exact Place.after_outside_of_plain fun _ hc => (quiet_signs hs hc).1

/-- Writing operators out leads a reader to the same place, wherever it started. -/
theorem after_trailingSteps (hs : IsSign sign) (p : Place) (code : List Char) :
    p.after (trailingSteps sign code) = p.after code := by
  induction code using token_induction hs generalizing p with
  | nil => rfl
  | token token rest h ih =>
      rw [trailingSteps_token hs h, Place.after_append, Place.after_append, ih,
        Place.after_token hs]
  | keep c cs h ih =>
      rw [trailingSteps_keep hs h]
      exact ih (p.next c)

/-- Writing operators out takes no character out of the literals. -/
theorem length_quotedChars_le (hs : IsSign sign) (p : Place) (code : List Char) :
    (quotedChars p code).length ≤ (quotedChars p (trailingSteps sign code)).length := by
  induction code using token_induction hs generalizing p with
  | nil => exact Nat.le_refl _
  | token token rest h ih =>
      rw [trailingSteps_token hs h, quotedChars_append, quotedChars_append, List.length_append,
        List.length_append, Place.after_token hs]
      refine Nat.add_le_add ?_ (ih _)
      cases token with
      | quoted text => exact Nat.le_refl _
      | step x =>
          rw [Token.text, Token.source, quotedChars_append, quotedChars_append,
            List.length_append, List.length_append]
          exact Nat.add_le_add_left (length_quotedChars_stepText_le hs _) _
  | keep c cs h ih =>
      rw [trailingSteps_keep hs h, quotedChars, quotedChars, List.length_append,
        List.length_append]
      exact Nat.add_le_add_left (ih _) _

/-! ## Torn literals -/

/-- The index of an operand opens a literal, and the bracket that seems to close the index, with the
doubled sign behind it, stands in this literal. -/
def Tears (sign : Char) (code : List Char) : Prop :=
  ∃ front c inner behind,
    code = front ++ c :: '[' :: (inner ++ ']' :: sign :: sign :: behind) ∧ isWord c = true ∧
      inner ≠ [] ∧ inner.all isIndexChar = true ∧
      Place.outside.after front = .outside ∧ Place.outside.after inner ≠ .outside

theorem Tears.append_left {code front : List Char} (h : Tears sign code)
    (hf : Place.outside.after front = .outside) : Tears sign (front ++ code) := by
  obtain ⟨front', c, inner, behind, rfl, hc, hn, hi, ho, ht⟩ := h
  refine ⟨front ++ front', c, inner, behind, by simp, hc, hn, hi, ?_, ht⟩
  rw [Place.after_append, hf, ho]

theorem IsChain.plain {cs : List Char} (h : IsChain cs) : ∀ c ∈ cs, isQuote c = false := by
  intro c hc
  rcases h.mem hc with hw | rfl
  · exact isQuote_of_isWord hw
  · rfl

/-- Behind an indexed operand a reader is outside exactly if it is behind the index. -/
theorem after_indexed {cs inner : List Char} (h : IsChain cs) :
    Place.outside.after (cs ++ '[' :: (inner ++ [']'])) = .outside ↔
      Place.outside.after inner = .outside := by
  rw [Place.after_append, Place.after_outside_of_plain h.plain, Place.after_cons,
    Place.next_outside (by decide), Place.after_append]
  constructor
  · intro ho
    by_contra hne
    exact Place.next_ne_outside hne (by decide) ho
  · intro ho
    rw [ho]
    rfl

/-- An operand that ends in a literal tears it. -/
theorem IsOperand.tears {x : List Char} (h : IsOperand x)
    (ho : Place.outside.after x ≠ .outside) (rest : List Char) :
    Tears sign (Token.source sign (.step x) ++ rest) := by
  cases h with
  | chain h => exact absurd (Place.after_outside_of_plain h.plain) ho
  | @indexed cs inner h hn hi =>
      obtain ⟨front, c, rfl, hc⟩ := h.eq_concat
      refine ⟨front, c, inner, rest, by simp [Token.source], hc, hn, hi, ?_, fun hin => ho ?_⟩
      · exact Place.after_outside_of_plain fun d hd => h.plain d (by simp [hd])
      · exact (after_indexed h).mpr hin

/-- Within a literal a reader is not outside, except before its first quote. -/
theorem false_of_isQuotedLine {front rest : List Char} {c : Char}
    (h : IsQuotedLine (front ++ c :: rest)) (hc : isQuote c = false)
    (hf : Place.outside.after front = .outside) : False := by
  obtain ⟨hn, q, body, htext, hq, hbody⟩ := h
  cases front with
  | nil =>
      obtain ⟨rfl, -⟩ := List.cons.inj htext
      rw [hq] at hc
      cases hc
  | cons d front =>
      rw [List.cons_append] at htext hn
      obtain ⟨rfl, htext⟩ := List.cons.inj htext
      have hopen : Place.outside.next d = .inside d hq := dif_pos hq
      rw [Place.after_cons, hopen] at hf
      have hline : '\n' ∉ body := fun hm => hn (by rw [htext]; simp [hm])
      simp only [List.mem_cons, List.mem_append, not_or] at hn
      -- a literal that ended in the front would end there for good
      obtain ⟨body', rest', rfl, hbody'⟩ := (exists_quotedBody hn.2.1).1 hf
      have heq : body ++ d :: [] = body' ++ d :: (rest' ++ c :: rest) := by
        rw [← htext]
        simp
      have hline' : '\n' ∉ body' := fun hm => hn.2.1 (by simp [hm])
      have hrest := (hbody.append_inj hq hbody' hline hline' heq).2
      simp at hrest

/-- The only index of an operand with its signs is its own. -/
theorem IsOperand.eq_indexed (hs : IsSign sign) {x front t rest inner behind : List Char}
    {c : Char} (h : IsOperand x) (hc : isWord c = true) (hi : inner.all isIndexChar = true)
    (hx : x ++ [sign, sign] = front ++ c :: t)
    (ht : t ++ rest = '[' :: (inner ++ ']' :: behind)) :
    ∃ cs, IsChain cs ∧ x = cs ++ '[' :: (inner ++ [']']) := by
  have hsign : '[' ≠ sign ∧ isWord sign = false := by rcases hs with rfl | rfl <;> decide
  cases t with
  | nil =>
      -- the word would be the last character, which is a sign
      have hlast : some sign = some c := by
        have := congrArg List.getLast? hx
        simpa using this
      cases hlast
      exact absurd hc (by simp [hsign.2])
  | cons d t =>
      rw [List.cons_append] at ht
      obtain ⟨rfl, hinner⟩ := List.cons.inj ht
      have hchain : ∀ {cs}, IsChain cs → '[' ∉ cs := fun h => h.not_mem (by decide) (by decide)
      -- there is one opening bracket at most, so the one behind the word is that of the index
      have hcount : x.count '[' = (front ++ [c]).count '[' + (t.count '[' + 1) := by
        have hzero : [sign, sign].count '[' = 0 := List.count_eq_zero.mpr (by simp [hsign.1])
        have hsplit : front ++ c :: '[' :: t = (front ++ [c]) ++ '[' :: t := by simp
        rw [← List.count_cons_self, ← List.count_append, ← hsplit, ← hx, List.count_append, hzero]
        rfl
      cases h with
      | chain h =>
          rw [List.count_eq_zero.mpr (hchain h)] at hcount
          omega
      | @indexed cs inner' h hn hi' =>
          have hfront : '[' ∉ front ++ [c] := by
            have hone : (cs ++ '[' :: (inner' ++ [']'])).count '[' = 1 := by
              simp [List.count_eq_zero.mpr (hchain h),
                List.count_eq_zero.mpr (not_mem_of_all_isIndexChar hi').1]
            rw [hone] at hcount
            rw [← List.count_eq_zero]
            omega
          have hcut : cs ++ '[' :: (inner' ++ [']', sign, sign]) = (front ++ [c]) ++ '[' :: t := by
            simpa using hx
          obtain ⟨-, -, rfl⟩ := append_cons_inj_of_all (all_bne_bracket (hchain h))
            (all_bne_bracket hfront) (by simp) (by simp) hcut
          have hcut' : inner' ++ ']' :: (sign :: sign :: rest) = inner ++ ']' :: behind := by
            simpa using hinner
          obtain ⟨rfl, -, -⟩ := append_cons_inj_of_all hi' hi (by decide) (by decide) hcut'
          exact ⟨cs, h, rfl⟩

/-- No place in front of the end of a token that leaves a reader outside is torn. -/
theorem Tears.behind_token (hs : IsSign sign) {token : Token} (h : IsToken token)
    {rest : List Char} (ho : Place.outside.after (token.source sign) = .outside)
    (ht : Tears sign (token.source sign ++ rest)) : Tears sign rest := by
  obtain ⟨front, c, inner, behind, hcode, hc, hn, hi, hf, ht⟩ := ht
  rcases List.append_eq_append_iff.mp hcode with ⟨front', rfl, hrest⟩ | ⟨t, hsource, hrest⟩
  · rw [Place.after_append, ho] at hf
    exact ⟨front', c, inner, behind, hrest, hc, hn, hi, hf, ht⟩
  · cases t with
    | nil => exact ⟨[], c, inner, behind, hrest.symm, hc, hn, hi, rfl, ht⟩
    | cons d t =>
        rw [List.cons_append] at hrest
        obtain ⟨rfl, hindex⟩ := List.cons.inj hrest
        cases h with
        | quoted h =>
            rw [Token.source] at hsource
            exact (false_of_isQuotedLine (hsource ▸ h) (isQuote_of_isWord hc) hf).elim
        | @step x h =>
            obtain ⟨cs, hchain, rfl⟩ := h.eq_indexed hs hc hi hsource hindex.symm
            exact absurd ((after_indexed hchain).mp ((after_source_step hs).mp ho)) ht

/-- Where no token stands in a line of code, no literal starts. -/
theorem isQuote_eq_false_of_noToken {c : Char} {cs : List Char} (h : NoToken sign (c :: cs))
    (ho : Place.outside.after (c :: cs) = .outside) (hn : '\n' ∉ c :: cs) :
    isQuote c = false := by
  by_contra hq
  have hq : isQuote c = true := by simpa using hq
  have hopen : Place.outside.next c = .inside c hq := dif_pos hq
  obtain ⟨hc, hcs⟩ : '\n' ≠ c ∧ '\n' ∉ cs := by simpa using hn
  rw [Place.after_cons, hopen] at ho
  obtain ⟨body, rest, rfl, hbody⟩ := (exists_quotedBody hcs).1 ho
  have hline : '\n' ∉ c :: (body ++ [c]) := fun hm => hn (by
    simp only [List.mem_cons, List.mem_append, List.not_mem_nil, or_false] at hm ⊢
    tauto)
  exact h (.quoted (c :: (body ++ [c]))) rest (.quoted ⟨hline, c, body, rfl, hq, hbody⟩)
    (by simp [Token.source])

/-- A token that leaves a reader outside keeps its literals. -/
theorem quotedChars_token (hs : IsSign sign) {token : Token}
    (ho : Place.outside.after (token.source sign) = .outside) :
    quotedChars .outside (token.text sign) = quotedChars .outside (token.source sign) := by
  cases token with
  | quoted text => rfl
  | step x =>
      rw [Token.text, Token.source, quotedChars_append, quotedChars_append,
        (after_source_step hs).mp ho, quotedChars_stepText_outside hs]

/-- Without a torn place, the literals of a line of code stay. -/
theorem quotedChars_trailingSteps (hs : IsSign sign) {code : List Char}
    (ho : Place.outside.after code = .outside) (hn : '\n' ∉ code) (ht : ¬Tears sign code) :
    quotedChars .outside (trailingSteps sign code) = quotedChars .outside code := by
  induction code using token_induction hs with
  | nil => rfl
  | token token rest h ih =>
      have hsource : Place.outside.after (token.source sign) = .outside := by
        cases h with
        | quoted h => exact after_of_isQuotedLine h
        | @step x h =>
            by_contra hne
            exact ht (h.tears (fun hx => hne ((after_source_step hs).mpr hx)) rest)
      rw [Place.after_append, hsource] at ho
      rw [trailingSteps_token hs h, quotedChars_append, quotedChars_append,
        quotedChars_token hs hsource, Place.after_token hs, hsource,
        ih ho (fun hm => hn (List.mem_append_right _ hm)) fun hr => ht (hr.append_left hsource)]
  | keep c cs h ih =>
      have hc := isQuote_eq_false_of_noToken h ho hn
      rw [Place.after_cons, Place.next_outside hc] at ho
      have hfront : Place.outside.after [c] = .outside := Place.next_outside hc
      rw [trailingSteps_keep hs h, quotedChars, quotedChars, Place.next_outside hc,
        ih ho (fun hm => hn (List.mem_cons_of_mem _ hm)) fun hr => ht (hr.append_left hfront)]

/-- A torn place adds characters to a literal. -/
theorem length_quotedChars_lt (hs : IsSign sign) {code : List Char}
    (ho : Place.outside.after code = .outside) (hn : '\n' ∉ code) (ht : Tears sign code) :
    (quotedChars .outside code).length <
      (quotedChars .outside (trailingSteps sign code)).length := by
  induction code using token_induction hs with
  | nil =>
      obtain ⟨front, c, inner, behind, hcode, -⟩ := ht
      simp at hcode
  | token token rest h ih =>
      have hmem : '\n' ∉ rest := fun hm => hn (List.mem_append_right _ hm)
      rw [trailingSteps_token hs h, quotedChars_append, quotedChars_append, List.length_append,
        List.length_append, Place.after_token hs]
      by_cases hsource : Place.outside.after (token.source sign) = .outside
      · -- the torn place is behind the token
        rw [Place.after_append, hsource] at ho
        rw [quotedChars_token hs hsource, hsource]
        exact Nat.add_lt_add_left (ih ho hmem (ht.behind_token hs h hsource)) _
      · -- the token itself ends in a literal; what follows takes nothing away again
        have hrest := length_quotedChars_le hs (Place.outside.after (token.source sign)) rest
        refine Nat.add_lt_add_of_lt_of_le ?_ hrest
        cases h with
        | quoted h => exact absurd (after_of_isQuotedLine h) hsource
        | @step x h =>
            rw [Token.text, Token.source, quotedChars_append, quotedChars_append,
              List.length_append, List.length_append]
            refine Nat.add_lt_add_left (length_quotedChars_stepText hs fun hx => ?_) _
            exact hsource ((after_source_step hs).mpr hx)
  | keep c cs h ih =>
      have hc := isQuote_eq_false_of_noToken h ho hn
      rw [Place.after_cons, Place.next_outside hc] at ho
      obtain ⟨front, d, inner, behind, hcode, hd, hne, hi, hf, ht⟩ := ht
      cases front with
      | nil =>
          -- an index behind the first character would be part of a token
          exfalso
          refine h (.step ([d] ++ '[' :: (inner ++ [']']))) behind
            (.step (.indexed (isChain_singleton hd) hne hi)) ?_
          simpa [Token.source] using hcode
      | cons e front =>
          rw [List.cons_append] at hcode
          obtain ⟨rfl, hcs⟩ := List.cons.inj hcode
          rw [Place.after_cons, Place.next_outside hc] at hf
          rw [trailingSteps_keep hs h, quotedChars, quotedChars, Place.next_outside hc,
            List.length_append, List.length_append]
          exact Nat.add_lt_add_left (ih ho (fun hm => hn (List.mem_cons_of_mem _ hm))
            ⟨front, d, inner, behind, hcs, hd, hne, hi, hf, ht⟩) _

/-! ## Lines of code -/

theorem isQuote_eq_false_of_blanks {blanks : List Char} (h : blanks.all isSpaceOrTab = true) :
    ∀ c ∈ blanks, isQuote c = false := by
  intro c hc
  have hc := List.all_eq_true.mp h c hc
  rcases (by simpa [isSpaceOrTab] using hc : c = ' ' ∨ c = '\t') with rfl | rfl <;> rfl

/-- An operator before its operand is outside of the literals. -/
theorem quotedChars_leadingStep? (hs : IsSign sign) {line edited : List Char}
    (h : leadingStep? sign line = some edited) (ho : Place.outside.after line = .outside) :
    Place.outside.after edited = .outside ∧
      quotedChars .outside edited = quotedChars .outside line := by
  obtain ⟨margin, x, blanks, rfl, -, hm, hb, rfl⟩ := (leadingStep?_eq_some_iff hs).mp h
  have hmargin := isQuote_eq_false_of_blanks hm
  have hblanks := isQuote_eq_false_of_blanks hb
  have hsigns : ∀ c ∈ [sign, sign], isQuote c = false := fun _ hc => (quiet_signs hs hc).1
  have hstep : ∀ c ∈ stepText sign, isQuote c = false := fun _ hc => (quiet_stepText hs hc).1
  have hline : margin ++ sign :: sign :: (x ++ blanks) =
      margin ++ ([sign, sign] ++ (x ++ blanks)) := rfl
  rw [hline] at ho ⊢
  simp only [Place.after_append, quotedChars_append, Place.after_outside_of_plain hmargin,
    Place.after_outside_of_plain hsigns] at ho ⊢
  -- blanks do not lead out of a literal
  have hx : Place.outside.after x = .outside := by
    by_contra hne
    exact Place.after_ne_outside hne hblanks ho
  simp only [hx, Place.after_outside_of_plain hstep, quotedChars_of_plain hmargin,
    quotedChars_of_plain hsigns, quotedChars_of_plain hstep, quotedChars_of_plain hblanks]
  simp

/-- A text on one line behind which a reader is outside of literals. -/
structure IsCodeLine (line : List Char) : Prop where
  after : Place.outside.after line = .outside
  lineFeed_not_mem : '\n' ∉ line

theorem isCodeLine_codeText (parts : List Part) : IsCodeLine (codeText parts) :=
  ⟨after_codeText parts, lineFeed_not_mem_codeText parts⟩

theorem IsCodeLine.trailingSteps (hs : IsSign sign) {line : List Char} (h : IsCodeLine line) :
    IsCodeLine (trailingSteps sign line) where
  after := by rw [after_trailingSteps hs, h.after]
  lineFeed_not_mem := lineFeed_not_mem_trailingSteps hs h.lineFeed_not_mem

theorem IsCodeLine.leadingSteps (hs : IsSign sign) {line : List Char} (h : IsCodeLine line) :
    IsCodeLine (leadingSteps sign line) ∧
      quotedChars .outside (leadingSteps sign line) = quotedChars .outside line := by
  have hn := lineFeed_not_mem_leadingSteps hs h.lineFeed_not_mem
  rw [leadingSteps_line h.lineFeed_not_mem] at hn ⊢
  cases he : leadingStep? sign line with
  | none => exact ⟨h, rfl⟩
  | some edited =>
      rw [he] at hn
      obtain ⟨ho, hl⟩ := quotedChars_leadingStep? hs he h.after
      exact ⟨⟨ho, hn⟩, hl⟩

end

/-- **Increments and literals.** Writing the increments of a line of code out leaves every literal
as it is, in order, exactly if no index of an operand tears a literal, neither for `++` nor, in the
text that this leaves, for `--`. -/
theorem literalTexts_increments_iff (parts : List Part) :
    (∃ edited : List Part, increments (codeText parts) = codeText edited ∧
      literalTexts edited = literalTexts parts) ↔
    ¬Tears '+' (codeText parts) ∧ ¬Tears '-' (trailingSteps '+' (codeText parts)) := by
  have hplus : IsSign '+' := .inl rfl
  have hminus : IsSign '-' := .inr rfl
  have hline := isCodeLine_codeText parts
  have hfirst := hline.trailingSteps hplus
  have hsecond := hfirst.trailingSteps hminus
  obtain ⟨hthird, hthird'⟩ := hsecond.leadingSteps hplus
  obtain ⟨hlast, hlast'⟩ := hthird.leadingSteps hminus
  have hkept : quotedChars .outside (increments (codeText parts)) =
      quotedChars .outside (trailingSteps '-' (trailingSteps '+' (codeText parts))) :=
    hlast'.trans hthird'
  constructor
  · rintro ⟨edited, he, hl⟩
    -- the literals together have as many characters as before, so no pass has added any
    have hlen : (quotedChars .outside (codeText parts)).length =
        (quotedChars .outside (trailingSteps '-' (trailingSteps '+' (codeText parts)))).length := by
      rw [← hkept, he, quotedChars_codeText, quotedChars_codeText, hl]
    have hle := length_quotedChars_le hplus .outside (codeText parts)
    have hle' := length_quotedChars_le hminus .outside (trailingSteps '+' (codeText parts))
    refine ⟨fun ht => ?_, fun ht => ?_⟩
    · have := length_quotedChars_lt hplus hline.after hline.lineFeed_not_mem ht
      omega
    · have := length_quotedChars_lt hminus hfirst.after hfirst.lineFeed_not_mem ht
      omega
  · rintro ⟨ht, ht'⟩
    obtain ⟨edited, he⟩ := exists_parts hlast.after hlast.lineFeed_not_mem
    refine ⟨edited, he, literals_eq_of_flatten_eq (fun _ => isQuotedLine_of_mem_literalTexts)
      (fun _ => isQuotedLine_of_mem_literalTexts) ?_⟩
    rw [← quotedChars_codeText, ← quotedChars_codeText, ← he]
    exact hkept.trans <|
      (quotedChars_trailingSteps hminus hfirst.after hfirst.lineFeed_not_mem ht').trans <|
        quotedChars_trailingSteps hplus hline.after hline.lineFeed_not_mem ht

/-- An index by a literal that holds a bracket and a doubled sign. -/
def tornLine : List Part := [
  .plain ['a', '['] rfl,
  .literal ['"', ']', '+', '+', '"']
    ⟨by decide, '"', [']', '+', '+'], rfl, rfl,
      .char (by decide) (by decide) (by decide) <| .char (by decide) (by decide) (by decide) <|
        .char (by decide) (by decide) (by decide) .nil⟩,
  .plain [']'] rfl]

/-- The doubled sign in the literal is taken for an operator, which changes the literal. -/
theorem literalTexts_increments_tornLine :
    increments (codeText tornLine) = "a[\"] += 1\"]".toList ∧
      ¬∃ edited : List Part, increments (codeText tornLine) = codeText edited ∧
        literalTexts edited = literalTexts tornLine := by
  have htext : increments (codeText tornLine) = "a[\"] += 1\"]".toList := by decide +kernel
  refine ⟨htext, ?_⟩
  rintro ⟨edited, he, hl⟩
  have hchars : quotedChars .outside "a[\"] += 1\"]".toList = (literalTexts tornLine).flatten := by
    rw [← htext, he, quotedChars_codeText, hl]
  exact absurd hchars (by decide +kernel)

end EstreeEmitter.Passes
