import EstreeEmitter.Proofs.Passes.SiteScan
import EstreeEmitter.Proofs.Passes.Steps
import Mathlib.Data.List.Infix

set_option autoImplicit false

/-! # Lines with one increment

What writing increments out does to a single line. A line without a doubled sign stays
(`increments_of_isStill`). A line that ends in a doubled sign is rewritten exactly if an operand
ends right before it (`increments_trailing`), and a line with a doubled sign before a text is
rewritten exactly if only blanks stand before the sign and the text is an operand
(`increments_leading`). -/

namespace EstreeEmitter.Passes

open Text

/-! ## Doubled signs -/

/-- The text has the sign twice in a row. -/
def Doubled (sign : Char) (cs : List Char) : Prop := [sign, sign] <:+: cs

instance (sign : Char) (cs : List Char) : Decidable (Doubled sign cs) :=
  inferInstanceAs (Decidable ([sign, sign] <:+: cs))

section

variable {sign : Char} {cs ds : List Char}

theorem doubled_iff : Doubled sign cs ↔ ∃ front rest, cs = front ++ sign :: sign :: rest := by
  constructor
  · rintro ⟨front, rest, h⟩
    exact ⟨front, rest, by rw [← h]; simp⟩
  · rintro ⟨front, rest, rfl⟩
    exact ⟨front, rest, by simp⟩

theorem Doubled.append_left (h : Doubled sign ds) (cs : List Char) : Doubled sign (cs ++ ds) :=
  h.trans (List.suffix_append cs ds).isInfix

theorem Doubled.append_right (h : Doubled sign cs) (ds : List Char) : Doubled sign (cs ++ ds) :=
  h.trans (List.prefix_append cs ds).isInfix

theorem not_doubled_nil : ¬Doubled sign [] := by
  intro h
  obtain ⟨front, rest, h⟩ := doubled_iff.mp h
  simp at h

/-- Another character keeps signs apart. -/
theorem doubled_append_cons {c : Char} (hc : c ≠ sign) :
    Doubled sign (cs ++ c :: ds) ↔ Doubled sign cs ∨ Doubled sign ds := by
  constructor
  · intro h
    induction cs with
    | nil =>
        rcases List.infix_cons_iff.mp h with hp | hp
        · obtain ⟨rfl, -⟩ := List.cons_prefix_cons.mp hp
          exact absurd rfl hc
        · exact .inr hp
    | cons a cs ih =>
        rw [List.cons_append] at h
        rcases List.infix_cons_iff.mp h with hp | hp
        · obtain ⟨hfirst, hrest⟩ := List.cons_prefix_cons.mp hp
          cases cs with
          | nil => exact absurd (List.cons_prefix_cons.mp hrest).1.symm hc
          | cons b cs =>
              obtain ⟨hsecond, -⟩ := List.cons_prefix_cons.mp hrest
              exact .inl ⟨[], cs, by rw [← hfirst, ← hsecond]; rfl⟩
        · rcases ih hp with h | h
          · exact .inl (h.append_left [a])
          · exact .inr h
  · rintro (h | h)
    · exact h.append_right _
    · exact (h.append_left [c]).append_left cs

theorem doubled_cons {c : Char} (hc : c ≠ sign) : Doubled sign (c :: ds) ↔ Doubled sign ds := by
  rw [← List.nil_append (c :: ds), doubled_append_cons hc]
  simp [not_doubled_nil]

theorem doubled_append_of_not_mem (hc : sign ∉ cs) : Doubled sign (cs ++ ds) ↔ Doubled sign ds := by
  induction cs with
  | nil => exact Iff.rfl
  | cons c cs ih =>
      obtain ⟨hne, hcs⟩ := not_or.mp (mt List.mem_cons.mpr hc)
      rw [List.cons_append, doubled_cons (Ne.symm hne), ih hcs]

/-- A doubled sign with none before and behind stands at one place. -/
theorem append_signs_inj {cs' ds' : List Char} (hc : ¬Doubled sign cs) (hd : ¬Doubled sign ds)
    (hlast : cs.getLast? ≠ some sign) (hhead : ds.head? ≠ some sign)
    (h : cs ++ sign :: sign :: ds = cs' ++ sign :: sign :: ds') : cs = cs' ∧ ds = ds' := by
  have hdouble : ∀ {t rest : List Char}, Doubled sign (t ++ sign :: sign :: rest) := fun {t rest} =>
    doubled_iff.mpr ⟨t, rest, rfl⟩
  rcases List.append_eq_append_iff.mp h with ⟨t, rfl, ht⟩ | ⟨t, rfl, ht⟩
  · match t, ht with
    | [], ht => exact ⟨by simp, by simpa using ht⟩
    | [a], ht =>
        obtain ⟨-, hds⟩ : sign = a ∧ ds = sign :: ds' := by simpa using ht
        exact absurd (by rw [hds]; rfl) hhead
    | [a, b], ht =>
        obtain ⟨-, -, rfl⟩ : sign = a ∧ sign = b ∧ ds = sign :: sign :: ds' := by simpa using ht
        exact absurd rfl hhead
    | a :: b :: d :: t, ht =>
        obtain ⟨-, -, rfl⟩ : sign = a ∧ sign = b ∧ ds = d :: (t ++ sign :: sign :: ds') := by
          simpa using ht
        exact absurd (hdouble (t := d :: t)) hd
  · match t, ht with
    | [], ht => exact ⟨by simp, by simpa using ht.symm⟩
    | [a], ht =>
        obtain ⟨rfl, -⟩ : sign = a ∧ _ := by simpa using ht
        exact absurd (by simp) hlast
    | a :: b :: t, ht =>
        obtain ⟨rfl, rfl, -⟩ : sign = a ∧ sign = b ∧ _ := by simpa using ht
        exact absurd hdouble hc

end

/-- A text on one line without a doubled sign. -/
structure IsStill (cs : List Char) : Prop where
  oneLine : '\n' ∉ cs
  plus : ¬Doubled '+' cs
  minus : ¬Doubled '-' cs

instance (cs : List Char) : Decidable (IsStill cs) :=
  decidable_of_iff ('\n' ∉ cs ∧ ¬Doubled '+' cs ∧ ¬Doubled '-' cs)
    ⟨fun h => ⟨h.1, h.2.1, h.2.2⟩, fun h => ⟨h.oneLine, h.plus, h.minus⟩⟩

theorem IsStill.not_doubled {sign : Char} (hs : IsSign sign) {cs : List Char} (h : IsStill cs) :
    ¬Doubled sign cs := by
  rcases hs with rfl | rfl
  · exact h.plus
  · exact h.minus

/-- No sign is doubled in the text. -/
def Stepless (cs : List Char) : Prop := ¬Doubled '+' cs ∧ ¬Doubled '-' cs

instance (cs : List Char) : Decidable (Stepless cs) :=
  inferInstanceAs (Decidable (¬Doubled '+' cs ∧ ¬Doubled '-' cs))

theorem IsStill.stepless {cs : List Char} (h : IsStill cs) : Stepless cs := ⟨h.plus, h.minus⟩

theorem stepless_joinWith (lines : List (List Char)) :
    Stepless (joinWith ['\n'] lines) ↔ ∀ line ∈ lines, Stepless line := by
  induction lines with
  | nil => simp [joinWith, Stepless, not_doubled_nil]
  | cons line lines ih =>
      by_cases hl : lines = []
      · simp [hl, joinWith]
      · rw [joinWith_cons _ _ hl, List.forall_mem_cons, ← ih]
        simp only [Stepless, List.append_assoc, List.singleton_append,
          doubled_append_cons (by decide : '\n' ≠ '+'),
          doubled_append_cons (by decide : '\n' ≠ '-')]
        tauto

/-- A character that is neither a sign nor a line feed. -/
def isGap (c : Char) : Bool := c != '+' && c != '-' && c != '\n'

theorem isGap_iff {c : Char} : isGap c = true ↔ c ≠ '+' ∧ c ≠ '-' ∧ c ≠ '\n' := by
  simp [isGap, and_assoc]

theorem isStill_append_cons {c : Char} (hc : isGap c = true) {cs ds : List Char} :
    IsStill (cs ++ c :: ds) ↔ IsStill cs ∧ IsStill ds := by
  obtain ⟨hp, hm, hl⟩ := isGap_iff.mp hc
  constructor
  · rintro ⟨h, h', h''⟩
    rw [doubled_append_cons hp, not_or] at h'
    rw [doubled_append_cons hm, not_or] at h''
    simp only [List.mem_append, List.mem_cons, not_or] at h
    exact ⟨⟨h.1, h'.1, h''.1⟩, h.2.2, h'.2, h''.2⟩
  · rintro ⟨h, h'⟩
    refine ⟨?_, ?_, ?_⟩
    · simp [h.oneLine, h'.oneLine, hl.symm]
    · rw [doubled_append_cons hp, not_or]
      exact ⟨h.plus, h'.plus⟩
    · rw [doubled_append_cons hm, not_or]
      exact ⟨h.minus, h'.minus⟩

theorem isStill_append_of_gaps {gaps cs : List Char} (hg : gaps.all isGap = true)
    (h : IsStill cs) : IsStill (gaps ++ cs) := by
  induction gaps with
  | nil => exact h
  | cons c gaps ih =>
      obtain ⟨hc, hrest⟩ := Bool.and_eq_true_iff.mp hg
      have hnil : IsStill [] := by decide
      rw [← List.nil_append (c :: gaps ++ cs), List.cons_append]
      exact (isStill_append_cons hc).mpr ⟨hnil, ih hrest⟩

theorem isStill_of_isInfix {cs ds : List Char} (h : cs <:+: ds) (hd : IsStill ds) : IsStill cs :=
  ⟨fun hm => hd.oneLine (h.subset hm), fun hc => hd.plus (hc.trans h),
    fun hc => hd.minus (hc.trans h)⟩

/-! ## Lines without a step -/

section

variable {sign : Char}

/-- Where no operand has the doubled sign behind it, nothing is written out. -/
theorem trailingSteps_eq_self (hs : IsSign sign) {code : List Char}
    (h : ∀ front x rest, IsOperand x → code ≠ front ++ x ++ sign :: sign :: rest) :
    trailingSteps sign code = code := by
  induction code using token_induction hs with
  | nil => rfl
  | token token rest ht ih =>
      rw [trailingSteps_token hs ht]
      cases ht with
      | quoted =>
          rw [ih fun front x behind hx hr => h _ x behind hx (by rw [hr, ← List.append_assoc,
            ← List.append_assoc])]
          rfl
      | step hx => exact absurd (by simp [Token.source]) (h [] _ rest hx)
  | keep c cs hn ih =>
      rw [trailingSteps_keep hs hn,
        ih fun front x behind hx hr => h (c :: front) x behind hx (by rw [hr]; rfl)]

theorem trailingSteps_of_not_doubled (hs : IsSign sign) {code : List Char}
    (h : ¬Doubled sign code) : trailingSteps sign code = code :=
  trailingSteps_eq_self hs fun front x rest _ hcode =>
    h (doubled_iff.mpr ⟨front ++ x, rest, hcode⟩)

theorem leadingSteps_of_not_doubled (hs : IsSign sign) {line : List Char} (hn : '\n' ∉ line)
    (h : ¬Doubled sign line) : leadingSteps sign line = line := by
  rw [leadingSteps_line hn]
  cases he : leadingStep? sign line with
  | none => rfl
  | some edited =>
      obtain ⟨margin, x, blanks, hline, -⟩ := (leadingStep?_eq_some_iff hs).mp he
      exact absurd (doubled_iff.mpr ⟨margin, x ++ blanks, hline⟩) h

end

theorem increments_of_isStill {line : List Char} (h : IsStill line) : increments line = line := by
  have hplus : IsSign '+' := .inl rfl
  have hminus : IsSign '-' := .inr rfl
  rw [increments, trailingSteps_of_not_doubled hplus h.plus,
    trailingSteps_of_not_doubled hminus h.minus,
    leadingSteps_of_not_doubled hplus h.oneLine h.plus,
    leadingSteps_of_not_doubled hminus h.oneLine h.minus]

/-- Where only one sign is doubled, the other one takes no part. -/
theorem increments_of_sign {sign : Char} (hs : IsSign sign) {line : List Char} (hn : '\n' ∉ line)
    (h : ∀ other, IsSign other → other ≠ sign → ¬Doubled other line ∧
      ¬Doubled other (trailingSteps sign line) ∧
      ¬Doubled other (leadingSteps sign (trailingSteps sign line))) :
    increments line = leadingSteps sign (trailingSteps sign line) := by
  have hplus : IsSign '+' := .inl rfl
  have hminus : IsSign '-' := .inr rfl
  have ht := lineFeed_not_mem_trailingSteps hs hn
  have hl := lineFeed_not_mem_leadingSteps hs ht
  rcases hs with rfl | rfl
  · obtain ⟨-, htrail, hlead⟩ := h '-' hminus (by decide)
    rw [increments, trailingSteps_of_not_doubled hminus htrail,
      leadingSteps_of_not_doubled hminus hl hlead]
  · obtain ⟨hline, htrail, -⟩ := h '+' hplus (by decide)
    rw [increments, trailingSteps_of_not_doubled hplus hline,
      leadingSteps_of_not_doubled hplus ht htrail]

/-! ## A line with one doubled sign -/

/-- An operand ends where the text ends. -/
def EndsOperand (cs : List Char) : Prop := ∃ front x, cs = front ++ x ∧ IsOperand x

/-- A doubled sign between the two texts is the only one. -/
structure SignsBetween (sign : Char) (cs ds : List Char) : Prop where
  before : IsStill cs
  behind : IsStill ds
  last : cs.getLast? ≠ some sign
  head : ds.head? ≠ some sign

section

variable {sign : Char} {cs ds : List Char}

namespace SignsBetween

theorem unique (h : SignsBetween sign cs ds) (hs : IsSign sign) {front rest : List Char}
    (hcode : cs ++ sign :: sign :: ds = front ++ sign :: sign :: rest) :
    cs = front ∧ ds = rest :=
  append_signs_inj (h.before.not_doubled hs) (h.behind.not_doubled hs) h.last h.head hcode

theorem lineFeed_not_mem (h : SignsBetween sign cs ds) (hs : IsSign sign) :
    '\n' ∉ cs ++ sign :: sign :: ds := by
  have hsign : '\n' ≠ sign := by rcases hs with rfl | rfl <;> decide
  simp [h.before.oneLine, h.behind.oneLine, hsign]

theorem not_doubled (h : SignsBetween sign cs ds) {other : Char} (ho : IsSign other)
    (hne : other ≠ sign) : ¬Doubled other (cs ++ sign :: sign :: ds) := by
  rw [doubled_append_cons hne.symm, doubled_cons hne.symm, not_or]
  exact ⟨h.before.not_doubled ho, h.behind.not_doubled ho⟩

/-- Without an operand before the sign there is nothing to write out behind one. -/
theorem trailingSteps_eq_self (h : SignsBetween sign cs ds) (hs : IsSign sign)
    (he : ¬EndsOperand cs) :
    trailingSteps sign (cs ++ sign :: sign :: ds) = cs ++ sign :: sign :: ds :=
  Passes.trailingSteps_eq_self hs fun front x _ hx hcode =>
    he ⟨front, x, (h.unique hs hcode).1, hx⟩

/-- Where the line is not blanks, the sign, an operand and blanks, it stays. -/
theorem leadingSteps_eq_self (h : SignsBetween sign cs ds) (hs : IsSign sign)
    (hnot : ∀ x blanks, ds = x ++ blanks → cs.all isSpaceOrTab = true → IsOperand x →
      blanks.all isSpaceOrTab = true → False) :
    leadingSteps sign (cs ++ sign :: sign :: ds) = cs ++ sign :: sign :: ds := by
  rw [leadingSteps_line (h.lineFeed_not_mem hs)]
  cases hstep : leadingStep? sign (cs ++ sign :: sign :: ds) with
  | none => rfl
  | some edited =>
      obtain ⟨margin, x, blanks, hline, hx, hm, hb, -⟩ := (leadingStep?_eq_some_iff hs).mp hstep
      obtain ⟨rfl, hds⟩ := h.unique hs hline
      exact (hnot x blanks hds hm hx hb).elim

/-- Where neither form is found, the line stays. -/
theorem increments_eq_self (h : SignsBetween sign cs ds) (hs : IsSign sign)
    (htrail : trailingSteps sign (cs ++ sign :: sign :: ds) = cs ++ sign :: sign :: ds)
    (hlead : leadingSteps sign (cs ++ sign :: sign :: ds) = cs ++ sign :: sign :: ds) :
    increments (cs ++ sign :: sign :: ds) = cs ++ sign :: sign :: ds := by
  rw [increments_of_sign hs (h.lineFeed_not_mem hs), htrail, hlead]
  intro other ho hne
  rw [htrail, hlead]
  exact ⟨h.not_doubled ho hne, h.not_doubled ho hne, h.not_doubled ho hne⟩

end SignsBetween

theorem isStill_append_stepText (hs : IsSign sign) (h : IsStill cs) :
    IsStill (cs ++ stepText sign) := by
  refine (isStill_append_cons (by decide)).mpr ⟨h, ?_⟩
  rcases hs with rfl | rfl <;> decide

/-! ## The sign at the end -/

theorem trailingSteps_signs_at_end (hs : IsSign sign) (hq : ∀ c ∈ cs, isQuote c = false)
    (hd : ¬Doubled sign cs) (hl : cs.getLast? ≠ some sign) (he : EndsOperand cs) :
    trailingSteps sign (cs ++ [sign, sign]) = cs ++ stepText sign := by
  induction cs with
  | nil =>
      obtain ⟨front, x, hx, hop⟩ := he
      exact absurd (List.append_eq_nil_iff.mp hx.symm).2 hop.ne_nil
  | cons c cs ih =>
      by_cases hop : IsOperand (c :: cs)
      · have htoken := trailingSteps_token hs (.step hop) []
        simpa [Token.source, Token.text] using htoken
      · -- no token starts here, since its signs would be the last two characters
        have hnone : NoToken sign (c :: (cs ++ [sign, sign])) := by
          intro token rest htoken hcode
          cases htoken with
          | quoted h =>
              obtain ⟨-, q, body, rfl, hquote, -⟩ := h
              obtain ⟨rfl, -⟩ := List.cons.inj hcode
              rw [hq c List.mem_cons_self] at hquote
              cases hquote
          | @step x h =>
              have hx : (c :: cs) ++ [sign, sign] = x ++ sign :: sign :: rest := by
                simpa [Token.source] using hcode
              exact hop ((append_signs_inj hd not_doubled_nil hl (by simp) hx).1 ▸ h)
        obtain ⟨front, x, hx, hopx⟩ := he
        cases front with
        | nil => exact absurd (hx ▸ hopx) hop
        | cons d front =>
            have hcs : cs = front ++ x := (List.cons.inj hx).2
            have hne : cs ≠ [] := by
              rw [hcs]
              exact List.append_ne_nil_of_right_ne_nil _ hopx.ne_nil
            have hlast : cs.getLast? ≠ some sign := by
              rwa [List.getLast?_cons_of_ne_nil hne] at hl
            rw [List.cons_append, trailingSteps_keep hs hnone,
              ih (fun c hc => hq c (List.mem_cons_of_mem _ hc))
                (fun h => hd (h.append_left [c])) hlast ⟨front, x, hcs, hopx⟩]
            rfl

/-- A line that ends in a doubled sign is rewritten if an operand ends before the sign, and stays
otherwise. -/
theorem increments_trailing (hs : IsSign sign) (hq : ∀ c ∈ cs, isQuote c = false)
    (h : SignsBetween sign cs []) :
    (EndsOperand cs → increments (cs ++ [sign, sign]) = cs ++ stepText sign) ∧
      (¬EndsOperand cs → increments (cs ++ [sign, sign]) = cs ++ [sign, sign]) := by
  constructor
  · intro he
    have hstep := isStill_append_stepText hs h.before
    have htrail := trailingSteps_signs_at_end hs hq (h.before.not_doubled hs) h.last he
    have hlead := leadingSteps_of_not_doubled hs hstep.oneLine (hstep.not_doubled hs)
    rw [increments_of_sign hs (h.lineFeed_not_mem hs), htrail, hlead]
    intro other ho hne
    rw [htrail, hlead]
    exact ⟨h.not_doubled ho hne, hstep.not_doubled ho, hstep.not_doubled ho⟩
  · intro he
    refine h.increments_eq_self hs (h.trailingSteps_eq_self hs he) (h.leadingSteps_eq_self hs ?_)
    -- nothing stands behind the sign, so no operand does
    intro x blanks hnil _ hx _
    exact hx.ne_nil (List.append_eq_nil_iff.mp hnil.symm).1

/-! ## The sign before an operand -/

/-- A line with a doubled sign before a text is rewritten if only blanks stand before the sign and
the text is an operand, and stays otherwise. -/
theorem increments_leading (hs : IsSign sign) (h : SignsBetween sign cs ds)
    (he : ¬EndsOperand cs) (hblank : ∀ c, ds.getLast? = some c → isSpaceOrTab c = false) :
    (cs.all isSpaceOrTab = true ∧ IsOperand ds →
        increments (cs ++ sign :: sign :: ds) = cs ++ ds ++ stepText sign) ∧
      (¬(cs.all isSpaceOrTab = true ∧ IsOperand ds) →
        increments (cs ++ sign :: sign :: ds) = cs ++ sign :: sign :: ds) := by
  have htrail := h.trailingSteps_eq_self hs he
  constructor
  · rintro ⟨hblanks, hop⟩
    have hstep : leadingStep? sign (cs ++ sign :: sign :: ds) = some (cs ++ ds ++ stepText sign) :=
      (leadingStep?_eq_some_iff hs).mpr ⟨cs, ds, [], by simp, hop, hblanks, rfl, rfl⟩
    have hlead : leadingSteps sign (cs ++ sign :: sign :: ds) = cs ++ ds ++ stepText sign := by
      rw [leadingSteps_line (h.lineFeed_not_mem hs), hstep]
      rfl
    have hgaps : cs.all isGap = true := by
      refine List.all_eq_true.mpr fun c hc => ?_
      have hc := List.all_eq_true.mp hblanks c hc
      rcases (by simpa [isSpaceOrTab] using hc : c = ' ' ∨ c = '\t') with rfl | rfl <;> rfl
    have hstill := isStill_append_stepText hs (isStill_append_of_gaps hgaps h.behind)
    rw [increments_of_sign hs (h.lineFeed_not_mem hs), htrail, hlead]
    intro other ho hne
    rw [htrail, hlead]
    exact ⟨h.not_doubled ho hne, h.not_doubled ho hne, hstill.not_doubled ho⟩
  · intro hnot
    refine h.increments_eq_self hs htrail (h.leadingSteps_eq_self hs ?_)
    rintro x blanks rfl hm hx hb
    -- no blanks stand behind the text, so it is the operand
    rcases List.eq_nil_or_concat blanks with rfl | ⟨front, c, rfl⟩
    · rw [List.append_nil] at hnot
      exact hnot ⟨hm, hx⟩
    · have hc := hblank c (by simp)
      rw [List.all_eq_true.mp hb c (by simp)] at hc
      cases hc

end

end EstreeEmitter.Passes
