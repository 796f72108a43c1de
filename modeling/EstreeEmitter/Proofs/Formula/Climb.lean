import EstreeEmitter.Proofs.Formula.Text
import Mathlib.Tactic.ByContra
import Mathlib.Tactic.SplitIfs

set_option autoImplicit false

/-! # Reading formulas by precedence climbing

`tokens` cuts a text into parentheses and words. `Grammar.parse?` reads a formula from the tokens by
precedence climbing: an operator between two operands is taken as long as it binds at least as
strongly as the operators around allow, and its right operand may hold only operators that bind more
strongly, or equally strongly if it groups to the right.

The text of a formula reads back as the formula whenever a bare operand, one without parentheses,
binds more strongly than the operation around it (`Grammar.parse?_text`). -/

namespace EstreeEmitter

/-! ## Tokens -/

/-- A token of a formula. -/
inductive Token where
  | opening
  | closing
  | word (cs : List Char)
  deriving DecidableEq

/-- The character belongs to a word. -/
def isPlain (c : Char) : Bool := c != ' ' && c != '(' && c != ')'

/-- A character of a class without blanks and parentheses belongs to a word. -/
theorem isPlain_of_class {p : Char → Bool} (hspace : p ' ' = false) (hopening : p '(' = false)
    (hclosing : p ')' = false) {c : Char} (h : p c = true) : isPlain c = true := by
  have hne {x : Char} (hx : p x = false) : c ≠ x := by
    rintro rfl
    rw [h] at hx
    cases hx
  simp [isPlain, hne hspace, hne hopening, hne hclosing]

/-- The text is a single word. -/
def isToken (cs : List Char) : Bool := !cs.isEmpty && cs.all isPlain

theorem ne_nil_of_isToken {cs : List Char} (h : isToken cs = true) : cs ≠ [] := by
  rintro rfl
  cases h

/-- The word that was read so far, if there is one. -/
def pending (word : List Char) : List Token := if word.isEmpty then [] else [.word word]

/-- The tokens of a text behind the word that was read so far. -/
def scan (word : List Char) : List Char → List Token
  | [] => pending word
  | c :: cs =>
    if c = ' ' then pending word ++ scan [] cs
    else if c = '(' then pending word ++ .opening :: scan [] cs
    else if c = ')' then pending word ++ .closing :: scan [] cs
    else scan (word ++ [c]) cs

/-- The tokens of a text. -/
def tokens (cs : List Char) : List Token := scan [] cs

/-- No word goes on into the text. -/
def breaks (cs : List Char) : Bool := cs.head?.all fun c => !isPlain c

theorem scan_of_breaks (word : List Char) {cs : List Char} (h : breaks cs = true) :
    scan word cs = pending word ++ tokens cs := by
  cases cs with
  | nil => simp [scan, tokens, pending]
  | cons c cs =>
    have hc : c = ' ' ∨ c = '(' ∨ c = ')' := by
      by_contra hc
      simp only [not_or] at hc
      simp [breaks, isPlain, hc] at h
    rcases hc with rfl | rfl | rfl <;> simp [scan, tokens, pending]

theorem scan_append (word cs : List Char) {rest : List Char} (h : breaks rest = true) :
    scan word (cs ++ rest) = scan word cs ++ tokens rest := by
  induction cs generalizing word with
  | nil => exact scan_of_breaks word h
  | cons c cs ih =>
    simp only [List.cons_append, scan, ih]
    split_ifs <;> simp

theorem tokens_append (cs : List Char) {rest : List Char} (h : breaks rest = true) :
    tokens (cs ++ rest) = tokens cs ++ tokens rest := scan_append [] cs h

theorem scan_plain (word cs : List Char) (h : cs.all isPlain = true) :
    scan word cs = pending (word ++ cs) := by
  induction cs generalizing word with
  | nil => simp [scan]
  | cons c cs ih =>
    simp only [List.all_cons, Bool.and_eq_true] at h
    have hc : c ≠ ' ' ∧ c ≠ '(' ∧ c ≠ ')' := by simpa [isPlain, and_assoc] using h.1
    rw [scan, if_neg hc.1, if_neg hc.2.1, if_neg hc.2.2, ih _ h.2, List.append_assoc,
      List.singleton_append]

theorem tokens_of_isToken {cs : List Char} (h : isToken cs = true) : tokens cs = [.word cs] := by
  simp only [isToken, Bool.and_eq_true, Bool.not_eq_true'] at h
  rw [tokens, scan_plain [] cs h.2, pending, List.nil_append, if_neg (by simp [h.1])]

/-- Parentheses are tokens around those of the text inside. -/
theorem tokens_enclosed_true (cs : List Char) :
    tokens (enclosed true cs) = .opening :: (tokens cs ++ [.closing]) := by
  have h : breaks [')'] = true := by decide
  show Token.opening :: tokens (cs ++ [')']) = .opening :: (tokens cs ++ [.closing])
  rw [tokens_append cs h]
  rfl

/-- Two operands with a word between them. -/
theorem tokens_operation (left : List Char) {operator : List Char} (right : List Char)
    (h : isToken operator = true) :
    tokens (left ++ ' ' :: operator ++ ' ' :: right) =
      tokens left ++ .word operator :: tokens right := by
  have hb (cs : List Char) : breaks (' ' :: cs) = true := rfl
  have hspace (cs : List Char) : tokens (' ' :: cs) = tokens cs := by
    simp [tokens, scan, pending]
  calc tokens (left ++ ' ' :: operator ++ ' ' :: right)
      = tokens left ++ tokens (' ' :: (operator ++ ' ' :: right)) := by
        rw [← tokens_append left (hb _), List.append_assoc, List.cons_append]
    _ = tokens left ++ tokens operator ++ tokens (' ' :: right) := by
        rw [hspace, tokens_append operator (hb _), List.append_assoc]
    _ = tokens left ++ .word operator :: tokens right := by
        rw [hspace, tokens_of_isToken h, List.append_assoc, List.singleton_append]

/-! ## The parser -/

/-- The side to which operators of one strength group. -/
inductive Side where
  | left
  | right
  deriving DecidableEq

/-- How an operator binds its operands. -/
structure Binding where
  strength : Nat
  side : Side

/-- The least strength of an operator in the right operand. -/
def Binding.least (b : Binding) : Nat :=
  match b.side with
  | .left => b.strength + 1
  | .right => b.strength

theorem Binding.strength_le_least (b : Binding) : b.strength ≤ b.least := by
  unfold Binding.least
  split <;> omega

theorem Binding.least_le_of_lt {b : Binding} {n : Nat} (h : b.strength < n) : b.least ≤ n := by
  unfold Binding.least
  split <;> omega

/-- The words of a language of formulas. -/
structure Grammar (α : Type) where
  leaf? : List Char → Option α
  /-- The character at the front of a word is an operator before one operand. -/
  isSign : Char → Bool
  kind : List Char → OperationClass
  binding : List Char → Binding

namespace Grammar

variable {α : Type} (g : Grammar α)

mutual

/-- A formula at the front of the tokens that has parentheses around it or is no operation between
two operands, with the tokens behind it. A sign stands directly before a leaf or parentheses. -/
def operand? (ts : List Token) : Option (Formula α × List Token) :=
  match ts with
  | .opening :: rest =>
    match expression? 0 rest with
    | some (t, .closing :: rest') => some (t, rest')
    | _ => none
  | .word (c :: cs) :: rest =>
    if g.isSign c then
      if cs.isEmpty then
        if rest.head? = some .opening then (operand? rest).map fun r => (.signed c r.1, r.2)
        else none
      else (g.leaf? cs).map fun a => (.signed c (.leaf a), rest)
    else (g.leaf? (c :: cs)).map fun a => (.leaf a, rest)
  | _ => none
  termination_by (ts.length, 0)

/-- A formula at the front of the tokens in which bare operators have at least the given
strength. -/
def expression? (least : Nat) (ts : List Token) : Option (Formula α × List Token) :=
  match operand? ts with
  | some (t, rest) => if rest.length < ts.length then climb? least t rest else none
  | none => none
  termination_by (ts.length, 1)

/-- The formula that starts with the given left operand and goes on with the tokens. -/
def climb? (least : Nat) (left : Formula α) (ts : List Token) : Option (Formula α × List Token) :=
  match ts with
  | .word operator :: rest =>
    if least ≤ (g.binding operator).strength then
      match expression? (g.binding operator).least rest with
      | some (right, rest') =>
        if rest'.length < rest.length then
          climb? least (.operation (g.kind operator) operator left right) rest'
        else none
      | none => none
    else some (left, ts)
  | _ => some (left, ts)
  termination_by (ts.length, 0)

end

/-- The formula that a whole text is. -/
def parse? (cs : List Char) : Option (Formula α) :=
  match g.expression? 0 (tokens cs) with
  | some (t, []) => some t
  | _ => none

/-! ### What the parser consumes -/

theorem length_le_of_climb? (least : Nat) (left : Formula α) (ts : List Token) {t : Formula α}
    {rest : List Token} (h : g.climb? least left ts = some (t, rest)) :
    rest.length ≤ ts.length := by
  unfold climb? at h
  split at h
  · next operator inner =>
      split_ifs at h
      · split at h
        · next right inner' hread =>
            split_ifs at h with hlt
            have hle := length_le_of_climb? least _ inner' h
            simp only [List.length_cons]
            omega
        · cases h
      · cases h
        exact Nat.le_refl _
  · cases h
    exact Nat.le_refl _
  termination_by ts.length
  decreasing_by
    subst_vars
    simp only [List.length_cons]
    omega

theorem length_lt_of_expression? (least : Nat) (ts : List Token) {t : Formula α}
    {rest : List Token} (h : g.expression? least ts = some (t, rest)) :
    rest.length < ts.length := by
  unfold expression? at h
  split at h
  · next left inner hread =>
      split_ifs at h with hlt
      exact Nat.lt_of_le_of_lt (g.length_le_of_climb? least left inner h) hlt
  · cases h

theorem length_lt_of_operand? (ts : List Token) {t : Formula α} {rest : List Token}
    (h : g.operand? ts = some (t, rest)) : rest.length < ts.length := by
  unfold operand? at h
  split at h
  · next inner =>
      split at h
      · next hread =>
          cases h
          have hlt := g.length_lt_of_expression? 0 inner hread
          simp only [List.length_cons] at hlt ⊢
          omega
      · cases h
  · next c cs inner =>
      split_ifs at h
      · obtain ⟨r, hread, heq⟩ := Option.map_eq_some_iff.mp h
        cases heq
        have hlt := length_lt_of_operand? inner hread
        simp only [List.length_cons]
        omega
      · obtain ⟨a, -, heq⟩ := Option.map_eq_some_iff.mp h
        cases heq
        exact Nat.lt_succ_self _
      · obtain ⟨a, -, heq⟩ := Option.map_eq_some_iff.mp h
        cases heq
        exact Nat.lt_succ_self _
  · cases h
  termination_by ts.length

/-- Whatever is read is taken off the front, so the test on the lengths never fails. -/
theorem expression?_eq (least : Nat) (ts : List Token) :
    g.expression? least ts = (g.operand? ts).bind fun r => g.climb? least r.1 r.2 := by
  rw [expression?]
  split
  · next t rest h => rw [h, if_pos (g.length_lt_of_operand? ts h), Option.bind_some]
  · next h => rw [h, Option.bind_none]

/-- An operator that is strong enough is taken with its right operand. -/
theorem climb?_word {least : Nat} (left : Formula α) {operator : List Char} {rest : List Token}
    (hle : least ≤ (g.binding operator).strength) {right : Formula α} {rest' : List Token}
    (hr : g.expression? (g.binding operator).least rest = some (right, rest')) :
    g.climb? least left (.word operator :: rest) =
      g.climb? least (.operation (g.kind operator) operator left right) rest' := by
  rw [climb?, if_pos hle, hr]
  exact if_pos (g.length_lt_of_expression? _ _ hr)

/-- Every operator at the front of the tokens binds less strongly. -/
def Yields (strength : Nat) (ts : List Token) : Prop :=
  ∀ operator rest, ts = .word operator :: rest → (g.binding operator).strength < strength

theorem climb?_of_yields {least : Nat} {ts : List Token} (left : Formula α)
    (h : g.Yields least ts) : g.climb? least left ts = some (left, ts) := by
  unfold climb?
  split
  · next operator rest => exact if_neg (Nat.not_le_of_lt (h operator rest rfl))
  · rfl

theorem yields_nil (strength : Nat) : g.Yields strength [] := by
  intro operator rest h
  cases h

theorem yields_closing (strength : Nat) (ts : List Token) :
    g.Yields strength (.closing :: ts) := by
  intro operator rest h
  cases h

theorem Yields.mono {m n : Nat} {ts : List Token} (h : g.Yields m ts) (hmn : m ≤ n) :
    g.Yields n ts := by
  intro operator rest hts
  have hlt := h operator rest hts
  omega

end Grammar

/-! ## Formulas that read back -/

/-- The operator of an operation between two operands. -/
def Formula.operator? {α : Type} : Formula α → Option (List Char)
  | .operation _ operator _ _ => some operator
  | _ => none

namespace Grammar

variable {α : Type} (g : Grammar α)

/-- As a bare formula between operators of the least strength and the tokens, the formula is not
torn apart. -/
def Holds (least : Nat) (ts : List Token) (t : Formula α) : Prop :=
  ∀ operator, t.operator? = some operator →
    least ≤ (g.binding operator).strength ∧ g.Yields (g.binding operator).strength ts

/-- An operand of the operation with the operator, if it is bare, binds more strongly. -/
def Tight (operator : List Char) (grouped : Bool) (t : Formula α) : Prop :=
  grouped = false → ∀ inner, t.operator? = some inner →
    (g.binding operator).strength < (g.binding inner).strength

/-- Wherever the formula is not torn apart, the text is read as the formula. -/
def Reads (cs : List Char) (t : Formula α) : Prop :=
  ∀ least ts, g.Holds least ts t →
    g.expression? least (tokens cs ++ ts) = g.climb? least t ts

variable {g}

theorem reads_of_operand? {cs : List Char} {t : Formula α}
    (h : ∀ ts, g.operand? (tokens cs ++ ts) = some (t, ts)) : g.Reads cs t := by
  intro least ts _
  rw [expression?_eq, h ts, Option.bind_some]

/-- In parentheses, any formula is an operand. -/
theorem Reads.operand? {cs : List Char} {t : Formula α} (h : g.Reads cs t) (ts : List Token) :
    g.operand? (tokens (enclosed true cs) ++ ts) = some (t, ts) := by
  have hclosing : g.Holds 0 (.closing :: ts) t := fun operator _ =>
    ⟨Nat.zero_le _, g.yields_closing _ ts⟩
  have hread : g.expression? 0 (tokens cs ++ .closing :: ts) = some (t, .closing :: ts) := by
    rw [h 0 _ hclosing, g.climb?_of_yields t (g.yields_closing 0 ts)]
  rw [tokens_enclosed_true, List.cons_append, List.append_assoc, List.singleton_append,
    Grammar.operand?, hread]

/-- An operand is read to its end, with or without parentheses. -/
theorem Reads.enclosed {cs : List Char} {t : Formula α} (h : g.Reads cs t) (grouped : Bool)
    {least : Nat} {ts : List Token} (hbare : grouped = false → g.Holds least ts t) :
    g.expression? least (tokens (enclosed grouped cs) ++ ts) = g.climb? least t ts := by
  cases grouped with
  | false => exact h least ts (hbare rfl)
  | true => rw [expression?_eq, h.operand? ts, Option.bind_some]

theorem Reads.parse? {cs : List Char} {t : Formula α} (h : g.Reads cs t) :
    g.parse? cs = some t := by
  have hnil : g.Holds 0 [] t := fun operator _ => ⟨Nat.zero_le _, g.yields_nil _⟩
  have hread := h 0 [] hnil
  rw [List.append_nil, g.climb?_of_yields t (g.yields_nil 0)] at hread
  rw [Grammar.parse?, hread]

/-! ### One case for each kind of formula -/

theorem reads_leaf {cs : List Char} {a : α} (ht : isToken cs = true)
    (hs : cs.head?.all (fun c => !g.isSign c) = true) (ha : g.leaf? cs = some a) :
    g.Reads cs (.leaf a) := by
  refine reads_of_operand? fun ts => ?_
  cases cs with
  | nil => cases ht
  | cons c cs =>
    have hc : ¬ g.isSign c = true := by simpa using hs
    rw [tokens_of_isToken ht, List.singleton_append, Grammar.operand?, if_neg hc, ha,
      Option.map_some]

theorem reads_signed_leaf {sign : Char} {cs : List Char} {a : α} (hp : isPlain sign = true)
    (hs : g.isSign sign = true) (ht : isToken cs = true) (ha : g.leaf? cs = some a) :
    g.Reads (sign :: cs) (.signed sign (.leaf a)) := by
  refine reads_of_operand? fun ts => ?_
  have hword : isToken (sign :: cs) = true := by
    simp only [isToken, Bool.and_eq_true] at ht
    simp [isToken, hp, ht.2]
  have hne : ¬ cs.isEmpty = true := fun he => ne_nil_of_isToken ht (List.isEmpty_iff.mp he)
  rw [tokens_of_isToken hword, List.singleton_append, Grammar.operand?, if_pos hs, if_neg hne, ha,
    Option.map_some]

theorem reads_signed_enclosed {sign : Char} {cs : List Char} {t : Formula α}
    (hp : isPlain sign = true) (hs : g.isSign sign = true) (h : g.Reads cs t) :
    g.Reads (sign :: enclosed true cs) (.signed sign t) := by
  refine reads_of_operand? fun ts => ?_
  have hword : isToken [sign] = true := by simp [isToken, hp]
  have hbreak : breaks (enclosed true cs) = true := rfl
  have htokens : tokens (sign :: enclosed true cs) =
      .word [sign] :: tokens (enclosed true cs) := by
    rw [← List.singleton_append, tokens_append [sign] hbreak, tokens_of_isToken hword,
      List.singleton_append]
  have hopening : (tokens (enclosed true cs) ++ ts).head? = some .opening := by
    rw [tokens_enclosed_true]
    rfl
  rw [htokens, List.cons_append, Grammar.operand?, if_pos hs, if_pos List.isEmpty_nil,
    if_pos hopening, h.operand? ts, Option.map_some]

/-- **An operation is read as one** if its bare operands bind more strongly than it does. -/
theorem reads_operation {operator left right : List Char} {t u : Formula α}
    (ho : isToken operator = true) (hl : g.Reads left t) (hr : g.Reads right u)
    (groupedLeft groupedRight : Bool) (htightLeft : g.Tight operator groupedLeft t)
    (htightRight : g.Tight operator groupedRight u) :
    g.Reads (enclosed groupedLeft left ++ ' ' :: operator ++ ' ' :: enclosed groupedRight right)
      (.operation (g.kind operator) operator t u) := by
  intro least ts hholds
  obtain ⟨hle, hyields⟩ := hholds operator rfl
  -- The left operand goes on up to the operator, because that binds less strongly.
  have hleft : groupedLeft = false → g.Holds least
      (.word operator :: (tokens (enclosed groupedRight right) ++ ts)) t := by
    intro hbare inner hinner
    have hlt := htightLeft hbare inner hinner
    refine ⟨by omega, ?_⟩
    intro operator' rest hts
    cases hts
    exact hlt
  -- The right one goes on up to the tokens behind the operation, for the same reason.
  have hright : groupedRight = false → g.Holds (g.binding operator).least ts u := by
    intro hbare inner hinner
    have hlt := htightRight hbare inner hinner
    exact ⟨Binding.least_le_of_lt hlt, hyields.mono g (Nat.le_of_lt hlt)⟩
  have hstop : g.expression? (g.binding operator).least
      (tokens (enclosed groupedRight right) ++ ts) = some (u, ts) := by
    rw [hr.enclosed groupedRight hright]
    exact g.climb?_of_yields u (hyields.mono g (g.binding operator).strength_le_least)
  rw [tokens_operation _ _ ho, List.append_assoc, List.cons_append, hl.enclosed groupedLeft hleft,
    g.climb?_word t hle hstop]

/-! ### All formulas -/

variable (g)

/-- The formula is made of words of the grammar, and its bare operands bind more strongly than the
operations around them. -/
def Fits (leafText : α → List Char) : Formula α → Prop
  | .leaf a => isToken (leafText a) = true ∧
      (leafText a).head?.all (fun c => !g.isSign c) = true ∧ g.leaf? (leafText a) = some a
  | .signed sign t => isPlain sign = true ∧ g.isSign sign = true ∧ t.operator? = none ∧
      Fits leafText t
  | .operation kind operator t u => isToken operator = true ∧ g.kind operator = kind ∧
      g.Tight operator (t.isOperation kind) t ∧ g.Tight operator (u.isOperation kind) u ∧
      Fits leafText t ∧ Fits leafText u

variable {g}

theorem reads_text {leafText : α → List Char} (t : Formula α) (h : g.Fits leafText t) :
    g.Reads (t.text leafText) t := by
  induction t with
  | leaf a => exact reads_leaf h.1 h.2.1 h.2.2
  | signed sign t ih =>
    obtain ⟨hp, hs, ho, ht⟩ := h
    cases t with
    | leaf a => exact reads_signed_leaf hp hs ht.1 ht.2.2
    | signed sign' t => exact reads_signed_enclosed hp hs (ih ht)
    | operation kind operator t u => cases ho
  | operation kind operator t u iht ihu =>
    obtain ⟨ho, rfl, htl, htr, ht, hu⟩ := h
    exact reads_operation ho (iht ht) (ihu hu) _ _ htl htr

/-- **The text of a formula reads back as the formula.** -/
theorem parse?_text {leafText : α → List Char} {t : Formula α} (h : g.Fits leafText t) :
    g.parse? (t.text leafText) = some t := (reads_text t h).parse?

/-- No other formula of the grammar has the text. -/
theorem eq_of_generate {leaves : Leaves α} {t t' : Formula α} (h : g.Fits leaves.text t)
    (h' : g.Fits leaves.text t') {d : Dialect} {v : Value} (hv : v.formula? leaves = some t')
    (htext : v.generate d = .ok (t.text leaves.text)) : t' = t := by
  rw [generate_of_formula? d hv] at htext
  have hsame : t'.text leaves.text = t.text leaves.text := Except.ok.inj htext
  have hread : g.parse? (t.text leaves.text) = some t' := by
    rw [← hsame]
    exact parse?_text h'
  rw [parse?_text h] at hread
  exact (Option.some.inj hread).symm

end Grammar

end EstreeEmitter
