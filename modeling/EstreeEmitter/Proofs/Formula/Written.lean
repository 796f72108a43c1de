import EstreeEmitter.Proofs.Formula.Climb

set_option autoImplicit false

/-! # Formulas with their parentheses

A `Written` formula also says how many parentheses stand around each part. Two of them with the same
tokens that are the same formula without parentheses have the same parentheses
(`Written.eq_of_tokens_eq`): the operator of an operation stands behind as many characters, and the
parentheses inside its left operand are even. `Formula.written` puts the parentheses where the
emitter writes them (`Formula.tokens_written`). -/

namespace EstreeEmitter

/-- A formula over words, with the number of parentheses around each part. -/
inductive Written where
  | leaf (parens : Nat) (cs : List Char)
  | signed (parens : Nat) (sign : Char) (operand : Written)
  | operation (parens : Nat) (kind : OperationClass) (operator : List Char) (left right : Written)

/-- The sign before the tokens. It becomes a part of the word that it stands before. -/
def attach (sign : Char) : List Token → List Token
  | .word cs :: ts => .word (sign :: cs) :: ts
  | ts => .word [sign] :: ts

/-- The tokens in parentheses. -/
def wrap (parens : Nat) (ts : List Token) : List Token :=
  List.replicate parens .opening ++ (ts ++ List.replicate parens .closing)

theorem wrap_zero (ts : List Token) : wrap 0 ts = ts := List.append_nil ts

theorem wrap_succ (parens : Nat) (ts : List Token) :
    wrap (parens + 1) ts = .opening :: (wrap parens ts ++ [.closing]) := by
  rw [wrap, wrap, List.replicate_succ, List.replicate_succ']
  simp

namespace Written

/-- The formula without parentheses. -/
def formula : Written → Formula (List Char)
  | .leaf _ cs => .leaf cs
  | .signed _ sign x => .signed sign x.formula
  | .operation _ kind operator x y => .operation kind operator x.formula y.formula

/-- The tokens with the parentheses. -/
def tokens : Written → List Token
  | .leaf parens cs => wrap parens [.word cs]
  | .signed parens sign x => wrap parens (attach sign x.tokens)
  | .operation parens _ operator x y => wrap parens (x.tokens ++ .word operator :: y.tokens)

/-- The formula in one more pair of parentheses. -/
def group : Written → Written
  | .leaf parens cs => .leaf (parens + 1) cs
  | .signed parens sign x => .signed (parens + 1) sign x
  | .operation parens kind operator x y => .operation (parens + 1) kind operator x y

/-- The operator of an operation between two operands without parentheses around it. -/
def bareOperator? : Written → Option (List Char)
  | .operation 0 _ operator _ _ => some operator
  | _ => none

@[simp] theorem formula_group (x : Written) : x.group.formula = x.formula := by
  cases x <;> rfl

@[simp] theorem bareOperator?_group (x : Written) : x.group.bareOperator? = none := by
  cases x <;> rfl

@[simp] theorem tokens_group (x : Written) :
    x.group.tokens = .opening :: (x.tokens ++ [.closing]) := by
  cases x <;> exact wrap_succ _ _

end Written

/-! ## Parentheses are determined by the tokens -/

/-- The number of characters in the words. -/
def wordLength : List Token → Nat
  | [] => 0
  | .word cs :: ts => cs.length + wordLength ts
  | _ :: ts => wordLength ts

/-- The opening parentheses less the closing ones. -/
def depth : List Token → Int
  | [] => 0
  | .opening :: ts => depth ts + 1
  | .closing :: ts => depth ts - 1
  | .word _ :: ts => depth ts

theorem wordLength_append (ts us : List Token) :
    wordLength (ts ++ us) = wordLength ts + wordLength us := by
  induction ts with
  | nil => simp [wordLength]
  | cons t ts ih => cases t <;> simp [wordLength, ih, Nat.add_assoc]

theorem depth_append (ts us : List Token) : depth (ts ++ us) = depth ts + depth us := by
  induction ts with
  | nil => simp [depth]
  | cons t ts ih =>
    cases t <;> simp only [List.cons_append, depth, ih] <;> omega

theorem wordLength_wrap (parens : Nat) (ts : List Token) :
    wordLength (wrap parens ts) = wordLength ts := by
  induction parens with
  | zero => rw [wrap_zero]
  | succ parens ih =>
    rw [wrap_succ]
    show wordLength (wrap parens ts ++ [.closing]) = wordLength ts
    rw [wordLength_append, ih]
    rfl

theorem wordLength_openings (parens : Nat) :
    wordLength (List.replicate parens .opening) = 0 := by
  induction parens with
  | zero => rfl
  | succ parens ih => exact ih

theorem depth_openings (parens : Nat) : depth (List.replicate parens .opening) = parens := by
  induction parens with
  | zero => rfl
  | succ parens ih =>
    rw [List.replicate_succ, depth, ih]
    rfl

theorem depth_wrap (parens : Nat) (ts : List Token) : depth (wrap parens ts) = depth ts := by
  induction parens with
  | zero => rw [wrap_zero]
  | succ parens ih =>
    rw [wrap_succ, depth, depth_append, ih]
    simp only [depth]
    omega

/-- The first word behind opening parentheses shows how many there are. -/
theorem eq_of_openings_append {m n : Nat} {cs cs' : List Char} {ts ts' : List Token}
    (h : List.replicate m .opening ++ .word cs :: ts =
      List.replicate n .opening ++ .word cs' :: ts') : m = n ∧ cs = cs' ∧ ts = ts' := by
  induction m generalizing n with
  | zero =>
    cases n with
    | zero =>
      cases h
      exact ⟨rfl, rfl, rfl⟩
    | succ n => cases h
  | succ m ih =>
    cases n with
    | zero => cases h
    | succ n =>
      obtain ⟨hm, hrest⟩ := ih (List.cons.inj h).2
      exact ⟨congrArg (· + 1) hm, hrest⟩

/-- A list is cut at a word in one way only, if the same number of characters stands before it. -/
theorem eq_of_append_word {ts ts' us us' : List Token} {cs : List Char} (hcs : cs ≠ [])
    (hlen : wordLength ts = wordLength ts')
    (h : ts ++ .word cs :: us = ts' ++ .word cs :: us') : ts = ts' ∧ us = us' := by
  have hlt (ws ws' : List Token) : wordLength ws < wordLength (ws ++ .word cs :: ws') := by
    have hpos : 0 < cs.length := List.length_pos_iff.mpr hcs
    rw [wordLength_append, wordLength]
    omega
  rcases List.append_eq_append_iff.mp h with ⟨ws, hts, hus⟩ | ⟨ws, hts, hus⟩
  · cases ws with
    | nil => simp_all
    | cons w ws =>
      cases (List.cons.inj hus).1
      have hshort := hlt ts ws
      rw [← hts] at hshort
      omega
  · cases ws with
    | nil => simp_all
    | cons w ws =>
      cases (List.cons.inj hus).1
      have hshort := hlt ts' ws
      rw [← hts] at hshort
      omega

theorem wordLength_attach (sign : Char) (ts : List Token) :
    wordLength (attach sign ts) = wordLength ts + 1 := by
  unfold attach
  split
  · simp only [wordLength, List.length_cons]
    omega
  · simp only [wordLength, List.length_singleton]
    omega

theorem depth_attach (sign : Char) (ts : List Token) : depth (attach sign ts) = depth ts := by
  unfold attach
  split <;> rfl

theorem exists_attach_eq (sign : Char) (ts : List Token) :
    ∃ cs us, attach sign ts = .word cs :: us := by
  unfold attach
  split
  · exact ⟨_, _, rfl⟩
  · exact ⟨_, _, rfl⟩

theorem attach_of_head? (sign : Char) {ts : List Token} (h : ts.head? = some .opening) :
    attach sign ts = .word [sign] :: ts := by
  unfold attach
  split
  · cases h
  · rfl

/-- The number of characters without blanks and parentheses. -/
def Formula.wordLength : Formula (List Char) → Nat
  | .leaf cs => cs.length
  | .signed _ t => t.wordLength + 1
  | .operation _ operator t u => t.wordLength + (operator.length + u.wordLength)

/-- Leaves and operators are single words, and signs belong to words. -/
def Formula.isWorded : Formula (List Char) → Bool
  | .leaf cs => isToken cs
  | .signed sign t => isPlain sign && t.isWorded
  | .operation _ operator t u => isToken operator && t.isWorded && u.isWorded

/-- The tokens start with a parenthesis or a word with characters. -/
def startsSolid : List Token → Bool
  | .opening :: _ => true
  | .word cs :: _ => !cs.isEmpty
  | _ => false

/-- A sign can be taken off again: a word that was longer than the sign had characters before. -/
theorem eq_of_attach_eq {sign : Char} {ts us : List Token} (hts : startsSolid ts = true)
    (hus : startsSolid us = true) (h : attach sign ts = attach sign us) : ts = us := by
  unfold attach at h
  split at h
  · split at h
    · cases h
      rfl
    · cases h
      cases hts
  · split at h
    · cases h
      cases hus
    · cases h
      rfl

theorem startsSolid_append {ts : List Token} (h : startsSolid ts = true) (us : List Token) :
    startsSolid (ts ++ us) = true := by
  cases ts with
  | nil => cases h
  | cons t ts => cases t <;> exact h

theorem startsSolid_wrap (parens : Nat) {ts : List Token} (h : startsSolid ts = true) :
    startsSolid (wrap parens ts) = true := by
  cases parens with
  | zero => exact startsSolid_append h []
  | succ parens => rfl

namespace Written

theorem wordLength_tokens (x : Written) : wordLength x.tokens = x.formula.wordLength := by
  induction x with
  | leaf parens cs => simp [tokens, wordLength_wrap, wordLength, formula, Formula.wordLength]
  | signed parens sign x ih =>
    rw [tokens, wordLength_wrap, wordLength_attach, ih, formula, Formula.wordLength]
  | operation parens kind operator x y ihx ihy =>
    rw [tokens, wordLength_wrap, wordLength_append, ihx, wordLength, ihy, formula,
      Formula.wordLength]

theorem depth_tokens (x : Written) : depth x.tokens = 0 := by
  induction x with
  | leaf parens cs => exact depth_wrap parens _
  | signed parens sign x ih => rw [tokens, depth_wrap, depth_attach, ih]
  | operation parens kind operator x y ihx ihy =>
    rw [tokens, depth_wrap, depth_append, ihx, depth, ihy]
    rfl

theorem tokens_ne_nil (x : Written) : x.tokens ≠ [] := by
  have hwrap (parens : Nat) {ts : List Token} (h : ts ≠ []) : wrap parens ts ≠ [] := by
    simp [wrap, h]
  cases x with
  | leaf parens cs => exact hwrap parens (by simp)
  | signed parens sign x =>
    obtain ⟨cs, us, hx⟩ := exists_attach_eq sign x.tokens
    exact hwrap parens (by simp [hx])
  | operation parens kind operator x y => exact hwrap parens (by simp)

theorem startsSolid_tokens (x : Written) (h : x.formula.isWorded = true) :
    startsSolid x.tokens = true := by
  induction x with
  | leaf parens cs =>
    simp only [formula, Formula.isWorded, isToken, Bool.and_eq_true] at h
    exact startsSolid_wrap parens h.1
  | signed parens sign x ih =>
    refine startsSolid_wrap parens ?_
    unfold attach
    split <;> rfl
  | operation parens kind operator x y ihx ihy =>
    simp only [formula, Formula.isWorded, Bool.and_eq_true] at h
    exact startsSolid_wrap parens (startsSolid_append (ihx h.1.2) _)

/-- **The parentheses are determined** by the formula and the tokens. -/
theorem eq_of_tokens_eq (x y : Written) (hf : x.formula = y.formula)
    (hw : x.formula.isWorded = true) (h : x.tokens = y.tokens) : x = y := by
  induction x generalizing y with
  | leaf parens cs =>
    cases y with
    | leaf parens' cs' =>
      obtain ⟨rfl, rfl, -⟩ := eq_of_openings_append h
      rfl
    | signed parens' sign y => cases hf
    | operation parens' kind operator y y' => cases hf
  | signed parens sign x ih =>
    cases y with
    | leaf parens' cs => cases hf
    | signed parens' sign' y =>
      simp only [formula, Formula.signed.injEq] at hf
      obtain ⟨rfl, hf⟩ := hf
      simp only [formula, Formula.isWorded, Bool.and_eq_true] at hw
      obtain ⟨cs, us, hx⟩ := exists_attach_eq sign x.tokens
      obtain ⟨cs', us', hy⟩ := exists_attach_eq sign y.tokens
      rw [tokens, tokens, hx, hy] at h
      obtain ⟨rfl, rfl, hus⟩ := eq_of_openings_append h
      have hattach : attach sign x.tokens = attach sign y.tokens := by
        rw [hx, hy, List.append_cancel_right hus]
      have htokens := eq_of_attach_eq (x.startsSolid_tokens hw.2)
        (y.startsSolid_tokens (hf ▸ hw.2)) hattach
      rw [ih y hf hw.2 htokens]
    | operation parens' kind operator y y' => cases hf
  | operation parens kind operator x x' ihx ihx' =>
    cases y with
    | leaf parens' cs => cases hf
    | signed parens' sign y => cases hf
    | operation parens' kind' operator' y y' =>
      simp only [formula, Formula.operation.injEq] at hf
      obtain ⟨rfl, rfl, hf, hf'⟩ := hf
      simp only [formula, Formula.isWorded, Bool.and_eq_true] at hw
      obtain ⟨⟨ho, hwx⟩, hwx'⟩ := hw
      have hcut : (List.replicate parens .opening ++ x.tokens) ++
            .word operator :: (x'.tokens ++ List.replicate parens .closing) =
          (List.replicate parens' .opening ++ y.tokens) ++
            .word operator :: (y'.tokens ++ List.replicate parens' .closing) := by
        simpa [tokens, wrap] using h
      have hlen : wordLength (List.replicate parens .opening ++ x.tokens) =
          wordLength (List.replicate parens' .opening ++ y.tokens) := by
        rw [wordLength_append, wordLength_append, wordLength_openings, wordLength_openings,
          wordLength_tokens, wordLength_tokens, hf]
      obtain ⟨hleft, hright⟩ := eq_of_append_word (ne_nil_of_isToken ho) hlen hcut
      -- Inside an operand the parentheses are even, so those before it are equally many.
      have hdepth := congrArg depth hleft
      rw [depth_append, depth_append, depth_openings, depth_openings, depth_tokens,
        depth_tokens] at hdepth
      obtain rfl : parens = parens' := by omega
      rw [ihx y hf hwx (List.append_cancel_left hleft),
        ihx' y' hf' hwx' (List.append_cancel_right hright)]

end Written

/-! ## The parentheses that the emitter writes -/

/-- The formula in parentheses if `grouped`. -/
def Written.enclosed (grouped : Bool) (x : Written) : Written := if grouped then x.group else x

/-- The formula with the parentheses of its text. -/
def Formula.written : Formula (List Char) → Written
  | .leaf cs => .leaf 0 cs
  | .signed sign t => .signed 0 sign (t.written.enclosed t.isSigned)
  | .operation kind operator t u =>
    .operation 0 kind operator (t.written.enclosed (t.isOperation kind))
      (u.written.enclosed (u.isOperation kind))

theorem Written.formula_enclosed (grouped : Bool) (x : Written) :
    (x.enclosed grouped).formula = x.formula := by
  cases grouped with
  | false => rfl
  | true => exact x.formula_group

theorem Formula.formula_written (t : Formula (List Char)) : t.written.formula = t := by
  induction t with
  | leaf cs => rfl
  | signed sign t ih => rw [written, Written.formula, Written.formula_enclosed, ih]
  | operation kind operator t u iht ihu =>
    rw [written, Written.formula, Written.formula_enclosed, Written.formula_enclosed, iht, ihu]

theorem pending_cons_append (sign : Char) {word : List Char} (hw : word ≠ []) (ts : List Token) :
    pending (sign :: word) ++ ts = attach sign (pending word ++ ts) := by
  simp [pending, hw, attach]

theorem scan_cons (sign : Char) {word : List Char} (hw : word ≠ []) (cs : List Char) :
    scan (sign :: word) cs = attach sign (scan word cs) := by
  induction cs generalizing word with
  | nil => simpa [scan] using pending_cons_append sign hw []
  | cons c cs ih =>
    simp only [scan]
    split_ifs
    · exact pending_cons_append sign hw _
    · exact pending_cons_append sign hw _
    · exact pending_cons_append sign hw _
    · exact ih (by simp)

/-- The text starts with a character that is no blank. -/
def startsFilled (cs : List Char) : Bool := cs.head?.any (· != ' ')

theorem startsFilled_enclosed (grouped : Bool) {cs : List Char} (h : startsFilled cs = true) :
    startsFilled (enclosed grouped cs) = true := by
  cases grouped with
  | false => exact h
  | true => rfl

theorem startsFilled_append {cs : List Char} (h : startsFilled cs = true) (rest : List Char) :
    startsFilled (cs ++ rest) = true := by
  cases cs with
  | nil => cases h
  | cons c cs => exact h

theorem startsFilled_cons {c : Char} (h : isPlain c = true) (cs : List Char) :
    startsFilled (c :: cs) = true := by
  simp only [isPlain, Bool.and_eq_true] at h
  exact h.1.1

theorem Formula.startsFilled_text (t : Formula (List Char)) (h : t.isWorded = true) :
    startsFilled (t.text id) = true := by
  induction t with
  | leaf cs =>
    cases cs with
    | nil => cases h
    | cons c cs =>
      simp only [isWorded, isToken, List.all_cons, Bool.and_eq_true] at h
      exact startsFilled_cons h.2.1 cs
  | signed sign t ih =>
    simp only [isWorded, Bool.and_eq_true] at h
    exact startsFilled_cons h.1 _
  | operation kind operator t u iht ihu =>
    simp only [isWorded, Bool.and_eq_true] at h
    have hleft := startsFilled_enclosed (t.isOperation kind) (iht h.1.2)
    exact startsFilled_append (startsFilled_append hleft _) _

/-- A sign becomes a part of the word behind it. -/
theorem tokens_cons {sign : Char} (hs : isPlain sign = true) {cs : List Char}
    (hcs : startsFilled cs = true) : tokens (sign :: cs) = attach sign (tokens cs) := by
  have hsign : tokens (sign :: cs) = scan [sign] cs := by
    have hne : sign ≠ ' ' ∧ sign ≠ '(' ∧ sign ≠ ')' := by simpa [isPlain, and_assoc] using hs
    rw [tokens, scan, if_neg hne.1, if_neg hne.2.1, if_neg hne.2.2, List.nil_append]
  rw [hsign]
  cases cs with
  | nil => rfl
  | cons c cs =>
    have hc : c ≠ ' ' := by simpa [startsFilled] using hcs
    simp only [tokens, scan, if_neg hc]
    split_ifs
    · rfl
    · rfl
    · exact scan_cons sign (by simp) cs

theorem tokens_enclosed (grouped : Bool) {cs : List Char} {x : Written} (h : x.tokens = tokens cs) :
    (x.enclosed grouped).tokens = tokens (enclosed grouped cs) := by
  cases grouped with
  | false => exact h
  | true =>
    rw [tokens_enclosed_true, ← h]
    exact x.tokens_group

/-- The text has the tokens of the formula with its parentheses. -/
theorem Formula.tokens_written (t : Formula (List Char)) (h : t.isWorded = true) :
    t.written.tokens = tokens (t.text id) := by
  induction t with
  | leaf cs =>
    rw [written, Written.tokens, wrap_zero]
    exact (tokens_of_isToken h).symm
  | signed sign t ih =>
    simp only [isWorded, Bool.and_eq_true] at h
    have hstart := startsFilled_enclosed t.isSigned (t.startsFilled_text h.2)
    rw [written, Written.tokens, wrap_zero, tokens_enclosed _ (ih h.2), text,
      tokens_cons h.1 hstart]
  | operation kind operator t u iht ihu =>
    simp only [isWorded, Bool.and_eq_true] at h
    rw [written, Written.tokens, wrap_zero, tokens_enclosed _ (iht h.1.2),
      tokens_enclosed _ (ihu h.2), text, tokens_operation _ _ h.1.1]

end EstreeEmitter
