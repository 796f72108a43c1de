import EstreeEmitter.Proofs.Passes.SumText
import EstreeEmitter.Proofs.Passes.Weight

set_option autoImplicit false

/-! # The scan for increments

What the scan for increments finds, said without the scan: an operand is a chain of words with at
most one index in brackets (`IsOperand`), and a token is a quoted text on one line or an operand
with the doubled sign behind it (`token?_eq_some_iff`). No token goes over a line feed, so the edit
works line by line (`increments_lineFeed`). -/

namespace EstreeEmitter.Passes

open Text

/-! ## Operands -/

/-- A character that can stand in the index of an operand. -/
def isIndexChar (c : Char) : Bool := c != '[' && c != ']' && c != '\n'

/-- A chain of words with dots between. -/
def IsChain (cs : List Char) : Prop := cs.head?.any isWord = true ∧ wordChain cs = cs

/-- The operand of an increment: a chain of words, and perhaps an index without brackets. -/
inductive IsOperand : List Char → Prop where
  | chain {cs : List Char} (h : IsChain cs) : IsOperand cs
  | indexed {cs inner : List Char} (h : IsChain cs) (hn : inner ≠ [])
    (hi : inner.all isIndexChar = true) : IsOperand (cs ++ '[' :: (inner ++ [']']))

theorem isIndexChar_iff {c : Char} : isIndexChar c = true ↔ c ≠ '[' ∧ c ≠ ']' ∧ c ≠ '\n' := by
  simp [isIndexChar, and_assoc]

theorem not_mem_of_all_isIndexChar {inner : List Char} (h : inner.all isIndexChar = true) :
    '[' ∉ inner ∧ ']' ∉ inner ∧ '\n' ∉ inner := by
  have hmem : ∀ {c : Char}, c ∈ inner → c ≠ '[' ∧ c ≠ ']' ∧ c ≠ '\n' := fun hc =>
    isIndexChar_iff.mp (List.all_eq_true.mp h _ hc)
  exact ⟨fun hm => (hmem hm).1 rfl, fun hm => (hmem hm).2.1 rfl, fun hm => (hmem hm).2.2 rfl⟩

theorem all_bne_bracket {cs : List Char} (h : '[' ∉ cs) : cs.all (· != '[') = true :=
  List.all_eq_true.mpr fun _ hc => bne_iff_ne.mpr fun he => h (he ▸ hc)

theorem mem_wordChain {cs : List Char} {c : Char} (h : c ∈ wordChain cs) :
    isWord c = true ∨ c = '.' := by
  fun_induction wordChain cs with
  | case1 => cases h
  | case2 d cs hd ih =>
      rcases List.mem_cons.mp h with rfl | h
      · exact .inl hd
      · exact ih h
  | case3 d cs hd hdot ih =>
      rcases List.mem_cons.mp h with rfl | h
      · exact .inr (beq_iff_eq.mp (Bool.and_eq_true_iff.mp hdot).1)
      · exact ih h
  | case4 => cases h

theorem head?_wordChain {cs : List Char} (h : cs.head?.any isWord = true) :
    (wordChain cs).head?.any isWord = true := by
  cases cs with
  | nil => cases h
  | cons c cs =>
      have hc : isWord c = true := h
      rw [wordChain, if_pos hc]
      exact h

/-- A chain ends in a word. -/
theorem wordChain_eq_concat {cs : List Char} (h : wordChain cs ≠ []) :
    ∃ front c, wordChain cs = front ++ [c] ∧ isWord c = true := by
  fun_induction wordChain cs with
  | case1 => exact absurd rfl h
  | case2 c cs hc ih =>
      by_cases hnil : wordChain cs = []
      · exact ⟨[], c, by rw [hnil]; rfl, hc⟩
      · obtain ⟨front, d, hd, hw⟩ := ih hnil
        exact ⟨c :: front, d, by rw [hd]; rfl, hw⟩
  | case3 c cs hc hdot ih =>
      have hhead := head?_wordChain (Bool.and_eq_true_iff.mp hdot).2
      have hne : wordChain cs ≠ [] := by
        intro hnil
        rw [hnil] at hhead
        cases hhead
      obtain ⟨front, d, hd, hw⟩ := ih hne
      exact ⟨c :: front, d, by rw [hd]; rfl, hw⟩
  | case4 => exact absurd rfl h

theorem wordChain_wordChain (cs : List Char) : wordChain (wordChain cs) = wordChain cs := by
  fun_induction wordChain cs with
  | case1 => rfl
  | case2 c cs hc ih => rw [wordChain, if_pos hc, ih]
  | case3 c cs hc hdot ih =>
      obtain ⟨hcdot, hhead⟩ := Bool.and_eq_true_iff.mp hdot
      rw [wordChain, if_neg hc, hcdot, head?_wordChain hhead, Bool.and_self, if_pos rfl, ih]
  | case4 => rfl

/-- The text does not go on with a chain. -/
def stopsChain (rest : List Char) : Bool := !(rest.head?.any fun c => isWord c || c == '.')

theorem wordChain_of_stopsChain {rest : List Char} (h : stopsChain rest = true) :
    wordChain rest = [] := by
  cases rest with
  | nil => rfl
  | cons c cs =>
      obtain ⟨hw, hd⟩ : isWord c = false ∧ c ≠ '.' := by simpa [stopsChain] using h
      simp [wordChain, hw, hd]

theorem wordChain_append {chain rest : List Char} (h : wordChain chain = chain)
    (hr : stopsChain rest = true) : wordChain (chain ++ rest) = chain := by
  induction chain with
  | nil => exact wordChain_of_stopsChain hr
  | cons c cs ih =>
      rw [wordChain] at h
      rw [List.cons_append, wordChain]
      split at h
      · rename_i hc
        rw [if_pos hc, ih (List.cons.inj h).2]
      · rename_i hc
        split at h
        · rename_i hdot
          -- behind a dot stands a word, so the chain itself is not at its end there
          have hhead : (cs ++ rest).head?.any isWord = true := by
            cases cs with
            | nil => simp at hdot
            | cons d ds => exact (Bool.and_eq_true_iff.mp hdot).2
          rw [if_neg hc, (Bool.and_eq_true_iff.mp hdot).1, hhead, Bool.and_self, if_pos rfl,
            ih (List.cons.inj h).2]
        · cases h

theorem IsChain.ne_nil {cs : List Char} (h : IsChain cs) : cs ≠ [] := by
  rintro rfl
  exact absurd h.1 (by decide)

theorem IsChain.eq_concat {cs : List Char} (h : IsChain cs) :
    ∃ front c, cs = front ++ [c] ∧ isWord c = true := by
  have hne : wordChain cs ≠ [] := by
    rw [h.2]
    exact h.ne_nil
  have hcs := wordChain_eq_concat hne
  rwa [h.2] at hcs

theorem IsChain.mem {cs : List Char} (h : IsChain cs) {c : Char} (hc : c ∈ cs) :
    isWord c = true ∨ c = '.' :=
  mem_wordChain (h.2 ▸ hc)

theorem IsChain.not_mem {cs : List Char} (h : IsChain cs) {c : Char} (hw : isWord c = false)
    (hd : c ≠ '.') : c ∉ cs := by
  intro hm
  rcases h.mem hm with hc | hc
  · rw [hw] at hc
    cases hc
  · exact hd hc

theorem isChain_singleton {c : Char} (h : isWord c = true) : IsChain [c] :=
  ⟨h, by rw [wordChain, if_pos h]; rfl⟩

theorem bracketIndex_indexed {inner : List Char} (hn : inner ≠ [])
    (hi : inner.all isIndexChar = true) (rest : List Char) :
    bracketIndex ('[' :: (inner ++ ']' :: rest)) = '[' :: (inner ++ [']']) := by
  have htake : (inner ++ ']' :: rest).takeWhile (fun c => c != '[' && c != ']' && c != '\n') =
      inner := by
    have hall : ∀ c ∈ inner, (c != '[' && c != ']' && c != '\n') = true := List.all_eq_true.mp hi
    rw [List.takeWhile_append_of_pos hall]
    simp
  simp only [bracketIndex, htake]
  simp [hn]

theorem bracketIndex_cases (cs : List Char) :
    bracketIndex cs = [] ∨ ∃ inner rest, cs = '[' :: (inner ++ ']' :: rest) ∧ inner ≠ [] ∧
      inner.all isIndexChar = true := by
  unfold bracketIndex
  split
  · rename_i cs
    dsimp only
    generalize hi : cs.takeWhile (fun c => c != '[' && c != ']' && c != '\n') = inner
    split
    · rename_i hc
      simp only [Bool.and_eq_true, beq_iff_eq] at hc
      have hcs : inner ++ cs.drop inner.length = cs :=
        List.prefix_iff_eq_append.mp (hi ▸ List.takeWhile_prefix _)
      rw [drop_eq_cons_of_getElem? hc.2] at hcs
      refine .inr ⟨inner, cs.drop (inner.length + 1), by rw [hcs], by simpa using hc.1, ?_⟩
      rw [← hi]
      exact List.all_eq_true.mpr fun c hm => List.mem_takeWhile_imp hm
    · exact .inl rfl
  · exact .inl rfl

theorem isOperand_operand {cs : List Char} (h : operand cs ≠ []) : IsOperand (operand cs) := by
  unfold operand at h ⊢
  split at h
  · rename_i hhead
    rw [if_pos hhead]
    have hchain : IsChain (wordChain cs) := ⟨head?_wordChain hhead, wordChain_wordChain cs⟩
    dsimp only
    rcases bracketIndex_cases (cs.drop (wordChain cs).length) with hb | ⟨inner, rest, hb, hn, hi⟩
    · rw [hb, List.append_nil]
      exact .chain hchain
    · rw [hb, bracketIndex_indexed hn hi]
      exact .indexed hchain hn hi
  · exact absurd rfl h

/-- The text does not go on with an operand. -/
def stopsOperand (rest : List Char) : Bool :=
  !(rest.head?.any fun c => isWord c || c == '.' || c == '[')

theorem stopsChain_of_stopsOperand {rest : List Char} (h : stopsOperand rest = true) :
    stopsChain rest = true := by
  cases rest with
  | nil => rfl
  | cons c cs => simp_all [stopsOperand, stopsChain]

theorem bracketIndex_of_stopsOperand {rest : List Char} (h : stopsOperand rest = true) :
    bracketIndex rest = [] := by
  cases rest with
  | nil => rfl
  | cons c cs =>
      have hc : c ≠ '[' := by
        rintro rfl
        exact absurd h (by simp [stopsOperand])
      simp [bracketIndex, hc]

theorem head?_append_any {cs rest : List Char} (h : cs.head?.any isWord = true) :
    (cs ++ rest).head?.any isWord = true := by
  cases cs with
  | nil => cases h
  | cons c cs => exact h

/-- An operand at the front is recognised as a whole. -/
theorem operand_append {x rest : List Char} (h : IsOperand x) (hr : stopsOperand rest = true) :
    operand (x ++ rest) = x := by
  cases h with
  | chain h =>
      rw [operand, if_pos (head?_append_any h.1)]
      dsimp only
      rw [wordChain_append h.2 (stopsChain_of_stopsOperand hr), List.drop_left,
        bracketIndex_of_stopsOperand hr, List.append_nil]
  | @indexed cs inner h hn hi =>
      have hx : cs ++ '[' :: (inner ++ [']']) ++ rest = cs ++ '[' :: (inner ++ ']' :: rest) := by
        simp
      rw [hx, operand, if_pos (head?_append_any h.1)]
      dsimp only
      rw [wordChain_append h.2 (by rfl), List.drop_left, bracketIndex_indexed hn hi]

theorem IsOperand.ne_nil {x : List Char} (h : IsOperand x) : x ≠ [] := by
  cases h with
  | chain h => exact h.ne_nil
  | indexed h => simp

theorem IsOperand.lineFeed_not_mem {x : List Char} (h : IsOperand x) : '\n' ∉ x := by
  cases h with
  | chain h => exact h.not_mem (by decide) (by decide)
  | @indexed cs inner h hn hi =>
      have hchain : '\n' ∉ cs := h.not_mem (by decide) (by decide)
      simp [hchain, (not_mem_of_all_isIndexChar hi).2.2]

/-! ## Tokens -/

theorem quotedRest?_eq_some {q : Char} {cs : List Char} {n : Nat}
    (h : quotedRest? q cs = some n) :
    ∃ body rest, cs = body ++ q :: rest ∧ n = body.length + 1 ∧ QuotedBody q body ∧
      '\n' ∉ body := by
  fun_induction quotedRest? q cs generalizing n with
  | case1 => cases h
  | case2 c hc =>
      cases h
      exact ⟨[], [], by rw [eq_of_beq hc]; rfl, rfl, .nil, by simp⟩
  | case3 => cases h
  | case4 c d cs hc =>
      cases h
      exact ⟨[], d :: cs, by rw [eq_of_beq hc]; rfl, rfl, .nil, by simp⟩
  | case5 => cases h
  | case6 => cases h
  | case7 c d cs hc hl hb hd ih =>
      obtain ⟨m, hm, rfl⟩ := Option.map_eq_some_iff.mp h
      obtain ⟨body, rest, rfl, rfl, hbody, hn⟩ := ih hm
      have hline : '\n' ≠ c := fun he => hl (beq_iff_eq.mpr he.symm)
      have hdline : '\n' ≠ d := fun he => hd (beq_iff_eq.mpr he.symm)
      refine ⟨c :: d :: body, rest, rfl, rfl, ?_, by simp [hline, hdline, hn]⟩
      rw [eq_of_beq hb]
      exact .escape hbody
  | case8 c d cs hc hl hb ih =>
      obtain ⟨m, hm, rfl⟩ := Option.map_eq_some_iff.mp h
      obtain ⟨body, rest, hcs, rfl, hbody, hn⟩ := ih hm
      have hline : '\n' ≠ c := fun he => hl (beq_iff_eq.mpr he.symm)
      exact ⟨c :: body, rest, by rw [hcs]; rfl, rfl,
        .char (by simpa using hc) (by simpa using hb) hline.symm hbody, by simp [hline, hn]⟩

theorem quotedRest?_append {q : Char} (hq : isQuote q = true) {body : List Char}
    (h : QuotedBody q body) (hn : '\n' ∉ body) (rest : List Char) :
    quotedRest? q (body ++ q :: rest) = some (body.length + 1) := by
  have hslash : ('\\' == q) = false := by
    rw [beq_eq_false_iff_ne]
    exact (ne_of_isQuote hq rfl).symm
  induction h with
  | nil => cases rest <;> simp [quotedRest?]
  | @char c cs hcq hb hl h ih =>
      obtain ⟨d, ds, hd⟩ : ∃ d ds, cs ++ q :: rest = d :: ds := by cases cs <;> simp
      have hcs := ih (fun hm => hn (List.mem_cons_of_mem _ hm))
      rw [hd] at hcs
      rw [List.cons_append, hd, quotedRest?, hcs]
      simp [hcq, hb, hl]
  | @escape c cs h ih =>
      simp only [List.mem_cons, not_or] at hn
      have hc : (c == '\n') = false := by simpa using fun he => hn.2.1 he.symm
      simp [quotedRest?, hslash, hc, ih hn.2.2]

/-- A token as it can stand in a text. -/
inductive IsToken : Token → Prop where
  | quoted {text : List Char} (h : IsQuotedLine text) : IsToken (.quoted text)
  | step {x : List Char} (h : IsOperand x) : IsToken (.step x)

theorem stopsOperand_sign {sign : Char} (h : IsSign sign) (rest : List Char) :
    stopsOperand (sign :: rest) = true := by
  rcases h with rfl | rfl <;> rfl

theorem isQuote_of_isWord {c : Char} (h : isWord c = true) : isQuote c = false := by
  cases hq : isQuote c with
  | false => rfl
  | true =>
      rcases isQuote_iff.mp hq with rfl | rfl
      · exact absurd h (by decide)
      · exact absurd h (by decide)

theorem IsOperand.head {x : List Char} (h : IsOperand x) :
    ∃ c cs, x = c :: cs ∧ isWord c = true := by
  have hchain : ∀ {cs}, IsChain cs → ∃ c rest, cs = c :: rest ∧ isWord c = true := by
    intro cs h
    cases cs with
    | nil => exact absurd rfl h.ne_nil
    | cons c rest => exact ⟨c, rest, rfl, h.1⟩
  cases h with
  | chain h => exact hchain h
  | indexed h =>
      obtain ⟨c, rest, rfl, hc⟩ := hchain h
      exact ⟨c, _, rfl, hc⟩

/-- What is recognised is a token whose text stands at the front. -/
theorem isToken_of_token? {sign : Char} {code : List Char} {token : Token} {n : Nat}
    (h : token? sign code = some (token, n)) :
    IsToken token ∧ n = (token.source sign).length ∧ ∃ rest, code = token.source sign ++ rest := by
  unfold token? at h
  split at h
  · cases h
  · rename_i c cs
    split at h
    · rename_i hq
      obtain ⟨m, hm, hp⟩ := Option.map_eq_some_iff.mp h
      cases hp
      obtain ⟨body, rest, rfl, rfl, hbody, hn⟩ := quotedRest?_eq_some hm
      have hquote : isQuote c = true := by simpa [isQuote, or_comm] using hq
      have hc : '\n' ≠ c := (ne_of_isQuote hquote rfl).symm
      have htake : (c :: (body ++ c :: rest)).take (body.length + 1 + 1) =
          c :: (body ++ [c]) := by simp [List.take_append]
      rw [htake]
      refine ⟨.quoted ⟨by simp [hc, hn], c, body, rfl, hquote, hbody⟩, ?_, rest, ?_⟩
      · simp [Token.source]
      · simp [Token.source]
    · dsimp only at h
      split at h
      · rename_i hx
        cases h
        simp only [Bool.and_eq_true, Bool.not_eq_true', List.isEmpty_eq_false_iff] at hx
        have hop := List.prefix_iff_eq_append.mp (operand_isPrefix (c :: cs))
        obtain ⟨rest, hr⟩ := List.isPrefixOf_iff_prefix.mp hx.2
        rw [← hr, ← List.append_assoc] at hop
        exact ⟨.step (isOperand_operand hx.1), by simp [Token.source], rest, hop.symm⟩
      · cases h

theorem token?_quoted {text : List Char} (h : IsQuotedLine text) (sign : Char)
    (rest : List Char) : token? sign (text ++ rest) = some (.quoted text, text.length) := by
  obtain ⟨hn, q, body, rfl, hq, hbody⟩ := h
  have hline : '\n' ∉ body := fun hm => hn (by simp [hm])
  have hcond : (q == '"' || q == '\'') = true := by
    simpa [isQuote, or_comm] using hq
  have hcode : q :: (body ++ [q]) ++ rest = q :: (body ++ q :: rest) := by simp
  rw [hcode, token?, if_pos hcond, quotedRest?_append hq hbody hline]
  simp [List.take_append]

theorem token?_step {sign : Char} (hs : IsSign sign) {x : List Char} (h : IsOperand x)
    (rest : List Char) :
    token? sign (x ++ sign :: sign :: rest) = some (.step x, x.length + 2) := by
  obtain ⟨c, cs, hx, hc⟩ := h.head
  -- an operand starts with a word, so it is not taken for a quoted text
  have hcond : ¬(c == '"' || c == '\'') = true := by
    simpa [isQuote, and_comm] using isQuote_of_isWord hc
  have hop : operand (c :: (cs ++ sign :: sign :: rest)) = x := by
    have := operand_append h (stopsOperand_sign hs (sign :: rest))
    rwa [hx, List.cons_append, ← hx] at this
  rw [hx, List.cons_append, token?, if_neg hcond]
  dsimp only
  rw [hop, hx, ← List.cons_append, List.drop_left]
  simp [List.isPrefixOf]

/-- A token is recognised exactly where its text stands. -/
theorem token?_eq_some_iff {sign : Char} (hs : IsSign sign) {code : List Char} {token : Token}
    {n : Nat} : token? sign code = some (token, n) ↔
      IsToken token ∧ n = (token.source sign).length ∧
        ∃ rest, code = token.source sign ++ rest := by
  refine ⟨isToken_of_token?, ?_⟩
  rintro ⟨htoken, rfl, rest, rfl⟩
  cases htoken with
  | quoted h => exact token?_quoted h sign rest
  | @step x h =>
      have hfound := token?_step hs h rest
      simpa [Token.source] using hfound

theorem IsToken.source_ne_nil {sign : Char} {token : Token} (h : IsToken token) :
    token.source sign ≠ [] := by
  cases h with
  | quoted h =>
      obtain ⟨-, q, body, rfl, -⟩ := h
      simp [Token.source]
  | step => simp [Token.source]

theorem IsToken.lineFeed_not_mem_source {sign : Char} (hs : IsSign sign) {token : Token}
    (h : IsToken token) : '\n' ∉ token.source sign := by
  cases h with
  | quoted h => exact h.1
  | step h =>
      have hsign : '\n' ≠ sign := by rcases hs with rfl | rfl <;> decide
      simp [Token.source, h.lineFeed_not_mem, hsign]

/-! ## Operators behind operands -/

/-- No token stands at the front. -/
def NoToken (sign : Char) (code : List Char) : Prop :=
  ∀ token rest, IsToken token → code ≠ token.source sign ++ rest

section

variable {sign : Char}

theorem token?_eq_none_iff (hs : IsSign sign) {code : List Char} :
    token? sign code = none ↔ NoToken sign code := by
  rw [Option.eq_none_iff_forall_ne_some]
  constructor
  · intro h token rest htoken hcode
    exact h _ ((token?_eq_some_iff hs).mpr ⟨htoken, rfl, rest, hcode⟩)
  · rintro h ⟨token, n⟩ hfound
    obtain ⟨htoken, -, rest, hcode⟩ := (token?_eq_some_iff hs).mp hfound
    exact h token rest htoken hcode

@[simp] theorem trailingSteps_nil : trailingSteps sign [] = [] := rfl

theorem trailingSteps_token (hs : IsSign sign) {token : Token} (h : IsToken token)
    (rest : List Char) :
    trailingSteps sign (token.source sign ++ rest) =
      token.text sign ++ trailingSteps sign rest := by
  have hfound : token? sign (token.source sign ++ rest) =
      some (token, (token.source sign).length) :=
    (token?_eq_some_iff hs).mpr ⟨h, rfl, rest, rfl⟩
  have hdrop : (token.source sign ++ rest).drop (token.source sign).length = rest := List.drop_left
  obtain ⟨c, cs, hc⟩ := List.exists_cons_of_ne_nil
    (List.append_ne_nil_of_left_ne_nil h.source_ne_nil rest : token.source sign ++ rest ≠ [])
  rw [hc] at hfound hdrop
  rw [hc, trailingSteps, cutTokens, cut_ahead_found hfound (token?_eq_some hfound).1, hdrop,
    paste_cons]
  simp [paste, trailingSteps, cutTokens]

theorem trailingSteps_keep (hs : IsSign sign) {c : Char} {cs : List Char}
    (h : NoToken sign (c :: cs)) : trailingSteps sign (c :: cs) = c :: trailingSteps sign cs := by
  rw [trailingSteps, cutTokens, cut_ahead_keep ((token?_eq_none_iff hs).mpr h), paste_cons]
  rfl

/-- Induction along the scan: a token at the front, or a character at which none stands. -/
theorem token_induction (hs : IsSign sign) {motive : List Char → Prop} (nil : motive [])
    (token : ∀ token rest, IsToken token → motive rest → motive (token.source sign ++ rest))
    (keep : ∀ c cs, NoToken sign (c :: cs) → motive cs → motive (c :: cs)) (code : List Char) :
    motive code := by
  refine ahead_induction (token? sign) (fun h => (token?_eq_some h).1) nil
    (fun c cs piece n h ih => ?_) (fun c cs h ih => keep c cs ((token?_eq_none_iff hs).mp h) ih)
    code
  obtain ⟨htoken, rfl, rest, hcode⟩ := (token?_eq_some_iff hs).mp h
  rw [hcode, List.drop_left] at ih
  rw [hcode]
  exact token piece rest htoken ih

/-! ## Operators before operands -/

/-- A line with only an increment: its margin, the sign twice, the operand and blanks. -/
theorem leadingStep?_eq_some_iff (hs : IsSign sign) {line edited : List Char} :
    leadingStep? sign line = some edited ↔
      ∃ margin x blanks, line = margin ++ sign :: sign :: (x ++ blanks) ∧ IsOperand x ∧
        margin.all isSpaceOrTab = true ∧ blanks.all isSpaceOrTab = true ∧
        edited = margin ++ x ++ stepText sign := by
  constructor
  · intro h
    obtain ⟨rest, hr, h⟩ := Option.bind_eq_some_iff.mp h
    have hmargin : line.takeWhile isSpaceOrTab ++ line.drop (line.takeWhile isSpaceOrTab).length =
        line := List.prefix_iff_eq_append.mp (List.takeWhile_prefix _)
    rw [after?_eq_some_iff.mp hr] at hmargin
    have hop := List.prefix_iff_eq_append.mp (operand_isPrefix rest)
    dsimp only at h
    split at h
    · cases h
    · rename_i hne
      split at h
      · rename_i hb
        cases h
        refine ⟨_, operand rest, rest.drop (operand rest).length, ?_,
          isOperand_operand (by simpa using hne), List.all_takeWhile, hb, rfl⟩
        rw [hop]
        exact hmargin.symm
      · cases h
  · rintro ⟨margin, x, blanks, rfl, hx, hm, hb, rfl⟩
    -- the margin ends at the sign, and the operand at the blanks behind it
    have hsign : isSpaceOrTab sign = false := by rcases hs with rfl | rfl <;> rfl
    have htake : (margin ++ sign :: sign :: (x ++ blanks)).takeWhile isSpaceOrTab = margin := by
      rw [List.takeWhile_append_of_pos (List.all_eq_true.mp hm),
        List.takeWhile_cons_of_neg (by rw [hsign]; decide), List.append_nil]
    have hstop : stopsOperand blanks = true := by
      cases blanks with
      | nil => rfl
      | cons c cs =>
          have hc : isSpaceOrTab c = true := (Bool.and_eq_true_iff.mp hb).1
          rcases (by simpa [isSpaceOrTab] using hc : c = ' ' ∨ c = '\t') with rfl | rfl <;> rfl
    have hafter : after? [sign, sign] (sign :: sign :: (x ++ blanks)) = some (x ++ blanks) :=
      after?_append [sign, sign] _
    have hne := hx.ne_nil
    simp only [leadingStep?, htake, List.drop_left, hafter, Option.bind_eq_bind, Option.bind_some,
      operand_append hx hstop, hb]
    simp [hne]

/-- A single line is edited as a whole. -/
theorem leadingSteps_line {line : List Char} (h : '\n' ∉ line) :
    leadingSteps sign line = (leadingStep? sign line).getD line := by
  rw [leadingSteps, splitLines, splitOn_of_not_mem h]
  rfl

/-! ## Line by line -/

theorem noToken_append_lineFeed (hs : IsSign sign) {code : List Char} (h : NoToken sign code)
    (rest : List Char) : NoToken sign (code ++ '\n' :: rest) := by
  intro token behind htoken hcode
  rcases List.append_eq_append_iff.mp hcode with ⟨front, hsource, hrest⟩ | ⟨front, rfl, -⟩
  · -- the token would go over the line feed, or end right before it
    cases front with
    | nil =>
        rw [List.append_nil] at hsource
        exact h token [] htoken (by rw [hsource, List.append_nil])
    | cons c cs =>
        refine htoken.lineFeed_not_mem_source hs ?_
        rw [hsource, (List.cons.inj hrest).1]
        simp
  · exact h token front htoken rfl

theorem trailingSteps_lineFeed (hs : IsSign sign) (code rest : List Char) :
    trailingSteps sign (code ++ '\n' :: rest) =
      trailingSteps sign code ++ '\n' :: trailingSteps sign rest := by
  induction code using token_induction hs with
  | nil =>
      refine trailingSteps_keep hs fun token behind htoken hcode => ?_
      have hne : token.source sign ≠ [] := htoken.source_ne_nil
      obtain ⟨c, cs, hc⟩ := List.exists_cons_of_ne_nil hne
      rw [hc] at hcode
      refine htoken.lineFeed_not_mem_source hs ?_
      rw [hc, (List.cons.inj hcode).1]
      exact List.mem_cons_self
  | token token code h ih =>
      rw [List.append_assoc, trailingSteps_token hs h, trailingSteps_token hs h, ih,
        List.append_assoc]
  | keep c cs h ih =>
      have hkeep := noToken_append_lineFeed hs h rest
      rw [List.cons_append] at hkeep ⊢
      rw [trailingSteps_keep hs hkeep, trailingSteps_keep hs h, ih]
      rfl

theorem lineFeed_not_mem_trailingSteps (hs : IsSign sign) {code : List Char} (hn : '\n' ∉ code) :
    '\n' ∉ trailingSteps sign code := by
  induction code using token_induction hs with
  | nil => exact hn
  | token token rest h ih =>
      rw [trailingSteps_token hs h]
      simp only [List.mem_append, not_or] at hn ⊢
      refine ⟨?_, ih hn.2⟩
      cases token with
      | quoted text => exact hn.1
      | step x =>
          have hstep : '\n' ∉ stepText sign := by rcases hs with rfl | rfl <;> decide
          simp only [Token.source, Token.text, List.mem_append, not_or] at hn ⊢
          exact ⟨hn.1.1, hstep⟩
  | keep c cs h ih =>
      rw [trailingSteps_keep hs h]
      simp only [List.mem_cons, not_or] at hn ⊢
      exact ⟨hn.1, ih hn.2⟩

theorem lineFeed_not_mem_leadingSteps (hs : IsSign sign) {line : List Char} (hn : '\n' ∉ line) :
    '\n' ∉ leadingSteps sign line := by
  rw [leadingSteps_line hn]
  cases he : leadingStep? sign line with
  | none => exact hn
  | some edited =>
      obtain ⟨margin, x, blanks, rfl, -, -, -, rfl⟩ := (leadingStep?_eq_some_iff hs).mp he
      have hstep : '\n' ∉ stepText sign := by rcases hs with rfl | rfl <;> decide
      simp only [Option.getD_some, List.mem_append, List.mem_cons, not_or] at hn ⊢
      exact ⟨⟨hn.1, hn.2.2.2.1⟩, hstep⟩

theorem leadingSteps_lineFeed (code rest : List Char) :
    leadingSteps sign (code ++ '\n' :: rest) =
      leadingSteps sign code ++ '\n' :: leadingSteps sign rest := by
  simp only [leadingSteps, splitLines, splitOn_append]
  rw [List.map_append, joinWith_append]
  · rw [List.append_assoc]
    rfl
  · simpa using splitOn_ne_nil '\n' code
  · simpa using splitOn_ne_nil '\n' rest

end

/-- Increments are written out line by line. -/
theorem increments_lineFeed (code rest : List Char) :
    increments (code ++ '\n' :: rest) = increments code ++ '\n' :: increments rest := by
  simp only [increments, trailingSteps_lineFeed (.inl rfl), trailingSteps_lineFeed (.inr rfl),
    leadingSteps_lineFeed]

theorem increments_joinWith (lines : List (List Char)) :
    increments (joinWith ['\n'] lines) = joinWith ['\n'] (lines.map increments) := by
  fun_induction joinWith ['\n'] lines with
  | case1 => rfl
  | case2 line => rfl
  | case3 line lines hne ih =>
      rw [List.append_assoc, List.singleton_append, increments_lineFeed, ih, List.map_cons,
        joinWith_cons _ _ (by simpa using fun h => hne h)]
      simp

end EstreeEmitter.Passes
