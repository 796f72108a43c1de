import EstreeEmitter.Proofs.Passes.Balanced

set_option autoImplicit false

/-! # Where an opened parenthesis closes

The scan for a closing parenthesis keeps a depth and a quote, and a grammar has neither. Text that
the scan has passed over from some depth is balanced text with a closing parenthesis for each level
between (`LeadsOut`), with the rest of a literal in front when the scan started inside one
(`Passed`). At depth zero that is a balanced text, so the scan finds the one parenthesis behind a
balanced text (`closingOffset?_eq_some_iff`). -/

namespace EstreeEmitter.Passes

/-! ## What the scan passes over -/

/-- The text closes `depth` parentheses that were opened before it, and is balanced apart from
that. -/
inductive LeadsOut : Nat → List Char → Prop where
  | balanced {cs : List Char} (h : Balanced cs) : LeadsOut 0 cs
  | close {depth : Nat} {cs rest : List Char} (h : Balanced cs) (h' : LeadsOut depth rest) :
    LeadsOut (depth + 1) (cs ++ ')' :: rest)

/-- Balanced text in front closes nothing that was opened before it. -/
theorem LeadsOut.append_left {depth : Nat} {front cs : List Char} (hf : Balanced front)
    (h : LeadsOut depth cs) : LeadsOut depth (front ++ cs) := by
  cases h with
  | balanced h => exact .balanced (hf.append h)
  | close h h' =>
      rw [← List.append_assoc]
      exact .close (hf.append h) h'

/-- A parenthesis opened in front is one more that the text closes. -/
theorem LeadsOut.open {depth : Nat} {cs : List Char} (h : LeadsOut (depth + 1) cs) :
    LeadsOut depth ('(' :: cs) := by
  cases h with
  | @close _ inner rest h h' =>
      have hgroup : '(' :: (inner ++ ')' :: rest) = '(' :: (inner ++ [')']) ++ rest := by simp
      rw [hgroup]
      exact h'.append_left h.parenthesized

/-- The scan passes over the text from `depth` parentheses deep, outside of literals or inside one
with this quote. -/
def Passed (depth : Nat) : Option Char → List Char → Prop
  | none, cs => LeadsOut depth cs
  | some q, cs => ∃ body rest, cs = body ++ q :: rest ∧ QuotedBody q body ∧ LeadsOut depth rest

/-- A quote opens a literal that ends in the text passed over. -/
theorem Passed.open {depth : Nat} {q : Char} {cs : List Char} (hq : isQuote q = true)
    (h : Passed depth (some q) cs) : Passed depth none (q :: cs) := by
  obtain ⟨body, rest, rfl, hbody, hrest⟩ := h
  have htext : q :: (body ++ q :: rest) = q :: (body ++ [q]) ++ rest := by simp
  show LeadsOut depth (q :: (body ++ q :: rest))
  rw [htext]
  exact hrest.append_left (hbody.balanced hq)

/-- A literal goes on with a character that is not special in it. -/
theorem Passed.char {depth : Nat} {q c : Char} {cs : List Char} (hq : c ≠ q) (hb : c ≠ '\\')
    (hn : c ≠ '\n') (h : Passed depth (some q) cs) : Passed depth (some q) (c :: cs) := by
  obtain ⟨body, rest, rfl, hbody, hrest⟩ := h
  exact ⟨c :: body, rest, rfl, .char hq hb hn hbody, hrest⟩

/-- A literal goes on with a hidden character. -/
theorem Passed.escape {depth : Nat} {q c : Char} {cs : List Char}
    (h : Passed depth (some q) cs) : Passed depth (some q) ('\\' :: c :: cs) := by
  obtain ⟨body, rest, rfl, hbody, hrest⟩ := h
  exact ⟨'\\' :: c :: body, rest, rfl, .escape hbody, hrest⟩

/-- The text at index `n` is a closing parenthesis, and the scan passes over all before it. -/
def EndsAt (depth : Nat) (quote : Option Char) (cs : List Char) (n : Nat) : Prop :=
  ∃ before rest, cs = before ++ ')' :: rest ∧ before.length = n ∧ Passed depth quote before

/-- A character in front moves the end by one. -/
theorem EndsAt.cons {depth depth' : Nat} {quote quote' : Option Char} {c : Char} {cs : List Char}
    {n : Nat} (h : EndsAt depth' quote' cs n)
    (hc : ∀ before, Passed depth' quote' before → Passed depth quote (c :: before)) :
    EndsAt depth quote (c :: cs) (n + 1) := by
  obtain ⟨before, rest, rfl, rfl, hb⟩ := h
  exact ⟨c :: before, rest, rfl, rfl, hc before hb⟩

/-- The scan ends at a closing parenthesis, behind text that it passes over. -/
theorem endsAt_of_closingFrom {depth : Nat} {quote : Option Char} {cs : List Char} {n : Nat}
    (h : closingFrom depth quote cs = some n) : EndsAt depth quote cs n := by
  fun_induction closingFrom depth quote cs generalizing n with
  | case1 | case2 | case3 | case7 => cases h
  | case4 depth q c hn hb d rest ih =>
      obtain ⟨m, hm, rfl⟩ := Option.map_eq_some_iff.mp h
      obtain ⟨before, rest', rfl, rfl, hp⟩ := ih hm
      rw [eq_of_beq hb]
      exact ⟨'\\' :: d :: before, rest', rfl, rfl, hp.escape⟩
  | case5 depth q c cs hn hb hq ih =>
      obtain ⟨m, hm, rfl⟩ := Option.map_eq_some_iff.mp h
      rw [eq_of_beq hq]
      exact (ih hm).cons fun before hp => ⟨[], before, rfl, .nil, hp⟩
  | case6 depth q c cs hn hb hq ih =>
      obtain ⟨m, hm, rfl⟩ := Option.map_eq_some_iff.mp h
      exact (ih hm).cons fun before hp =>
        hp.char (by simpa using hq) (by simpa using hb) (by simpa using hn)
  | case8 depth c cs hn hq ih =>
      obtain ⟨m, hm, rfl⟩ := Option.map_eq_some_iff.mp h
      exact (ih hm).cons fun before hp => hp.open hq
  | case9 depth c cs hn hq ho ih =>
      obtain ⟨m, hm, rfl⟩ := Option.map_eq_some_iff.mp h
      rw [eq_of_beq ho]
      exact (ih hm).cons fun before hp => LeadsOut.open hp
  | case10 c cs hn hq ho hc =>
      cases h
      rw [eq_of_beq hc]
      exact ⟨[], cs, rfl, rfl, .balanced .nil⟩
  | case11 c cs hn hq ho hc depth ih =>
      obtain ⟨m, hm, rfl⟩ := Option.map_eq_some_iff.mp h
      rw [eq_of_beq hc]
      exact (ih hm).cons fun before hp => .close .nil hp
  | case12 depth c cs hn hq ho hc ih =>
      obtain ⟨m, hm, rfl⟩ := Option.map_eq_some_iff.mp h
      have hord : isOrdinary c = true :=
        isOrdinary_iff.mpr
          ⟨by simpa using hq, by simpa using ho, by simpa using hc, by simpa using hn⟩
      exact (ih hm).cons fun before hp => hp.append_left (.char hord .nil)

/-! ## The grammar decides -/

/-- The scan ends at the parenthesis behind a balanced text, and only there. -/
theorem closingOffset?_eq_some_iff {cs : List Char} {n : Nat} :
    closingOffset? cs = some n ↔
      ∃ before rest, cs = before ++ ')' :: rest ∧ before.length = n ∧ Balanced before := by
  constructor
  · intro h
    obtain ⟨before, rest, hcs, hn, hp⟩ := endsAt_of_closingFrom h
    cases hp with
    | balanced hb => exact ⟨before, rest, hcs, hn, hb⟩
  · rintro ⟨before, rest, rfl, rfl, hb⟩
    simpa [closingParen?] using closingParen?_of_balanced hb rest

/-- An index behind `start` holds a closing parenthesis, and the text between is balanced. -/
def ClosesAt (code : List Char) (start i : Nat) : Prop :=
  start ≤ i ∧ code[i]? = some ')' ∧ Balanced ((code.take i).drop start)

theorem closesAt_iff {code : List Char} {start i : Nat} :
    ClosesAt code start i ↔ ∃ before rest,
      code.drop start = before ++ ')' :: rest ∧ start + before.length = i ∧ Balanced before := by
  constructor
  · rintro ⟨hle, hc, hb⟩
    obtain ⟨hlt, hget⟩ := List.getElem?_eq_some_iff.mp hc
    refine ⟨(code.take i).drop start, code.drop (i + 1), ?_, ?_, hb⟩
    · -- the code is what stands before the index, the parenthesis, and the rest
      have hsplit : code = code.take i ++ ')' :: code.drop (i + 1) := by
        rw [← hget, ← List.drop_eq_getElem_cons hlt, List.take_append_drop]
      have hlen : start ≤ (code.take i).length := by rw [List.length_take]; omega
      calc code.drop start = (code.take i ++ ')' :: code.drop (i + 1)).drop start := by
            rw [← hsplit]
        _ = (code.take i).drop start ++ ')' :: code.drop (i + 1) :=
            List.drop_append_of_le_length hlen
    · rw [List.length_drop, List.length_take]
      omega
  · rintro ⟨before, rest, hd, rfl, hb⟩
    refine ⟨Nat.le_add_right start _, ?_, ?_⟩
    · rw [← List.getElem?_drop, hd]
      simp
    · rw [List.drop_take, hd]
      simpa using hb

theorem closingParen?_eq_some_iff {code : List Char} {start i : Nat} :
    closingParen? code start = some i ↔ ClosesAt code start i := by
  rw [closesAt_iff, closingParen?, Option.map_eq_some_iff]
  constructor
  · rintro ⟨n, hn, rfl⟩
    obtain ⟨before, rest, hd, rfl, hb⟩ := closingOffset?_eq_some_iff.mp hn
    exact ⟨before, rest, hd, rfl, hb⟩
  · rintro ⟨before, rest, hd, rfl, hb⟩
    exact ⟨before.length, closingOffset?_eq_some_iff.mpr ⟨before, rest, hd, rfl, hb⟩, rfl⟩

/-- **The scan finds exactly the end of a balanced argument.** From any start, it answers an index
if and only if a closing parenthesis stands there and the text from the start to it is balanced, and
it answers nothing if and only if there is no such index. -/
theorem closingParen?_iff_balanced (code : List Char) (start : Nat) :
    (∀ i, closingParen? code start = some i ↔
      start ≤ i ∧ code[i]? = some ')' ∧ Balanced ((code.take i).drop start)) ∧
    (closingParen? code start = none ↔
      ¬∃ i, start ≤ i ∧ code[i]? = some ')' ∧ Balanced ((code.take i).drop start)) := by
  refine ⟨fun i => closingParen?_eq_some_iff, ?_⟩
  rw [Option.eq_none_iff_forall_ne_some, not_exists]
  exact forall_congr' fun i => not_congr closingParen?_eq_some_iff

example : closingParen? "f(g(')')) + 1)".toList 2 = some 8 := by decide +kernel

-- a literal that ends in a backslash hides what is behind the text
example : closingParen? "f(\"a\\".toList 2 = none := by decide +kernel

end EstreeEmitter.Passes
