set_option autoImplicit false

/-! # Scanners for parentheses and quotes

Three questions about a line of code are answered by one kind of scan: where an opened parenthesis
closes, where a sum is divided into its top-level operands, and whether one pair of parentheses
holds a whole text. Quoted text is passed over, with a backslash hiding the character behind it. -/

namespace EstreeEmitter.Passes

/-- A single or a double quote. -/
def isQuote (c : Char) : Bool := c == '\'' || c == '"'

/-! ## Closing parentheses -/

/-- The offset of the parenthesis that closes one opened before the text, with `depth` more opened
since, on the same line. `quote` is the quote that the scan is inside of. -/
def closingFrom : Nat → Option Char → List Char → Option Nat
  | _, _, [] => none
  | depth, some q, c :: cs =>
    if c == '\n' then none
    else if c == '\\' then
      match cs with
      | [] => none
      | _ :: rest => (closingFrom depth (some q) rest).map (· + 2)
    else if c == q then (closingFrom depth none cs).map (· + 1)
    else (closingFrom depth (some q) cs).map (· + 1)
  | depth, none, c :: cs =>
    if c == '\n' then none
    else if isQuote c then (closingFrom depth (some c) cs).map (· + 1)
    else if c == '(' then (closingFrom (depth + 1) none cs).map (· + 1)
    else if c == ')' then
      match depth with
      | 0 => some 0
      | depth + 1 => (closingFrom depth none cs).map (· + 1)
    else (closingFrom depth none cs).map (· + 1)

/-- The offset of the parenthesis that closes one opened just before the text. -/
def closingOffset? (cs : List Char) : Option Nat := closingFrom 0 none cs

/-- The index of the parenthesis that closes one opened just before index `start`. -/
def closingParen? (code : List Char) (start : Nat) : Option Nat :=
  (closingOffset? (code.drop start)).map (start + ·)

/-- A start that lies further back than the text is long. -/
structure BeforeText where

/-- The index of the parenthesis that closes one opened just before `start`. A negative index counts
from the end of the text; a scan from there goes on at the beginning of the text. -/
def closingIndex (code : List Char) (start : Int) : Except BeforeText (Option Int) :=
  match start with
  | .ofNat n => .ok ((closingParen? code n).map Int.ofNat)
  | .negSucc n =>
    if code.length ≤ n then .error ⟨⟩
    else .ok ((closingOffset? (code.drop (code.length - (n + 1)) ++ code)).map (start + ·))

/-! ## Operands of a sum -/

/-- A character put in front of the first part. -/
def consFirst (c : Char) : List (List Char) → List (List Char)
  | [] => [[c]]
  | part :: parts => (c :: part) :: parts

/-- The parts between the plus signs of a sum, from inside `depth` brackets and the quote
`quote`. -/
def splitFrom : Int → Option Char → List Char → List (List Char)
  | _, _, [] => [[]]
  | depth, some q, c :: cs =>
    if c == '\\' then
      match cs with
      | [] => [[c]]
      | e :: rest => consFirst c (consFirst e (splitFrom depth (some q) rest))
    else if c == q then consFirst c (splitFrom depth none cs)
    else consFirst c (splitFrom depth (some q) cs)
  | depth, none, c :: cs =>
    if isQuote c then consFirst c (splitFrom depth (some c) cs)
    else if c == '(' || c == '[' then consFirst c (splitFrom (depth + 1) none cs)
    else if c == ')' || c == ']' then consFirst c (splitFrom (depth - 1) none cs)
    else if depth == 0 && c == ' ' then
      match cs with
      | '+' :: ' ' :: rest => [] :: splitFrom depth none rest
      | cs => consFirst c (splitFrom depth none cs)
    else consFirst c (splitFrom depth none cs)

/-- The parts of a text between the plus signs, with a space on either side, that stand outside
parentheses, brackets and quoted text. -/
def splitTopLevel (cs : List Char) : List (List Char) := splitFrom 0 none cs

/-! ## Enclosing parentheses -/

/-- No parenthesis but the last character closes the first one. -/
def staysOpen : Nat → Option Char → List Char → Bool
  | _, _, [] => true
  | depth, some q, c :: cs =>
    if c == '\\' then
      match cs with
      | [] => true
      | _ :: rest => staysOpen depth (some q) rest
    else if c == q then staysOpen depth none cs
    else staysOpen depth (some q) cs
  | depth, none, c :: cs =>
    if isQuote c then staysOpen depth (some c) cs
    else if c == '(' then staysOpen (depth + 1) none cs
    else if c == ')' then
      if depth == 1 && !cs.isEmpty then false else staysOpen (depth - 1) none cs
    else staysOpen depth none cs

/-- The text inside the parentheses that hold the whole text. -/
def unwrap? (cs : List Char) : Option (List Char) :=
  match cs with
  | '(' :: inner =>
    if cs.getLast? == some ')' && staysOpen 0 none cs then some inner.dropLast else none
  | _ => none

/-! ## Lengths -/

theorem length_le_of_mem_consFirst {c : Char} {n : Nat} {parts : List (List Char)}
    (h : ∀ part ∈ parts, part.length ≤ n) : ∀ part ∈ consFirst c parts, part.length ≤ n + 1 := by
  intro part hp
  cases parts with
  | nil => simp [consFirst] at hp; simp [hp]
  | cons p ps =>
    simp only [consFirst, List.mem_cons] at hp
    rcases hp with rfl | hp
    · have := h p (by simp)
      simp only [List.length_cons]
      omega
    · have := h part (by simp [hp])
      omega

/-- No part is longer than the text. -/
theorem length_le_of_mem_splitFrom (depth : Int) (quote : Option Char) (cs : List Char) :
    ∀ part ∈ splitFrom depth quote cs, part.length ≤ cs.length := by
  fun_induction splitFrom depth quote cs with
  | case1 => simp
  | case2 => simp
  | case3 depth q c hc e rest ih =>
    simpa using length_le_of_mem_consFirst (length_le_of_mem_consFirst ih)
  | case4 | case5 | case6 | case7 | case8 | case10 | case11 =>
    rename_i ih
    simpa using length_le_of_mem_consFirst ih
  | case9 =>
    rename_i ih
    intro part hp
    simp only [List.mem_cons] at hp
    rcases hp with rfl | hp
    · simp
    · have := ih part hp
      simp only [List.length_cons]
      omega

/-- The text inside parentheses is shorter than the whole. -/
theorem length_lt_of_unwrap? {cs inner : List Char} (h : unwrap? cs = some inner) :
    inner.length < cs.length := by
  unfold unwrap? at h
  split at h
  · split at h
    · simp only [Option.some.injEq] at h
      subst h
      simp only [List.length_dropLast, List.length_cons]
      omega
    · simp at h
  · simp at h

end EstreeEmitter.Passes
