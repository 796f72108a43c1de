import EstreeEmitter.Proofs.Passes.Weight
import Mathlib.Tactic.IntervalCases

set_option autoImplicit false

/-! # Floor calls edited all at once

Floor calls are edited one after the other from right to left, so the scan for the end of a call
reads text that was edited before. It makes no difference: `floorAtOnce` takes all calls and their
ends from the text as it was, and gives the same (`floorCalls_eq_floorAtOnce`).

The proof keeps every character of the original text in a cell, together with what the edits so far
did to it. Edits take away `Math.floor` in front of a parenthesis and put `.floor` behind one, and
the scan passes over such text in every state that it can be in. -/

namespace EstreeEmitter.Passes

open Text

/-! ## The edit at once -/

/-- The index of the parenthesis that closes the floor call at an index; `none` if no floor call
starts there or it does not close on its line. -/
def floorClose? (code : List Char) (p : Nat) : Option Nat :=
  if floorHead.isPrefixOf (code.drop p) then closingParen? code (p + floorHead.length) else none

/-- The character at an index belongs to the name `Math.floor` of a call that closes. -/
def isFloorName (code : List Char) (i : Nat) : Bool :=
  (List.range code.length).any fun p =>
    p ≤ i && i < p + (floorHead.length - 1) && (floorClose? code p).isSome

/-- The number of floor calls that close at an index. -/
def floorsClosing (code : List Char) (i : Nat) : Nat :=
  (List.range code.length).countP fun p => floorClose? code p == some i

/-- The method call that stands for a floor call. -/
def floorMethod : List Char := ".floor".toList

/-- The text without the names of the floor calls that close, and with a method call behind a
parenthesis for every floor call that it closes. -/
def floorAtOnce (code : List Char) : List Char :=
  code.zipIdx.flatMap fun (c, i) =>
    (if isFloorName code i then [] else [c]) ++
      (List.replicate (floorsClosing code i) floorMethod).flatten

/-! ## One step of the scan -/

/-- What the scan for a closing parenthesis does at a character. -/
inductive ScanStep where
  /-- The line ends. -/
  | stop
  /-- The parenthesis is found. -/
  | close
  /-- The next character is hidden. -/
  | hide
  /-- The scan goes on. -/
  | next (depth : Nat) (quote : Option Char)

/-- One step of the scan. -/
def scanStep (depth : Nat) (quote : Option Char) (c : Char) : ScanStep :=
  if c == '\n' then .stop
  else
    match quote with
    | some q => if c == '\\' then .hide else if c == q then .next depth none else .next depth quote
    | none =>
      if isQuote c then .next depth (some c)
      else if c == '(' then .next (depth + 1) none
      else if c == ')' then
        match depth with
        | 0 => .close
        | depth + 1 => .next depth none
      else .next depth none

theorem closingFrom_cons (depth : Nat) (quote : Option Char) (c : Char) (cs : List Char) :
    closingFrom depth quote (c :: cs) =
      match scanStep depth quote c with
      | .stop => none
      | .close => some 0
      | .hide => (closingFrom depth quote (cs.drop 1)).map (· + 2)
      | .next depth' quote' => (closingFrom depth' quote' cs).map (· + 1) := by
  unfold scanStep
  by_cases hn : (c == '\n') = true
  · cases quote <;> cases cs <;> simp [closingFrom, hn]
  · cases quote with
    | some q =>
        by_cases hb : (c == '\\') = true
        · cases cs <;> simp [closingFrom, hn, hb]
        · by_cases hq : (c == q) = true <;> cases cs <;> simp [closingFrom, hn, hb, hq]
    | none =>
        by_cases hq : isQuote c = true
        · simp [closingFrom, hn, hq]
        · by_cases ho : (c == '(') = true
          · simp [closingFrom, hn, hq, ho]
          · by_cases hc : (c == ')') = true
            · cases depth <;> simp [closingFrom, hn, hq, ho, hc]
            · simp [closingFrom, hn, hq, ho, hc]

theorem closingFrom_of_next {depth depth' : Nat} {quote quote' : Option Char} {c : Char}
    (h : scanStep depth quote c = .next depth' quote') (cs : List Char) :
    closingFrom depth quote (c :: cs) = (closingFrom depth' quote' cs).map (· + 1) := by
  rw [closingFrom_cons, h]

/-- The scan is in no quote, or in one that a quote opened. -/
def InQuote (quote : Option Char) : Prop := ∀ q, quote = some q → isQuote q = true

theorem inQuote_none : InQuote none := nofun

theorem InQuote.next {depth depth' : Nat} {quote quote' : Option Char} {c : Char}
    (h : InQuote quote) (hs : scanStep depth quote c = .next depth' quote') : InQuote quote' := by
  unfold scanStep at hs
  split at hs
  · cases hs
  · cases quote with
    | some q =>
        dsimp only at hs
        split at hs
        · cases hs
        · split at hs
          · cases hs
            exact inQuote_none
          · cases hs
            exact h
    | none =>
        dsimp only at hs
        split at hs
        · rename_i hq
          cases hs
          rintro q hq'
          cases hq'
          exact hq
        · split at hs
          · cases hs
            exact inQuote_none
          · split at hs
            · split at hs
              · cases hs
              · cases hs
                exact inQuote_none
            · cases hs
              exact inQuote_none

/-- Only a backslash in quotes hides a character. -/
theorem eq_of_scanStep_hide {depth : Nat} {quote : Option Char} {c : Char}
    (h : scanStep depth quote c = .hide) : c = '\\' ∧ ∃ q, quote = some q := by
  unfold scanStep at h
  repeat' split at h
  all_goals cases h
  exact ⟨eq_of_beq ‹_›, _, rfl⟩

/-- A character that the scan passes over in every state. -/
def isPassed (c : Char) : Bool :=
  !(c == '\n' || c == '\\' || isQuote c || c == '(' || c == ')')

theorem scanStep_of_isPassed {c : Char} (hc : isPassed c = true) {quote : Option Char}
    (hq : InQuote quote) (depth : Nat) : scanStep depth quote c = .next depth quote := by
  simp only [isPassed, Bool.not_eq_true', Bool.or_eq_false_iff] at hc
  obtain ⟨⟨⟨⟨hn, hb⟩, hquote⟩, ho⟩, hp⟩ := hc
  cases quote with
  | none => simp [scanStep, hn, hquote, ho, hp]
  | some q =>
      have hne : (c == q) = false := by
        by_contra h
        have hcq : c = q := by simpa using h
        rw [hcq, hq q rfl] at hquote
        cases hquote
      simp [scanStep, hn, hb, hne]

/-- The scan passes over a text. -/
theorem closingFrom_passed {text : List Char} (ht : text.all isPassed = true)
    {quote : Option Char} (hq : InQuote quote) (depth : Nat) (cs : List Char) :
    closingFrom depth quote (text ++ cs) =
      (closingFrom depth quote cs).map (· + text.length) := by
  induction text with
  | nil => simp
  | cons c text ih =>
      obtain ⟨hc, ht⟩ := Bool.and_eq_true_iff.mp ht
      rw [List.cons_append, closingFrom_of_next (scanStep_of_isPassed hc hq depth), ih ht]
      simp [Function.comp_def, Nat.add_assoc]

/-- Inside quotes the scan passes over parentheses too. -/
theorem closingFrom_quoted_paren {q c : Char} (hq : isQuote q = true) (hc : c = '(' ∨ c = ')')
    (depth : Nat) (cs : List Char) :
    closingFrom depth (some q) (c :: cs) = (closingFrom depth (some q) cs).map (· + 1) := by
  have hs : scanStep depth (some q) c = .next depth (some q) := by
    rcases (by simpa [isQuote] using hq : q = '\'' ∨ q = '"') with rfl | rfl <;>
      rcases hc with rfl | rfl <;> rfl
  exact closingFrom_of_next hs cs

/-! ## Cells -/

/-- A character of the original text, whether it is still there, and the number of method calls that
were put behind it. -/
structure Cell where
  char : Char
  kept : Bool
  calls : Nat

namespace Cell

/-- A character that was not edited. -/
def plain (c : Char) : Cell := ⟨c, true, 0⟩

/-- A character that was taken away. -/
def gone (c : Char) : Cell := ⟨c, false, 0⟩

/-- The cell with one more method call behind it. -/
def addCall (x : Cell) : Cell := { x with calls := x.calls + 1 }

/-- The method calls behind a cell's character. -/
def methods (x : Cell) : List Char := (List.replicate x.calls floorMethod).flatten

/-- What stands in the edited text for a cell. -/
def text (x : Cell) : List Char := (if x.kept then [x.char] else []) ++ x.methods

/-- The cells of the name of a floor call that was edited. -/
def goneName : List Cell := floorHead.dropLast.map gone

end Cell

/-- The edited text of cells. -/
def cellsText (cells : List Cell) : List Char := cells.flatMap Cell.text

/-- The place in the edited text of the cell at an index. -/
def place (cells : List Cell) (i : Nat) : Nat := (cellsText (cells.take i)).length

/-- The cells come from edits of floor calls: what is gone are names in front of an opening
parenthesis, and method calls stand behind closing ones. -/
inductive Edited : List Cell → Prop where
  | nil : Edited []
  | plain {cells : List Cell} (c : Char) (h : Edited cells) : Edited (.plain c :: cells)
  | close {cells : List Cell} (calls : Nat) (h : Edited cells) :
    Edited (⟨')', true, calls⟩ :: cells)
  | name {cells : List Cell} (h : Edited cells) : Edited (Cell.goneName ++ .plain '(' :: cells)

theorem cellsText_cons (x : Cell) (cells : List Cell) :
    cellsText (x :: cells) = x.text ++ cellsText cells := rfl

theorem cellsText_append (cells cells' : List Cell) :
    cellsText (cells ++ cells') = cellsText cells ++ cellsText cells' := List.flatMap_append

theorem cellsText_goneName (cells : List Cell) :
    cellsText (Cell.goneName ++ cells) = cellsText cells := rfl

theorem place_succ (x : Cell) (cells : List Cell) (i : Nat) :
    place (x :: cells) (i + 1) = x.text.length + place cells i := by
  rw [place, List.take_succ_cons, cellsText_cons, List.length_append]
  rfl

theorem Cell.all_isPassed_methods (x : Cell) : x.methods.all isPassed = true := by
  have hm : floorMethod.all isPassed = true := by decide
  rw [Cell.methods, List.all_flatten, List.all_eq_true]
  intro text ht
  rw [List.eq_of_mem_replicate ht]
  exact hm

/-- The scan of the edited text ends at the place of the cell where that of the original text ends,
also inside quotes behind a hidden character. -/
structure ScansAlike (cells : List Cell) : Prop where
  scan : ∀ depth {quote}, InQuote quote → closingFrom depth quote (cellsText cells) =
    (closingFrom depth quote (cells.map Cell.char)).map (place cells)
  hidden : ∀ depth {q}, isQuote q = true →
    (closingFrom depth (some q) ((cellsText cells).drop 1)).map (· + 1) =
      (closingFrom depth (some q) ((cells.map Cell.char).drop 1)).map fun i => place cells (i + 1)

theorem inQuote_some {q : Char} (h : isQuote q = true) : InQuote (some q) := by
  rintro _ ⟨⟩
  exact h

theorem ScansAlike.plain {cells : List Cell} (h : ScansAlike cells) (c : Char) :
    ScansAlike (.plain c :: cells) := by
  have htext : cellsText (.plain c :: cells) = c :: cellsText cells := rfl
  have hplace (i : Nat) : place (.plain c :: cells) (i + 1) = place cells i + 1 := by
    rw [place_succ, Nat.add_comm]
    rfl
  refine ⟨fun depth {quote} hq => ?_, fun depth {q} hq => ?_⟩
  · rw [htext, List.map_cons, closingFrom_cons, closingFrom_cons]
    simp only [Cell.plain]
    cases hs : scanStep depth quote c with
    | stop => rfl
    | close => rfl
    | next depth' quote' =>
        simp only [h.scan depth' (hq.next hs), Option.map_map, Function.comp_def]
        exact congrArg (Option.map · _) (funext fun i => (hplace i).symm)
    | hide =>
        obtain ⟨-, q, rfl⟩ := eq_of_scanStep_hide hs
        have hh := congrArg (Option.map (· + 1)) (h.hidden depth (hq q rfl))
        simp only [Option.map_map, Function.comp_def, Nat.add_assoc] at hh ⊢
        exact hh.trans (congrArg (Option.map · _) (funext fun i => (hplace (i + 1)).symm))
  · rw [htext, List.map_cons, List.drop_one, List.tail_cons, List.drop_one, List.tail_cons,
      h.scan depth (inQuote_some hq)]
    simp only [Option.map_map, Function.comp_def, hplace]

theorem ScansAlike.close {cells : List Cell} (h : ScansAlike cells) (calls : Nat) :
    ScansAlike (⟨')', true, calls⟩ :: cells) := by
  obtain ⟨methods, hmethods⟩ : ∃ m, (⟨')', true, calls⟩ : Cell).methods = m := ⟨_, rfl⟩
  have hpassed : methods.all isPassed = true := hmethods ▸ Cell.all_isPassed_methods _
  have htext : cellsText (⟨')', true, calls⟩ :: cells) = ')' :: (methods ++ cellsText cells) := by
    rw [← hmethods]
    rfl
  have hplace (i : Nat) : place (⟨')', true, calls⟩ :: cells) (i + 1) =
      place cells i + methods.length + 1 := by
    rw [place_succ, Cell.text, hmethods]
    simp
    omega
  -- behind the parenthesis, the scan passes over the method calls
  have hbehind (depth : Nat) {quote : Option Char} (hq : InQuote quote) :
      (closingFrom depth quote (methods ++ cellsText cells)).map (· + 1) =
        (closingFrom depth quote (cells.map Cell.char)).map
          fun i => place (⟨')', true, calls⟩ :: cells) (i + 1) := by
    rw [closingFrom_passed hpassed hq, h.scan depth hq]
    simp only [Option.map_map, Function.comp_def, hplace]
  refine ⟨fun depth {quote} hq => ?_, fun depth {q} hq => ?_⟩
  · rw [htext, List.map_cons]
    cases quote with
    | some q =>
        rw [closingFrom_quoted_paren (hq q rfl) (.inr rfl),
          closingFrom_quoted_paren (hq q rfl) (.inr rfl), hbehind depth hq, Option.map_map]
        rfl
    | none =>
        cases depth with
        | zero => rfl
        | succ depth =>
            have hs : scanStep (depth + 1) none ')' = .next depth none := rfl
            rw [closingFrom_of_next hs, closingFrom_of_next hs, hbehind depth hq, Option.map_map]
            rfl
  · rw [htext]
    exact hbehind depth (inQuote_some hq)

theorem ScansAlike.name {cells : List Cell} (h : ScansAlike cells) :
    ScansAlike (Cell.goneName ++ .plain '(' :: cells) := by
  have hpassed : floorHead.dropLast.all isPassed = true := by decide
  have hplain := h.plain '('
  refine ⟨fun depth {quote} hq => ?_, fun depth {q} hq => ?_⟩
  · have hchars : (Cell.goneName ++ .plain '(' :: cells).map Cell.char =
        floorHead.dropLast ++ (Cell.plain '(' :: cells).map Cell.char := rfl
    rw [cellsText_goneName, hplain.scan depth hq, hchars, closingFrom_passed hpassed hq,
      Option.map_map]
    rfl
  · -- the parenthesis is hidden now instead of the first letter of the name
    have htext : (cellsText (Cell.goneName ++ .plain '(' :: cells)).drop 1 = cellsText cells := rfl
    have hchars : ((Cell.goneName ++ .plain '(' :: cells).map Cell.char).drop 1 =
        floorHead.dropLast.tail ++ '(' :: cells.map Cell.char := rfl
    have hrest : floorHead.dropLast.tail.all isPassed = true := by decide
    have hplace (i : Nat) : place (Cell.goneName ++ .plain '(' :: cells) (i + 11) =
        place cells i + 1 := by
      show place (.plain '(' :: cells) (i + 1) = _
      rw [place_succ, Nat.add_comm]
      rfl
    rw [htext, hchars, closingFrom_passed hrest (inQuote_some hq),
      closingFrom_quoted_paren hq (.inl rfl), h.scan depth (inQuote_some hq)]
    simp only [Option.map_map, Function.comp_def]
    exact congrArg (Option.map · _) (funext fun i => (hplace i).symm)

/-- Edits do not change where the scan ends. -/
theorem Edited.scansAlike {cells : List Cell} (h : Edited cells) : ScansAlike cells := by
  induction h with
  | nil => exact ⟨fun _ _ _ => rfl, fun _ _ _ => rfl⟩
  | plain c _ ih => exact ih.plain c
  | close calls _ ih => exact ih.close calls
  | name _ ih => exact ih.name

/-- A closing parenthesis among edited cells can take one more method call. -/
theorem Edited.exists_close {cells : List Cell} (h : Edited cells) {i : Nat}
    (hi : (cells.map Cell.char)[i]? = some ')') :
    ∃ before calls behind, cells = before ++ ⟨')', true, calls⟩ :: behind ∧ before.length = i ∧
      Edited (before ++ ⟨')', true, calls + 1⟩ :: behind) := by
  induction h generalizing i with
  | nil => cases hi
  | @plain cells c h ih =>
      cases i with
      | zero =>
          obtain rfl : c = ')' := Option.some.inj hi
          exact ⟨[], 0, cells, rfl, rfl, .close 1 h⟩
      | succ i =>
          obtain ⟨before, calls, behind, rfl, rfl, he⟩ := ih hi
          exact ⟨.plain c :: before, calls, behind, rfl, rfl, .plain c he⟩
  | @close cells calls h ih =>
      cases i with
      | zero => exact ⟨[], calls, cells, rfl, rfl, .close (calls + 1) h⟩
      | succ i =>
          obtain ⟨before, calls', behind, rfl, rfl, he⟩ := ih hi
          exact ⟨⟨')', true, calls⟩ :: before, calls', behind, rfl, rfl, .close calls he⟩
  | @name cells h ih =>
      -- there is no closing parenthesis in the name nor right behind it
      obtain ⟨k, rfl⟩ : ∃ k, i = k + floorHead.length := by
        refine Nat.exists_eq_add_of_le' (Nat.le_of_not_lt fun hlt => ?_)
        have hhead : (floorHead ++ cells.map Cell.char)[i]? = some ')' := hi
        rw [List.getElem?_append_left hlt] at hhead
        exact absurd (List.mem_of_getElem? hhead) (by decide)
      obtain ⟨before, calls, behind, rfl, rfl, he⟩ := ih hi
      exact ⟨Cell.goneName ++ .plain '(' :: before, calls, behind, rfl, rfl, .name he⟩

/-! ## The cells of a text -/

/-- The cells of a text with all floor calls edited at once. -/
def plan (code : List Char) : List Cell :=
  code.zipIdx.map fun (c, i) => ⟨c, !isFloorName code i, floorsClosing code i⟩

theorem floorAtOnce_eq_cellsText (code : List Char) : floorAtOnce code = cellsText (plan code) := by
  rw [floorAtOnce, cellsText, plan, List.flatMap_map]
  congr 1
  funext ⟨c, i⟩
  cases h : isFloorName code i <;> simp [Cell.text, Cell.methods, h]

theorem getElem?_plan (code : List Char) (i : Nat) :
    (plan code)[i]? =
      code[i]?.map fun c => ⟨c, !isFloorName code i, floorsClosing code i⟩ := by
  rw [plan, List.getElem?_map, List.getElem?_zipIdx, Option.map_map]
  simp [Function.comp_def]

theorem map_char_plan (code : List Char) : (plan code).map Cell.char = code := by
  refine List.ext_getElem? fun i => ?_
  rw [List.getElem?_map, getElem?_plan, Option.map_map]
  exact Option.map_id'

theorem floorClose?_append (front rest : List Char) (p : Nat) :
    floorClose? (front ++ rest) (front.length + p) =
      (floorClose? rest p).map (front.length + ·) := by
  have hdrop (n : Nat) : (front ++ rest).drop (front.length + n) = rest.drop n :=
    List.drop_length_add_append n
  rw [floorClose?, floorClose?, hdrop]
  split
  · rw [closingParen?, closingParen?, Nat.add_assoc, hdrop, Option.map_map]
    simp only [Function.comp_def, Nat.add_assoc]
  · rfl

/-- A floor call closes behind its head. -/
theorem le_of_floorClose? {code : List Char} {p q : Nat} (h : floorClose? code p = some q) :
    p + floorHead.length ≤ q := by
  rw [floorClose?] at h
  split at h
  · obtain ⟨i, -, rfl⟩ := Option.map_eq_some_iff.mp h
    omega
  · cases h

theorem floorsClosing_of_lt {code : List Char} {i : Nat} (h : i < floorHead.length) :
    floorsClosing code i = 0 := by
  refine List.countP_eq_zero.mpr fun p _ hp => ?_
  have hle := le_of_floorClose? (eq_of_beq hp)
  omega

theorem lt_length_of_floorClose? {code : List Char} {p q : Nat}
    (h : floorClose? code p = some q) : p < code.length := by
  rw [floorClose?] at h
  split at h
  · rename_i hp
    have hle := (List.isPrefixOf_iff_prefix.mp hp).length_le
    have hpos : 0 < floorHead.length := by decide
    rw [List.length_drop] at hle
    omega
  · cases h

theorem isFloorName_iff {code : List Char} {i : Nat} :
    isFloorName code i = true ↔
      ∃ p q, p ≤ i ∧ i < p + (floorHead.length - 1) ∧ floorClose? code p = some q := by
  simp only [isFloorName, List.any_eq_true, List.mem_range, Bool.and_eq_true, decide_eq_true_eq,
    Option.isSome_iff_exists]
  constructor
  · rintro ⟨p, -, ⟨hp, hi⟩, q, hq⟩
    exact ⟨p, q, hp, hi, hq⟩
  · rintro ⟨p, q, hp, hi, hq⟩
    exact ⟨p, lt_length_of_floorClose? hq, ⟨hp, hi⟩, q, hq⟩

/-- Behind a front part that holds the whole names of its calls, names are those of the rest. -/
theorem isFloorName_append {front rest : List Char}
    (h : ∀ p q, p < front.length → floorClose? (front ++ rest) p = some q →
      p + (floorHead.length - 1) ≤ front.length) (i : Nat) :
    isFloorName (front ++ rest) (front.length + i) = isFloorName rest i := by
  rw [Bool.eq_iff_iff, isFloorName_iff, isFloorName_iff]
  constructor
  · rintro ⟨p, q, hp, hi, hq⟩
    obtain ⟨k, rfl⟩ : ∃ k, p = front.length + k := by
      refine Nat.exists_eq_add_of_le (Nat.le_of_not_lt fun hlt => ?_)
      have hle := h p q hlt hq
      omega
    rw [floorClose?_append] at hq
    obtain ⟨j, hj, -⟩ := Option.map_eq_some_iff.mp hq
    exact ⟨k, j, by omega, by omega, hj⟩
  · rintro ⟨p, q, hp, hi, hq⟩
    refine ⟨front.length + p, front.length + q, by omega, by omega, ?_⟩
    rw [floorClose?_append, hq]
    rfl

theorem floorsClosing_append (front rest : List Char) (i : Nat) :
    floorsClosing (front ++ rest) (front.length + i) =
      (List.range front.length).countP
        (fun p => floorClose? (front ++ rest) p == some (front.length + i)) +
        floorsClosing rest i := by
  rw [floorsClosing, List.length_append, List.range_add, List.countP_append, List.countP_map]
  congr 1
  refine List.countP_congr fun p _ => ?_
  rw [Function.comp_apply, floorClose?_append]
  cases floorClose? rest p <;> simp

/-- No floor call starts inside the head of one. -/
theorem floorClose?_inside {p : Nat} (rest : List Char) (h0 : 0 < p) (h : p < floorHead.length) :
    floorClose? (floorHead ++ rest) p = none := by
  have hp : floorHead.isPrefixOf ((floorHead ++ rest).drop p) = false := by
    have h' : p < 11 := h
    interval_cases p <;> rfl
  rw [floorClose?, hp]
  rfl

/-- A character where no call starts that closes stays as it is. -/
theorem plan_cons {c : Char} {cs : List Char} (h : floorClose? (c :: cs) 0 = none) :
    plan (c :: cs) = .plain c :: plan cs := by
  have hnone (p : Nat) (hp : p < [c].length) : floorClose? ([c] ++ cs) p = none := by
    obtain rfl : p = 0 := Nat.lt_one_iff.mp hp
    exact h
  refine List.ext_getElem? fun i => ?_
  rw [getElem?_plan]
  cases i with
  | zero =>
      have hname : isFloorName (c :: cs) 0 = false := by
        rw [Bool.eq_false_iff, Ne, isFloorName_iff]
        rintro ⟨p, q, hp, -, hq⟩
        obtain rfl : p = 0 := Nat.le_zero.mp hp
        rw [h] at hq
        cases hq
      rw [hname, floorsClosing_of_lt (by decide)]
      rfl
  | succ i =>
      have hname : isFloorName ([c] ++ cs) ([c].length + i) = isFloorName cs i :=
        isFloorName_append (fun p q hp hq => by rw [hnone p hp] at hq; cases hq) i
      have hcalls : floorsClosing ([c] ++ cs) ([c].length + i) = floorsClosing cs i := by
        rw [floorsClosing_append, List.countP_eq_zero.mpr, Nat.zero_add]
        intro p hp
        rw [hnone p (List.mem_range.mp hp)]
        exact nofun
      rw [List.getElem?_cons_succ, List.getElem?_cons_succ, getElem?_plan, ← hname, ← hcalls,
        Nat.add_comm i 1]
      rfl

/-- A text where no call starts that closes stays as it is. -/
theorem plan_append {front rest : List Char}
    (h : ∀ p < front.length, floorClose? (front ++ rest) p = none) :
    plan (front ++ rest) = front.map .plain ++ plan rest := by
  induction front with
  | nil => rfl
  | cons c front ih =>
      have hrest (p : Nat) (hp : p < front.length) : floorClose? (front ++ rest) p = none := by
        have hn := h (p + 1) (by simpa using hp)
        have ha := floorClose?_append [c] (front ++ rest) p
        rw [List.length_singleton, Nat.add_comm 1 p] at ha
        exact Option.map_eq_none_iff.mp (ha.symm.trans hn)
      have hzero : floorClose? (c :: (front ++ rest)) 0 = none := h 0 (by simp)
      rw [List.cons_append, plan_cons hzero, ih hrest]
      rfl

theorem floorClose?_floorHead (rest : List Char) :
    floorClose? (floorHead ++ rest) 0 = (closingOffset? rest).map (floorHead.length + ·) := by
  have hp : floorHead.isPrefixOf ((floorHead ++ rest).drop 0) = true :=
    List.isPrefixOf_iff_prefix.mpr (List.prefix_append floorHead rest)
  rw [floorClose?, if_pos hp, Nat.zero_add, closingParen?, List.drop_left]

/-- The characters of a head whose call closes, but its parenthesis, are a name. -/
theorem isFloorName_floorHead {rest : List Char} {i j : Nat} (h : closingOffset? rest = some i)
    (hj : j < floorHead.length) :
    isFloorName (floorHead ++ rest) j = decide (j < floorHead.length - 1) := by
  have hzero := floorClose?_floorHead rest
  rw [h] at hzero
  rw [Bool.eq_iff_iff, isFloorName_iff, decide_eq_true_eq]
  constructor
  · rintro ⟨p, q, hp, hi, hq⟩
    rcases Nat.eq_zero_or_pos p with rfl | hpos
    · simpa using hi
    · rw [floorClose?_inside rest hpos (Nat.lt_of_le_of_lt hp hj)] at hq
      cases hq
  · intro hlt
    exact ⟨0, _, Nat.zero_le j, by simpa using hlt, hzero⟩

/-- Behind the head of a call that closes, one more call closes at its closing parenthesis. -/
theorem floorsClosing_floorHead {rest : List Char} {i : Nat} (h : closingOffset? rest = some i)
    (k : Nat) :
    floorsClosing (floorHead ++ rest) (floorHead.length + k) =
      floorsClosing rest k + if i = k then 1 else 0 := by
  have hzero := floorClose?_floorHead rest
  rw [h, Option.map_some] at hzero
  have hrange : List.range floorHead.length = 0 :: (List.range 10).map (· + 1) := by decide
  have hinside : ((List.range 10).map (· + 1)).countP
      (fun p => floorClose? (floorHead ++ rest) p == some (floorHead.length + k)) = 0 := by
    refine List.countP_eq_zero.mpr fun p hp => ?_
    obtain ⟨n, hn, rfl⟩ := List.mem_map.mp hp
    have hlt : n + 1 < floorHead.length := Nat.succ_lt_succ (List.mem_range.mp hn)
    rw [floorClose?_inside rest (Nat.succ_pos n) hlt]
    exact nofun
  rw [floorsClosing_append, hrange, List.countP_cons, hinside, hzero, Nat.zero_add, Nat.add_comm]
  simp

/-- A call that closes loses its name, and its closing parenthesis gets a method call. -/
theorem plan_floorHead {rest : List Char} {i : Nat} (h : closingOffset? rest = some i) :
    plan (floorHead ++ rest) =
      Cell.goneName ++ .plain '(' :: (plan rest).modify i Cell.addCall := by
  refine List.ext_getElem? fun j => ?_
  rw [getElem?_plan]
  by_cases hj : j < floorHead.length
  · rw [isFloorName_floorHead h hj, floorsClosing_of_lt hj]
    have hj' : j < 11 := hj
    interval_cases j <;> rfl
  · obtain ⟨k, rfl⟩ := Nat.exists_eq_add_of_le (Nat.le_of_not_lt hj)
    have hname : isFloorName (floorHead ++ rest) (floorHead.length + k) = isFloorName rest k := by
      refine isFloorName_append (fun p q hp hq => ?_) k
      rcases Nat.eq_zero_or_pos p with rfl | hpos
      · decide
      · rw [floorClose?_inside rest hpos hp] at hq
        cases hq
    have hright : (Cell.goneName ++ .plain '(' :: (plan rest).modify i Cell.addCall)[
        floorHead.length + k]? = ((plan rest).modify i Cell.addCall)[k]? := by
      rw [Nat.add_comm]
      rfl
    rw [hname, floorsClosing_floorHead h, hright, List.getElem?_modify, getElem?_plan,
      List.getElem?_append_right (Nat.le_add_right _ _), Nat.add_sub_cancel_left]
    by_cases hk : i = k
    · simp [hk, Cell.addCall, Function.comp_def]
    · simp [hk]

/-! ## Right to left and at once -/

theorem Edited.plainText {cells : List Cell} (h : Edited cells) (text : List Char) :
    Edited (text.map .plain ++ cells) := by
  induction text with
  | nil => exact h
  | cons c text ih => exact .plain c ih

theorem cellsText_plainText (text : List Char) (cells : List Cell) :
    cellsText (text.map .plain ++ cells) = text ++ cellsText cells := by
  induction text with
  | nil => rfl
  | cons c text ih => exact congrArg (c :: ·) ih

/-- A method call more behind the parenthesis at an index, in the cells and in their text. -/
theorem Edited.addCall {cells : List Cell} (h : Edited cells) {i : Nat}
    (hi : (cells.map Cell.char)[i]? = some ')') :
    Edited (cells.modify i Cell.addCall) ∧
      cellsText (cells.modify i Cell.addCall) =
        (cellsText cells).take (place cells i) ++ floorTail ++
          (cellsText cells).drop (place cells i + 1) := by
  obtain ⟨before, calls, behind, rfl, rfl, he⟩ := h.exists_close hi
  have hmodify : (before ++ ⟨')', true, calls⟩ :: behind).modify before.length Cell.addCall =
      before ++ ⟨')', true, calls + 1⟩ :: behind := by
    rw [List.modify_eq_take_cons_drop (by simp)]
    simp [Cell.addCall]
  have hplace : place (before ++ ⟨')', true, calls⟩ :: behind) before.length =
      (cellsText before).length := by
    rw [place, List.take_left]
  have htext (n : Nat) : cellsText (before ++ ⟨')', true, n⟩ :: behind) =
      cellsText before ++ ')' :: ((List.replicate n floorMethod).flatten ++ cellsText behind) := by
    rw [cellsText_append]
    rfl
  have htail : floorTail = ')' :: floorMethod := by decide
  rw [hmodify]
  refine ⟨he, ?_⟩
  rw [hplace, htext, htext, List.take_left, List.drop_length_add_append, htail,
    List.replicate_succ, List.flatten_cons]
  simp

/-- The edit of a call whose argument was edited before is the edit at once. -/
theorem Edited.editHead {rest : List Char} (h : Edited (plan rest)) :
    Edited (plan (floorHead ++ rest)) ∧
      editFloor 'M' (floorHead.tail ++ cellsText (plan rest)) =
        cellsText (plan (floorHead ++ rest)) := by
  have hscan : closingOffset? (cellsText (plan rest)) =
      (closingOffset? rest).map (place (plan rest)) := by
    have hs := h.scansAlike.scan 0 inQuote_none
    rwa [map_char_plan] at hs
  have hdrop : (floorHead.tail ++ cellsText (plan rest)).drop (floorHead.length - 1) =
      cellsText (plan rest) := rfl
  rw [editFloor, hdrop, hscan]
  cases hc : closingOffset? rest with
  | none =>
      have hnone (p : Nat) (hp : p < floorHead.length) :
          floorClose? (floorHead ++ rest) p = none := by
        rcases Nat.eq_zero_or_pos p with rfl | hpos
        · rw [floorClose?_floorHead, hc]
          rfl
        · exact floorClose?_inside rest hpos hp
      rw [plan_append hnone, cellsText_plainText]
      exact ⟨h.plainText _, rfl⟩
  | some i =>
      have hi : ((plan rest).map Cell.char)[i]? = some ')' := by
        rw [map_char_plan]
        exact getElem?_of_closingFrom hc
      obtain ⟨he, ht⟩ := h.addCall hi
      rw [plan_floorHead hc, cellsText_goneName]
      exact ⟨.name he, (congrArg ('(' :: ·) ht).symm⟩

/-- Editing from right to left and at once give the same text, one of edited cells. -/
theorem edited_plan (code : List Char) :
    Edited (plan code) ∧ floorCalls code = cellsText (plan code) := by
  induction hn : code.length using Nat.strong_induction_on generalizing code with
  | _ n ih =>
      cases code with
      | nil => exact ⟨.nil, rfl⟩
      | cons c cs =>
          rw [floorCalls]
          by_cases hp : floorHead.isPrefixOf (c :: cs) = true
          · obtain ⟨rest, hr⟩ := List.isPrefixOf_iff_prefix.mp hp
            have hlen : rest.length < n := by
              rw [← hn, ← hr, List.length_append]
              exact Nat.lt_add_of_pos_left (by decide)
            obtain ⟨he, ht⟩ := ih rest.length hlen rest rfl
            obtain ⟨rfl, rfl⟩ : 'M' = c ∧ floorHead.tail ++ rest = cs := List.cons.inj hr
            rw [if_pos hp, floorCalls_head, ht]
            exact he.editHead
          · have hlen : cs.length < n := by
              rw [← hn]
              exact Nat.lt_succ_self _
            obtain ⟨he, ht⟩ := ih cs.length hlen cs rfl
            have hnone : floorClose? (c :: cs) 0 = none := if_neg hp
            rw [if_neg hp, plan_cons hnone, ht]
            exact ⟨.plain c he, rfl⟩

/-- **Editing floor calls from right to left is editing them at once.** The calls and the
parentheses that close them are those of the original text: each name goes, and a method call comes
behind the closing parenthesis for every call that it closes. -/
theorem floorCalls_eq_floorAtOnce (code : List Char) : floorCalls code = floorAtOnce code := by
  rw [floorAtOnce_eq_cellsText]
  exact (edited_plan code).2

/-- A name in quotes can be that of a call too, and one parenthesis can close several calls. -/
example : floorAtOnce "Math.floor(\"Math.floor(\\\"\") + Math.floor(x".toList =
    "(\"(\\\"\").floor.floor + Math.floor(x".toList := by decide +kernel

end EstreeEmitter.Passes
