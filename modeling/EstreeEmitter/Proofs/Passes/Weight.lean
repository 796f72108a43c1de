import EstreeEmitter.Proofs.Passes.Cuts
import EstreeEmitter.Proofs.Text.Weight

set_option autoImplicit false

/-! # The passes and the weight of a text

Every floor call, every called parameter and every increment that is edited makes a text lighter by
at least one; references and printed sums never make it heavier. A pass that found nothing to edit
leaves the text as it is. -/

namespace EstreeEmitter.Passes

open Text

/-! ## Floor calls -/

theorem getElem?_of_closingFrom {depth : Nat} {quote : Option Char} {cs : List Char} {i : Nat}
    (h : closingFrom depth quote cs = some i) : cs[i]? = some ')' := by
  fun_induction closingFrom depth quote cs generalizing i with
  | case1 | case2 | case3 | case7 => cases h
  | case10 =>
      rename_i hc
      cases h
      rw [eq_of_beq hc]
      rfl
  | case4 | case5 | case6 | case8 | case9 | case11 | case12 =>
      rename_i ih
      obtain ⟨j, hj, rfl⟩ := Option.map_eq_some_iff.mp h
      exact ih hj

/-- No floor call starts in the rest of the head of one. -/
theorem floorCalls_head (rest : List Char) :
    floorCalls (floorHead.tail ++ rest) = floorHead.tail ++ floorCalls rest := rfl

theorem weight_floorHead : weight floorHead = 2 := rfl

theorem weight_floorHead_tail : weight floorHead.tail = 1 := rfl

/-- The number of floor calls that are edited at the head of one, given the text behind it. -/
def editedHere (rest : List Char) : Nat := if (closingOffset? rest).isSome then 1 else 0

/-- An edited floor call loses the weight of its capital letter. -/
theorem weight_editFloor (rest : List Char) :
    weight (editFloor 'M' (floorHead.tail ++ rest)) + editedHere rest =
      weight (floorHead ++ rest) := by
  have hdrop : (floorHead.tail ++ rest).drop (floorHead.length - 1) = rest := rfl
  have hhead := weight_floorHead
  have hrest := weight_floorHead_tail
  rw [editFloor, hdrop, editedHere]
  cases hc : closingOffset? rest with
  | none =>
      have hM : charWeight 'M' = 1 := rfl
      simp only [Option.isSome_none, Bool.false_eq_true, if_false, weight_cons, weight_append]
      omega
  | some i =>
      -- the parenthesis that closes the call parts the text behind the head
      have hclose := drop_eq_cons_of_getElem? (getElem?_of_closingFrom hc)
      have hw := congrArg weight (List.take_append_drop i rest)
      have hopen : charWeight '(' = 0 := rfl
      have hpar : charWeight ')' = 0 := rfl
      have htail : weight floorTail = 1 := rfl
      rw [hclose] at hw
      simp only [Option.isSome_some, if_true, weight_cons, weight_append] at hw ⊢
      omega

theorem weight_floorCalls (cs : List Char) :
    weight (floorCalls cs) + floorCount cs = weight cs := by
  induction cs with
  | nil => rfl
  | cons c cs ih =>
      rw [floorCalls, floorCount]
      cases hp : floorHead.isPrefixOf (c :: cs) with
      | true =>
          obtain ⟨rest, hr⟩ := List.isPrefixOf_iff_prefix.mp hp
          obtain ⟨rfl, rfl⟩ : 'M' = c ∧ floorHead.tail ++ rest = cs := List.cons.inj hr
          have hdrop : (floorHead.tail ++ floorCalls rest).drop (floorHead.length - 1) =
              floorCalls rest := rfl
          have hedit := weight_editFloor (floorCalls rest)
          have hhead := weight_floorHead
          have hrest := weight_floorHead_tail
          have hM : charWeight 'M' = 1 := rfl
          have hcount : (if (closingOffset? (floorCalls rest)).isSome = true then
              floorCount (floorHead.tail ++ rest) + 1 else floorCount (floorHead.tail ++ rest)) =
              floorCount (floorHead.tail ++ rest) + editedHere (floorCalls rest) := by
            rw [editedHere]
            split <;> rfl
          -- calls further behind are edited first, so the head is followed by edited text
          rw [floorCalls_head, hdrop, if_pos rfl, Bool.true_and, hcount, weight_cons, weight_append]
          rw [floorCalls_head, weight_append, weight_append] at ih
          rw [weight_append] at hedit
          push_cast
          omega
      | false =>
          rw [if_neg (by simp), Bool.false_and, if_neg (by simp), weight_cons, weight_cons]
          omega

theorem floorCalls_of_floorCount_eq_zero {cs : List Char} (h : floorCount cs = 0) :
    floorCalls cs = cs := by
  induction cs with
  | nil => rfl
  | cons c cs ih =>
      rw [floorCount] at h
      split at h
      · cases h
      · rename_i hc
        rw [floorCalls]
        split
        · rename_i hp
          have hnone : closingOffset? ((floorCalls cs).drop (floorHead.length - 1)) = none := by
            simpa [hp] using hc
          rw [editFloor, hnone, ih h]
        · rw [ih h]

/-! ## Increments -/

theorem sum_toNat_eq_countP {α : Type} (p : α → Bool) (xs : List α) :
    (xs.map fun x => (p x).toNat).sum = xs.countP p := by
  induction xs with
  | nil => rfl
  | cons x xs ih =>
      rw [List.map_cons, List.sum_cons, ih, List.countP_cons]
      cases p x with
      | true => exact Nat.add_comm 1 _
      | false => exact Nat.zero_add _

/-- The sign is a plus or a minus. -/
def IsSign (sign : Char) : Prop := sign = '+' ∨ sign = '-'

theorem weight_stepText {sign : Char} (h : IsSign sign) :
    weight (stepText sign) + 1 = weight [sign, sign] := by
  rcases h with rfl | rfl <;> rfl

theorem weight_trailingSteps {sign : Char} (h : IsSign sign) (code : List Char) :
    weight (trailingSteps sign code) + trailingCount sign code ≤ weight code := by
  rw [trailingCount, ← sum_toNat_eq_countP]
  refine (cuts_tokens sign code).weight_paste _ _ ?_
  rintro token covered rfl
  cases token with
  | quoted text => simp [Token.text, Token.source, Token.isStep]
  | step x =>
      have hs := weight_stepText h
      simp only [Token.text, Token.source, Token.isStep, weight_append, Bool.toNat_true]
      push_cast
      omega

theorem trailingSteps_of_trailingCount_eq_zero {sign : Char} {code : List Char}
    (h : trailingCount sign code = 0) : trailingSteps sign code = code := by
  refine (cuts_tokens sign code).paste_eq fun token ht covered hc => ?_
  have hstep := List.countP_eq_zero.mp h token ht
  cases token with
  | quoted text => exact hc
  | step x => exact absurd rfl hstep

theorem weight_leadingStep? {sign : Char} (h : IsSign sign) {line edited : List Char}
    (he : leadingStep? sign line = some edited) : weight edited + 1 ≤ weight line := by
  obtain ⟨margin, x, blanks, rfl, rfl, hb⟩ := leadingStep?_eq_some he
  have hs := weight_stepText h
  have hblanks : 0 ≤ weight blanks := by
    refine weight_nonneg fun c hc => ?_
    have hc := hb c hc
    simp only [isSpaceOrTab, Bool.or_eq_true, beq_iff_eq] at hc
    rcases hc with rfl | rfl <;> decide
  simp only [weight_append]
  omega

/-- The weight of lines joined by line feeds is that of the lines. -/
theorem weight_joinWith_lineFeed (lines : List (List Char)) :
    weight (joinWith ['\n'] lines) = (lines.map weight).sum := by
  induction lines with
  | nil => rfl
  | cons line lines ih =>
      by_cases hl : lines = []
      · simp [hl, joinWith]
      · have hn : weight ['\n'] = 0 := rfl
        rw [joinWith_cons _ _ hl, weight_append, weight_append, ih, hn, List.map_cons,
          List.sum_cons]
        omega

theorem weight_leadingSteps {sign : Char} (h : IsSign sign) (code : List Char) :
    weight (leadingSteps sign code) + leadingCount sign code ≤ weight code := by
  have hcode : weight code = ((splitLines code).map weight).sum := by
    rw [← weight_joinWith_lineFeed, splitLines, joinWith_splitOn]
  rw [leadingSteps, weight_joinWith_lineFeed, hcode, leadingCount]
  induction splitLines code with
  | nil => exact Int.le_refl 0
  | cons line lines ih =>
      rw [List.map_cons, List.map_cons, List.sum_cons, List.map_cons, List.sum_cons,
        List.countP_cons]
      cases he : leadingStep? sign line with
      | none =>
          simp only [Option.getD_none, Option.isSome_none, Bool.false_eq_true, if_false]
          omega
      | some edited =>
          have hw := weight_leadingStep? h he
          simp only [Option.getD_some, Option.isSome_some, if_true]
          push_cast
          omega

theorem leadingSteps_of_leadingCount_eq_zero {sign : Char} {code : List Char}
    (h : leadingCount sign code = 0) : leadingSteps sign code = code := by
  have hmap : (splitLines code).map (fun line => (leadingStep? sign line).getD line) =
      splitLines code := by
    refine (List.map_congr_left fun line hl => ?_).trans (List.map_id _)
    have hn := List.countP_eq_zero.mp h line hl
    rw [Option.not_isSome_iff_eq_none.mp hn]
    rfl
  rw [leadingSteps, hmap, splitLines, joinWith_splitOn]

theorem weight_increments (code : List Char) :
    weight (increments code) + incrementCount code ≤ weight code := by
  have ha := weight_trailingSteps (.inl rfl) code
  have hb := weight_trailingSteps (.inr rfl) (trailingSteps '+' code)
  have hc := weight_leadingSteps (.inl rfl) (trailingSteps '-' (trailingSteps '+' code))
  have hd := weight_leadingSteps (.inr rfl)
    (leadingSteps '+' (trailingSteps '-' (trailingSteps '+' code)))
  simp only [increments, incrementCount]
  push_cast
  omega

theorem increments_of_incrementCount_eq_zero {code : List Char} (h : incrementCount code = 0) :
    increments code = code := by
  simp only [incrementCount, Nat.add_eq_zero_iff] at h
  obtain ⟨⟨⟨ha, hb⟩, hc⟩, hd⟩ := h
  have ea := trailingSteps_of_trailingCount_eq_zero ha
  rw [ea] at hb hc hd
  have eb := trailingSteps_of_trailingCount_eq_zero hb
  rw [eb] at hc hd
  have ec := leadingSteps_of_leadingCount_eq_zero hc
  rw [ec] at hd
  rw [increments, ea, eb, ec, leadingSteps_of_leadingCount_eq_zero hd]

/-! ## Called parameters -/

theorem weight_callThrough (parameter body : List Char) :
    weight (callThrough parameter body) + (pieces (cutCalls parameter body)).length ≤
      weight body := by
  have hcall : weight ".call(".toList + 1 = weight ['('] := rfl
  have hw := (cuts_calls parameter body).weight_paste (fun _ => parameter ++ ".call(".toList)
    (fun _ => 1) ?_
  · simpa [callThrough] using hw
  · rintro piece covered rfl
    rw [weight_append, weight_append]
    omega

theorem weight_markBody (parameters : List (List Char)) (position : Nat) (body : List Char) :
    weight (markBody parameters position body).body +
      (markBody parameters position body).called.length ≤ weight body := by
  fun_induction markBody parameters position body with
  | case1 => simp
  | case2 parameter rest position body hc marked ih =>
      have hw := weight_callThrough parameter body
      have hpos : 1 ≤ (pieces (cutCalls parameter body)).length := by
        rw [isCalled] at hc
        exact List.length_pos_iff.mpr (by simpa using hc)
      simp only [marked, List.length_cons] at ih ⊢
      push_cast
      omega
  | case3 parameter rest position body hc ih => exact ih

theorem markBody_of_called_eq_nil {parameters : List (List Char)} {position : Nat}
    {body : List Char} (h : (markBody parameters position body).called = []) :
    (markBody parameters position body).body = body := by
  fun_induction markBody parameters position body with
  | case1 => rfl
  | case2 => cases h
  | case3 parameter rest position body hc ih => exact ih h

theorem weight_markCallable (code : List Char) :
    weight (markCallable code) + (callableNotes code).length ≤ weight code := by
  have hw := (cuts_chunks code).weight_paste Chunk.marked
    (fun chunk => chunk.mark.called.length) ?_
  · simpa [callableNotes, List.length_flatMap, markCallable] using hw
  · rintro chunk covered rfl
    have hb := weight_markBody (parametersOf chunk.parameters) 0 chunk.body
    rw [Chunk.marked, Chunk.source, weight_append, weight_append, weight_cons, weight_cons]
    simp only [Chunk.mark]
    omega

theorem called_eq_nil_of_callableNotes {code : List Char} (h : callableNotes code = []) :
    ∀ chunk ∈ pieces (cutChunks code), chunk.mark.called = [] := by
  intro chunk hc
  have hm := List.flatMap_eq_nil_iff.mp h chunk hc
  exact List.map_eq_nil_iff.mp hm

theorem markCallable_of_callableNotes_eq_nil {code : List Char} (h : callableNotes code = []) :
    markCallable code = code := by
  refine (cuts_chunks code).paste_eq fun chunk hc covered hs => ?_
  have hbody := markBody_of_called_eq_nil (called_eq_nil_of_callableNotes h chunk hc)
  rw [Chunk.marked, Chunk.mark, hbody]
  exact hs

theorem registerCallable_of_callableNotes_eq_nil {code : List Char} (h : callableNotes code = []) :
    registerCallable code [] = [] := by
  have hcalled := called_eq_nil_of_callableNotes h
  rw [registerCallable]
  generalize pieces (cutChunks code) = chunks at hcalled
  induction chunks with
  | nil => rfl
  | cons chunk chunks ih =>
      rw [List.foldl_cons, hcalled chunk List.mem_cons_self, List.foldl_nil]
      exact ih fun other ho => hcalled other (List.mem_cons_of_mem _ ho)

/-! ## Method references -/

theorem weight_methodReference (name : List Char) :
    weight (methodReference name) = weight name := by
  have hopen : weight "method(:".toList = 0 := by decide +kernel
  have hclose : weight [')'] = 0 := by decide +kernel
  unfold methodReference
  generalize "method(:".toList = opened at hopen ⊢
  generalize [')'] = closed at hclose ⊢
  rw [weight_append, weight_append]
  omega

theorem weight_argumentsText (index : Int) (position : Nat) (arguments : List Argument) :
    weight (argumentsText index position arguments) =
      weight (arguments.flatMap Argument.whole) := by
  induction arguments generalizing position with
  | nil => rfl
  | cons a rest ih =>
      rw [argumentsText, List.flatMap_cons, weight_append, weight_append, weight_append, ih,
        Argument.whole, weight_append]
      by_cases hr : isReferred index position a = true
      · rw [if_pos hr, weight_methodReference]
      · rw [if_neg hr]

theorem weight_passReferences (name : List Char) (index : Int) (code : List Char) :
    weight (passReferences name index code) ≤ weight code := by
  have hw := (cuts_callSites name code).weight_paste
    (fun arguments => name ++ '(' :: argumentsText index 0 arguments ++ [')'])
    (fun _ => 0) ?_
  · simpa [passReferences] using hw
  · rintro arguments covered rfl
    have ha := weight_argumentsText index 0 arguments
    simp only [callSource, weight_append, weight_cons]
    omega

theorem weight_passAllReferences (registry : Registry) (code : List Char) :
    weight (passAllReferences registry code) ≤ weight code := by
  induction registry generalizing code with
  | nil => exact Int.le_refl _
  | cons entry registry ih =>
      exact Int.le_trans (ih (passReferences entry.1 entry.2 code))
        (weight_passReferences entry.1 entry.2 code)

/-! ## Printed sums -/

theorem consFirst_ne_nil (c : Char) (parts : List (List Char)) : consFirst c parts ≠ [] := by
  cases parts <;> simp [consFirst]

theorem splitFrom_ne_nil (depth : Int) (quote : Option Char) (cs : List Char) :
    splitFrom depth quote cs ≠ [] := by
  fun_cases splitFrom depth quote cs <;> first | exact consFirst_ne_nil _ _ | simp

theorem joinWith_consFirst (separator : List Char) (c : Char) {parts : List (List Char)}
    (h : parts ≠ []) : joinWith separator (consFirst c parts) = c :: joinWith separator parts := by
  match parts with
  | [part] => rfl
  | part :: other :: parts => rfl

/-- The operands of a sum with plus signs between them are the sum. -/
theorem joinWith_splitFrom (depth : Int) (quote : Option Char) (cs : List Char) :
    joinWith " + ".toList (splitFrom depth quote cs) = cs := by
  fun_induction splitFrom depth quote cs with
  | case1 => rfl
  | case2 => rfl
  | case3 depth q c hc e rest ih =>
      rw [joinWith_consFirst _ _ (consFirst_ne_nil _ _),
        joinWith_consFirst _ _ (splitFrom_ne_nil _ _ _), ih]
  | case9 =>
      rename_i hc rest ih
      simp only [Bool.and_eq_true, beq_iff_eq] at hc
      rw [joinWith_cons _ _ (splitFrom_ne_nil _ _ _), ih, hc.2]
      rfl
  | case4 | case5 | case6 | case7 | case8 | case10 | case11 =>
      rename_i ih
      rw [joinWith_consFirst _ _ (splitFrom_ne_nil _ _ _), ih]

theorem eq_of_unwrap? {cs inner : List Char} (h : unwrap? cs = some inner) :
    cs = '(' :: inner ++ [')'] := by
  unfold unwrap? at h
  split at h
  · rename_i rest
    split at h
    · rename_i hc
      cases h
      simp only [Bool.and_eq_true, beq_iff_eq] at hc
      obtain ⟨before, hb⟩ := List.getLast?_eq_some_iff.mp hc.1
      cases before with
      | nil => cases hb
      | cons d before =>
          have hr : rest = before ++ [')'] := (List.cons.inj hb).2
          rw [hr, List.dropLast_concat]
          rfl
    · cases h
  · cases h

/-- The weight of joined operands, counting a plus sign for each of them. -/
theorem weight_joinWith_plus {parts : List (List Char)} (h : parts ≠ []) :
    weight (joinWith " + ".toList parts) + 6 = (parts.map fun part => weight part + 6).sum := by
  induction parts with
  | nil => exact absurd rfl h
  | cons part parts ih =>
      by_cases hp : parts = []
      · simp [hp, joinWith]
      · have hplus : weight " + ".toList = 6 := rfl
        have hparts := ih hp
        rw [joinWith_cons _ _ hp, weight_append, weight_append, hplus, List.map_cons, List.sum_cons]
        omega

/-- Flattening a sum takes a pair of parentheses away, which has no weight. -/
theorem weight_concatOperands (cs : List Char) :
    concatOperands cs ≠ [] ∧ weight (joinWith " + ".toList (concatOperands cs)) = weight cs := by
  have hjoin (cs : List Char) : joinWith " + ".toList (splitTopLevel cs) = cs :=
    joinWith_splitFrom 0 none cs
  fun_induction concatOperands cs with
  | case1 cs hp => exact absurd hp (splitFrom_ne_nil _ _ _)
  | case2 cs first others hp inner hu operands hc ih =>
      have hcs := hjoin cs
      rw [hp] at hcs
      obtain ⟨hne, hinner⟩ := ih
      refine ⟨by simp [operands, hne], ?_⟩
      -- only the parentheses around the first operand go
      have hfirst : weight first = weight inner := by
        have hopen : charWeight '(' = 0 := rfl
        have hclose : weight [')'] = 0 := rfl
        rw [eq_of_unwrap? hu, weight_append, weight_cons, hopen, hclose, Int.zero_add, Int.add_zero]
      have hflat := weight_joinWith_plus (show operands ++ others ≠ [] by simp [operands, hne])
      have hsum := weight_joinWith_plus (List.cons_ne_nil first others)
      have hops := weight_joinWith_plus hne
      rw [List.map_append, List.sum_append] at hflat
      rw [hcs, List.map_cons, List.sum_cons] at hsum
      simp only [operands] at hflat ⊢
      omega
  | case3 cs first others hp inner hu operands hc ih =>
      rw [← hp]
      exact ⟨splitFrom_ne_nil _ _ _, by rw [hjoin]⟩
  | case4 cs first others hp hu =>
      rw [← hp]
      exact ⟨splitFrom_ne_nil _ _ _, by rw [hjoin]⟩

theorem weight_textOperand (part : List Char) : weight (textOperand part) = weight part := by
  have htext : weight (')' :: toText) = 0 := rfl
  have hopen : charWeight '(' = 0 := rfl
  rw [textOperand]
  split
  · rfl
  · rw [weight_append, weight_cons, htext, hopen, Int.zero_add, Int.add_zero]

/-- The forms of a letter have the same weight. -/
def sameWeight (choices : List Char) : Bool :=
  choices.all fun c => charWeight c == charWeight (choices.headD ' ')

/-- A word whose letters weigh the same in all their forms weighs as much as in its first form. -/
theorem weight_eq_of_letters {letters : List (List Char)} {head : List Char}
    (h : List.Forall₂ (fun choices c => c ∈ choices) letters head)
    (hw : letters.all sameWeight = true) :
    weight head = weight (letters.map (·.headD ' ')) := by
  induction h with
  | nil => rfl
  | @cons choices c letters head hc h ih =>
      simp only [List.all_cons, Bool.and_eq_true] at hw
      have hsame := eq_of_beq (List.all_eq_true.mp hw.1 c hc)
      rw [List.map_cons, weight_cons, weight_cons, hsame, ih hw.2]

theorem sameWeight_putsLetters : putsLetters.all sameWeight = true := by decide +kernel

theorem weight_putsText {argument covered : List Char} (h : PutsCovers argument covered) :
    weight (putsText argument) = weight covered := by
  obtain ⟨head, hh, rfl⟩ := h
  have hputs : weight head = weight "puts(".toList := weight_eq_of_letters hh sameWeight_putsLetters
  obtain ⟨hne, hjoin⟩ := weight_concatOperands argument
  have hops := weight_joinWith_plus hne
  -- each operand weighs the same as a text, and as many plus signs stand between them
  have htexts : weight (joinWith " + ".toList ((concatOperands argument).map textOperand)) + 6 =
      ((concatOperands argument).map fun part => weight part + 6).sum := by
    rw [weight_joinWith_plus (by simpa using hne), List.map_map]
    simp only [Function.comp_def, weight_textOperand]
  have hsum : weight (joinWith " + ".toList ((concatOperands argument).map textOperand)) =
      weight argument := by omega
  unfold putsText
  generalize "puts(".toList = opened at hputs ⊢
  rw [weight_append, weight_append, weight_append, weight_append, hputs, hsum]

theorem weight_stringifyPuts (code : List Char) : weight (stringifyPuts code) ≤ weight code := by
  have hw := (cuts_puts code).weight_paste putsText (fun _ => 0) fun h => by
    simp [weight_putsText h]
  simpa [stringifyPuts] using hw

end EstreeEmitter.Passes
