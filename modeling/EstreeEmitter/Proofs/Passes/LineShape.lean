import EstreeEmitter.Proofs.Passes.FloorText
import EstreeEmitter.Proofs.Text.LineShape

set_option autoImplicit false

/-! # The passes keep the lines of a text

Method definitions end at an empty line, so the passes behind the table must not add or remove
lines, nor fill or empty one. Every pass replaces parts of a text by parts of the same shape; a
recognised part may go over several lines, but what is written in its place keeps their line
feeds. -/

namespace EstreeEmitter

namespace Passes

open Text

/-! ## Floor calls -/

theorem Floors.lineShape_eq {cs ds : List Char} (h : Floors cs ds) :
    lineShape ds = lineShape cs := by
  have hhead : lineShape ['('] = lineShape floorHead := by decide
  have htail : lineShape floorTail = lineShape [')'] := by decide
  induction h with
  | nil => rfl
  | cons c h ih => exact lineShape_append_left [c] ih
  | @call rest inner behind h ih =>
      -- the argument stays, whatever lines it goes over
      have hargument : lineShape (inner ++ (floorTail ++ behind)) = lineShape rest :=
        (lineShape_append_left inner (lineShape_append_congr htail rfl)).trans ih
      exact lineShape_append_congr hhead hargument

theorem lineShape_floorCalls (cs : List Char) : lineShape (floorCalls cs) = lineShape cs :=
  (floors_floorCalls cs).lineShape_eq

/-! ## Called parameters -/

theorem lineShape_callThrough (parameter body : List Char) :
    lineShape (callThrough parameter body) = lineShape body := by
  have hcall : lineShape ".call(".toList = lineShape ['('] := by decide
  refine (cuts_calls parameter body).lineShape_paste _ ?_
  rintro piece covered rfl
  exact lineShape_append_left parameter hcall

theorem lineShape_markBody (parameters : List (List Char)) (position : Nat) (body : List Char) :
    lineShape (markBody parameters position body).body = lineShape body := by
  fun_induction markBody parameters position body with
  | case1 => rfl
  | case2 parameter rest position body hc marked ih =>
      exact ih.trans (lineShape_callThrough parameter body)
  | case3 parameter rest position body hc ih => exact ih

theorem lineShape_markCallable (code : List Char) :
    lineShape (markCallable code) = lineShape code := by
  refine (cuts_chunks code).lineShape_paste _ ?_
  rintro chunk covered rfl
  have hbody := lineShape_markBody (parametersOf chunk.parameters) 0 chunk.body
  exact lineShape_append_left _ (lineShape_append_left ['\n'] hbody)

/-! ## Method references -/

/-- A plain name stands on one line and is not blank. -/
theorem not_blank_of_isPlainName {name : List Char} (h : isPlainName name = true) :
    '\n' ∉ name ∧ isBlankText name = false := by
  cases name with
  | nil => cases h
  | cons c cs =>
      simp only [isPlainName, Bool.and_eq_true, Bool.or_eq_true, beq_iff_eq] at h
      have hc : isBlank c = false := by
        by_contra hb
        rcases h.1 with hc | rfl
        · rw [isAlpha_eq_false_of_isBlank (by simpa using hb)] at hc
          cases hc
        · exact hb (by decide)
      have hn : '\n' ≠ c := by
        rintro rfl
        exact absurd hc (by decide)
      have hcs : '\n' ∉ cs := fun hm => absurd (List.all_eq_true.mp h.2 _ hm) (by decide)
      exact ⟨by simp [hn, hcs], by simp [isBlankText, hc]⟩

theorem lineShape_methodReference {name : List Char} (h : isPlainName name = true) :
    lineShape (methodReference name) = lineShape name := by
  obtain ⟨hn, hb⟩ := not_blank_of_isPlainName h
  have hopen : '\n' ∉ "method(:".toList := by decide +kernel
  unfold methodReference
  generalize "method(:".toList = opened at hopen ⊢
  refine lineShape_eq_of_not_blank ?_ hn ?_ hb
  · simp [hopen, hn]
  · rw [isBlankText_append, isBlankText_append, hb, Bool.and_false, Bool.false_and]

theorem lineShape_argumentsText (index : Int) (position : Nat) (arguments : List Argument) :
    lineShape (argumentsText index position arguments) =
      lineShape (arguments.flatMap Argument.whole) := by
  induction arguments generalizing position with
  | nil => rfl
  | cons a rest ih =>
      have htext : lineShape (if isReferred index position a then methodReference a.text
          else a.text) = lineShape a.text := by
        split
        · rename_i hr
          exact lineShape_methodReference (Bool.and_eq_true_iff.mp hr).2
        · rfl
      exact lineShape_append_congr (lineShape_append_left _ htext) (ih (position + 1))

theorem lineShape_passReferences (name : List Char) (index : Int) (code : List Char) :
    lineShape (passReferences name index code) = lineShape code := by
  refine (cuts_callSites name code).lineShape_paste _ ?_
  rintro arguments covered rfl
  have hargs := lineShape_argumentsText index 0 arguments
  have hopen := lineShape_append_left ['('] hargs
  exact lineShape_append_congr (lineShape_append_left name hopen) rfl

theorem lineShape_passAllReferences (registry : Registry) (code : List Char) :
    lineShape (passAllReferences registry code) = lineShape code := by
  induction registry generalizing code with
  | nil => rfl
  | cons entry registry ih =>
      exact (ih (passReferences entry.1 entry.2 code)).trans
        (lineShape_passReferences entry.1 entry.2 code)

/-! ## Increments -/

theorem lineShape_trailingSteps {sign : Char} (h : IsSign sign) (code : List Char) :
    lineShape (trailingSteps sign code) = lineShape code := by
  refine (cuts_tokens sign code).lineShape_paste _ ?_
  rintro token covered rfl
  cases token with
  | quoted text => rfl
  | step x =>
      have hstep : lineShape (stepText sign) = lineShape [sign, sign] := by
        rcases h with rfl | rfl <;> decide
      exact lineShape_append_congr rfl hstep

/-- A line with only an increment stays a line with text. -/
theorem lineShape_leadingStep? {sign : Char} (h : IsSign sign) {line edited : List Char}
    (hl : '\n' ∉ line) (he : leadingStep? sign line = some edited) :
    lineShape edited = lineShape line := by
  obtain ⟨margin, x, blanks, rfl, rfl, -⟩ := leadingStep?_eq_some he
  have hsigns : isBlankText [sign, sign] = false := by rcases h with rfl | rfl <;> decide
  have hstep : isBlankText (stepText sign) = false := by rcases h with rfl | rfl <;> decide
  have hn : '\n' ∉ stepText sign := by rcases h with rfl | rfl <;> decide
  refine lineShape_eq_of_not_blank ?_ hl ?_ ?_
  · simp only [List.mem_append, not_or] at hl ⊢
    exact ⟨⟨hl.1.1.1, hl.1.2⟩, hn⟩
  · rw [isBlankText_append, hstep, Bool.and_false]
  · rw [isBlankText_append, isBlankText_append, isBlankText_append, hsigns]
    simp

theorem lineShape_leadingSteps {sign : Char} (h : IsSign sign) (code : List Char) :
    lineShape (leadingSteps sign code) = lineShape code := by
  have hcode : joinWith ['\n'] (splitLines code) = code := joinWith_splitOn '\n' code
  conv_rhs => rw [← hcode]
  refine lineShape_joinWith_map _ fun line hl => ?_
  cases he : leadingStep? sign line with
  | none => rfl
  | some edited => exact lineShape_leadingStep? h (not_mem_of_mem_splitOn hl) he

theorem lineShape_increments (code : List Char) : lineShape (increments code) = lineShape code := by
  rw [increments, lineShape_leadingSteps (.inr rfl), lineShape_leadingSteps (.inl rfl),
    lineShape_trailingSteps (.inr rfl), lineShape_trailingSteps (.inl rfl)]

/-! ## Printed sums -/

theorem mem_joinWith_of_mem (separator : List Char) {parts : List (List Char)} {part : List Char}
    {c : Char} (hp : part ∈ parts) (hc : c ∈ part) : c ∈ joinWith separator parts := by
  induction parts with
  | nil => cases hp
  | cons first parts ih =>
      cases parts with
      | nil =>
          rw [List.mem_singleton.mp hp] at hc
          exact hc
      | cons next parts =>
          rw [joinWith_cons _ _ (by simp)]
          rcases List.mem_cons.mp hp with rfl | hp
          · simp [hc]
          · simp [ih hp]

theorem not_mem_joinWith {separator : List Char} {parts : List (List Char)} {c : Char}
    (hs : c ∉ separator) (hp : ∀ part ∈ parts, c ∉ part) : c ∉ joinWith separator parts := by
  induction parts with
  | nil => simp [joinWith]
  | cons first parts ih =>
      have hfirst := hp first List.mem_cons_self
      have hrest := ih fun part hm => hp part (List.mem_cons_of_mem _ hm)
      cases parts with
      | nil => exact hfirst
      | cons next parts =>
          rw [joinWith_cons _ _ (by simp)]
          simp [hfirst, hs, hrest]

/-- The operands of a sum hold nothing that is not in the sum. -/
theorem mem_of_mem_concatOperands {cs part : List Char} {c : Char}
    (hp : part ∈ concatOperands cs) (hc : c ∈ part) : c ∈ cs := by
  have hsplit (cs : List Char) {part : List Char} (hp : part ∈ splitTopLevel cs)
      (hc : c ∈ part) : c ∈ cs := by
    have hm := mem_joinWith_of_mem " + ".toList hp hc
    rwa [splitTopLevel, joinWith_splitFrom] at hm
  fun_induction concatOperands cs generalizing part with
  | case1 => cases hp
  | case2 cs first others hs inner hu operands hq =>
      rename_i ih
      rcases List.mem_append.mp hp with hp | hp
      · -- an operand of the first one stands inside its parentheses
        have hfirst : c ∈ first := by
          rw [eq_of_unwrap? hu]
          simp [ih hp hc]
        exact hsplit cs (by simp [hs]) hfirst
      · exact hsplit cs (by simp [hs, hp]) hc
  | case3 cs first others hs => exact hsplit cs (by rw [hs]; exact hp) hc
  | case4 cs first others hs => exact hsplit cs (by rw [hs]; exact hp) hc

theorem lineFeed_not_mem_textOperand {part : List Char} (h : '\n' ∉ part) :
    '\n' ∉ textOperand part := by
  rw [textOperand]
  split
  · exact h
  · have ht : '\n' ∉ toText := by decide
    simp [h, ht]

/-- What `puts` prints stands on one line. -/
theorem lineFeed_not_mem_of_putsCall? {cs argument : List Char} {n : Nat}
    (h : putsCall? cs = some (argument, n)) : '\n' ∉ argument := by
  obtain ⟨rest, -, h⟩ := Option.bind_eq_some_iff.mp h
  obtain ⟨found, ha, h⟩ := Option.bind_eq_some_iff.mp h
  obtain ⟨behind, -, h⟩ := Option.bind_eq_some_iff.mp h
  cases h
  intro hm
  have hline : '\n' ∈ rest.takeWhile (· != '\n') := by
    rw [lineArgument?_eq_some ha]
    simp [hm]
  simpa using List.mem_takeWhile_imp hline

/-- A word of letters that are no blanks, in any of their forms. -/
theorem not_isBlank_of_letters {letters : List (List Char)} {head : List Char}
    (h : List.Forall₂ (fun choices c => c ∈ choices) letters head)
    (hl : letters.all (·.all (!isBlank ·)) = true) : ∀ c ∈ head, isBlank c = false := by
  induction h with
  | nil => simp
  | @cons choices c letters head hc h ih =>
      simp only [List.all_cons, Bool.and_eq_true] at hl
      have hb := List.all_eq_true.mp hl.1 c hc
      exact List.forall_mem_cons.mpr ⟨by simpa using hb, ih hl.2⟩

theorem lineShape_putsText {argument covered : List Char} (h : PutsCovers argument covered)
    (hn : '\n' ∉ argument) : lineShape (putsText argument) = lineShape covered := by
  obtain ⟨head, hh, rfl⟩ := h
  have hsum : '\n' ∉ joinWith " + ".toList ((concatOperands argument).map textOperand) := by
    refine not_mem_joinWith (by decide) fun part hp => ?_
    obtain ⟨operand, ho, rfl⟩ := List.mem_map.mp hp
    exact lineFeed_not_mem_textOperand fun hm => hn (mem_of_mem_concatOperands ho hm)
  have hblank := not_isBlank_of_letters hh (by decide)
  have hhead : '\n' ∉ head := fun hm => absurd (hblank _ hm) (by decide)
  have hclose : isBlankText [')'] = false := by decide
  unfold putsText
  generalize joinWith " + ".toList ((concatOperands argument).map textOperand) = sum at hsum ⊢
  -- up to the line feed behind them, both calls are one line with text
  have hcall : lineShape ("puts(".toList ++ sum ++ [')']) =
      lineShape (head ++ argument ++ [')']) := by
    refine lineShape_eq_of_not_blank ?_ ?_ ?_ ?_
    · simp [hsum]
    · simp [hhead, hn]
    · rw [isBlankText_append, hclose, Bool.and_false]
    · rw [isBlankText_append, hclose, Bool.and_false]
  have hline := lineShape_append_congr hcall (rfl : lineShape ['\n'] = lineShape ['\n'])
  simpa only [List.append_assoc, List.singleton_append] using hline

theorem lineShape_stringifyPuts (code : List Char) :
    lineShape (stringifyPuts code) = lineShape code := by
  have hcuts : Cuts (fun argument text => PutsCovers argument text ∧ '\n' ∉ argument)
      (cutPuts code) code :=
    cuts_cut (fun h => ⟨(putsCall?_eq_some h).1, (putsCall?_eq_some h).2,
      lineFeed_not_mem_of_putsCall? h⟩) [] 0 code
  exact hcuts.lineShape_paste _ fun h => lineShape_putsText h.1 h.2

end Passes

open Text Passes

theorem lineShape_correct_nil (code : List Char) :
    lineShape (correct [] code) = lineShape code := by
  have htable : Table.apply [] code = code := rfl
  rw [correct, htable, lineShape_stringifyPuts, lineShape_increments, lineShape_passAllReferences,
    lineShape_markCallable, lineShape_floorCalls]

/-- **The passes behind the table keep the lines of a text.** Without a table, the corrected text
has as many line feeds as the text, and a line of it is blank exactly where the line of the text
is. -/
theorem correct_nil_keeps_lines (code : List Char) :
    (correct [] code).count '\n' = code.count '\n' ∧
      ∀ k : Nat, ((splitLines (correct [] code))[k]?).map isBlankText =
        ((splitLines code)[k]?).map isBlankText := by
  have hshape := lineShape_correct_nil code
  constructor
  · have hlength := congrArg List.length hshape
    simpa [lineShape, splitLines, length_splitOn] using hlength
  · intro k
    rw [← List.getElem?_map, ← List.getElem?_map]
    exact congrArg (·[k]?) hshape

end EstreeEmitter
