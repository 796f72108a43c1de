import EstreeEmitter.Proofs.Passes.FloorAtOnce
import EstreeEmitter.Proofs.Passes.FloorText
import EstreeEmitter.Proofs.Passes.StepOperands

set_option autoImplicit false

/-! # Floor calls on lines with increments

Floor calls are edited before increments are written out. On a line with one increment that is
written out, and on a line without any, the order makes no difference
(`SteppedLine.increments_floorCalls`): the edit of floor calls keeps apart the signs that were apart
(`Floors.doubled`), and what ends in an operand still does (`EndsOperand.floorCalls`). So it makes
none in a text of such lines (`increments_floorCalls_joinWith`). -/

namespace EstreeEmitter.Passes

open Text

/-! ## What the edit of floor calls keeps -/

namespace Floors

variable {cs ds : List Char}

/-- Every character was there before or belongs to a method call. -/
theorem mem (h : Floors cs ds) {c : Char} (hc : c ∈ ds) : c ∈ cs ∨ c ∈ floorTail := by
  induction h with
  | nil => cases hc
  | cons d h ih =>
      rcases List.mem_cons.mp hc with rfl | hc
      · exact .inl List.mem_cons_self
      · exact (ih hc).imp_left (List.mem_cons_of_mem d)
  | @call rest inner behind h ih =>
      have hrest : c ∈ rest → c ∈ floorHead ++ rest := List.mem_append_right floorHead
      rcases List.mem_cons.mp hc with rfl | hc
      · exact .inl (List.mem_append_left _ (by decide))
      · rcases List.mem_append.mp hc with hc | hc
        · exact (ih (List.mem_append_left _ hc)).imp_left hrest
        · rcases List.mem_append.mp hc with hc | hc
          · exact .inr hc
          · exact (ih (by simp [hc])).imp_left hrest

/-- What holds of all characters still does, if it holds of those of a method call. -/
theorem all {p : Char → Bool} (h : Floors cs ds) (hcs : cs.all p = true)
    (ht : floorTail.all p = true) : ds.all p = true :=
  List.all_eq_true.mpr fun c hc =>
    (h.mem hc).elim (List.all_eq_true.mp hcs c) (List.all_eq_true.mp ht c)

theorem ne_nil (h : Floors cs ds) (hne : cs ≠ []) : ds ≠ [] := by
  cases h with
  | nil => exact hne
  | cons => simp
  | call => simp

/-- A sign that is doubled was doubled before. -/
theorem doubled {sign : Char} (h : Floors cs ds) (hs : IsSign sign) (hd : Doubled sign ds) :
    Doubled sign cs := by
  have hopen : '(' ≠ sign := by rcases hs with rfl | rfl <;> decide
  have hclose : ')' ≠ sign := by rcases hs with rfl | rfl <;> decide
  have hmethod : sign ∉ ".floor".toList := by rcases hs with rfl | rfl <;> decide
  induction h with
  | nil => exact hd
  | @cons c cs ds h ih =>
      rcases List.infix_cons_iff.mp hd with hp | hp
      · -- the second sign is the first character behind, and no edited call starts with a sign
        obtain ⟨rfl, rest, hrest⟩ := List.cons_prefix_cons.mp hp
        cases h with
        | nil => cases hrest
        | cons =>
            obtain ⟨rfl, -⟩ := List.cons.inj hrest
            exact doubled_iff.mpr ⟨[], _, rfl⟩
        | call => exact absurd (List.cons.inj hrest).1.symm hopen
      · exact (ih hp).append_left [c]
  | @call rest inner behind h ih =>
      have hsplit : '(' :: (inner ++ (floorTail ++ behind)) =
          '(' :: (inner ++ ')' :: (".floor".toList ++ behind)) := rfl
      rw [hsplit, doubled_cons hopen, doubled_append_cons hclose,
        doubled_append_of_not_mem hmethod] at hd
      exact (ih ((doubled_append_cons hclose).mpr hd)).append_left floorHead

theorem stepless (h : Floors cs ds) (hs : Stepless cs) : Stepless ds :=
  ⟨fun hd => hs.1 (h.doubled (.inl rfl) hd), fun hd => hs.2 (h.doubled (.inr rfl) hd)⟩

theorem isStill (h : Floors cs ds) (hs : IsStill cs) : IsStill ds := by
  refine ⟨fun hm => ?_, (h.stepless hs.stepless).1, (h.stepless hs.stepless).2⟩
  rcases h.mem hm with hm | hm
  · exact hs.oneLine hm
  · exact absurd hm (by decide)

theorem exists_cons {c : Char} (h : Floors (c :: cs) ds) (hc : c ≠ 'M') :
    ∃ ds', ds = c :: ds' ∧ Floors cs ds' := by
  generalize htext : c :: cs = text at h
  cases h with
  | nil => cases htext
  | cons d h =>
      cases htext
      exact ⟨_, rfl, h⟩
  | call h => exact absurd (List.cons.inj htext).1 hc

/-- A backslash at the end was there before. -/
theorem getLast?_backslash (h : Floors cs ds) (hd : ds.getLast? = some '\\') :
    cs.getLast? = some '\\' := by
  induction h with
  | nil => exact hd
  | @cons c cs ds h ih =>
      by_cases hcs : cs = []
      · subst hcs
        cases h
        exact hd
      · rw [List.getLast?_cons_of_ne_nil (h.ne_nil hcs)] at hd
        rw [List.getLast?_cons_of_ne_nil hcs, ih hd]
  | @call rest inner behind h ih =>
      rw [← List.append_assoc, ← List.cons_append] at hd
      cases behind with
      | nil =>
          -- the text ends in the method call
          have htail : floorTail.getLast? = some 'r' := by decide
          rw [List.append_nil, ← List.cons_append, List.getLast?_append, htail] at hd
          exact absurd (Option.some.inj hd) (by decide)
      | cons d behind =>
          rw [List.getLast?_append_cons] at hd
          rw [List.getLast?_append, ih (by rwa [List.getLast?_append_cons])]
          rfl

/-- An index with its word before it does not reach into the head of a call. -/
theorem exists_behind_floorHead {front rest t : List Char} {c : Char} (hc : c ≠ '(')
    (h : front ++ c :: '[' :: t = floorHead ++ rest) :
    ∃ before, before ++ c :: '[' :: t = rest := by
  have hopen : floorHead.getLast? = some '(' := by decide
  have hbracket : '[' ∉ floorHead := by decide
  rcases List.append_eq_append_iff.mp h with ⟨more, hhead, hmore⟩ | ⟨more, -, hmore⟩
  · cases more with
    | nil => exact ⟨[], hmore⟩
    | cons d more =>
        obtain ⟨rfl, hrest⟩ := List.cons.inj hmore
        cases more with
        | nil =>
            rw [hhead, List.getLast?_concat] at hopen
            exact absurd (Option.some.inj hopen) hc
        | cons e more =>
            obtain ⟨rfl, -⟩ := List.cons.inj hrest
            exact absurd (by rw [hhead]; simp) hbracket
  · exact ⟨more, hmore.symm⟩

/-- A parenthesis that closes a call stands before an index with its word, or in it. -/
theorem cases_of_close {inner behind front t : List Char} {c : Char} (hc : c ≠ ')')
    (h : inner ++ ')' :: behind = front ++ c :: '[' :: t) :
    (∃ more, behind = more ++ c :: '[' :: t) ∨
      ∃ more, inner = front ++ c :: '[' :: more ∧ t = more ++ ')' :: behind := by
  rcases List.append_eq_append_iff.mp h with ⟨more, -, hmore⟩ | ⟨more, hinner, hmore⟩
  · cases more with
    | nil => exact absurd (List.cons.inj hmore).1.symm hc
    | cons d more => exact .inl ⟨more, (List.cons.inj hmore).2⟩
  · cases more with
    | nil => exact absurd (List.cons.inj hmore).1 hc
    | cons d more =>
        obtain ⟨rfl, hrest⟩ := List.cons.inj hmore
        cases more with
        | nil => exact absurd (List.cons.inj hrest).1 (by decide)
        | cons e more =>
            obtain ⟨rfl, ht⟩ := List.cons.inj hrest
            exact .inr ⟨more, hinner, ht⟩

/-- A text that ends in an index behind a word still does. -/
theorem endsIndex {front t : List Char} {c : Char} (h : Floors (front ++ c :: '[' :: t) ds)
    (hc : isWord c = true) (hne : t ≠ []) (ht : t.all isIndexChar = true) :
    ∃ front' t', ds = front' ++ c :: '[' :: t' ∧ t' ≠ [] ∧ t'.all isIndexChar = true := by
  have hopen : c ≠ '(' := by rintro rfl; exact absurd hc (by decide)
  have hclose : c ≠ ')' := by rintro rfl; exact absurd hc (by decide)
  generalize htext : front ++ c :: '[' :: t = text at h
  induction h generalizing front with
  | nil => exact absurd htext (List.append_ne_nil_of_right_ne_nil _ (List.cons_ne_nil _ _))
  | @cons d cs ds h ih =>
      cases front with
      | nil =>
          obtain ⟨rfl, rfl⟩ := List.cons.inj htext
          obtain ⟨t', rfl, ht'⟩ := h.exists_cons (by decide)
          exact ⟨[], t', rfl, ht'.ne_nil hne, ht'.all ht (by decide)⟩
      | cons e front =>
          obtain ⟨rfl, hrest⟩ := List.cons.inj htext
          obtain ⟨front', t', rfl, ht'⟩ := ih hrest
          exact ⟨e :: front', t', rfl, ht'⟩
  | @call rest inner behind h ih =>
      obtain ⟨before, hrest⟩ := exists_behind_floorHead hopen htext
      obtain ⟨front', t', hsplit, hne', hall⟩ := ih hrest
      rcases cases_of_close hclose hsplit with ⟨more, rfl⟩ | ⟨more, rfl, rfl⟩
      · exact ⟨'(' :: (inner ++ (floorTail ++ more)), t', by simp, hne', hall⟩
      · have htail : floorTail ++ behind ≠ [] :=
          List.append_ne_nil_of_left_ne_nil (by decide) behind
        refine ⟨'(' :: front', more ++ (floorTail ++ behind), by simp,
          List.append_ne_nil_of_right_ne_nil more htail, ?_⟩
        rw [List.all_append, List.all_cons, Bool.and_eq_true, Bool.and_eq_true] at hall
        rw [List.all_append, List.all_append, hall.1, hall.2.2]
        decide

end Floors

/-! ## Texts edited apart -/

theorem closingFrom_eq_none {cs : List Char} (h : ')' ∉ cs) (depth : Nat) (quote : Option Char) :
    closingFrom depth quote cs = none := by
  cases hclose : closingFrom depth quote cs with
  | none => rfl
  | some i => exact absurd (List.mem_of_getElem? (getElem?_of_closingFrom hclose)) h

theorem getLast?_of_cons {c d : Char} {cs : List Char} (h : cs.getLast? = some d) :
    (c :: cs).getLast? = some d := by
  rw [List.getLast?_cons, h]
  rfl

/-- Where the scan finds nothing behind a text, it makes no difference what stands there. A
backslash at the end of the text hides the next character. -/
theorem closingFrom_append_of_none {cs rest : List Char}
    (hrest : ∀ depth quote, closingFrom depth quote rest = none)
    (hhide : cs.getLast? = some '\\' → ∀ depth quote, closingFrom depth quote (rest.drop 1) = none)
    (depth : Nat) (quote : Option Char) :
    closingFrom depth quote (cs ++ rest) = closingFrom depth quote cs := by
  induction hlen : cs.length using Nat.strongRecOn generalizing cs depth quote with
  | _ length ih =>
      cases cs with
      | nil => exact hrest depth quote
      | cons c cs =>
          rw [List.cons_append, closingFrom_cons, closingFrom_cons]
          cases hstep : scanStep depth quote c with
          | stop => rfl
          | close => rfl
          | next depth' quote' =>
              dsimp only
              rw [ih cs.length (by simp [← hlen]) (fun hl => hhide (getLast?_of_cons hl)) _ _ rfl]
          | hide =>
              dsimp only
              cases cs with
              | nil =>
                  -- the first character of `rest` is the hidden one
                  obtain ⟨rfl, -⟩ := eq_of_scanStep_hide hstep
                  rw [List.nil_append, hhide rfl]
                  rfl
              | cons d cs =>
                  have hshort : cs.length < length := by
                    rw [← hlen, List.length_cons, List.length_cons]
                    omega
                  rw [List.cons_append, List.drop_one, List.drop_one, List.tail_cons,
                    List.tail_cons, ih cs.length hshort
                      (fun hl => hhide (getLast?_of_cons (getLast?_of_cons hl))) _ _ rfl]

/-- What stands behind a text and has no parentheses is left alone. -/
theorem floorCalls_append_of_all {rest : List Char} (h : rest.all isOrdinary = true)
    (cs : List Char) : floorCalls (cs ++ rest) = floorCalls cs ++ rest := by
  have hclose : ')' ∉ rest := fun hm => absurd (List.all_eq_true.mp h _ hm) (by decide)
  have hsame : floorCalls rest = rest := floorCalls_of_not_mem (not_mem_open_of_all h)
  rw [(apart_of_all h cs).floorCalls_append, hsame]
  intro behind _
  rw [hsame]
  exact closingFrom_append_of_none (closingFrom_eq_none hclose)
    (fun _ => closingFrom_eq_none fun hm => hclose (List.mem_of_mem_drop hm)) 0 none

theorem floorCalls_append_of_not_mem {front : List Char} (h : 'M' ∉ front) (cs : List Char) :
    floorCalls (front ++ cs) = front ++ floorCalls cs := by
  induction front with
  | nil => rfl
  | cons c front ih =>
      obtain ⟨hc, hfront⟩ := not_or.mp (mt List.mem_cons.mpr h)
      rw [List.cons_append, floorCalls_cons_of_ne (Ne.symm hc), ih hfront]
      rfl

/-- No floor call starts in a text without parentheses, if none reaches out of it. -/
theorem Apart.floorCalls_append_left {text rest : List Char} (ha : Apart text rest)
    (h : '(' ∉ text) : floorCalls (text ++ rest) = text ++ floorCalls rest := by
  induction text with
  | nil => rfl
  | cons c cs ih =>
      have hno : ¬floorHead <+: c :: (cs ++ rest) := fun hp =>
        h ((ha [] (c :: cs) rfl (by simp) hp).subset (by decide))
      have hcs : '(' ∉ cs := fun hm => h (List.mem_cons_of_mem c hm)
      rw [List.cons_append, floorCalls_cons hno, ih ha.of_cons hcs]
      rfl

/-- Lines are edited apart, unless a backslash at the end of the first one hides the line feed. -/
theorem floorCalls_lineFeed {cs : List Char} (h : cs.getLast? ≠ some '\\') (rest : List Char) :
    floorCalls (cs ++ '\n' :: rest) = floorCalls cs ++ '\n' :: floorCalls rest := by
  have hsame : floorCalls ('\n' :: rest) = '\n' :: floorCalls rest :=
    floorCalls_cons_of_ne (by decide) rest
  have hstop : ∀ depth quote, closingFrom depth quote ('\n' :: floorCalls rest) = none := by
    intro depth quote
    rw [closingFrom_cons]
    rfl
  rw [(apart_of_head (by decide) cs rest).floorCalls_append, hsame]
  intro behind hbehind
  rw [hsame]
  refine closingFrom_append_of_none hstop (fun hlast => absurd ?_ h) 0 none
  obtain ⟨front, rfl⟩ := hbehind
  rw [List.getLast?_append, (floors_floorCalls behind).getLast?_backslash hlast]
  rfl

theorem floorCalls_joinWith {lines : List (List Char)}
    (h : ∀ line ∈ lines.dropLast, line.getLast? ≠ some '\\') :
    floorCalls (joinWith ['\n'] lines) = joinWith ['\n'] (lines.map floorCalls) := by
  fun_induction joinWith ['\n'] lines with
  | case1 => rfl
  | case2 line => rfl
  | case3 line lines hne ih =>
      have hdrop : (line :: lines).dropLast = line :: lines.dropLast :=
        List.dropLast_cons_of_ne_nil hne
      rw [hdrop] at h
      rw [List.append_assoc, List.singleton_append,
        floorCalls_lineFeed (h line List.mem_cons_self),
        ih fun l hl => h l (List.mem_cons_of_mem line hl), List.map_cons,
        joinWith_cons _ _ (by simpa using hne), List.append_assoc, List.singleton_append]

/-! ## Lines with increments -/

/-- What ends in an operand of the edit still does. -/
theorem EndsOperand.floorCalls {cs : List Char} (h : EndsOperand cs) :
    EndsOperand (floorCalls cs) := by
  rcases eq_of_endsOperand h with ⟨front, c, rfl, hc⟩ | ⟨front, c, t, rfl, hc, hne, ht⟩
  · have hword : isOrdinary c = true := by
      refine isOrdinary_iff.mpr ⟨?_, ?_, ?_, ?_⟩
      · by_contra hq
        rcases isQuote_iff.mp (by simpa using hq) with rfl | rfl <;> exact absurd hc (by decide)
      all_goals
        rintro rfl
        exact absurd hc (by decide)
    rw [floorCalls_append_of_all (by simpa using hword)]
    exact ⟨_, _, rfl, .chain (isChain_singleton hc)⟩
  · -- a call may start before the index and close in it
    have hsplit : front ++ c :: '[' :: (t ++ [']']) = (front ++ c :: '[' :: t) ++ [']'] := by simp
    obtain ⟨front', t', hfloors, hne', ht'⟩ :=
      (floors_floorCalls (front ++ c :: '[' :: t)).endsIndex hc hne ht
    rw [hsplit, floorCalls_append_of_all (by decide), hfloors]
    exact ⟨front', [c] ++ '[' :: (t' ++ [']']), by simp,
      .indexed (isChain_singleton hc) hne' ht'⟩

/-- A line that ends in a doubled sign behind an operand. -/
theorem increments_floorCalls_trailing {sign : Char} {cs : List Char} (hs : IsSign sign)
    (hq : cs.all (!isQuote ·) = true) (h : IsStill cs) (he : EndsOperand cs) :
    increments (floorCalls (cs ++ [sign, sign])) = floorCalls (cs ++ stepText sign) := by
  have hfloors := floors_floorCalls cs
  have hend := he.floorCalls
  have hquotes : ∀ c ∈ floorCalls cs, isQuote c = false := fun c hc => by
    simpa using List.all_eq_true.mp (hfloors.all hq (by decide)) c hc
  have hlast : (floorCalls cs).getLast? ≠ some sign := by
    rcases eq_of_endsOperand hend with ⟨front, c, hc, hw⟩ | ⟨front, c, t, hc, -⟩
    · rw [hc, List.getLast?_concat]
      rintro hl
      obtain rfl := Option.some.inj hl
      rcases hs with rfl | rfl <;> exact absurd hw (by decide)
    · rw [hc, List.getLast?_append_cons, List.getLast?_cons_cons,
        getLast?_of_cons List.getLast?_concat]
      rcases hs with rfl | rfl <;> decide
  have hsigns : [sign, sign].all isOrdinary = true := by rcases hs with rfl | rfl <;> decide
  have hstep : (stepText sign).all isOrdinary = true := by rcases hs with rfl | rfl <;> decide
  rw [floorCalls_append_of_all hsigns, floorCalls_append_of_all hstep]
  exact (increments_trailing hs hquotes ⟨hfloors.isStill h, by decide, hlast, by simp⟩).1 hend

/-- An operand whose names are words has its floor calls in its index. -/
theorem StepOperand.Fits.floorCalls_text {x : StepOperand} (h : x.Fits)
    (hchain : x.chain.all isChainChar = true) (hflat : x.isFlat = true) :
    ∃ y : StepOperand, floorCalls x.text = y.text ∧ y.Fits ∧ y.chain = x.chain ∧
      y.isFlat = true := by
  have hopen : '(' ∉ x.chain := fun hm => absurd (List.all_eq_true.mp hchain _ hm) (by decide)
  cases hindex : x.index with
  | none =>
      refine ⟨x, ?_, h, rfl, hflat⟩
      rw [StepOperand.text_of_none hindex, floorCalls_of_not_mem hopen]
  | some t =>
      obtain ⟨hne, ht⟩ := h.index hindex
      have hall := ht.all_isIndexChar ((StepOperand.isFlat_iff_of_some hindex).mp hflat)
      have hfloors := floors_floorCalls t
      obtain ⟨hleft, hright, -⟩ := not_mem_of_all_isIndexChar (hfloors.all hall (by decide))
      refine ⟨⟨x.chain, some (floorCalls t)⟩, ?_, ⟨h.dotted, ?_⟩, rfl, ?_⟩
      · rw [StepOperand.text_of_some hindex, StepOperand.text_of_some rfl,
          (apart_of_head (by decide) _ _).floorCalls_append_left hopen,
          floorCalls_cons_of_ne (by decide), floorCalls_append_of_all (by decide)]
      · rintro t' ht'
        cases ht'
        exact ⟨hfloors.ne_nil hne, hfloors.isStill ht.still, hfloors.all ht.unquoted (by decide),
          isFollowed_of_not_mem hleft, isFollowed_of_not_mem (by simpa using hright)⟩
      · exact (StepOperand.isFlat_iff_of_some rfl).mpr hleft

/-- A step that the edit knows. -/
theorem Step.Fits.increments_floorCalls {s : Step} (h : s.Fits) {returning : Bool}
    (hk : s.isKnown returning = true) (level : Nat) :
    increments (floorCalls (stepMargin returning level ++ s.text)) =
      floorCalls (stepMargin returning level ++ (s.operand.text ++ stepText s.sign)) := by
  have hmargin := all_stepMargin (p := isGap) (by decide) returning level
  have hplain := all_stepMargin (p := (!isQuote ·)) (by decide) returning level
  have hletter : 'M' ∉ stepMargin returning level := fun hm =>
    absurd (List.all_eq_true.mp (all_stepMargin (p := (· != 'M')) (by decide) returning level) _ hm)
      (by decide)
  have htext := h.operand.isIndexText
  cases hlead : s.isLeading with
  | false =>
      simp only [Step.isKnown, hlead, Bool.and_eq_true] at hk
      have hend : EndsOperand (stepMargin returning level ++ s.operand.text) :=
        (h.operand.endsOperand_iff _).mpr ⟨hk.2, hk.1⟩
      have hquotes : (stepMargin returning level ++ s.operand.text).all (!isQuote ·) = true := by
        rw [List.all_append, hplain, htext.unquoted]
        rfl
      have hline := increments_floorCalls_trailing h.sign hquotes
        (isStill_append_of_gaps hmargin htext.still) hend
      rw [Step.text, if_neg (by simp [hlead]), ← List.append_assoc, ← List.append_assoc]
      exact hline
  | true =>
      simp only [Step.isKnown, hlead, if_true, Bool.and_eq_true] at hk
      -- the step is one with another index, and the edit knows it as well
      obtain ⟨y, hy, hfits, hchain, hflat⟩ := h.operand.floorCalls_text hk.2.2 hk.1
      have hknown : Step.isKnown returning ⟨s.sign, true, y⟩ = true := by
        simp only [Step.isKnown, hflat, hchain, hk.2.1, hk.2.2, if_true, Bool.and_self]
      have hstepped : Step.Fits ⟨s.sign, true, y⟩ := ⟨h.sign, hfits⟩
      have hline := hstepped.increments_line returning level
      rw [Step.editedText, if_pos hknown] at hline
      have hstep : (stepText s.sign).all isOrdinary = true := by
        rcases h.sign with hs | hs <;> rw [hs] <;> decide
      have hsign : 'M' ∉ [s.sign, s.sign] := by rcases h.sign with hs | hs <;> rw [hs] <;> decide
      have htext : s.text = [s.sign, s.sign] ++ s.operand.text := by
        rw [Step.text, if_pos hlead]
        rfl
      rw [htext, floorCalls_append_of_not_mem hletter, floorCalls_append_of_not_mem hsign,
        floorCalls_append_of_not_mem hletter, floorCalls_append_of_all hstep, hy]
      exact hline

/-- **On a line whose steps are all written out, floor calls may be edited before or after.** -/
theorem SteppedLine.increments_floorCalls {line : List Char} (h : SteppedLine line)
    (hs : Stepless (increments line)) :
    increments (floorCalls line) = floorCalls (increments line) := by
  cases h with
  | still h =>
      rw [increments_of_isStill h, increments_of_isStill ((floors_floorCalls line).isStill h)]
  | @step s h returning level =>
      rw [h.increments_line] at hs ⊢
      have hknown := (h.stepless_iff returning level).mp hs
      rw [Step.editedText, if_pos hknown, h.increments_floorCalls hknown]

/-- A line with its steps written out ends in a backslash only if it did before. -/
theorem SteppedLine.getLast?_backslash {line : List Char} (h : SteppedLine line)
    (hs : Stepless (increments line)) (hl : (increments line).getLast? = some '\\') :
    line.getLast? = some '\\' := by
  cases h with
  | still h => rwa [increments_of_isStill h] at hl
  | @step s h returning level =>
      -- the line ends in the number of the assignment
      rw [h.increments_line] at hs hl
      rw [Step.editedText, if_pos ((h.stepless_iff returning level).mp hs), ← List.append_assoc,
        List.getLast?_append] at hl
      cases hl

/-- The same for all lines of a text: the order of the two edits makes no difference. -/
theorem increments_floorCalls_joinWith {lines : List (List Char)}
    (h : ∀ line ∈ lines, SteppedLine line) (hs : ∀ line ∈ lines, Stepless (increments line))
    (hl : ∀ line ∈ lines.dropLast, line.getLast? ≠ some '\\') :
    increments (floorCalls (joinWith ['\n'] lines)) =
      floorCalls (increments (joinWith ['\n'] lines)) := by
  have hlast : ∀ line ∈ (lines.map increments).dropLast, line.getLast? ≠ some '\\' := by
    intro line hline hback
    rw [← List.map_dropLast] at hline
    obtain ⟨line, hm, rfl⟩ := List.mem_map.mp hline
    have hmem := List.mem_of_mem_dropLast hm
    exact hl line hm ((h line hmem).getLast?_backslash (hs line hmem) hback)
  rw [floorCalls_joinWith hl, increments_joinWith, increments_joinWith, floorCalls_joinWith hlast,
    List.map_map, List.map_map]
  refine congrArg (joinWith ['\n']) (List.map_congr_left fun line hm => ?_)
  rw [Function.comp_apply, Function.comp_apply, (h line hm).increments_floorCalls (hs line hm)]

end EstreeEmitter.Passes
