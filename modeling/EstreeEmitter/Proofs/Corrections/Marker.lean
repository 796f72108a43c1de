import EstreeEmitter.Corrections.Default
import EstreeEmitter.Emit
import EstreeEmitter.Passes.Pipeline
import EstreeEmitter.Proofs.Pattern.Fits

set_option autoImplicit false

/-! # The correction that removes markers

The first correction of the table for Ruby removes the marker lines that stand for dropped
constructs. `markerLength?` says what its pattern covers at the start of a line, without places and
backtracking (`matchAt?_markerPattern`), so the correction as a whole is `withoutMarkers`. What is
covered ends with its line at the latest; therefore whole lines can be corrected on their own
(`withoutMarkers_append`). All other corrections and passes see the text without markers
(`exists_correct_eq`). -/

namespace EstreeEmitter

open Text Pattern

deriving instance DecidableEq for Pattern

/-! ## The pattern -/

/-- Letters one after the other, in any case, and then a pattern. -/
def Pattern.word (codes : List Nat) (next : Pattern) : Pattern :=
  codes.foldr (fun n p => .seq (.char false n .simple) p) next

/-- Spaces and tabs. -/
def indentBlanks : CharSet := ⟨false, [.code 32, .code 9], .simple, false⟩

/-- The letters of the marker. -/
def markerCodes : List Nat := deleteMarker.toList.map Char.toNat

theorem markerCodes_eq : markerCodes = 64 :: "DELETE@".toList.map Char.toNat := rfl

/-- Blanks at the start of a line, the marker, and the end of the line if it comes next. -/
def markerPattern : Pattern :=
  .seq (.anchor .lineStart) (.seq (.rep .greedy 0 none (.set indentBlanks))
    (.word markerCodes (.rep .greedy 0 (some 1) (.char false 10 .simple))))

/-- The first correction of the table for Ruby removes what the pattern covers. -/
theorem ruby_head : Table.ruby.head?.map (fun c => (c.pattern, c.template)) =
    some (markerPattern, []) := by
  decide +kernel

/-! ## What the pattern covers -/

/-- The character is the letter of a code point, in any case. -/
def isLetter (n : Nat) (c : Char) : Bool := Folding.simple.same n c.toNat

/-- The number of characters that letters cover at the start of a text, with a line feed behind
them. -/
def wordLength? : List Nat → List Char → Option Nat
  | [], cs => some (if cs.head?.any (isLetter 10) then 1 else 0)
  | _ :: _, [] => none
  | n :: codes, c :: cs => if isLetter n c then (wordLength? codes cs).map (· + 1) else none

/-- The number of characters that the marker covers at the start of a line. -/
def markerLength? : List Char → Option Nat
  | [] => none
  | c :: cs =>
    if indentBlanks.contains c then (markerLength? cs).map (· + 1)
    else wordLength? markerCodes (c :: cs)

/-- The place a number of characters further on. -/
def Pattern.Cursor.skip (k : Cursor) (n : Nat) : Cursor :=
  ⟨k.place + n, (k.after.take n).reverse ++ k.before, k.after.drop n⟩

theorem Pattern.Cursor.skip_cons (place : Nat) (before : List Char) (c : Char) (cs : List Char)
    (n : Nat) : Cursor.skip ⟨place, before, c :: cs⟩ (n + 1) =
      Cursor.skip ⟨place + 1, c :: before, cs⟩ n := by
  simp [Cursor.skip, Nat.add_comm, Nat.add_left_comm]

/-! ## Matching -/

theorem run_letter (n : Nat) (p : Pattern) (place : Nat) (before : List Char) (c : Char)
    (cs : List Char) (captures : Captures) (continue_ : Continuation) :
    run (.seq (.char false n .simple) p) ⟨place, before, c :: cs⟩ captures continue_ =
      if isLetter n c then run p ⟨place + 1, c :: before, cs⟩ captures continue_ else none := by
  simp only [run, Cursor.next?, Bool.bne_false]
  rfl

theorem run_set (s : CharSet) (place : Nat) (before : List Char) (c : Char) (cs : List Char)
    (captures : Captures) (continue_ : Continuation) :
    run (.set s) ⟨place, before, c :: cs⟩ captures continue_ =
      if s.contains c then continue_ ⟨place + 1, c :: before, cs⟩ captures else none := by
  simp only [run, Cursor.next?]

/-- A line feed is taken where there is one, since all that follows fits. -/
theorem run_lineFeed {k : Cursor} {captures : Captures} {continue_ : Continuation}
    (hc : ∀ l : Cursor, k.place ≤ l.place → continue_ l captures = some (l, captures)) :
    run (.rep .greedy 0 (some 1) (.char false 10 .simple)) k captures continue_ =
      some (k.skip (if k.after.head?.any (isLetter 10) then 1 else 0), captures) := by
  obtain ⟨place, before, after⟩ := k
  cases after with
  | nil =>
      have h := hc ⟨place, before, []⟩ (Nat.le_refl _)
      simp [run, iterate, Cursor.next?, Cursor.skip, h]
  | cons c cs =>
      cases hl : isLetter 10 c with
      | true =>
          have hs : Folding.simple.same 10 c.toNat = true := hl
          have h := hc ⟨place + 1, c :: before, cs⟩ (Nat.le_succ _)
          simp [run, iterate, Cursor.next?, Cursor.skip, hl, hs, h]
      | false =>
          have hs : Folding.simple.same 10 c.toNat = false := hl
          have h := hc ⟨place, before, c :: cs⟩ (Nat.le_refl _)
          simp [run, iterate, Cursor.next?, Cursor.skip, hl, hs, h]

theorem run_word (codes : List Nat) {k : Cursor} {captures : Captures} {continue_ : Continuation}
    (hc : ∀ l : Cursor, k.place + codes.length ≤ l.place →
      continue_ l captures = some (l, captures)) :
    run (.word codes (.rep .greedy 0 (some 1) (.char false 10 .simple))) k captures continue_ =
      (wordLength? codes k.after).map fun n => (k.skip n, captures) := by
  induction codes generalizing k with
  | nil => exact run_lineFeed hc
  | cons n codes ih =>
      obtain ⟨place, before, after⟩ := k
      cases after with
      | nil => rfl
      | cons c cs =>
          have hrest := ih (k := ⟨place + 1, c :: before, cs⟩) fun l hl =>
            hc l (by simp only [List.length_cons] at hl ⊢; omega)
          show run (.seq (.char false n .simple) (.word codes _)) _ captures continue_ = _
          rw [run_letter, wordLength?]
          by_cases hl : isLetter n c = true
          · rw [if_pos hl, if_pos hl, Option.map_map]
            refine hrest.trans (congrArg (Option.map · _) (funext fun m => ?_))
            exact congrArg (·, captures) (Cursor.skip_cons place before c cs m).symm
          · rw [if_neg hl, if_neg hl]
            rfl

/-- Letters of which no form is shared. -/
theorem isLetter_eq_false {m n : Nat}
    (h : (lowerClass (lowerCode m)).all (!(lowerClass (lowerCode n)).contains ·) = true) {c : Char}
    (hc : isLetter m c = true) : isLetter n c = false := by
  have hm : lowerCode c.toNat ∈ lowerClass (lowerCode m) := List.contains_iff_mem.mp hc
  have hn := List.all_eq_true.mp h _ hm
  rw [Bool.not_eq_true'] at hn
  exact hn

theorem isLetter_of_indentBlanks {c : Char} (h : indentBlanks.contains c = true) :
    isLetter 32 c = true ∨ isLetter 9 c = true := by
  simpa [indentBlanks, CharSet.contains, CharItem.contains, basicLimit, isLetter] using h

/-- The marker does not start with a blank. -/
theorem wordLength?_of_indentBlanks {c : Char} (h : indentBlanks.contains c = true)
    (cs : List Char) : wordLength? markerCodes (c :: cs) = none := by
  have hc : isLetter 64 c = false := by
    rcases isLetter_of_indentBlanks h with h | h
    · exact isLetter_eq_false (by decide +kernel) h
    · exact isLetter_eq_false (by decide +kernel) h
  rw [markerCodes_eq, wordLength?, hc]
  rfl

/-- A further blank is taken if what follows it fits; else the repetition ends here. -/
theorem iterate_indentBlanks_succ (fuel count : Nat) {last : Option Nat} {place : Nat}
    (hl : ∀ p, last = some p → p < place) (before after : List Char) (captures : Captures)
    (continue_ : Continuation) :
    iterate (run (.set indentBlanks)) false 0 none (fuel + 1) count last ⟨place, before, after⟩
        captures continue_ =
      (run (.set indentBlanks) ⟨place, before, after⟩ captures fun k' captures' =>
        iterate (run (.set indentBlanks)) false 0 none fuel (count + 1) (some place) k' captures'
          continue_).or (continue_ ⟨place, before, after⟩ captures) := by
  have hne : last ≠ some place := fun h => Nat.lt_irrefl place (hl place h)
  rw [iterate]
  simp only [Nat.not_lt_zero, if_false, Option.all_none, Bool.true_and, bne_iff_ne, ne_eq, hne,
    not_false_eq_true, if_true, Bool.false_eq_true]
  cases run (.set indentBlanks) ⟨place, before, after⟩ captures _ <;> rfl

/-- All blanks are taken: with fewer of them the marker would have to start with a blank. -/
theorem iterate_indentBlanks {captures : Captures} {continue_ : Continuation} {start : Nat}
    (hc : ∀ k : Cursor, start ≤ k.place → continue_ k captures =
      (wordLength? markerCodes k.after).map fun n => (k.skip n, captures)) (after : List Char) :
    ∀ {place : Nat} {before : List Char} {fuel count : Nat} {last : Option Nat},
      start ≤ place → after.length < fuel → (∀ p, last = some p → p < place) →
      iterate (run (.set indentBlanks)) false 0 none fuel count last ⟨place, before, after⟩
        captures continue_ =
      (markerLength? after).map fun n => (Cursor.skip ⟨place, before, after⟩ n, captures) := by
  induction after with
  | nil =>
      intro place before fuel count last hp hf hl
      obtain ⟨fuel, rfl⟩ := Nat.exists_eq_succ_of_ne_zero (Nat.ne_of_gt hf)
      rw [iterate_indentBlanks_succ fuel count hl]
      exact hc _ hp
  | cons c cs ih =>
      intro place before fuel count last hp hf hl
      obtain ⟨fuel, rfl⟩ := Nat.exists_eq_succ_of_ne_zero (Nat.ne_of_gt (Nat.zero_lt_of_lt hf))
      rw [iterate_indentBlanks_succ fuel count hl, hc _ hp, markerLength?, run_set]
      by_cases hb : indentBlanks.contains c = true
      · have hlast : ∀ p, some place = some p → p < place + 1 := fun p h => by
          cases h
          exact Nat.lt_succ_self place
        rw [if_pos hb, if_pos hb, ih (Nat.le_succ_of_le hp) (Nat.lt_of_succ_lt_succ hf) hlast,
          wordLength?_of_indentBlanks hb, Option.map_none, Option.or_none, Option.map_map]
        refine congrArg (Option.map · _) (funext fun n => ?_)
        exact congrArg (·, captures) (Cursor.skip_cons place before c cs n).symm
      · rw [if_neg hb, if_neg hb]
        rfl

theorem wordLength?_le (codes : List Nat) {cs : List Char} {n : Nat}
    (h : wordLength? codes cs = some n) : codes.length ≤ n ∧ n ≤ cs.length := by
  induction codes generalizing cs n with
  | nil =>
      cases cs with
      | nil => cases h; exact ⟨Nat.le_refl _, Nat.le_refl _⟩
      | cons c cs =>
          simp only [wordLength?, Option.some.injEq] at h
          rw [← h]
          split <;> simp
  | cons m codes ih =>
      cases cs with
      | nil => cases h
      | cons c cs =>
          rw [wordLength?] at h
          obtain ⟨-, h⟩ := Option.ite_none_right_eq_some.mp h
          obtain ⟨n, hn, rfl⟩ := Option.map_eq_some_iff.mp h
          have hle := ih hn
          simp only [List.length_cons]
          omega

/-- The marker covers something, and no more than there is. -/
theorem markerLength?_le {cs : List Char} {n : Nat} (h : markerLength? cs = some n) :
    1 ≤ n ∧ n ≤ cs.length := by
  induction cs generalizing n with
  | nil => cases h
  | cons c cs ih =>
      rw [markerLength?] at h
      split at h
      · obtain ⟨n, hn, rfl⟩ := Option.map_eq_some_iff.mp h
        have hle := ih hn
        simp only [List.length_cons]
        omega
      · obtain ⟨hlow, hhigh⟩ := wordLength?_le markerCodes h
        exact ⟨Nat.le_trans (by decide) hlow, hhigh⟩

/-- What the marker covers at a place, if it stands there. -/
def markerAt? (atStart : Bool) (after : List Char) : Option Nat :=
  if atStart then markerLength? after else none

theorem markerAt?_le {atStart : Bool} {cs : List Char} {n : Nat}
    (h : markerAt? atStart cs = some n) : 1 ≤ n ∧ n ≤ cs.length :=
  markerLength?_le (Option.ite_none_right_eq_some.mp h).2

/-- The place behind these characters is at the start of a line. -/
def startsLine (before : List Char) : Bool := before.head?.all (· == '\n')

theorem run_markerPattern {place : Nat} {continue_ : Continuation}
    (hc : ∀ l : Cursor, place < l.place → continue_ l [] = some (l, []))
    (before after : List Char) :
    run markerPattern ⟨place, before, after⟩ [] continue_ =
      (markerAt? (startsLine before) after).map fun n =>
        (Cursor.skip ⟨place, before, after⟩ n, []) := by
  have hword : ∀ k : Cursor, place ≤ k.place →
      run (.word markerCodes (.rep .greedy 0 (some 1) (.char false 10 .simple))) k [] continue_ =
        (wordLength? markerCodes k.after).map fun n => (k.skip n, []) := fun k hk =>
    run_word markerCodes fun l hl => hc l <| by
      have hm : 0 < markerCodes.length := by decide
      omega
  have hblanks : run (.seq (.rep .greedy 0 none (.set indentBlanks))
        (.word markerCodes (.rep .greedy 0 (some 1) (.char false 10 .simple))))
      ⟨place, before, after⟩ [] continue_ =
        (markerLength? after).map fun n => (Cursor.skip ⟨place, before, after⟩ n, []) := by
    have hf : after.length < 0 + after.length + 2 := by omega
    exact iterate_indentBlanks hword after (Nat.le_refl place) hf nofun
  have hstart : Cursor.satisfies ⟨place, before, after⟩ .lineStart = startsLine before := rfl
  unfold markerPattern
  rw [run, run, hstart]
  cases startsLine before with
  | false => rfl
  | true => exact hblanks

/-- **What the pattern of the marker covers.** -/
theorem matchAt?_markerPattern (nonEmpty : Bool) (place : Nat) (before after : List Char) :
    matchAt? markerPattern nonEmpty ⟨place, before, after⟩ =
      (markerAt? (startsLine before) after).map fun n => ⟨after.take n, []⟩ := by
  have hc : ∀ l : Cursor, place < l.place →
      (if nonEmpty && l.place == place then none else some (l, [])) = some (l, ([] : Captures)) :=
    fun l hl => by simp [Nat.ne_of_gt hl]
  unfold matchAt?
  rw [run_markerPattern hc, Option.map_map]
  cases hm : markerAt? (startsLine before) after with
  | none => rfl
  | some n =>
      have hp : Cursor.Passes ⟨place, before, after⟩ (after.take n)
          (Cursor.skip ⟨place, before, after⟩ n) :=
        ⟨(List.take_append_drop n after).symm, rfl, by
          rw [List.length_take, Nat.min_eq_left (markerAt?_le hm).2]
          rfl⟩
      exact congrArg (fun text => some (Match.mk text [])) hp.textSince

/-! ## The correction -/

/-- The text without what markers cover. `atStart` says whether the text starts a line; `skip`
characters belong to a marker already found. -/
def withoutMarkers : Bool → Nat → List Char → List Char
  | _, _, [] => []
  | _, skip + 1, c :: cs => withoutMarkers (c == '\n') skip cs
  | atStart, 0, c :: cs =>
    match markerAt? atStart (c :: cs) with
    | some n => withoutMarkers (c == '\n') (n - 1) cs
    | none => c :: withoutMarkers (c == '\n') 0 cs

/-- An edit that removes every match leaves the text without markers. -/
theorem paste_cutMatches {write : Match → List Char} (hw : ∀ m, write m = []) (place : Nat)
    (before : List Char) (skip : Nat) (code : List Char) :
    paste write (cutMatches markerPattern place before skip code) =
      withoutMarkers (startsLine before) skip code := by
  induction code generalizing place before skip with
  | nil =>
      have hm : matchAt? markerPattern false ⟨place, before, []⟩ = none := by
        rw [matchAt?_markerPattern, markerAt?, markerLength?, ite_self, Option.map_none]
      rw [cutMatches, hm, withoutMarkers]
      rfl
  | cons c cs ih =>
      cases skip with
      | succ skip => exact ih (place + 1) (c :: before) skip
      | zero =>
          rw [cutMatches, withoutMarkers, matchAt?_markerPattern]
          cases hm : markerAt? (startsLine before) (c :: cs) with
          | none =>
              rw [Option.map_none, paste_cons, ih]
              rfl
          | some n =>
              obtain ⟨hlow, hhigh⟩ := markerAt?_le hm
              have hlen : ((c :: cs).take n).length = n := by
                rw [List.length_take, Nat.min_eq_left hhigh]
              have hne : ((c :: cs).take n).isEmpty = false := by
                obtain ⟨m, rfl⟩ := Nat.exists_eq_add_of_le' hlow
                rfl
              rw [Option.map_some]
              simp only [hne, hlen, Bool.false_eq_true, if_false]
              rw [paste_cons, ih]
              simp only [paste, hw, List.flatMap_cons, List.flatMap_nil, List.append_nil,
                List.nil_append]
              rfl

/-! ## Whole lines -/

/-- The text is made of whole lines. -/
def WholeLines (cs : List Char) : Prop := cs = [] ∨ cs.getLast? = some '\n'

theorem WholeLines.mem {c : Char} {cs : List Char} (h : WholeLines (c :: cs)) :
    '\n' ∈ c :: cs := by
  rcases h with h | h
  · cases h
  · exact List.mem_of_getLast? h

theorem WholeLines.tail {c : Char} {cs : List Char} (h : WholeLines (c :: cs)) :
    WholeLines cs ∧ (cs = [] → c = '\n') := by
  rcases h with h | h
  · cases h
  · cases cs with
    | nil => exact ⟨.inl rfl, fun _ => by simpa using h⟩
    | cons d ds => exact ⟨.inr (by simpa using h), nofun⟩

/-- Letters other than a line feed are found before the end of the line. -/
theorem wordLength?_append {codes : List Nat} (hcodes : ∀ n ∈ codes, isLetter n '\n' = false)
    {cs : List Char} (h : '\n' ∈ cs) (rest : List Char) :
    wordLength? codes (cs ++ rest) = wordLength? codes cs := by
  induction codes generalizing cs with
  | nil =>
      cases cs with
      | nil => cases h
      | cons c cs => rfl
  | cons n codes ih =>
      cases cs with
      | nil => cases h
      | cons c cs =>
          rw [List.cons_append, wordLength?, wordLength?]
          by_cases hl : isLetter n c = true
          · have hmem : '\n' ∈ cs := by
              refine (List.mem_cons.mp h).resolve_left fun hc => ?_
              rw [← hc, hcodes n List.mem_cons_self] at hl
              cases hl
            rw [ih (fun m hm => hcodes m (List.mem_cons_of_mem _ hm)) hmem]
          · rw [if_neg hl, if_neg hl]

theorem markerLength?_append {cs : List Char} (h : '\n' ∈ cs) (rest : List Char) :
    markerLength? (cs ++ rest) = markerLength? cs := by
  induction cs with
  | nil => cases h
  | cons c cs ih =>
      rw [List.cons_append, markerLength?, markerLength?]
      by_cases hb : indentBlanks.contains c = true
      · have hmem : '\n' ∈ cs := by
          refine (List.mem_cons.mp h).resolve_left fun hc => ?_
          rw [← hc, show indentBlanks.contains '\n' = false by decide +kernel] at hb
          cases hb
        rw [if_pos hb, if_pos hb, ih hmem]
      · rw [if_neg hb, if_neg hb, ← List.cons_append,
          wordLength?_append (by decide +kernel) h]

/-- **Markers are removed line by line.** Whole lines before a text do not change what is removed
from it, nor it what is removed from them. -/
theorem withoutMarkers_append {cs : List Char} (h : WholeLines cs) (rest : List Char) :
    ∀ {atStart : Bool} {skip : Nat}, skip ≤ cs.length → (cs = [] → atStart = true) →
      withoutMarkers atStart skip (cs ++ rest) =
        withoutMarkers atStart skip cs ++ withoutMarkers true 0 rest := by
  induction cs with
  | nil =>
      intro atStart skip hskip hstart
      obtain rfl := Nat.le_zero.mp hskip
      rw [hstart rfl, withoutMarkers]
      rfl
  | cons c cs ih =>
      intro atStart skip hskip _
      obtain ⟨hcs, hlast⟩ := h.tail
      have hstart : cs = [] → (c == '\n') = true := fun he => beq_iff_eq.mpr (hlast he)
      cases skip with
      | succ skip => exact ih hcs (Nat.le_of_succ_le_succ hskip) hstart
      | zero =>
          have hm : markerAt? atStart (c :: cs ++ rest) = markerAt? atStart (c :: cs) := by
            rw [markerAt?, markerLength?_append h.mem, markerAt?]
          rw [List.cons_append] at hm ⊢
          rw [withoutMarkers, withoutMarkers, hm]
          cases hn : markerAt? atStart (c :: cs) with
          | none => exact congrArg (c :: ·) (ih hcs (Nat.zero_le _) hstart)
          | some n =>
              have hle : n - 1 ≤ cs.length := Nat.sub_le_of_le_add (markerAt?_le hn).2
              exact ih hcs hle hstart

/-! ## The table for Ruby -/

/-- All passes see the text without markers. -/
theorem exists_correct_eq :
    ∃ later : List Char → List Char, ∀ code,
      correct Table.ruby code = later (withoutMarkers true 0 code) := by
  obtain ⟨c, rest, hr, hp, ht⟩ : ∃ c rest, Table.ruby = c :: rest ∧ c.pattern = markerPattern ∧
      c.template = [] := by
    have h := ruby_head
    cases hr : Table.ruby with
    | nil =>
        rw [hr] at h
        cases h
    | cons c rest =>
        rw [hr] at h
        have hc : (c.pattern, c.template) = (markerPattern, []) := Option.some.inj h
        exact ⟨c, rest, rfl, congrArg Prod.fst hc, congrArg Prod.snd hc⟩
  have happly : ∀ code, c.apply code = withoutMarkers true 0 code := fun code => by
    rw [Correction.apply, Correction.stretches, Pattern.stretches, hp, ht]
    exact paste_cutMatches (fun _ => rfl) 0 [] 0 code
  refine ⟨correct rest, fun code => ?_⟩
  rw [← happly, hr]
  rfl

end EstreeEmitter
