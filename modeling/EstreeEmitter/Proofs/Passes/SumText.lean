import EstreeEmitter.Passes.Puts
import EstreeEmitter.Proofs.Printer.Tidy
import EstreeEmitter.Proofs.Text.RubyLiteral
import EstreeEmitter.Text.Word
import Mathlib.Data.List.Induction
import Mathlib.Data.List.TakeWhile

set_option autoImplicit false

/-! # The text of a printed sum

A sum of names, integers and quoted texts is nested to the left, and every partial sum stands in
parentheses. What stands before the first quoted text is a sum of numbers and has to stay one; from
there on every operand is joined to a text. `sumText` is the text of a sum, `printedOperands` says
what its operands become, and `stringifyPuts_sumText` that the pass for printed sums does this,
however long the sum is and whatever the quoted texts hold. -/

namespace EstreeEmitter

open Passes Text

/-! ## Operands -/

/-- A character of a name or an integer. -/
def isQuiet (c : Char) : Bool := isWord c || c == '-'

/-- The text could be a name or an integer. -/
def isQuietText (cs : List Char) : Bool := !cs.isEmpty && cs.all isQuiet

/-- The text is a quoted one on one line. -/
def IsQuotedLine (cs : List Char) : Prop :=
  '\n' ∉ cs ∧ ∃ q body, cs = q :: (body ++ [q]) ∧ isQuote q = true ∧ QuotedBody q body

/-- An operand of a printed sum: a name or an integer, or a quoted text on one line. -/
inductive Summand where
  | number (cs : List Char) (h : isQuietText cs = true)
  | quoted (cs : List Char) (h : IsQuotedLine cs)

namespace Summand

/-- The text of an operand. -/
def text : Summand → List Char
  | .number cs _ => cs
  | .quoted cs _ => cs

/-- The operand is a quoted text. -/
def isText : Summand → Bool
  | .number .. => false
  | .quoted .. => true

/-- The operand as part of a text. -/
def printed : Summand → List Char
  | .number cs _ => '(' :: cs ++ ')' :: toText
  | .quoted cs _ => cs

end Summand

/-- The sign between two operands. -/
def plus : List Char := " + ".toList

/-- The text of a sum, nested to the left. -/
def sumText : List Summand → List Char
  | [] => []
  | [t] => t.text
  | t :: u :: ts =>
    ts.foldl (fun sum t => '(' :: sum ++ ')' :: plus ++ t.text) (t.text ++ plus ++ u.text)

/-- A sum as the first operand of another: an operation stands in parentheses. -/
def groupedSum (ts : List Summand) : List Char :=
  if ts.length ≤ 1 then sumText ts else '(' :: sumText ts ++ [')']

/-- What the numbers before the first quoted text become: they are added up first. -/
def leadingText : List Summand → List (List Char)
  | [] => []
  | [t] => ['(' :: t.text ++ ')' :: toText]
  | ts => ['(' :: '(' :: sumText ts ++ ')' :: ')' :: toText]

/-- The operands of a printed sum as texts. -/
def printedOperands (ts : List Summand) : List (List Char) :=
  leadingText (ts.takeWhile (!·.isText)) ++ (ts.dropWhile (!·.isText)).map Summand.printed

/-! ## Texts of sums -/

theorem sumText_concat {ts : List Summand} (h : ts ≠ []) (t : Summand) :
    sumText (ts ++ [t]) = groupedSum ts ++ plus ++ t.text := by
  obtain _ | ⟨r, _ | ⟨s, ts⟩⟩ := ts
  · exact absurd rfl h
  · rfl
  · have hlong : ¬(r :: s :: ts).length ≤ 1 := by simp
    rw [groupedSum, if_neg hlong]
    show (ts ++ [t]).foldl _ _ = _
    rw [List.foldl_append]
    simp [sumText]

theorem groupedSum_singleton (t : Summand) : groupedSum [t] = t.text := rfl

theorem groupedSum_of_lt {ts : List Summand} (h : 1 < ts.length) :
    groupedSum ts = '(' :: (sumText ts ++ [')']) := by
  rw [groupedSum, if_neg (by omega)]
  rfl

theorem leadingText_eq {ts : List Summand} (h : ts ≠ []) :
    leadingText ts = ['(' :: groupedSum ts ++ ')' :: toText] := by
  obtain _ | ⟨r, _ | ⟨s, ts⟩⟩ := ts
  · exact absurd rfl h
  · rfl
  · rw [groupedSum_of_lt (by simp)]
    simp [leadingText]

/-- What holds of all operands, and is kept by parentheses and by one more operand, holds of the
text of every sum. -/
theorem sumText_induction {P : List Char → Prop} (hterm : ∀ t : Summand, P t.text)
    (hgroup : ∀ cs, P cs → P ('(' :: (cs ++ [')'])))
    (hadd : ∀ cs, ∀ t : Summand, P cs → P (cs ++ plus ++ t.text)) {ts : List Summand}
    (h : ts ≠ []) : P (sumText ts) := by
  induction ts using List.reverseRecOn with
  | nil => exact absurd rfl h
  | append_singleton ts t ih =>
      by_cases hts : ts = []
      · subst hts
        exact hterm t
      · rw [sumText_concat hts]
        refine hadd _ t ?_
        unfold groupedSum
        split
        · exact ih hts
        · exact hgroup _ (ih hts)

/-! ## Texts that are not divided -/

/-- The split into operands passes over the text, inside `depth` brackets. -/
def Undivided (depth : Int) (cs : List Char) : Prop :=
  ∀ rest, splitFrom depth none (cs ++ rest) = cs.foldr consFirst (splitFrom depth none rest)

theorem Undivided.append {depth : Int} {cs ds : List Char} (h : Undivided depth cs)
    (h' : Undivided depth ds) : Undivided depth (cs ++ ds) := by
  intro rest
  rw [List.append_assoc, h, h', List.foldr_append]

/-- A quiet character is none that is not. -/
theorem ne_of_isQuiet {c d : Char} (hc : isQuiet c = true) (hd : isQuiet d = false) : c ≠ d := by
  rintro rfl
  rw [hc] at hd
  cases hd

theorem isQuote_of_isQuiet {c : Char} (h : isQuiet c = true) : isQuote c = false := by
  simp [isQuote, ne_of_isQuiet h (d := '\'') (by decide), ne_of_isQuiet h (d := '"') (by decide)]

/-- A character that is no mark, nor a space outside brackets, is passed over. -/
theorem splitFrom_cons {depth : Int} {c : Char} (hq : isQuote c = false)
    (ho : c ∉ ['(', '[', ')', ']']) (hs : depth = 0 → c ≠ ' ') (rest : List Char) :
    splitFrom depth none (c :: rest) = consFirst c (splitFrom depth none rest) := by
  have hspace : ¬(depth == 0 && c == ' ') = true := by simpa using hs
  simp only [List.mem_cons, List.not_mem_nil, or_false, not_or] at ho
  rw [splitFrom.eq_def]
  simp [hq, ho, hspace]

theorem undivided_quiet {cs : List Char} (h : cs.all isQuiet = true) (depth : Int) :
    Undivided depth cs := by
  intro rest
  induction cs with
  | nil => rfl
  | cons c cs ih =>
      obtain ⟨hc, hcs⟩ := Bool.and_eq_true_iff.mp h
      have hmarks : c ∉ ['(', '[', ')', ']'] := by
        simp [ne_of_isQuiet hc (d := '(') (by decide), ne_of_isQuiet hc (d := '[') (by decide),
          ne_of_isQuiet hc (d := ')') (by decide), ne_of_isQuiet hc (d := ']') (by decide)]
      rw [List.cons_append, splitFrom_cons (isQuote_of_isQuiet hc) hmarks
        (fun _ => ne_of_isQuiet hc (by decide)), ih hcs]
      rfl

theorem splitFrom_inside {q c : Char} (hb : c ≠ '\\') (depth : Int) (cs : List Char) :
    splitFrom depth (some q) (c :: cs) =
      consFirst c (splitFrom depth (if c = q then none else some q) cs) := by
  have hhide : ¬(c == '\\') = true := by simpa using hb
  rw [splitFrom.eq_def]
  dsimp only
  rw [if_neg hhide]
  by_cases hq : c = q
  · rw [if_pos (beq_iff_eq.mpr hq), if_pos hq]
  · rw [if_neg (by simpa using hq), if_neg hq]

theorem splitFrom_quoted {q : Char} {body : List Char} (hq : isQuote q = true)
    (h : QuotedBody q body) (depth : Int) (rest : List Char) :
    splitFrom depth (some q) (body ++ q :: rest) =
      (body ++ [q]).foldr consFirst (splitFrom depth none rest) := by
  induction h with
  | nil =>
      rw [List.nil_append, splitFrom_inside (ne_of_isQuote hq rfl), if_pos rfl]
      rfl
  | char hcq hb _ _ ih =>
      rw [List.cons_append, splitFrom_inside hb, if_neg hcq, ih]
      rfl
  | escape _ ih =>
      rw [List.cons_append, List.cons_append, splitFrom, if_pos (beq_self_eq_true _), ih]
      rfl

theorem undivided_quoted {q : Char} {body : List Char} (hq : isQuote q = true)
    (h : QuotedBody q body) (depth : Int) : Undivided depth (q :: (body ++ [q])) := by
  intro rest
  have htext : q :: (body ++ [q]) ++ rest = q :: (body ++ q :: rest) := by simp
  have hopen : splitFrom depth none (q :: (body ++ q :: rest)) =
      consFirst q (splitFrom depth (some q) (body ++ q :: rest)) := by
    rw [splitFrom.eq_def]
    simp only [hq, if_true]
  rw [htext, hopen, splitFrom_quoted hq h]
  rfl

/-- A text that is not divided inside brackets is not divided in parentheses of its own. -/
theorem Undivided.parenthesized {depth : Int} {cs : List Char} (h : Undivided (depth + 1) cs) :
    Undivided depth ('(' :: (cs ++ [')'])) := by
  intro rest
  have htext : '(' :: (cs ++ [')']) ++ rest = '(' :: (cs ++ ')' :: rest) := by simp
  have hclose : splitFrom (depth + 1) none (')' :: rest) =
      consFirst ')' (splitFrom depth none rest) := by
    rw [splitFrom.eq_def]
    simp [isQuote]
  have hopen : splitFrom depth none ('(' :: (cs ++ ')' :: rest)) =
      consFirst '(' (splitFrom (depth + 1) none (cs ++ ')' :: rest)) := by
    rw [splitFrom.eq_def]
    simp [isQuote]
  rw [htext, hopen, h, hclose]
  simp

theorem undivided_plus {depth : Int} (h : depth ≠ 0) : Undivided depth plus := by
  intro rest
  show splitFrom depth none (' ' :: '+' :: ' ' :: rest) = _
  rw [splitFrom_cons rfl (by decide) (fun hd => absurd hd h),
    splitFrom_cons rfl (by decide) (fun hd => absurd hd h),
    splitFrom_cons rfl (by decide) (fun hd => absurd hd h)]
  rfl

theorem Summand.undivided (t : Summand) (depth : Int) : Undivided depth t.text := by
  cases t with
  | number cs h => exact undivided_quiet (Bool.and_eq_true_iff.mp h).2 depth
  | quoted cs h =>
      obtain ⟨-, q, body, rfl, hq, hb⟩ := h
      exact undivided_quoted hq hb depth

/-- Inside brackets a sum is not divided. -/
theorem undivided_sumText {ts : List Summand} (h : ts ≠ []) :
    ∀ depth : Int, 0 < depth → Undivided depth (sumText ts) := by
  refine sumText_induction (P := fun cs => ∀ depth : Int, 0 < depth → Undivided depth cs)
    (fun t depth _ => t.undivided depth) ?_ ?_ h
  · intro cs hcs depth hd
    exact (hcs (depth + 1) (by omega)).parenthesized
  · intro cs t hcs depth hd
    exact ((hcs depth hd).append (undivided_plus (by omega))).append (t.undivided depth)

theorem undivided_groupedSum {ts : List Summand} (h : ts ≠ []) : Undivided 0 (groupedSum ts) := by
  obtain _ | ⟨s, _ | ⟨t, ts⟩⟩ := ts
  · exact absurd rfl h
  · exact s.undivided 0
  · rw [groupedSum_of_lt (by simp)]
    exact (undivided_sumText h 1 (by omega)).parenthesized

theorem foldr_consFirst (cs part : List Char) (parts : List (List Char)) :
    cs.foldr consFirst (part :: parts) = (cs ++ part) :: parts := by
  induction cs with
  | nil => rfl
  | cons c cs ih =>
      rw [List.foldr_cons, ih]
      rfl

/-- A sum is divided at its last sign. -/
theorem splitTopLevel_sumText {ts : List Summand} (h : ts ≠ []) (t : Summand) :
    splitTopLevel (sumText (ts ++ [t])) = [groupedSum ts, t.text] := by
  have hlast : splitFrom 0 none t.text = [t.text] := by
    have := t.undivided 0 []
    rw [List.append_nil] at this
    rw [this, splitFrom.eq_def, foldr_consFirst, List.append_nil]
  have hsign : splitFrom 0 none (plus ++ t.text) = [] :: splitFrom 0 none t.text := by
    show splitFrom 0 none (' ' :: '+' :: ' ' :: t.text) = _
    rw [splitFrom.eq_def]
    simp [isQuote]
  rw [sumText_concat h, List.append_assoc, splitTopLevel, undivided_groupedSum h, hsign, hlast,
    foldr_consFirst, List.append_nil]

/-! ## Operands of a sum -/

theorem Summand.balanced (t : Summand) : Balanced t.text := by
  cases t with
  | number cs h =>
      refine balanced_of_all (List.all_eq_true.mpr fun c hc => isOrdinary_iff.mpr ?_)
      have hquiet : isQuiet c = true := List.all_eq_true.mp (Bool.and_eq_true_iff.mp h).2 c hc
      exact ⟨isQuote_of_isQuiet hquiet, ne_of_isQuiet hquiet (by decide),
        ne_of_isQuiet hquiet (by decide), ne_of_isQuiet hquiet (by decide)⟩
  | quoted cs h =>
      obtain ⟨-, q, body, rfl, hq, hb⟩ := h
      exact hb.balanced hq

theorem balanced_sumText {ts : List Summand} (h : ts ≠ []) : Balanced (sumText ts) := by
  have hplus : Balanced plus := balanced_of_all (by decide)
  exact sumText_induction Summand.balanced (fun cs hcs => hcs.parenthesized)
    (fun cs t hcs => (hcs.append hplus).append t.balanced) h

/-- An operand starts with a quote if it is a quoted text, and never with a parenthesis. -/
theorem Summand.head?_text (t : Summand) :
    ∃ c, t.text.head? = some c ∧ isQuote c = t.isText ∧ c ≠ '(' := by
  cases t with
  | number cs h =>
      obtain _ | ⟨c, cs⟩ := cs
      · cases h
      · have hquiet : isQuiet c = true := by
          simp only [isQuietText, List.all_cons, Bool.and_eq_true] at h
          exact h.2.1
        exact ⟨c, rfl, isQuote_of_isQuiet hquiet, ne_of_isQuiet hquiet (by decide)⟩
  | quoted cs h =>
      obtain ⟨-, q, body, rfl, hq, -⟩ := h
      exact ⟨q, rfl, hq, ne_of_isQuote hq rfl⟩

theorem Summand.isQuoted_text (t : Summand) : isQuoted t.text = t.isText := by
  obtain ⟨c, hc, hq, -⟩ := t.head?_text
  rw [isQuoted, hc, Option.any_some, hq]

theorem Summand.unwrap?_text (t : Summand) : unwrap? t.text = none := by
  obtain ⟨c, hc, -, hp⟩ := t.head?_text
  unfold unwrap?
  split
  · rename_i heq
    rw [heq] at hc
    exact absurd (Option.some.inj hc).symm hp
  · rfl

theorem isQuoted_groupedSum {ts : List Summand} (h : ∀ t ∈ ts, t.isText = false) :
    isQuoted (groupedSum ts) = false := by
  obtain _ | ⟨s, _ | ⟨t, ts⟩⟩ := ts
  · rfl
  · rw [groupedSum_singleton, s.isQuoted_text, h s (by simp)]
  · rw [groupedSum_of_lt (by simp)]
    rfl

section

variable {cs first inner : List Char} {others : List (List Char)}

theorem concatOperands_of_bare (hp : splitTopLevel cs = first :: others)
    (hu : unwrap? first = none) : concatOperands cs = first :: others := by
  rw [concatOperands]
  split
  · rename_i h
    rw [hp] at h
    cases h
  · rename_i h
    rw [hp] at h
    cases h
    split
    · rename_i h
      rw [hu] at h
      cases h
    · rfl

theorem concatOperands_of_group (hp : splitTopLevel cs = first :: others)
    (hu : unwrap? first = some inner) :
    concatOperands cs =
      if 1 < (concatOperands inner).length && (concatOperands inner).any isQuoted then
        concatOperands inner ++ others
      else first :: others := by
  rw [concatOperands]
  split
  · rename_i h
    rw [hp] at h
    cases h
  · rename_i h
    rw [hp] at h
    cases h
    split
    · rename_i h
      rw [hu] at h
      cases h
      rfl
    · rename_i h
      rw [hu] at h
      cases h

end

theorem concatOperands_singleton (t : Summand) : concatOperands (sumText [t]) = [t.text] := by
  have hsplit : splitTopLevel t.text = [t.text] := by
    have := t.undivided 0 []
    rw [List.append_nil] at this
    rw [splitTopLevel, this, splitFrom.eq_def, foldr_consFirst, List.append_nil]
  exact concatOperands_of_bare hsplit t.unwrap?_text

/-- A longer sum is flattened if the sum before the last operand is one of texts. -/
theorem concatOperands_concat {ts : List Summand} (h : ts ≠ []) (t : Summand) :
    concatOperands (sumText (ts ++ [t])) =
      if 1 < (concatOperands (sumText ts)).length &&
          (concatOperands (sumText ts)).any isQuoted then
        concatOperands (sumText ts) ++ [t.text]
      else [groupedSum ts, t.text] := by
  have hsplit := splitTopLevel_sumText h t
  by_cases hlong : 1 < ts.length
  · have hunwrap : unwrap? (groupedSum ts) = some (sumText ts) := by
      rw [groupedSum_of_lt hlong]
      exact unwrap?_of_balanced (balanced_sumText h)
    exact concatOperands_of_group hsplit hunwrap
  · obtain ⟨s, rfl⟩ : ∃ s, ts = [s] := by
      refine List.length_eq_one_iff.mp ?_
      have := List.length_pos_iff.mpr h
      omega
    rw [concatOperands_singleton, concatOperands_of_bare hsplit s.unwrap?_text]
    rfl

/-- A sum of numbers has no quoted operand. -/
theorem any_isQuoted_numbers {ts : List Summand} (h : ∀ t ∈ ts, t.isText = false) :
    (concatOperands (sumText ts)).any isQuoted = false := by
  induction ts using List.reverseRecOn with
  | nil =>
      have hempty : concatOperands [] = [[]] := concatOperands_of_bare rfl rfl
      rw [sumText, hempty]
      rfl
  | append_singleton ts t ih =>
      have hts : ∀ s ∈ ts, s.isText = false := fun s hs => h s (List.mem_append_left _ hs)
      have ht : t.isText = false := h t (by simp)
      by_cases hne : ts = []
      · subst hne
        rw [List.nil_append, concatOperands_singleton]
        simp [t.isQuoted_text, ht]
      · rw [concatOperands_concat hne, ih hts, Bool.and_false, if_neg (by simp)]
        simp [isQuoted_groupedSum hts, t.isQuoted_text, ht]

/-- The numbers before the first quoted text, as one operand. -/
def leadingGroup (numbers : List Summand) : List (List Char) :=
  if numbers.isEmpty then [] else [groupedSum numbers]

/-- From its first quoted text on a sum is flattened; what stands before stays one operand. -/
theorem concatOperands_sumText {numbers : List Summand} (hn : ∀ t ∈ numbers, t.isText = false)
    {first : Summand} (hf : first.isText = true) (later : List Summand) :
    concatOperands (sumText (numbers ++ first :: later)) =
      leadingGroup numbers ++ (first :: later).map Summand.text := by
  induction later using List.reverseRecOn with
  | nil =>
      by_cases hne : numbers = []
      · subst hne
        exact concatOperands_singleton first
      · rw [concatOperands_concat hne, any_isQuoted_numbers hn, Bool.and_false, if_neg (by simp)]
        simp [leadingGroup, hne]
  | append_singleton later t ih =>
      have htext : numbers ++ first :: (later ++ [t]) = (numbers ++ first :: later) ++ [t] := by
        simp
      have hquoted : (leadingGroup numbers ++ (first :: later).map Summand.text).any isQuoted =
          true := by
        simp [first.isQuoted_text, hf]
      rw [htext, concatOperands_concat (by simp), ih, hquoted, Bool.and_true]
      by_cases hlong : 1 < (leadingGroup numbers ++ (first :: later).map Summand.text).length
      · rw [if_pos (by simpa using hlong)]
        simp
      · -- nothing stands before the first quoted text, nor anything behind it
        have hshort : numbers = [] ∧ later = [] := by
          unfold leadingGroup at hlong
          cases numbers <;> cases later <;> simp_all
        obtain ⟨rfl, rfl⟩ := hshort
        rw [if_neg (by simpa using hlong)]
        rfl

/-! ## Operands as texts -/

theorem Summand.textOperand_text (t : Summand) : textOperand t.text = t.printed := by
  cases t with
  | quoted cs h =>
      have hq : isQuoted cs = true := (Summand.quoted cs h).isQuoted_text
      rw [textOperand, Summand.text, hq]
      rfl
  | number cs h =>
      have hq : isQuoted cs = false := (Summand.number cs h).isQuoted_text
      have hs : toText.isSuffixOf cs = false := by
        refine eq_false_of_ne_true fun hs => ?_
        have hdot : '.' ∈ cs := (List.isSuffixOf_iff_suffix.mp hs).subset (by decide)
        have hquiet := List.all_eq_true.mp (Bool.and_eq_true_iff.mp h).2 '.' hdot
        exact ne_of_isQuiet hquiet (by decide) rfl
      rw [textOperand, Summand.text, hq, hs]
      rfl

theorem textOperand_groupedSum {ts : List Summand} (h : ∀ t ∈ ts, t.isText = false)
    (hne : ts ≠ []) : textOperand (groupedSum ts) = '(' :: groupedSum ts ++ ')' :: toText := by
  obtain _ | ⟨s, _ | ⟨t, ts⟩⟩ := ts
  · exact absurd rfl hne
  · rw [groupedSum_singleton, s.textOperand_text]
    cases s with
    | number cs hs => rfl
    | quoted cs hs => exact absurd (h _ List.mem_cons_self) (by simp [Summand.isText])
  · have hs : toText.isSuffixOf (groupedSum (s :: t :: ts)) = false := by
      refine eq_false_of_ne_true fun hs => ?_
      obtain ⟨before, hb⟩ := List.isSuffixOf_iff_suffix.mp hs
      have hlast : toText = ".to_".toList ++ ['s'] := rfl
      rw [groupedSum_of_lt (by simp), hlast, ← List.append_assoc, ← List.cons_append] at hb
      exact absurd (List.append_inj' hb rfl).2 (by decide)
    rw [textOperand, isQuoted_groupedSum h, hs]
    rfl

/-- A sum with a quoted text divides at the first one. -/
theorem exists_first_text {ts : List Summand} (h : ts.any Summand.isText = true) :
    ∃ first later, ts.dropWhile (!·.isText) = first :: later ∧ first.isText = true := by
  cases hd : ts.dropWhile (!·.isText) with
  | nil =>
      have hall := List.dropWhile_eq_nil_iff.mp hd
      obtain ⟨t, ht, htext⟩ := List.any_eq_true.mp h
      have := hall t ht
      rw [htext] at this
      cases this
  | cons first later =>
      have hne : ts.dropWhile (!·.isText) ≠ [] := by simp [hd]
      have hfirst := List.head_dropWhile_not (fun t : Summand => !t.isText) hne
      simp only [hd, List.head_cons, Bool.not_eq_false'] at hfirst
      exact ⟨first, later, rfl, hfirst⟩

/-- The operands of a sum with a quoted text, turned into texts. -/
theorem map_textOperand_concatOperands {ts : List Summand} (h : ts.any Summand.isText = true) :
    (concatOperands (sumText ts)).map textOperand = printedOperands ts := by
  obtain ⟨first, later, hlater, hfirst⟩ := exists_first_text h
  have hn : ∀ t ∈ ts.takeWhile (!·.isText), t.isText = false := by
    intro t ht
    simpa using List.mem_takeWhile_imp ht
  have hsplit : ts.takeWhile (!·.isText) ++ first :: later = ts := by
    rw [← hlater]
    exact List.takeWhile_append_dropWhile
  have hleading : (leadingGroup (ts.takeWhile (!·.isText))).map textOperand =
      leadingText (ts.takeWhile (!·.isText)) := by
    by_cases hne : ts.takeWhile (!·.isText) = []
    · rw [hne]
      rfl
    · rw [leadingText_eq hne, leadingGroup, if_neg (by simpa using hne), List.map_singleton,
        textOperand_groupedSum hn hne]
  have htexts : ((first :: later).map Summand.text).map textOperand =
      (first :: later).map Summand.printed := by
    rw [List.map_map]
    exact List.map_congr_left fun t _ => t.textOperand_text
  have hoperands := concatOperands_sumText hn hfirst later
  rw [hsplit] at hoperands
  rw [hoperands, List.map_append, hleading, htexts, printedOperands, hlater]

/-! ## A line with one call -/

/-- A call of `puts` on a line of its own. -/
def putsLine (argument : List Char) : List Char := "puts(".toList ++ argument ++ [')', '\n']

theorem putsCall?_putsLine {argument : List Char} (hne : argument ≠ []) (hl : '\n' ∉ argument) :
    putsCall? (putsLine argument) = some (argument, (putsLine argument).length) := by
  have hline : (argument ++ [')', '\n']).takeWhile (· != '\n') = argument ++ [')'] := by
    have hall : ∀ c ∈ argument ++ [')'], (c != '\n') = true := by
      intro c hc
      rcases List.mem_append.mp hc with hc | hc
      · exact bne_iff_ne.mpr fun h => hl (h ▸ hc)
      · rw [List.mem_singleton.mp hc]
        rfl
    have htext : argument ++ [')', '\n'] = (argument ++ [')']) ++ ['\n'] := by simp
    rw [htext, List.takeWhile_append_of_pos hall]
    simp
  have harg : lineArgument? (argument ++ [')']) = some argument := by
    simp [lineArgument?, hne]
  have hletters : afterLetters? putsLetters (putsLine argument) =
      some (argument ++ [')', '\n']) := rfl
  have hlength : (putsLine argument).length =
      putsLetters.length + (argument ++ [')']).length + 1 := by
    have hhead : "puts(".toList.length = putsLetters.length := rfl
    unfold putsLine
    generalize "puts(".toList = head at hhead ⊢
    simp only [List.length_append, hhead, List.length_cons, List.length_nil]
    omega
  simp [putsCall?, hletters, hline, harg, hlength, after?]

theorem cut_of_length_le {α : Type} (find? : List Char → List Char → Option (α × Nat))
    {skip : Nat} {cs : List Char} (h : cs.length ≤ skip) (before : List Char) :
    cut find? before skip cs = [] := by
  induction cs generalizing before skip with
  | nil => rfl
  | cons c cs ih =>
      obtain ⟨skip, rfl⟩ := Nat.exists_eq_add_of_le' (Nat.le_trans (Nat.le_add_left 1 _) h)
      exact ih (Nat.le_of_succ_le_succ h) (c :: before)

/-- A call on a line of its own is edited as a whole. -/
theorem stringifyPuts_putsLine {argument : List Char} (hne : argument ≠ [])
    (hl : '\n' ∉ argument) :
    stringifyPuts (putsLine argument) =
      putsLine (joinWith plus ((concatOperands argument).map textOperand)) := by
  obtain ⟨c, cs, hcs⟩ : ∃ c cs, putsLine argument = c :: cs := ⟨_, _, rfl⟩
  have hcall := putsCall?_putsLine hne hl
  have hcut : cutPuts (putsLine argument) = [.found argument] := by
    rw [cutPuts, hcs, cut, ← hcs, hcall]
    dsimp only
    rw [cut_of_length_le]
    rw [hcs]
    simp
  rw [stringifyPuts, hcut, paste, List.flatMap_singleton]
  rfl

/-! ## Texts on one line -/

theorem Summand.lineFeed_not_mem (t : Summand) : '\n' ∉ t.text := by
  cases t with
  | number cs h =>
      intro hl
      have hquiet := List.all_eq_true.mp (Bool.and_eq_true_iff.mp h).2 _ hl
      exact ne_of_isQuiet hquiet (by decide) rfl
  | quoted cs h => exact h.1

theorem lineFeed_not_mem_sumText {ts : List Summand} (h : ts ≠ []) : '\n' ∉ sumText ts := by
  have hplus : '\n' ∉ plus := by decide
  refine sumText_induction (P := fun cs => '\n' ∉ cs) Summand.lineFeed_not_mem ?_ ?_ h
  · intro cs hcs
    simpa using hcs
  · intro cs t hcs
    simp [hcs, hplus, t.lineFeed_not_mem]

theorem sumText_ne_nil {ts : List Summand} (h : ts ≠ []) : sumText ts ≠ [] := by
  refine sumText_induction (P := fun cs => cs ≠ []) ?_ ?_ ?_ h
  · intro t hnil
    obtain ⟨c, hc, -⟩ := t.head?_text
    rw [hnil] at hc
    cases hc
  · intro cs _
    exact List.cons_ne_nil _ _
  · intro cs t _
    simp [plus]

theorem lineFeed_not_mem_escapeInterpolation {cs : List Char} (h : '\n' ∉ cs) :
    '\n' ∉ escapeInterpolation cs := by
  induction cs with
  | nil => exact h
  | cons c cs ih =>
      obtain ⟨hc, hcs⟩ : '\n' ≠ c ∧ '\n' ∉ cs := by simpa using h
      rcases escapeInterpolation_cons c cs with he | ⟨-, he⟩ <;> simp [he, hc, ih hcs]

theorem IsQuotedLine.escapeInterpolation {cs : List Char} (h : IsQuotedLine cs) :
    IsQuotedLine (escapeInterpolation cs) := by
  obtain ⟨hl, q, body, rfl, hq, hb⟩ := h
  refine ⟨lineFeed_not_mem_escapeInterpolation hl, q, _, ?_, hq, hb.escapeInterpolation hq⟩
  have hopen : opensInterpolation q = false := by
    rcases isQuote_iff.mp hq with rfl | rfl <;> rfl
  rw [escapeInterpolation_cons_of_ne (ne_of_isQuote hq rfl), escapeInterpolation_append_cons hopen]
  rfl

theorem isQuotedLine_quote (cs : List Char) : IsQuotedLine (Json.quote false cs) := by
  have hchar : ∀ c, '\n' ∉ Json.quoteChar false c := fun c =>
    (spelled_quoteChar_alone c).lineFeed_not_mem
  refine ⟨?_, '"', _, rfl, rfl, Json.quotedBody_flatMap_quoteChar false cs⟩
  simp [Json.quote, hchar]

theorem lineFeed_not_mem_of_endsQuoted {q : Char} (hq : q ≠ '\n') {cs : List Char}
    (h : endsQuoted q cs = true) : '\n' ∉ cs := by
  fun_induction endsQuoted q cs with
  | case1 => cases h
  | case2 c =>
      rw [eq_of_beq h]
      simpa using hq.symm
  | case3 c d cs hc ih =>
      obtain ⟨hd, hcs⟩ := Bool.and_eq_true_iff.mp h
      have hc' : c = '\\' := eq_of_beq hc
      have hd' : d ≠ '\n' := bne_iff_ne.mp hd
      simp [hc', hd'.symm, ih hcs]
  | case4 c d cs hc ih =>
      simp only [Bool.and_eq_true, bne_iff_ne] at h
      have hrest := ih h.2
      rw [List.mem_cons, not_or]
      exact ⟨h.1.2.symm, hrest⟩

theorem isQuotedLine_of_isQuotedToken {cs : List Char} (h : isQuotedToken cs = true) :
    IsQuotedLine cs := by
  cases cs with
  | nil => cases h
  | cons q cs =>
      obtain ⟨hq, hcs⟩ := Bool.and_eq_true_iff.mp h
      have hline := lineFeed_not_mem_of_endsQuoted (ne_of_isQuote hq rfl) hcs
      obtain ⟨body, rfl, hb⟩ := exists_quotedBody_of_endsQuoted hcs
      exact ⟨List.not_mem_cons_of_ne_of_not_mem (ne_of_isQuote hq rfl).symm hline, q, body, rfl, hq,
        hb⟩

/-- A printed sum with a quoted text: its operands are turned into texts. -/
theorem stringifyPuts_sumText {ts : List Summand} (h : ts.any Summand.isText = true) :
    stringifyPuts (putsLine (sumText ts)) = putsLine (joinWith plus (printedOperands ts)) := by
  have hne : ts ≠ [] := by
    rintro rfl
    cases h
  rw [stringifyPuts_putsLine (sumText_ne_nil hne) (lineFeed_not_mem_sumText hne),
    map_textOperand_concatOperands h]

end EstreeEmitter
