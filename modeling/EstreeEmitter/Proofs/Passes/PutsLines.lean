import EstreeEmitter.Proofs.Passes.EmittedCalls
import EstreeEmitter.Proofs.Passes.LineShape
import EstreeEmitter.Proofs.Printer.Program

set_option autoImplicit false

/-! # Which lines are stringified

The pass for printed sums goes line by line (`stringifyPuts_line`). On a line that ends in a closing
parenthesis it takes the first place with the letters of `puts` and an opening parenthesis, in any
case and also at the end of a longer name (`PutsAt`), and rewrites the line from there to its end
(`stringified_stringifyLine`). All other lines stay. So a program of calls stays as it is exactly if
no line has such a place, up to calls of `puts` that are already as the pass writes them
(`stringifyPuts_calls_iff`). -/

namespace EstreeEmitter

open Text

namespace Passes

/-! ## One line -/

/-- What `puts` prints behind its parenthesis, with its operands turned into texts. -/
def printedText (argument : List Char) : List Char :=
  joinWith " + ".toList ((concatOperands argument).map textOperand)

/-- A call of `puts` that ends a line, as the pass writes it. -/
def putsCallText (argument : List Char) : List Char :=
  "puts(".toList ++ printedText argument ++ [')']

/-- What a call of `puts` from the front to the end of a line prints. -/
def lineCall? (line : List Char) : Option (List Char) :=
  (afterLetters? putsLetters line).bind lineArgument?

/-- A line with its first call of `puts` written by the pass. -/
def stringifyLine : List Char → List Char
  | [] => []
  | c :: cs =>
    match lineCall? (c :: cs) with
    | some argument => putsCallText argument
    | none => c :: stringifyLine cs

/-- The text is the letters of `puts` with a parenthesis, in any case. -/
def IsPutsHead (head : List Char) : Prop :=
  List.Forall₂ (fun choices c => c ∈ choices) putsLetters head

/-- The line ends in a call of `puts` from behind `front` on. -/
structure PutsFrom (line front head argument : List Char) : Prop where
  line_eq : line = front ++ head ++ argument ++ [')']
  head : IsPutsHead head
  argument_ne_nil : argument ≠ []

/-- The first place from which a line ends in a call of `puts`. -/
structure PutsAt (line front head argument : List Char) : Prop
    extends PutsFrom line front head argument where
  first : ∀ {front' head' argument'}, PutsFrom line front' head' argument' →
    front.length ≤ front'.length

/-- A line becomes another one: it is rewritten from its first call of `puts` on, or stays if it has
none. -/
def Stringified (line edited : List Char) : Prop :=
  (∃ front head argument, PutsAt line front head argument ∧
    edited = front ++ putsCallText argument) ∨
  (∀ front head argument, ¬PutsFrom line front head argument) ∧ edited = line

theorem putsText_eq (argument : List Char) :
    putsText argument = putsCallText argument ++ ['\n'] :=
  (List.append_assoc ("puts(".toList ++ printedText argument) [')'] ['\n']).symm

theorem IsPutsHead.length_eq {head : List Char} (h : IsPutsHead head) : head.length = 5 :=
  (List.Forall₂.length_eq h).symm

theorem afterLetters?_append {letters : List (List Char)} {head : List Char}
    (h : List.Forall₂ (fun choices c => c ∈ choices) letters head) (rest : List Char) :
    afterLetters? letters (head ++ rest) = some rest := by
  induction h with
  | nil => rfl
  | cons hc _ ih =>
      rw [List.cons_append, afterLetters?, if_pos (List.contains_iff_mem.mpr hc), ih]

theorem lineArgument?_eq_some_iff {line argument : List Char} :
    lineArgument? line = some argument ↔ line = argument ++ [')'] ∧ argument ≠ [] := by
  constructor
  · intro h
    have hline := lineArgument?_eq_some h
    refine ⟨hline, ?_⟩
    rintro rfl
    rw [hline] at h
    cases h
  · rintro ⟨rfl, hne⟩
    have hpos := List.length_pos_iff.mpr hne
    simp [lineArgument?]
    omega

theorem lineCall?_eq_some_iff {line argument : List Char} :
    lineCall? line = some argument ↔ ∃ head, PutsFrom line [] head argument := by
  constructor
  · intro h
    obtain ⟨rest, hr, ha⟩ := Option.bind_eq_some_iff.mp h
    obtain ⟨head, hh, rfl⟩ := afterLetters?_eq_some hr
    obtain ⟨rfl, hne⟩ := lineArgument?_eq_some_iff.mp ha
    exact ⟨head, by simp, hh, hne⟩
  · rintro ⟨head, hline, hh, hne⟩
    rw [List.nil_append, List.append_assoc] at hline
    rw [lineCall?, hline, afterLetters?_append hh]
    exact lineArgument?_eq_some_iff.mpr ⟨rfl, hne⟩

theorem putsFrom_cons {c : Char} {line front head argument : List Char} :
    PutsFrom (c :: line) (c :: front) head argument ↔ PutsFrom line front head argument := by
  constructor
  · rintro ⟨hline, hh, hne⟩
    exact ⟨(List.cons.inj hline).2, hh, hne⟩
  · rintro ⟨rfl, hh, hne⟩
    exact ⟨rfl, hh, hne⟩

/-- A place behind the first character, if there is none from it on. -/
theorem PutsFrom.exists_tail {c : Char} {line front head argument : List Char}
    (h : PutsFrom (c :: line) front head argument) (hn : lineCall? (c :: line) = none) :
    ∃ front', front = c :: front' ∧ PutsFrom line front' head argument := by
  cases front with
  | nil =>
      rw [lineCall?_eq_some_iff.mpr ⟨head, h⟩] at hn
      cases hn
  | cons d front' =>
      obtain rfl : c = d := (List.cons.inj h.line_eq).1
      exact ⟨front', rfl, putsFrom_cons.mp h⟩

theorem stringified_stringifyLine (line : List Char) : Stringified line (stringifyLine line) := by
  induction line with
  | nil =>
      refine .inr ⟨fun front head argument h => ?_, rfl⟩
      have := congrArg List.length h.line_eq
      simp at this
  | cons c cs ih =>
      rw [stringifyLine]
      cases hc : lineCall? (c :: cs) with
      | some argument =>
          obtain ⟨head, hp⟩ := lineCall?_eq_some_iff.mp hc
          exact .inl ⟨[], head, argument, ⟨hp, fun _ => Nat.zero_le _⟩, rfl⟩
      | none =>
          dsimp only
          rcases ih with ⟨front, head, argument, hp, he⟩ | ⟨hnone, he⟩
          · refine .inl ⟨c :: front, head, argument,
              ⟨putsFrom_cons.mpr hp.toPutsFrom, fun h' => ?_⟩, by rw [he]; rfl⟩
            obtain ⟨front', rfl, htail⟩ := h'.exists_tail hc
            exact Nat.succ_le_succ (hp.first htail)
          · refine .inr ⟨fun front head argument h' => ?_, by rw [he]⟩
            obtain ⟨front', rfl, htail⟩ := h'.exists_tail hc
            exact hnone _ _ _ htail

/-- There is one first place. -/
theorem PutsAt.unique {line front head argument front' head' argument' : List Char}
    (h : PutsAt line front head argument) (h' : PutsAt line front' head' argument') :
    front = front' ∧ head = head' ∧ argument = argument' := by
  have hlen : front.length = front'.length :=
    Nat.le_antisymm (h.first h'.toPutsFrom) (h'.first h.toPutsFrom)
  have hline := h.line_eq.symm.trans h'.line_eq
  simp only [List.append_assoc] at hline
  obtain ⟨hfront, hcall⟩ := List.append_inj hline hlen
  obtain ⟨hhead, hargument⟩ :=
    List.append_inj hcall (h.head.length_eq.trans h'.head.length_eq.symm)
  exact ⟨hfront, hhead, List.append_cancel_right hargument⟩

/-- A line stays exactly if its first call of `puts` is already as the pass writes it. -/
theorem stringifyLine_eq_self_iff {line : List Char} :
    stringifyLine line = line ↔ ∀ front head argument, PutsAt line front head argument →
      head = "puts(".toList ∧ printedText argument = argument := by
  rcases stringified_stringifyLine line with ⟨front, head, argument, hp, he⟩ | ⟨hnone, he⟩
  · have hsame : stringifyLine line = line ↔
        head = "puts(".toList ∧ printedText argument = argument := by
      have hline : line = front ++ (head ++ argument ++ [')']) := by
        rw [hp.line_eq]
        simp only [List.append_assoc]
      constructor
      · intro h
        have hcall := List.append_cancel_left (he.symm.trans (h.trans hline))
        obtain ⟨hh, ht⟩ := List.append_inj (List.append_cancel_right hcall)
          (hp.head.length_eq.trans rfl).symm
        exact ⟨hh.symm, ht⟩
      · rintro ⟨hh, ht⟩
        unfold putsCallText at he
        rw [he, hline, hh, ht]
    rw [hsame]
    constructor
    · rintro h front' head' argument' hp'
      obtain ⟨-, rfl, rfl⟩ := hp.unique hp'
      exact h
    · exact fun h => h front head argument hp
  · rw [he]
    exact ⟨fun _ front head argument hp => absurd hp.toPutsFrom (hnone _ _ _), fun _ => rfl⟩

/-! ## All lines -/

/-- The letters of `puts` are on one line. -/
theorem lineFeed_not_mem_putsLetters : ∀ choices ∈ putsLetters, '\n' ∉ choices := by decide

/-- A call of `puts` on a full line goes to the end of the line. -/
theorem putsCall?_line {line : List Char} (h : '\n' ∉ line) (rest : List Char) :
    putsCall? (line ++ '\n' :: rest) =
      (lineCall? line).map fun argument => (argument, line.length + 1) := by
  rw [putsCall?, lineCall?, afterLetters?_append_cons lineFeed_not_mem_putsLetters]
  cases hr : afterLetters? putsLetters line with
  | none => rfl
  | some behind =>
      obtain ⟨head, hh, rfl⟩ := afterLetters?_eq_some hr
      have hline : ∀ c ∈ behind, (c != '\n') = true := by
        intro c hc
        rw [bne_iff_ne]
        rintro rfl
        exact h (List.mem_append_right _ hc)
      have htake : (behind ++ '\n' :: rest).takeWhile (· != '\n') = behind := by
        rw [List.takeWhile_append_of_pos hline]
        simp
      have hlen : putsLetters.length + behind.length + 1 = (head ++ behind).length + 1 := by
        rw [List.length_append, ← List.Forall₂.length_eq hh]
      have hafter : after? ['\n'] ('\n' :: rest) = some rest := after?_append ['\n'] rest
      simp only [Option.map_some, Option.bind_eq_bind, Option.bind_some, htake, List.drop_left,
        hafter, hlen]
      cases lineArgument? behind <;> rfl

/-- Without a line feed nothing is a call of `puts`. -/
theorem putsCall?_eq_none {cs : List Char} (h : '\n' ∉ cs) : putsCall? cs = none := by
  cases hp : putsCall? cs with
  | none => rfl
  | some found =>
      obtain ⟨-, head, -, htext⟩ := putsCall?_eq_some hp
      have hmem : '\n' ∈ cs.take found.2 := by
        rw [htext]
        simp
      exact absurd (List.mem_of_mem_take hmem) h

theorem stringifyPuts_found {c : Char} {cs argument : List Char} {n : Nat}
    (h : putsCall? (c :: cs) = some (argument, n)) :
    stringifyPuts (c :: cs) = putsText argument ++ stringifyPuts ((c :: cs).drop n) := by
  rw [stringifyPuts, cutPuts, cut_ahead_found h (putsCall?_eq_some h).1, paste_cons]
  simp [paste, stringifyPuts, cutPuts]

theorem stringifyPuts_keep {c : Char} {cs : List Char} (h : putsCall? (c :: cs) = none) :
    stringifyPuts (c :: cs) = c :: stringifyPuts cs := by
  rw [stringifyPuts, cutPuts, cut_ahead_keep h, paste_cons]
  rfl

/-- A full line is stringified by itself. -/
theorem stringifyPuts_line {line : List Char} (h : '\n' ∉ line) (rest : List Char) :
    stringifyPuts (line ++ '\n' :: rest) = stringifyLine line ++ '\n' :: stringifyPuts rest := by
  induction line with
  | nil => exact stringifyPuts_keep rfl
  | cons c cs ih =>
      have hcall := putsCall?_line h rest
      rw [List.cons_append] at hcall ⊢
      rw [stringifyLine]
      cases hl : lineCall? (c :: cs) with
      | some argument =>
          rw [hl] at hcall
          -- a call goes to the end of its line, so the scan goes on with the next one
          have hdrop : (c :: (cs ++ '\n' :: rest)).drop ((c :: cs).length + 1) = rest := by
            simp [List.drop_append]
          rw [stringifyPuts_found hcall, hdrop, putsText_eq, List.append_assoc]
          rfl
      | none =>
          rw [hl] at hcall
          rw [stringifyPuts_keep hcall, ih fun hm => h (List.mem_cons_of_mem _ hm)]
          rfl

/-- A line without a line feed stays. -/
theorem stringifyPuts_of_not_mem {cs : List Char} (h : '\n' ∉ cs) : stringifyPuts cs = cs := by
  induction cs with
  | nil => rfl
  | cons c cs ih =>
      rw [stringifyPuts_keep (putsCall?_eq_none h), ih fun hm => h (List.mem_cons_of_mem _ hm)]

/-- Lines with a line feed behind each. -/
def endedText (lines : List (List Char)) : List Char := lines.flatMap (· ++ ['\n'])

theorem endedText_cons (line : List Char) (lines : List (List Char)) :
    endedText (line :: lines) = line ++ '\n' :: endedText lines := by
  simp [endedText]

/-- Full lines are stringified one by one, whatever follows. -/
theorem stringifyPuts_endedText_append {lines : List (List Char)}
    (h : ∀ line ∈ lines, '\n' ∉ line) (rest : List Char) :
    stringifyPuts (endedText lines ++ rest) =
      endedText (lines.map stringifyLine) ++ stringifyPuts rest := by
  induction lines with
  | nil => rfl
  | cons line lines ih =>
      obtain ⟨hline, hlines⟩ := List.forall_mem_cons.mp h
      rw [endedText_cons, List.append_assoc, List.cons_append, stringifyPuts_line hline, ih hlines,
        List.map_cons, endedText_cons, List.append_assoc, List.cons_append]

/-- What stands behind the last line feed stays. -/
theorem stringifyPuts_endedText {lines : List (List Char)} (h : ∀ line ∈ lines, '\n' ∉ line)
    {last : List Char} (hl : '\n' ∉ last) :
    stringifyPuts (endedText lines ++ last) = endedText (lines.map stringifyLine) ++ last := by
  rw [stringifyPuts_endedText_append h, stringifyPuts_of_not_mem hl]

/-- Every text is made of full lines and a last one. -/
theorem exists_endedText (code : List Char) :
    ∃ lines last, code = endedText lines ++ last ∧ (∀ line ∈ lines, '\n' ∉ line) ∧
      '\n' ∉ last := by
  have hne := splitOn_ne_nil '\n' code
  refine ⟨(splitOn '\n' code).dropLast, (splitOn '\n' code).getLast hne, ?_,
    fun line hm => not_mem_of_mem_splitOn (List.dropLast_subset _ hm),
    not_mem_of_mem_splitOn (List.getLast_mem hne)⟩
  rw [endedText, ← joinWith_eq_flatMap, joinWith_splitOn]

theorem lineFeed_not_mem_stringifyLine {line : List Char} (h : '\n' ∉ line) :
    '\n' ∉ stringifyLine line := by
  rcases stringified_stringifyLine line with ⟨front, head, argument, hp, he⟩ | ⟨-, he⟩
  · rw [hp.line_eq] at h
    simp only [List.mem_append, not_or] at h
    have hprinted : '\n' ∉ printedText argument := by
      refine not_mem_joinWith (by decide) fun part hm => ?_
      obtain ⟨operand, ho, rfl⟩ := List.mem_map.mp hm
      exact lineFeed_not_mem_textOperand fun hm => h.1.2 (mem_of_mem_concatOperands ho hm)
    have hputs : '\n' ∉ "puts(".toList := by decide
    unfold putsCallText at he
    rw [he]
    simp only [List.mem_append, not_or]
    exact ⟨h.1.1.1, ⟨hputs, hprinted⟩, h.2⟩
  · rwa [he]

/-- Full lines stay exactly if each of them does. -/
theorem endedText_map_stringifyLine_iff {lines : List (List Char)}
    (h : ∀ line ∈ lines, '\n' ∉ line) :
    endedText (lines.map stringifyLine) = endedText lines ↔
      ∀ line ∈ lines, stringifyLine line = line := by
  induction lines with
  | nil => simp
  | cons line lines ih =>
      obtain ⟨hline, hlines⟩ := List.forall_mem_cons.mp h
      rw [List.forall_mem_cons, ← ih hlines]
      rw [List.map_cons, endedText_cons, endedText_cons]
      constructor
      · intro he
        -- both lines end at the first line feed
        have hparts := congrArg (splitOn '\n') he
        rw [splitOn_append_cons (lineFeed_not_mem_stringifyLine hline),
          splitOn_append_cons hline] at hparts
        obtain ⟨hfirst, -⟩ := List.cons.inj hparts
        rw [hfirst] at he
        exact ⟨hfirst, (List.cons.inj (List.append_cancel_left he)).2⟩
      · rintro ⟨hfirst, hrest⟩
        rw [hfirst, hrest]

end Passes

open Passes

/-! ## Programs of calls -/

/-- The value is a call of a method by its name. -/
def Value.isNamedCall : Value → Bool
  | .node _ (.callExpression (.node _ (.identifier (.scalar (.str _)))) (.list _)) => true
  | _ => false

/-- The value is an expression, and its text stands on one line. -/
def Value.isOnLine (v : Value) : Bool :=
  v.isExpression && (match expressionText .ruby v with
    | .ok text => !text.contains '\n'
    | .error _ => false)

/-- A program that makes the given calls one after the other. -/
def Value.callProgram (calls : List Value) : Value :=
  .node none (.program (.list (calls.map fun v => .node none (.expressionStatement v))))

theorem Value.isOnLine_iff {v : Value} : v.isOnLine = true ↔
    v.isExpression = true ∧ ∃ text, expressionText .ruby v = .ok text ∧ '\n' ∉ text := by
  rw [isOnLine, Bool.and_eq_true]
  cases expressionText .ruby v with
  | ok text => simp
  | error fault => simp

/-- The text of a call ends in its parenthesis. -/
theorem Value.eq_concat_of_isNamedCall {v : Value} (h : v.isNamedCall = true) {text : List Char}
    (ht : expressionText .ruby v = .ok text) : ∃ front, text = front ++ [')'] := by
  unfold isNamedCall at h
  split at h
  · rename_i name arguments
    have hname : (Value.scalar (.str name)).asText = .ok name.toList := rfl
    rw [expressionText, constructText, expressionText, constructText, joined_cons_of_ok hname,
      joined_cons_of_ok rfl] at ht
    cases hl : listText .ruby (.list arguments) with
    | error fault =>
        rw [hl, joined_cons_of_error rfl] at ht
        cases ht
    | ok cs =>
        rw [hl, joined_cons_of_ok rfl] at ht
        cases ht
        exact ⟨name.toList ++ ['('] ++ cs, by simp⟩
  · cases h

/-- A text that ends in a parenthesis has no blanks at its end. -/
theorem lineAt_zero_of_eq_concat {text front : List Char} (h : text = front ++ [')']) :
    lineAt 0 text = text := by
  have htrim : trimRight (front ++ [')']) = front ++ trimRight [')'] :=
    trimRight_append_of_not_blank (by decide)
  rw [lineAt, h]
  exact htrim

/-- The statements of calls are lines with their texts. -/
theorem allStatements_calls {calls : List Value} {lines : List (List Char)}
    (h : List.Forall₂ (fun v line => expressionText .ruby v = .ok line) calls lines) :
    allStatements (calls.map fun v => .node none (.expressionStatement v)) =
      .ok (lines.map .line) := by
  induction h with
  | nil => rfl
  | cons hv _ ih =>
      rw [List.map_cons, allStatements, ih, statements, constructStatements, hv]
      rfl

theorem linesOf_map_line (level : Nat) (texts : List (List Char)) :
    linesOf level (texts.map .line) = texts.map (lineAt level) := by
  induction texts with
  | nil => rfl
  | cons text texts ih =>
      rw [List.map_cons, linesOf, ih]
      rfl

theorem areStatements_calls {calls : List Value} (h : ∀ v ∈ calls, v.isOnLine = true) :
    areStatements (calls.map fun v => .node none (.expressionStatement v)) = true := by
  induction calls with
  | nil => rfl
  | cons v calls ih =>
      obtain ⟨hv, hrest⟩ := List.forall_mem_cons.mp h
      rw [List.map_cons, areStatements, ih hrest, Bool.and_true]
      exact (Value.isOnLine_iff.mp hv).1

/-- The text of a program of calls is that of the calls, each on a line. -/
theorem generate_callProgram {calls : List Value}
    (h : ∀ v ∈ calls, v.isNamedCall = true ∧ v.isOnLine = true) :
    ∃ lines, List.Forall₂ (fun v line => v.generate .ruby = .ok line) calls lines ∧
      (∀ line ∈ lines, '\n' ∉ line) ∧
      (Value.callProgram calls).generate .ruby = .ok (endedText lines) := by
  have htext : ∀ v ∈ calls, ∃ line, expressionText .ruby v = .ok line ∧
      v.generate .ruby = .ok line ∧ '\n' ∉ line ∧ lineAt 0 line = line := by
    intro v hv
    obtain ⟨hcall, hline⟩ := h v hv
    obtain ⟨he, line, ht, hn⟩ := Value.isOnLine_iff.mp hline
    obtain ⟨front, hf⟩ := Value.eq_concat_of_isNamedCall hcall ht
    exact ⟨line, ht, by rw [generate_expression .ruby he, ht], hn, lineAt_zero_of_eq_concat hf⟩
  choose! lineOf hlineOf using htext
  refine ⟨calls.map lineOf, ?_, ?_, ?_⟩
  · exact List.forall₂_map_right_iff.mpr (List.forall₂_same.mpr fun v hv => (hlineOf v hv).2.1)
  · intro line hm
    obtain ⟨v, hv, rfl⟩ := List.mem_map.mp hm
    exact (hlineOf v hv).2.2.1
  · have hstatements := allStatements_calls (List.forall₂_map_right_iff.mpr
      (List.forall₂_same.mpr fun v hv => (hlineOf v hv).1))
    have hlines : linesOf 0 ((calls.map lineOf).map .line) = calls.map lineOf := by
      rw [linesOf_map_line, List.map_map]
      exact List.map_congr_left fun v hv => (hlineOf v hv).2.2.2
    rw [Value.callProgram, generate_program none _ (areStatements_calls fun v hv => (h v hv).2),
      hstatements]
    simp only [Except.map, hlines]
    rw [joinWith_eq_flatMap _ (by simp)]
    simp [endedText]

/-- **Which calls are stringified.** Every text is edited line by line: a full line that ends in a
parenthesis is rewritten from the first place on with the letters of `puts` and a parenthesis, in
any case and also at the end of another name; all else stays. A program of calls stays as it is
exactly if in every line the first such place is spelled `puts(` and what it prints is already as
the pass writes it. -/
theorem stringifyPuts_calls_iff (code : List Char) (calls : List Value)
    (h : ∀ v ∈ calls, v.isNamedCall = true ∧ v.isOnLine = true) :
    (∃ lines edited last, code = endedText lines ++ last ∧ (∀ line ∈ lines, '\n' ∉ line) ∧
        '\n' ∉ last ∧ stringifyPuts code = endedText edited ++ last ∧
        List.Forall₂ Stringified lines edited) ∧
      ∃ lines, List.Forall₂ (fun v line => v.generate .ruby = .ok line) calls lines ∧
        (Value.callProgram calls).generate .ruby = .ok (endedText lines) ∧
        (stringifyPuts (endedText lines) = endedText lines ↔
          ∀ line ∈ lines, ∀ front head argument, PutsAt line front head argument →
            head = "puts(".toList ∧ printedText argument = argument) := by
  constructor
  · obtain ⟨lines, last, rfl, hlines, hlast⟩ := exists_endedText code
    exact ⟨lines, lines.map stringifyLine, last, rfl, hlines, hlast,
      stringifyPuts_endedText hlines hlast, List.forall₂_map_right_iff.mpr
        (List.forall₂_same.mpr fun line _ => stringified_stringifyLine line)⟩
  · obtain ⟨lines, hcalls, hlines, hprogram⟩ := generate_callProgram h
    refine ⟨lines, hcalls, hprogram, ?_⟩
    have hedit := stringifyPuts_endedText hlines (List.not_mem_nil (a := '\n'))
    rw [List.append_nil, List.append_nil] at hedit
    rw [hedit, endedText_map_stringifyLine_iff hlines]
    exact forall₂_congr fun line _ => stringifyLine_eq_self_iff

/-- Calls of methods whose names only resemble `puts`. -/
def plainCalls : List Value :=
  let name (s : String) : Value := .node none (.identifier (.str s))
  [.callOf "output" [name "x"], .callOf "puts_all" [name "x", .callOf "put" [name "y"]],
    .callOf "inputs" []]

theorem stringifyPuts_plainCalls :
    stringifyPuts "output(x)\nputs_all(x, put(y))\ninputs()\n".toList =
      "output(x)\nputs_all(x, put(y))\ninputs()\n".toList := by
  obtain ⟨-, lines, hcalls, -, hkept⟩ := stringifyPuts_calls_iff [] plainCalls (by decide +kernel)
  have hlines : lines =
      ["output(x)".toList, "puts_all(x, put(y))".toList, "inputs()".toList] :=
    List.right_unique_forall₂' (fun _ _ _ h h' => Except.ok.inj (h.symm.trans h')) hcalls
      (.cons rfl (.cons rfl (.cons rfl .nil)))
  subst hlines
  have hself : ∀ line ∈ ["output(x)".toList, "puts_all(x, put(y))".toList, "inputs()".toList],
      stringifyLine line = line := by decide +kernel
  exact hkept.mpr fun line hm => stringifyLine_eq_self_iff.mp (hself line hm)

/-- A call of another method whose name ends in the letters of `puts` is taken for one of `puts`. -/
theorem stringifyPuts_outputs :
    (Value.callProgram [.callOf "outputs" [.node none (.identifier (.str "x"))]]).generate .ruby =
        .ok "outputs(x)\n".toList ∧
      stringifyPuts "outputs(x)\n".toList = "outputs((x).to_s)\n".toList ∧
      stringifyPuts "outputs(x)\n".toList ≠ "outputs(x)\n".toList :=
  ⟨rfl, by decide +kernel, by decide +kernel⟩

end EstreeEmitter
