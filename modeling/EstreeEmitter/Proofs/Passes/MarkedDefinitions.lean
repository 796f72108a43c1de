import EstreeEmitter.Proofs.Passes.CalledWords

set_option autoImplicit false

/-! # Definitions behind the marking of calls

A definition is its first line, which has the name and the parameters (`heading?`), and the full
lines behind it (`chunk?_line`). Putting `.call` before some parentheses (`Widened`) keeps the lines
of a text, and the first line of a definition is not touched. So the text with calls marked has the
definitions of the text, with their bodies edited (`cutChunks_callAtOnce`), and marking its calls
once more changes nothing (`callAtOnce_callAtOnce`). -/

namespace EstreeEmitter.Passes

open Text

/-! ## Full lines -/

/-- The text is made of full lines, none of them empty. -/
inductive Unbroken : List Char → Prop where
  | nil : Unbroken []
  | line {line rest : List Char} (hl : '\n' ∉ line) (hne : line ≠ []) (h : Unbroken rest) :
    Unbroken (line ++ '\n' :: rest)

theorem fullLines_of_not_mem {cs : List Char} (h : '\n' ∉ cs) : fullLines cs = [] := by
  rw [fullLines, splitLines, splitOn_of_not_mem h]
  rfl

theorem fullLines_line {line : List Char} (hl : '\n' ∉ line) (rest : List Char) :
    fullLines (line ++ '\n' :: rest) =
      if line = [] then [] else line ++ '\n' :: fullLines rest := by
  rw [fullLines, splitLines, splitOn_append_cons hl,
    List.dropLast_cons_of_ne_nil (splitOn_ne_nil '\n' rest)]
  split
  · rename_i he
    simp [he]
  · rename_i hne
    rw [List.takeWhile_cons_of_pos (by simpa using hne), List.flatMap_cons]
    simp [fullLines, splitLines]

/-- A text up to its first line feed, if it has one. -/
theorem not_mem_or_eq_line (cs : List Char) :
    '\n' ∉ cs ∨ ∃ line rest, '\n' ∉ line ∧ cs = line ++ '\n' :: rest := by
  by_cases h : '\n' ∈ cs
  · obtain ⟨line, rest, rfl, hl⟩ := List.eq_append_cons_of_mem h
    exact .inr ⟨line, rest, hl, rfl⟩
  · exact .inl h

theorem fullLines_eq_nil_iff {cs : List Char} :
    fullLines cs = [] ↔ '\n' ∉ cs ∨ cs.head? = some '\n' := by
  rcases not_mem_or_eq_line cs with h | ⟨line, rest, hl, rfl⟩
  · simp [fullLines_of_not_mem h, h]
  · rw [fullLines_line hl]
    cases line with
    | nil => simp
    | cons c line =>
        have hc : c ≠ '\n' := fun h => hl (by simp [h])
        simp [hc]

/-- Full lines are read up to the end of the line before an empty or an open one. -/
theorem Unbroken.fullLines_append {body rest : List Char} (hb : Unbroken body)
    (hr : fullLines rest = []) : fullLines (body ++ rest) = body := by
  induction hb with
  | nil => exact hr
  | line hl hne _ ih =>
      rw [List.append_assoc, List.cons_append, fullLines_line hl, if_neg hne, ih]

/-- Behind the full lines at the front there is none. -/
theorem exists_eq_fullLines_append (cs : List Char) :
    Unbroken (fullLines cs) ∧ ∃ rest, cs = fullLines cs ++ rest ∧ fullLines rest = [] := by
  induction hlen : cs.length using Nat.strongRecOn generalizing cs with
  | _ length ih =>
      rcases not_mem_or_eq_line cs with h | ⟨line, rest, hl, rfl⟩
      · rw [fullLines_of_not_mem h]
        exact ⟨.nil, cs, rfl, fullLines_of_not_mem h⟩
      · rw [fullLines_line hl]
        split
        · rename_i he
          refine ⟨.nil, line ++ '\n' :: rest, rfl, ?_⟩
          rw [fullLines_line hl, if_pos he]
        · rename_i hne
          have hlt : rest.length < length := by
            rw [← hlen, List.length_append, List.length_cons]
            omega
          obtain ⟨hfull, behind, hrest, hb⟩ := ih rest.length hlt rest rfl
          refine ⟨.line hl hne hfull, behind, ?_, hb⟩
          rw [List.append_assoc, List.cons_append, ← hrest]

/-! ## The first line of a definition -/

/-- The name and the parameters of a definition with the given first line. -/
def heading? (line : List Char) : Option (List Char × List Char) := do
  let afterDef ← afterLetters? defLetters line
  let name := afterDef.takeWhile isWord
  if name.isEmpty then none
  let afterName ← after? ['('] (afterDef.drop name.length)
  let parameters ← lineArgument? afterName
  return (name, parameters)

theorem after?_singleton_append {w c : Char} (h : w ≠ c) (cs rest : List Char) :
    after? [w] (cs ++ c :: rest) = (after? [w] cs).map (· ++ c :: rest) := by
  cases cs with
  | nil =>
      have hfail : after? [w] (c :: rest) = none := if_neg (by simpa using h)
      rw [List.nil_append, hfail]
      rfl
  | cons d cs =>
      rw [List.cons_append, after?, after?, after?, after?]
      split <;> rfl

theorem length_of_afterLetters? {letters : List (List Char)} {cs rest : List Char}
    (h : afterLetters? letters cs = some rest) : cs.length = letters.length + rest.length := by
  obtain ⟨head, hh, rfl⟩ := afterLetters?_eq_some h
  rw [List.length_append, hh.length_eq]

/-- A run of characters does not go on behind the end of its line. -/
theorem takeWhile_append_lineFeed {p : Char → Bool} (hp : p '\n' = false) (cs rest : List Char) :
    (cs ++ '\n' :: rest).takeWhile p = cs.takeWhile p := by
  rw [List.takeWhile_append, List.takeWhile_cons_of_neg (by simp [hp]), List.append_nil]
  split
  · rename_i hlen
    exact ((List.takeWhile_prefix p).eq_of_length hlen).symm
  · rfl

/-- What stands before and behind the parenthesis that opens parameters. -/
theorem eq_append_of_after?_open {cs rest : List Char}
    (h : after? ['('] (cs.drop (cs.takeWhile isWord).length) = some rest) :
    cs = cs.takeWhile isWord ++ '(' :: rest := by
  have hsplit := List.prefix_iff_eq_append.mp (List.takeWhile_prefix (l := cs) isWord)
  rw [after?_eq_some_iff.mp h] at hsplit
  exact hsplit.symm

/-- **A definition is its first line and the full lines behind it.** -/
theorem chunk?_line {line : List Char} (hl : '\n' ∉ line) (rest : List Char) :
    chunk? (line ++ '\n' :: rest) =
      (heading? line).bind fun heading =>
        if (fullLines rest).isEmpty then none
        else some ⟨heading.1, heading.2, line, fullLines rest⟩ := by
  have hletters : ∀ choices ∈ defLetters, '\n' ∉ choices := by decide
  rw [chunk?, heading?, afterLetters?_append_cons hletters]
  cases hd : afterLetters? defLetters line with
  | none => rfl
  | some afterDef =>
      obtain ⟨head, -, hline⟩ := afterLetters?_eq_some hd
      have hlength := length_of_afterLetters? hd
      have hname := takeWhile_append_lineFeed (by decide : isWord '\n' = false) afterDef rest
      have hdrop : (afterDef ++ '\n' :: rest).drop (afterDef.takeWhile isWord).length =
          afterDef.drop (afterDef.takeWhile isWord).length ++ '\n' :: rest :=
        List.drop_append_of_le_length (List.takeWhile_prefix isWord).length_le
      -- each step reads the same on the line alone as on the line with more behind it
      simp only [Option.map_some, Option.bind_eq_bind, Option.bind_some, hname, hdrop,
        after?_singleton_append (by decide : '(' ≠ '\n')]
      split
      · rfl
      · cases hn : after? ['('] (afterDef.drop (afterDef.takeWhile isWord).length) with
        | none => rfl
        | some afterName =>
            have hsplit := eq_append_of_after?_open hn
            have hafter : ∀ c ∈ afterName, (c != '\n') = true := by
              intro c hc
              rw [bne_iff_ne]
              rintro rfl
              refine hl ?_
              rw [hline, hsplit]
              simp [hc]
            have htake : (afterName ++ '\n' :: rest).takeWhile (· != '\n') = afterName := by
              rw [takeWhile_append_lineFeed (by decide), List.takeWhile_eq_self_iff.mpr hafter]
            have hheader : (line ++ '\n' :: rest).take
                (defLetters.length + (afterDef.takeWhile isWord).length + 1 + afterName.length) =
                  line := by
              have hdef := congrArg List.length hsplit
              simp only [List.length_append, List.length_cons] at hdef
              refine (take_eq_of_append rfl ?_).symm
              omega
            simp only [Option.map_some, Option.bind_some, htake, List.drop_left, hheader]
            cases lineArgument? afterName with
            | none => rfl
            | some parameters => rfl

/-- A definition has a full line behind its first one. -/
theorem chunk?_of_not_mem {cs : List Char} (h : '\n' ∉ cs) : chunk? cs = none := by
  cases hc : chunk? cs with
  | none => rfl
  | some chunk =>
      obtain ⟨rest, hrest⟩ := chunk?_eq_some hc
      exact absurd (by rw [hrest, Chunk.source]; simp) h

/-! ## Texts with calls put in -/

/-- `wide` is the text with `.call` before some of its parentheses. -/
inductive Widened : List Char → List Char → Prop where
  | nil : Widened [] []
  | same (c : Char) {text wide : List Char} (h : Widened text wide) :
    Widened (c :: text) (c :: wide)
  | call {text wide : List Char} (h : Widened text wide) :
    Widened ('(' :: text) (".call".toList ++ '(' :: wide)

theorem widened_throughCall (names : List (List Char)) (before text : List Char) :
    Widened text (throughCall names before text) := by
  induction text generalizing before with
  | nil => exact .nil
  | cons c text ih =>
      by_cases hc : c = '(' ∧ isCallOf names before = true
      · obtain ⟨rfl, hcall⟩ := hc
        rw [throughCall_cons_of_call hcall]
        exact .call (ih _)
      · rw [throughCall_cons_of_not_call hc]
        exact .same c (ih _)

theorem Widened.refl (text : List Char) : Widened text text := by
  induction text with
  | nil => exact .nil
  | cons c text ih => exact .same c ih

theorem Widened.append {text wide text' wide' : List Char} (h : Widened text wide)
    (h' : Widened text' wide') : Widened (text ++ text') (wide ++ wide') := by
  induction h with
  | nil => exact h'
  | same c _ ih => exact .same c ih
  | call _ ih =>
      rw [List.append_assoc]
      exact .call ih

/-- The line feeds stay, and so does one at the front. -/
theorem Widened.lineFeed_iff {text wide : List Char} (h : Widened text wide) :
    ('\n' ∈ wide ↔ '\n' ∈ text) ∧ (wide.head? = some '\n' ↔ text.head? = some '\n') := by
  induction h with
  | nil => simp
  | same c _ ih => simp [ih.1]
  | call _ ih => simp [ih.1]

theorem Widened.eq_nil_iff {text wide : List Char} (h : Widened text wide) :
    wide = [] ↔ text = [] := by
  cases h <;> simp

theorem Widened.fullLines_eq_nil_iff {text wide : List Char} (h : Widened text wide) :
    fullLines wide = [] ↔ fullLines text = [] := by
  rw [Passes.fullLines_eq_nil_iff, Passes.fullLines_eq_nil_iff, h.lineFeed_iff.1,
    h.lineFeed_iff.2]

theorem throughCall_append (names : List (List Char)) (before text rest : List Char) :
    throughCall names before (text ++ rest) =
      throughCall names before text ++ throughCall names (text.reverse ++ before) rest := by
  induction text generalizing before with
  | nil => rfl
  | cons c text ih =>
      rw [List.cons_append, throughCall, ih, throughCall]
      simp

/-- Full lines stay full lines. -/
theorem Unbroken.throughCall {text : List Char} (h : Unbroken text) (names : List (List Char))
    (before : List Char) : Unbroken (throughCall names before text) := by
  induction h generalizing before with
  | nil => exact .nil
  | @line line rest hl hne _ ih =>
      have hwide := widened_throughCall names before line
      rw [throughCall_append, throughCall_cons_of_not_call (by simp)]
      exact .line (by rwa [hwide.lineFeed_iff.1]) (by rwa [ne_eq, hwide.eq_nil_iff]) (ih _)

/-! ## The definitions of an edited text -/

/-- The definition with the calls of its parameters in the body edited. -/
def Chunk.throughCalls (chunk : Chunk) : Chunk :=
  { chunk with body := throughCall (parametersOf chunk.parameters) [] chunk.body }

/-- The text with the calls of parameters edited in all definitions at once. -/
def callAtOnce (code : List Char) : List Char :=
  paste (fun chunk => chunk.throughCalls.source) (cutChunks code)

theorem chunkAt?_pos {code : List Char} {chunk : Chunk} {n : Nat}
    (h : ((chunk? code).map fun chunk => (chunk, chunk.length)) = some (chunk, n)) :
    chunk? code = some chunk ∧ n = chunk.source.length ∧ 1 ≤ n := by
  obtain ⟨found, hf, he⟩ := Option.map_eq_some_iff.mp h
  cases he
  exact ⟨hf, chunk.length_eq, by rw [Chunk.length]; omega⟩

/-- Induction along the definitions of a text. -/
theorem chunk_induction {P : List Char → Prop} (nil : P [])
    (found : ∀ {chunk rest}, chunk? (chunk.source ++ rest) = some chunk → P rest →
      P (chunk.source ++ rest))
    (keep : ∀ {c cs}, chunk? (c :: cs) = none → P cs → P (c :: cs)) (code : List Char) :
    P code := by
  refine ahead_induction (fun rest => (chunk? rest).map fun chunk => (chunk, chunk.length))
    (fun h => (chunkAt?_pos h).2.2) nil ?_ ?_ code
  · intro c cs chunk n h hrest
    obtain ⟨hchunk, rfl, -⟩ := chunkAt?_pos h
    obtain ⟨rest, hcode⟩ := chunk?_eq_some hchunk
    rw [hcode] at hchunk hrest ⊢
    rw [List.drop_left] at hrest
    exact found hchunk hrest
  · intro c cs h hrest
    exact keep (by simpa using h) hrest

theorem cutChunks_nil : cutChunks [] = [] := by rw [cutChunks, cut]

theorem cutChunks_found {chunk : Chunk} {rest : List Char}
    (h : chunk? (chunk.source ++ rest) = some chunk) :
    cutChunks (chunk.source ++ rest) = .found chunk :: cutChunks rest := by
  have hne : chunk.source ≠ [] := by simp [Chunk.source]
  rw [cutChunks, cut_found hne (by rw [h, Option.map_some, chunk.length_eq]), cut_ahead _ []]
  rfl

theorem cutChunks_keep {c : Char} {cs : List Char} (h : chunk? (c :: cs) = none) :
    cutChunks (c :: cs) = .keep c :: cutChunks cs := by
  rw [cutChunks, cut_keep (by rw [h]; rfl), cut_ahead _ []]
  rfl

theorem callAtOnce_found {chunk : Chunk} {rest : List Char}
    (h : chunk? (chunk.source ++ rest) = some chunk) :
    callAtOnce (chunk.source ++ rest) = chunk.throughCalls.source ++ callAtOnce rest := by
  rw [callAtOnce, cutChunks_found h, paste_cons]
  simp [paste, callAtOnce]

theorem callAtOnce_keep {c : Char} {cs : List Char} (h : chunk? (c :: cs) = none) :
    callAtOnce (c :: cs) = c :: callAtOnce cs := by
  rw [callAtOnce, cutChunks_keep h, paste_cons]
  rfl

theorem Chunk.widened_source (chunk : Chunk) : Widened chunk.source chunk.throughCalls.source :=
  (Widened.refl chunk.header).append (.same '\n' (widened_throughCall _ _ _))

theorem widened_callAtOnce (code : List Char) : Widened code (callAtOnce code) := by
  induction code using chunk_induction with
  | nil => exact .nil
  | found h ih =>
      rw [callAtOnce_found h]
      exact (Chunk.widened_source _).append ih
  | keep h ih =>
      rw [callAtOnce_keep h]
      exact .same _ ih

/-- A recognised definition has a first line that heads it, and ends where no full line follows. -/
theorem chunk?_source {chunk : Chunk} {rest : List Char}
    (h : chunk? (chunk.source ++ rest) = some chunk) :
    '\n' ∉ chunk.header ∧ heading? chunk.header = some (chunk.name, chunk.parameters) ∧
      chunk.body ≠ [] ∧ Unbroken chunk.body ∧ fullLines rest = [] := by
  rcases not_mem_or_eq_line (chunk.source ++ rest) with hn | ⟨line, behind, hl, hcode⟩
  · rw [chunk?_of_not_mem hn] at h
    cases h
  · rw [hcode, chunk?_line hl] at h
    obtain ⟨⟨name, parameters⟩, hheading, h⟩ := Option.bind_eq_some_iff.mp h
    obtain ⟨hne, hchunk⟩ := Option.ite_none_left_eq_some.mp h
    cases hchunk
    obtain ⟨hfull, more, hmore, hend⟩ := exists_eq_fullLines_append behind
    -- what stands behind the definition is what stands behind its full lines
    have hrest : rest = more := by
      have hbehind : fullLines behind ++ rest = behind := by
        have hcode : line ++ '\n' :: fullLines behind ++ rest = line ++ '\n' :: behind := hcode
        simpa using hcode
      exact List.append_cancel_left (hbehind.trans hmore)
    exact ⟨hl, hheading, by simpa using hne, hfull, hrest ▸ hend⟩

theorem chunk?_throughCalls {chunk : Chunk} {rest wide : List Char}
    (h : chunk? (chunk.source ++ rest) = some chunk) (hw : Widened rest wide) :
    chunk? (chunk.throughCalls.source ++ wide) = some chunk.throughCalls := by
  obtain ⟨hl, hheading, hne, hfull, hend⟩ := chunk?_source h
  have hbody := (hfull.throughCall (parametersOf chunk.parameters) []).fullLines_append
    (hw.fullLines_eq_nil_iff.mpr hend)
  have hbodyne : throughCall (parametersOf chunk.parameters) [] chunk.body ≠ [] := by
    rwa [ne_eq, (widened_throughCall _ _ _).eq_nil_iff]
  have hsource : chunk.throughCalls.source ++ wide = chunk.header ++ '\n' ::
      (throughCall (parametersOf chunk.parameters) [] chunk.body ++ wide) := by
    simp [Chunk.source, Chunk.throughCalls]
  rw [hsource, chunk?_line hl, hheading, Option.bind_some, hbody, if_neg (by simpa using hbodyne)]
  rfl

/-- The edit leaves the first line of a text as it is, since definitions are edited behind their
first lines only. -/
theorem callAtOnce_firstLine (code : List Char) :
    ('\n' ∉ code ∧ callAtOnce code = code) ∨
      ∃ line rest wide, '\n' ∉ line ∧ code = line ++ '\n' :: rest ∧
        callAtOnce code = line ++ '\n' :: wide ∧ Widened rest wide := by
  induction code using chunk_induction with
  | nil => exact .inl ⟨by simp, by rw [callAtOnce, cutChunks_nil]; rfl⟩
  | @found chunk rest h ih =>
      refine .inr ⟨chunk.header, chunk.body ++ rest, chunk.throughCalls.body ++ callAtOnce rest,
        (chunk?_source h).1, ?_, ?_, ?_⟩
      · simp [Chunk.source]
      · rw [callAtOnce_found h]
        simp [Chunk.source, Chunk.throughCalls]
      · exact (widened_throughCall _ _ _).append (widened_callAtOnce rest)
  | @keep c cs h ih =>
      rw [callAtOnce_keep h]
      by_cases hc : c = '\n'
      · subst hc
        exact .inr ⟨[], cs, callAtOnce cs, by simp, rfl, rfl, widened_callAtOnce cs⟩
      · rcases ih with ⟨hn, heq⟩ | ⟨line, rest, wide, hl, hcs, heq, hw⟩
        · exact .inl ⟨by simp [Ne.symm hc, hn], by rw [heq]⟩
        · refine .inr ⟨c :: line, rest, wide, by simp [Ne.symm hc, hl], ?_, ?_, hw⟩
          · rw [hcs]
            rfl
          · rw [heq]
            rfl

theorem chunk?_callAtOnce_eq_none {code : List Char} (h : chunk? code = none) :
    chunk? (callAtOnce code) = none := by
  rcases callAtOnce_firstLine code with ⟨-, heq⟩ | ⟨line, rest, wide, hl, rfl, heq, hw⟩
  · rwa [heq]
  · rw [chunk?_line hl] at h
    rw [heq, chunk?_line hl]
    cases hheading : heading? line with
    | none => rfl
    | some heading =>
        rw [hheading, Option.bind_some] at h
        have hempty : (fullLines rest).isEmpty = true := by
          by_contra hne
          rw [if_neg hne] at h
          cases h
        have hwide : fullLines wide = [] := hw.fullLines_eq_nil_iff.mpr (by simpa using hempty)
        rw [Option.bind_some, hwide]
        rfl

/-- **An edited text has the definitions of the text, with their bodies edited.** -/
theorem cutChunks_callAtOnce (code : List Char) :
    cutChunks (callAtOnce code) = (cutChunks code).map (Stretch.map Chunk.throughCalls) := by
  induction code using chunk_induction with
  | nil =>
      rw [callAtOnce, cutChunks_nil]
      exact cutChunks_nil
  | @found chunk rest h ih =>
      rw [callAtOnce_found h, cutChunks_found (chunk?_throughCalls h (widened_callAtOnce rest)), ih,
        cutChunks_found h]
      rfl
  | @keep c cs h ih =>
      have hnone := chunk?_callAtOnce_eq_none h
      rw [callAtOnce_keep h] at hnone ⊢
      rw [cutChunks_keep hnone, ih, cutChunks_keep h]
      rfl

theorem pieces_cutChunks_callAtOnce (code : List Char) :
    pieces (cutChunks (callAtOnce code)) = (pieces (cutChunks code)).map Chunk.throughCalls := by
  rw [cutChunks_callAtOnce, pieces_map]

theorem Chunk.throughCalls_throughCalls (chunk : Chunk) :
    chunk.throughCalls.throughCalls = chunk.throughCalls :=
  congrArg (fun body => { chunk with body := body }) (throughCall_throughCall_self _ chunk.body)

/-- A second edit changes nothing. -/
theorem callAtOnce_callAtOnce (code : List Char) :
    callAtOnce (callAtOnce code) = callAtOnce code := by
  have hwrite : (fun chunk : Chunk => chunk.throughCalls.source) ∘ Chunk.throughCalls =
      fun chunk => chunk.throughCalls.source := by
    funext chunk
    rw [Function.comp_apply, Chunk.throughCalls_throughCalls]
  rw [callAtOnce, cutChunks_callAtOnce, paste_map, hwrite]
  rfl

end EstreeEmitter.Passes
