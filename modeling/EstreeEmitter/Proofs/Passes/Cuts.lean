import EstreeEmitter.Passes.Pipeline
import EstreeEmitter.Proofs.Text.Cut
import EstreeEmitter.Proofs.Text.Scan
import Mathlib.Data.List.TakeDrop
import Mathlib.Data.List.Forall2

set_option autoImplicit false

/-! # What the pieces of the passes cover

Each pass cuts a text at the pieces that it edits. Here is, for every kind of piece, the text that
it was recognised from: nothing is skipped and nothing is read twice, so the pieces with what stands
between them make up the text. -/

namespace EstreeEmitter.Passes

open Text

theorem drop_eq_cons_of_getElem? {cs : List Char} {n : Nat} {c : Char} (h : cs[n]? = some c) :
    cs.drop n = c :: cs.drop (n + 1) := by
  obtain ⟨hn, rfl⟩ := List.getElem?_eq_some_iff.mp h
  exact List.drop_eq_getElem_cons hn

theorem take_eq_of_append {cs ds rest : List Char} {n : Nat} (h : cs = ds ++ rest)
    (hn : n = ds.length) : ds = cs.take n := by
  rw [h, hn, List.take_left]

/-! ## Increments -/

theorem wordChain_isPrefix (cs : List Char) : wordChain cs <+: cs := by
  fun_induction wordChain cs with
  | case1 => exact List.nil_prefix
  | case2 c cs hc ih => exact (List.prefix_cons_inj c).mpr ih
  | case3 c cs hc hd ih => exact (List.prefix_cons_inj c).mpr ih
  | case4 => exact List.nil_prefix

theorem bracketIndex_isPrefix (cs : List Char) : bracketIndex cs <+: cs := by
  unfold bracketIndex
  split
  · rename_i cs
    dsimp only
    generalize hi : cs.takeWhile (fun c => c != '[' && c != ']' && c != '\n') = inner
    split
    · rename_i hc
      simp only [Bool.and_eq_true, beq_iff_eq] at hc
      have hcs : inner ++ cs.drop inner.length = cs :=
        List.prefix_iff_eq_append.mp (hi ▸ List.takeWhile_prefix _)
      rw [drop_eq_cons_of_getElem? hc.2] at hcs
      exact ⟨cs.drop (inner.length + 1), by simpa using hcs⟩
    · exact List.nil_prefix
  · exact List.nil_prefix

theorem operand_isPrefix (cs : List Char) : operand cs <+: cs := by
  unfold operand
  split
  · have hchain := List.prefix_iff_eq_append.mp (wordChain_isPrefix cs)
    obtain ⟨rest, hr⟩ := bracketIndex_isPrefix (cs.drop (wordChain cs).length)
    exact ⟨rest, by rw [List.append_assoc, hr, hchain]⟩
  · exact List.nil_prefix

/-- The text that a token was recognised from. -/
def Token.source (sign : Char) : Token → List Char
  | .quoted text => text
  | .step x => x ++ [sign, sign]

theorem token?_eq_some {sign : Char} {cs : List Char} {token : Token} {n : Nat}
    (h : token? sign cs = some (token, n)) : 1 ≤ n ∧ token.source sign = cs.take n := by
  unfold token? at h
  split at h
  · cases h
  · rename_i c rest
    split at h
    · obtain ⟨m, hm, hp⟩ := Option.map_eq_some_iff.mp h
      cases hp
      exact ⟨by omega, rfl⟩
    · dsimp only at h
      split at h
      · rename_i hx
        cases h
        simp only [Bool.and_eq_true] at hx
        have hop := List.prefix_iff_eq_append.mp (operand_isPrefix (c :: rest))
        obtain ⟨behind, hb⟩ := List.isPrefixOf_iff_prefix.mp hx.2
        rw [← hb, ← List.append_assoc] at hop
        have hlen : (operand (c :: rest)).length + 2 =
            (operand (c :: rest) ++ [sign, sign]).length := by rw [List.length_append]; rfl
        exact ⟨by omega, take_eq_of_append hop.symm hlen⟩
      · cases h

theorem cuts_tokens (sign : Char) (code : List Char) :
    Cuts (fun token text => token.source sign = text) (cutTokens sign code) code :=
  cuts_cut token?_eq_some [] 0 code

/-- A line with only an increment: its margin, the sign twice, the operand and blanks. -/
theorem leadingStep?_eq_some {sign : Char} {line edited : List Char}
    (h : leadingStep? sign line = some edited) :
    ∃ margin x blanks, line = margin ++ [sign, sign] ++ x ++ blanks ∧
      edited = margin ++ x ++ stepText sign ∧ ∀ c ∈ blanks, isSpaceOrTab c = true := by
  obtain ⟨rest, hr, h⟩ := Option.bind_eq_some_iff.mp h
  have hmargin : line.takeWhile isSpaceOrTab ++ line.drop (line.takeWhile isSpaceOrTab).length =
      line := List.prefix_iff_eq_append.mp (List.takeWhile_prefix _)
  rw [after?_eq_some_iff.mp hr] at hmargin
  have hop := List.prefix_iff_eq_append.mp (operand_isPrefix rest)
  dsimp only at h
  split at h
  · cases h
  · split at h
    · rename_i hb
      cases h
      refine ⟨line.takeWhile isSpaceOrTab, operand rest, rest.drop (operand rest).length, ?_, rfl,
        List.all_eq_true.mp hb⟩
      rw [List.append_assoc, hop, List.append_assoc, hmargin]
    · cases h

/-! ## Lines and their arguments -/

theorem afterLetters?_eq_some {letters : List (List Char)} {cs rest : List Char}
    (h : afterLetters? letters cs = some rest) :
    ∃ head, List.Forall₂ (fun choices c => c ∈ choices) letters head ∧ cs = head ++ rest := by
  fun_induction afterLetters? letters cs with
  | case1 cs => exact ⟨[], .nil, by rw [Option.some.inj h]; rfl⟩
  | case2 => cases h
  | case3 choices more c cs hc ih =>
      obtain ⟨head, hh, rfl⟩ := ih h
      exact ⟨c :: head, .cons (List.contains_iff_mem.mp hc) hh, rfl⟩
  | case4 => cases h

/-- A character that is none of the letters ends the search for them. -/
theorem afterLetters?_append_cons {letters : List (List Char)} {c : Char}
    (h : ∀ choices ∈ letters, c ∉ choices) (line rest : List Char) :
    afterLetters? letters (line ++ c :: rest) =
      (afterLetters? letters line).map (· ++ c :: rest) := by
  induction letters generalizing line with
  | nil => rfl
  | cons choices letters ih =>
      obtain ⟨hfirst, hothers⟩ := List.forall_mem_cons.mp h
      cases line with
      | nil =>
          have hfail : afterLetters? (choices :: letters) (c :: rest) = none :=
            if_neg (by simpa using hfirst)
          rw [List.nil_append, hfail]
          rfl
      | cons d line =>
          rw [List.cons_append, afterLetters?, afterLetters?, ih hothers]
          split <;> rfl

theorem lineArgument?_eq_some {line argument : List Char} (h : lineArgument? line = some argument) :
    line = argument ++ [')'] := by
  obtain ⟨hc, hl⟩ := Option.ite_none_right_eq_some.mp h
  simp only [Bool.and_eq_true, beq_iff_eq] at hc
  cases hl
  obtain ⟨before, rfl⟩ := List.getLast?_eq_some_iff.mp hc.1
  rw [List.dropLast_concat]

/-- The rest of a line with a line feed behind it. -/
theorem eq_append_of_after?_lineFeed {rest behind : List Char}
    (h : after? ['\n'] (rest.drop (rest.takeWhile (· != '\n')).length) = some behind) :
    rest = rest.takeWhile (· != '\n') ++ '\n' :: behind := by
  have hline := List.prefix_iff_eq_append.mp (List.takeWhile_prefix (l := rest) (· != '\n'))
  rw [after?_eq_some_iff.mp h] at hline
  exact hline.symm

/-! ## Calls of `puts` -/

/-- A call of `puts` that prints the argument, in any case. -/
def PutsCovers (argument text : List Char) : Prop :=
  ∃ head, List.Forall₂ (fun choices c => c ∈ choices) putsLetters head ∧
    text = head ++ argument ++ [')', '\n']

theorem putsCall?_eq_some {cs argument : List Char} {n : Nat}
    (h : putsCall? cs = some (argument, n)) : 1 ≤ n ∧ PutsCovers argument (cs.take n) := by
  obtain ⟨rest, hr, h⟩ := Option.bind_eq_some_iff.mp h
  obtain ⟨found, ha, h⟩ := Option.bind_eq_some_iff.mp h
  obtain ⟨behind, hb, h⟩ := Option.bind_eq_some_iff.mp h
  cases h
  obtain ⟨head, hh, rfl⟩ := afterLetters?_eq_some hr
  have hline := lineArgument?_eq_some ha
  have hrest := eq_append_of_after?_lineFeed hb
  rw [hline] at hrest
  have hcs : head ++ rest = (head ++ argument ++ [')', '\n']) ++ behind := by
    rw [hrest]
    simp
  refine ⟨by omega, head, hh, (take_eq_of_append hcs ?_).symm⟩
  rw [hline]
  simp [hh.length_eq]
  omega

theorem cuts_puts (code : List Char) : Cuts PutsCovers (cutPuts code) code :=
  cuts_cut putsCall?_eq_some [] 0 code

/-! ## Definitions -/

/-- Full lines at the front of a text are its beginning. -/
theorem fullLines_isPrefix (cs : List Char) : fullLines cs <+: cs := by
  have hne := splitOn_ne_nil '\n' cs
  have hcs : (splitOn '\n' cs).dropLast.flatMap (· ++ ['\n']) ++ (splitOn '\n' cs).getLast hne =
      cs := by rw [← joinWith_eq_flatMap, joinWith_splitOn]
  obtain ⟨others, ho⟩ := List.takeWhile_prefix (l := (splitOn '\n' cs).dropLast) (!·.isEmpty)
  refine ⟨others.flatMap (· ++ ['\n']) ++ (splitOn '\n' cs).getLast hne, ?_⟩
  rw [fullLines, splitLines, ← List.append_assoc, ← List.flatMap_append, ho, hcs]

/-- The text that a definition was recognised from. -/
def Chunk.source (chunk : Chunk) : List Char := chunk.header ++ '\n' :: chunk.body

theorem Chunk.length_eq (chunk : Chunk) : chunk.length = chunk.source.length := by
  simp only [Chunk.length, Chunk.source, List.length_append, List.length_cons]
  omega

theorem chunk?_eq_some {cs : List Char} {chunk : Chunk} (h : chunk? cs = some chunk) :
    ∃ rest, cs = chunk.source ++ rest := by
  obtain ⟨afterDef, hd, h⟩ := Option.bind_eq_some_iff.mp h
  dsimp only at h
  split at h
  · cases h
  · obtain ⟨afterName, hn, h⟩ := Option.bind_eq_some_iff.mp h
    obtain ⟨parameters, hp, h⟩ := Option.bind_eq_some_iff.mp h
    obtain ⟨afterLine, hl, h⟩ := Option.bind_eq_some_iff.mp h
    split at h
    · cases h
    · cases h
      obtain ⟨head, hh, rfl⟩ := afterLetters?_eq_some hd
      obtain ⟨rest, hf⟩ := fullLines_isPrefix afterLine
      have hrest := eq_append_of_after?_lineFeed hl
      have hname := List.prefix_iff_eq_append.mp (List.takeWhile_prefix (l := afterDef) isWord)
      rw [after?_eq_some_iff.mp hn] at hname
      generalize hm : afterDef.takeWhile isWord = name at hname ⊢
      generalize hk : afterName.takeWhile (· != '\n') = line at hrest ⊢
      have hcs : head ++ afterDef = (head ++ name ++ '(' :: line) ++ '\n' :: afterLine := by
        rw [← hname, hrest]
        simp
      have hheader : head ++ name ++ '(' :: line =
          (head ++ afterDef).take (defLetters.length + name.length + 1 + line.length) := by
        refine take_eq_of_append hcs ?_
        simp only [List.length_append, List.length_cons, hh.length_eq]
        omega
      refine ⟨rest, ?_⟩
      rw [Chunk.source, ← hheader, List.append_assoc, List.cons_append, hf, hcs]

theorem cuts_chunks (code : List Char) :
    Cuts (fun chunk text => chunk.source = text) (cutChunks code) code := by
  refine cuts_cut ?_ [] 0 code
  intro before rest chunk n h
  obtain ⟨found, hf, hp⟩ := Option.map_eq_some_iff.mp h
  cases hp
  obtain ⟨behind, hb⟩ := chunk?_eq_some hf
  refine ⟨?_, take_eq_of_append hb chunk.length_eq⟩
  rw [Chunk.length]
  omega

/-! ## Calls of a parameter -/

theorem cuts_calls (parameter body : List Char) :
    Cuts (fun _ text => parameter ++ ['('] = text) (cutCalls parameter body) body := by
  refine cuts_cut ?_ [] 0 body
  intro before rest piece n h
  obtain ⟨hc, hp⟩ := Option.ite_none_right_eq_some.mp h
  cases hp
  simp only [Bool.and_eq_true] at hc
  obtain ⟨behind, hb⟩ := List.isPrefixOf_iff_prefix.mp hc.2
  exact ⟨by omega, take_eq_of_append hb.symm (by simp)⟩

/-! ## Call sites -/

theorem argumentsFrom_eq_some {fuel : Nat} {gap cs : List Char} {arguments : List Argument}
    (h : argumentsFrom fuel gap cs = some arguments) :
    ∃ rest, gap ++ cs = arguments.flatMap Argument.whole ++ ')' :: rest := by
  fun_induction argumentsFrom fuel gap cs generalizing arguments with
  | case1 => cases h
  | case2 => cases h
  | case3 fuel gap cs length hl argument rest =>
      rename_i hd
      have hcs := List.take_append_drop length cs
      rw [hd] at hcs
      cases h
      refine ⟨rest, ?_⟩
      conv_lhs => rw [← hcs]
      simp [Argument.whole, argument]
  | case4 fuel gap cs length hl argument blank rest hd hb =>
      rename_i ih
      have hcs := List.take_append_drop length cs
      rw [hd] at hcs
      obtain ⟨others, ho, rfl⟩ := Option.map_eq_some_iff.mp h
      obtain ⟨behind, hr⟩ := ih ho
      refine ⟨behind, ?_⟩
      rw [List.flatMap_cons, List.append_assoc, ← hr, Argument.whole]
      conv_lhs => rw [← hcs]
      simp [argument]
  | case5 => cases h
  | case6 => cases h

/-- The text that a call site of a method was recognised from. -/
def callSource (name : List Char) (arguments : List Argument) : List Char :=
  name ++ '(' :: arguments.flatMap Argument.whole ++ [')']

theorem callSite?_eq_some {name before cs : List Char} {arguments : List Argument} {n : Nat}
    (h : callSite? name before cs = some (arguments, n)) :
    1 ≤ n ∧ callSource name arguments = cs.take n := by
  unfold callSite? at h
  split at h
  · cases h
  · obtain ⟨rest, hr, h⟩ := Option.bind_eq_some_iff.mp h
    obtain ⟨found, ha, h⟩ := Option.bind_eq_some_iff.mp h
    cases h
    obtain ⟨behind, hb⟩ := argumentsFrom_eq_some ha
    rw [List.nil_append] at hb
    have hcs : cs = callSource name arguments ++ behind := by
      rw [after?_eq_some_iff.mp hr, hb, callSource]
      simp
    refine ⟨by omega, take_eq_of_append hcs ?_⟩
    simp only [callSource, List.length_append, List.length_cons, List.length_nil]
    omega

theorem cuts_callSites (name code : List Char) :
    Cuts (fun arguments text => callSource name arguments = text) (cutCallSites name code) code :=
  cuts_cut callSite?_eq_some [] 0 code

end EstreeEmitter.Passes
