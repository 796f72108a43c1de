import EstreeEmitter.Proofs.Passes.SiteScan

set_option autoImplicit false

/-! # Calls of words in a text

Parameters that are called are marked one after the other, each in the text that was edited for the
ones before. `throughCall` does all of it at once, in the text as it was: at every parenthesis it
looks at the word before it. Both give the same (`body_markBody`), because an edit puts `.call`
between a word and its parenthesis, so that no other word is called there then, and the words before
the other parentheses stay as they are (`throughCall_throughCall`, `callWords_throughCall`). -/

namespace EstreeEmitter.Passes

open Text

/-! ## Words before parentheses -/

/-- The word that ends at a place. -/
def wordBefore (before : List Char) : List Char := (before.takeWhile isWord).reverse

/-- The word that ends at a place names a member. -/
def endsMember (before : List Char) : Bool := (before.dropWhile isWord).head? == some '.'

/-- One of the names is called if a parenthesis opens at the place. -/
def isCallOf (names : List (List Char)) (before : List Char) : Bool :=
  names.contains (wordBefore before) && !endsMember before

/-- The text from a place on with every call of one of the names as a call of its `call` method. -/
def throughCall (names : List (List Char)) : List Char → List Char → List Char
  | _, [] => []
  | before, c :: cs =>
    (if c == '(' && isCallOf names before then ".call".toList else []) ++
      c :: throughCall names (c :: before) cs

/-- The words that are called in the text from a place on. -/
def callWords : List Char → List Char → List (List Char)
  | _, [] => []
  | before, c :: cs =>
    (if c == '(' && !endsMember before then [wordBefore before] else []) ++
      callWords (c :: before) cs

/-- The name stands before a parenthesis in the text, and is neither the end of a longer name nor a
member. -/
def Calls (name text : List Char) : Prop :=
  ∃ before rest, text = before ++ name ++ '(' :: rest ∧ startsName before.reverse = true

/-! ## Runs of word characters -/

/-- No word goes over the place. -/
def StartsRun (before : List Char) : Prop := ∀ c ∈ before.head?, isWord c = false

theorem startsRun_nil : StartsRun [] := nofun

theorem startsRun_cons {c : Char} (h : isWord c = false) (before : List Char) :
    StartsRun (c :: before) := by
  rintro d ⟨⟩
  exact h

theorem startsName_iff {before : List Char} :
    startsName before = true ↔ StartsRun before ∧ before.head? ≠ some '.' := by
  cases before with
  | nil => simp [startsName, startsRun_nil]
  | cons c before => simp [startsName, StartsRun]

/-- Induction along the words of a text. -/
theorem run_induction {P : List Char → List Char → Prop}
    (last : ∀ {before word}, StartsRun before → word.all isWord = true → P before word)
    (more : ∀ {before word c rest}, StartsRun before → word.all isWord = true →
      isWord c = false → P (c :: (word.reverse ++ before)) rest → P before (word ++ c :: rest))
    {before : List Char} (hb : StartsRun before) (text : List Char) : P before text := by
  induction hlen : text.length using Nat.strongRecOn generalizing before text with
  | _ length ih =>
      rcases all_or_exists_append_cons isWord text with hw | ⟨word, c, rest, hw, hc, rfl⟩
      · exact last hb hw
      · refine more hb hw hc (ih rest.length ?_ (startsRun_cons hc _) rest rfl)
        rw [← hlen, List.length_append, List.length_cons]
        omega

theorem takeWhile_run {before word : List Char} (hb : StartsRun before)
    (hw : word.all isWord = true) : (word.reverse ++ before).takeWhile isWord = word.reverse :=
  takeWhile_append_eq (by rwa [List.all_reverse]) hb

theorem wordBefore_run {before word : List Char} (hb : StartsRun before)
    (hw : word.all isWord = true) : wordBefore (word.reverse ++ before) = word := by
  rw [wordBefore, takeWhile_run hb hw, List.reverse_reverse]

theorem endsMember_run {before word : List Char} (hb : StartsRun before)
    (hw : word.all isWord = true) :
    endsMember (word.reverse ++ before) = (before.head? == some '.') := by
  have hrev : ∀ c ∈ word.reverse, isWord c = true := by
    intro c hc
    exact List.all_eq_true.mp hw c (List.mem_reverse.mp hc)
  have hdrop : before.dropWhile isWord = before := by
    cases before with
    | nil => rfl
    | cons c before => exact List.dropWhile_cons_of_neg (by simp [hb c rfl])
  rw [endsMember, List.dropWhile_append_of_pos hrev, hdrop]

section

variable {names : List (List Char)}

/-- A text without parentheses stays, and no word is called in it. -/
theorem throughCall_append_of_not_mem {text : List Char} (h : '(' ∉ text)
    (before rest : List Char) :
    throughCall names before (text ++ rest) =
      text ++ throughCall names (text.reverse ++ before) rest := by
  induction text generalizing before with
  | nil => rfl
  | cons c text ih =>
      obtain ⟨hc, ht⟩ : '(' ≠ c ∧ '(' ∉ text := by simpa using h
      have hne : (c == '(') = false := beq_false_of_ne hc.symm
      rw [List.cons_append, throughCall, hne, ih ht]
      simp

theorem callWords_append_of_not_mem {text : List Char} (h : '(' ∉ text)
    (before rest : List Char) :
    callWords before (text ++ rest) = callWords (text.reverse ++ before) rest := by
  induction text generalizing before with
  | nil => rfl
  | cons c text ih =>
      obtain ⟨hc, ht⟩ : '(' ≠ c ∧ '(' ∉ text := by simpa using h
      have hne : (c == '(') = false := beq_false_of_ne hc.symm
      rw [List.cons_append, callWords, hne, ih ht]
      simp

theorem not_mem_open_of_isWord {word : List Char} (h : word.all isWord = true) : '(' ∉ word :=
  fun hm => absurd (List.all_eq_true.mp h _ hm) (by decide)

/-- A word is called if a parenthesis opens behind it and no point stands before it. -/
theorem callWords_run {before word rest : List Char} {c : Char} (hb : StartsRun before)
    (hw : word.all isWord = true) :
    callWords before (word ++ c :: rest) =
      (if c = '(' ∧ before.head? ≠ some '.' then [word] else []) ++
        callWords (c :: (word.reverse ++ before)) rest := by
  rw [callWords_append_of_not_mem (not_mem_open_of_isWord hw), callWords, wordBefore_run hb hw,
    endsMember_run hb hw]
  simp

theorem isCallOf_run {before word : List Char} (hb : StartsRun before)
    (hw : word.all isWord = true) :
    isCallOf names (word.reverse ++ before) = true ↔ word ∈ names ∧ before.head? ≠ some '.' := by
  rw [isCallOf, wordBefore_run hb hw, endsMember_run hb hw]
  simp

/-- A word that is not called stays. -/
theorem throughCall_run {before word rest : List Char} {c : Char} (hw : word.all isWord = true)
    (hc : ¬(c = '(' ∧ isCallOf names (word.reverse ++ before) = true)) :
    throughCall names before (word ++ c :: rest) =
      word ++ c :: throughCall names (c :: (word.reverse ++ before)) rest := by
  have hif : (c == '(' && isCallOf names (word.reverse ++ before)) = false := by
    rw [← Bool.not_eq_true, Bool.and_eq_true, beq_iff_eq]
    exact hc
  rw [throughCall_append_of_not_mem (not_mem_open_of_isWord hw), throughCall, hif]
  rfl

/-- A word that is called gets the method behind it. -/
theorem throughCall_call {before word rest : List Char} (hw : word.all isWord = true)
    (hc : isCallOf names (word.reverse ++ before) = true) :
    throughCall names before (word ++ '(' :: rest) =
      word ++ ".call(".toList ++ throughCall names ('(' :: (word.reverse ++ before)) rest := by
  rw [throughCall_append_of_not_mem (not_mem_open_of_isWord hw), throughCall, hc]
  simp

end

/-! ## The scan for the calls of a name -/

/-- A call of a name at the front of a text. -/
def callAt? (name before rest : List Char) : Option (Unit × Nat) :=
  if startsName before && (name ++ ['(']).isPrefixOf rest then some ((), name.length + 1) else none

theorem cutCalls_eq_cut (name body : List Char) :
    cutCalls name body = cut (callAt? name) [] 0 body := rfl

theorem callAt?_eq_none_of_startsName {before : List Char} (h : startsName before = false)
    (name rest : List Char) : callAt? name before rest = none := by
  rw [callAt?, h, Bool.false_and]
  rfl

/-- Nothing is recognised in a word, unless it is at its front. -/
theorem cut_callAt?_run {name before word rest : List Char} {c : Char}
    (hw : word.all isWord = true) (h : callAt? name before (word ++ c :: rest) = none) :
    cut (callAt? name) before 0 (word ++ c :: rest) =
      (word ++ [c]).map .keep ++ cut (callAt? name) (c :: (word.reverse ++ before)) 0 rest := by
  have htext : word ++ c :: rest = (word ++ [c]) ++ rest := by simp
  rw [htext, cut_append_of_none]
  · simp
  · intro front d behind hsplit
    rcases List.eq_nil_or_concat front with rfl | ⟨front, e, rfl⟩
    · have hcons : word ++ c :: rest = d :: (behind ++ rest) := by
        rw [htext, hsplit]
        rfl
      rwa [← hcons]
    · -- the character before the place belongs to the word
      have he : e ∈ word := by
        rcases List.append_eq_append_iff.mp hsplit with ⟨more, hfront, hc⟩ | ⟨more, hword, -⟩
        · cases more with
          | nil =>
              rw [List.append_nil] at hfront
              simp [← hfront]
          | cons x more =>
              have hlen := congrArg List.length hc
              simp at hlen
        · simp [hword]
      refine callAt?_eq_none_of_startsName ?_ name _
      simp [startsName, List.all_eq_true.mp hw e he]

/-- A call of the name is one piece. -/
theorem cut_callAt?_call (name : List Char) {before : List Char} (hs : startsName before = true)
    (rest : List Char) :
    cut (callAt? name) before 0 (name ++ '(' :: rest) =
      .found () :: cut (callAt? name) ('(' :: (name.reverse ++ before)) 0 rest := by
  have htext : name ++ '(' :: rest = (name ++ ['(']) ++ rest := by simp
  have hfound : callAt? name before ((name ++ ['(']) ++ rest) =
      some ((), (name ++ ['(']).length) := by
    rw [callAt?, hs, List.isPrefixOf_iff_prefix.mpr (List.prefix_append _ _)]
    simp
  rw [htext, cut_found (by simp) hfound]
  simp

/-- From a place on, the scan edits the text as it should, and finds the name as often as it is
called. -/
structure FindsCalls (name before text : List Char) : Prop where
  edits : paste (fun _ => name ++ ".call(".toList) (cut (callAt? name) before 0 text) =
    throughCall [name] before text
  count : (pieces (cut (callAt? name) before 0 text)).length = (callWords before text).count name

theorem findsCalls_of_not_mem {name before text : List Char} (h : '(' ∉ text) :
    FindsCalls name before text := by
  have hcut : cut (callAt? name) before 0 (text ++ []) = _ := cut_append_of_none (by
    intro front c behind htext
    rw [callAt?, if_neg]
    intro hfound
    rw [Bool.and_eq_true, List.isPrefixOf_iff_prefix] at hfound
    obtain ⟨rest, hrest⟩ := hfound.2
    refine h ?_
    rw [htext, ← List.append_nil behind, ← hrest]
    simp)
  have hedit : throughCall [name] before (text ++ []) = _ :=
    throughCall_append_of_not_mem h before []
  have hwords := callWords_append_of_not_mem h before []
  rw [List.append_nil] at hcut hedit hwords
  constructor
  · rw [hcut, hedit, paste_append, paste_map_keep, cut]
    rfl
  · rw [hcut, hwords, pieces_append, pieces_map_keep, cut]
    rfl

section

variable {name : List Char} (hn : IsWordText name)

include hn

/-- Where a word is called that is not the name, or no word is, nothing is recognised. -/
theorem callAt?_run_eq_none {before word rest : List Char} {c : Char} (hb : StartsRun before)
    (hw : word.all isWord = true) (hc : isWord c = false)
    (h : ¬(c = '(' ∧ isCallOf [name] (word.reverse ++ before) = true)) :
    callAt? name before (word ++ c :: rest) = none := by
  rw [callAt?, if_neg]
  intro hfound
  rw [Bool.and_eq_true, List.isPrefixOf_iff_prefix] at hfound
  obtain ⟨hstart, behind, hbehind⟩ := hfound
  rw [List.append_assoc, List.singleton_append] at hbehind
  obtain ⟨rfl, rfl, -⟩ := append_cons_inj_of_all hn.all_isWord hw (by decide) hc hbehind
  exact h ⟨rfl, (isCallOf_run hb hw).mpr ⟨List.mem_singleton_self _, (startsName_iff.mp hstart).2⟩⟩

/-- **The scan finds the calls of a name.** -/
theorem findsCalls {before : List Char} (hb : StartsRun before) (text : List Char) :
    FindsCalls name before text := by
  refine run_induction (P := FindsCalls name) ?_ ?_ hb text
  · intro before word hb hw
    exact findsCalls_of_not_mem (not_mem_open_of_isWord hw)
  · intro before word c rest hb hw hc ih
    by_cases hcall : c = '(' ∧ isCallOf [name] (word.reverse ++ before) = true
    · -- the word is the name, and it is called
      obtain ⟨rfl, hcall⟩ := hcall
      obtain ⟨hword, hdot⟩ := (isCallOf_run hb hw).mp hcall
      obtain rfl := List.mem_singleton.mp hword
      have hcut := cut_callAt?_call word (startsName_iff.mpr ⟨hb, hdot⟩) rest
      constructor
      · rw [hcut, throughCall_call hw hcall, paste_cons, ih.edits]
        simp [paste]
      · rw [hcut, callWords_run hb hw, List.count_append, if_pos ⟨rfl, hdot⟩, ← ih.count]
        simp [pieces]
        omega
    · -- another word, or one that is not called
      have hnone : callAt? name before (word ++ c :: rest) = none :=
        callAt?_run_eq_none hn hb hw hc hcall
      have hcut := cut_callAt?_run hw hnone
      have hother : (if c = '(' ∧ before.head? ≠ some '.' then [word] else []).count name = 0 := by
        split
        · rename_i hc
          refine List.count_eq_zero.mpr fun hm => hcall ⟨hc.1, (isCallOf_run hb hw).mpr ⟨?_, hc.2⟩⟩
          rw [List.mem_singleton.mp hm]
          exact List.mem_singleton_self _
        · rfl
      constructor
      · rw [hcut, throughCall_run hw hcall, paste_append, paste_map_keep, ih.edits]
        simp
      · rw [hcut, callWords_run hb hw, List.count_append, hother, pieces_append, pieces_map_keep,
          List.nil_append, ih.count, Nat.zero_add]

theorem callThrough_eq_throughCall (body : List Char) :
    callThrough name body = throughCall [name] [] body := (findsCalls hn startsRun_nil body).edits

theorem isCalled_iff (body : List Char) : isCalled name body = true ↔ name ∈ callWords [] body := by
  have hcount := (findsCalls hn startsRun_nil body).count
  rw [isCalled, cutCalls_eq_cut, ← List.count_pos_iff, ← hcount, Bool.not_eq_true',
    List.isEmpty_eq_false_iff, List.length_pos_iff]

end

/-! ## Which words are called -/

theorem mem_callWords_iff {name before text : List Char} :
    name ∈ callWords before text ↔
      ∃ front rest, text = front ++ '(' :: rest ∧ wordBefore (front.reverse ++ before) = name ∧
        endsMember (front.reverse ++ before) = false := by
  induction text generalizing before with
  | nil => simp [callWords]
  | cons c text ih =>
      rw [callWords, List.mem_append, ih]
      constructor
      · rintro (h | ⟨front, rest, rfl, hw, hm⟩)
        · split at h
          · rename_i hc
            rw [Bool.and_eq_true, beq_iff_eq, Bool.not_eq_true'] at hc
            exact ⟨[], text, by rw [hc.1]; rfl, (List.mem_singleton.mp h).symm, hc.2⟩
          · cases h
        · exact ⟨c :: front, rest, rfl, by simpa using hw, by simpa using hm⟩
      · rintro ⟨front, rest, htext, hw, hm⟩
        cases front with
        | nil =>
            obtain ⟨rfl, -⟩ := List.cons.inj htext
            have hword : wordBefore before = name := hw
            have hmember : endsMember before = false := hm
            exact .inl (by simp [hmember, hword])
        | cons d front =>
            obtain ⟨rfl, rfl⟩ := List.cons.inj htext
            exact .inr ⟨front, rest, rfl, by simpa using hw, by simpa using hm⟩

/-- The words that are called are those that stand before a parenthesis. -/
theorem calls_iff_mem_callWords {name : List Char} (hn : IsWordText name) {text : List Char} :
    Calls name text ↔ name ∈ callWords [] text := by
  rw [mem_callWords_iff]
  simp only [List.append_nil]
  constructor
  · rintro ⟨before, rest, rfl, hs⟩
    obtain ⟨hb, hdot⟩ := startsName_iff.mp hs
    refine ⟨before ++ name, rest, rfl, ?_, ?_⟩
    · rw [List.reverse_append, wordBefore_run hb hn.all_isWord]
    · rw [List.reverse_append, endsMember_run hb hn.all_isWord]
      simpa using hdot
  · rintro ⟨front, rest, rfl, hw, hm⟩
    -- the word and what stands before it make up the text before the parenthesis
    have hfront : front = (front.reverse.dropWhile isWord).reverse ++ name := by
      rw [← hw, wordBefore, ← List.reverse_append, List.takeWhile_append_dropWhile,
        List.reverse_reverse]
    refine ⟨(front.reverse.dropWhile isWord).reverse, rest, by rw [← hfront], ?_⟩
    rw [List.reverse_reverse, startsName_iff]
    refine ⟨fun c hc => ?_, by simpa [endsMember] using hm⟩
    have hhead := List.head?_dropWhile_not isWord front.reverse
    rw [Option.mem_def.mp hc] at hhead
    simpa using hhead

/-! ## One edit after the other -/

/-- The same word ends at both places, behind the same character. -/
structure EndAlike (before before' : List Char) : Prop where
  word : before.takeWhile isWord = before'.takeWhile isWord
  character : (before.dropWhile isWord).head? = (before'.dropWhile isWord).head?

theorem EndAlike.refl (before : List Char) : EndAlike before before := ⟨rfl, rfl⟩

theorem EndAlike.wordBefore_eq {before before' : List Char} (h : EndAlike before before') :
    wordBefore before = wordBefore before' := by rw [wordBefore, h.word, wordBefore]

theorem EndAlike.endsMember_eq {before before' : List Char} (h : EndAlike before before') :
    endsMember before = endsMember before' := by rw [endsMember, h.character, endsMember]

theorem EndAlike.isCallOf_eq {before before' : List Char} (h : EndAlike before before')
    (names : List (List Char)) : isCallOf names before = isCallOf names before' := by
  rw [isCallOf, h.wordBefore_eq, h.endsMember_eq, isCallOf]

theorem endAlike_cons_of_not_isWord {c : Char} (hc : isWord c = false)
    (before before' : List Char) : EndAlike (c :: before) (c :: before') := by
  have hneg : ¬isWord c = true := by rw [hc]; exact Bool.false_ne_true
  constructor
  · rw [List.takeWhile_cons_of_neg hneg, List.takeWhile_cons_of_neg hneg]
  · rw [List.dropWhile_cons_of_neg hneg, List.dropWhile_cons_of_neg hneg]
    rfl

theorem EndAlike.cons {before before' : List Char} (h : EndAlike before before') (c : Char) :
    EndAlike (c :: before) (c :: before') := by
  cases hc : isWord c with
  | false => exact endAlike_cons_of_not_isWord hc before before'
  | true =>
      constructor
      · rw [List.takeWhile_cons_of_pos hc, List.takeWhile_cons_of_pos hc, h.word]
      · rw [List.dropWhile_cons_of_pos hc, List.dropWhile_cons_of_pos hc, h.character]

/-- Behind `.call` stands the name of a member. -/
theorem endsMember_call (before : List Char) :
    endsMember (".call".toList.reverse ++ before) = true := by
  have hword : ∀ c ∈ "llac".toList, isWord c = true := List.all_eq_true.mp (by decide)
  have hcall : ".call".toList.reverse ++ before = "llac".toList ++ '.' :: before := by rfl
  rw [endsMember, hcall, List.dropWhile_append_of_pos hword,
    List.dropWhile_cons_of_neg (by decide)]
  rfl

theorem isCallOf_call (names : List (List Char)) (before : List Char) :
    isCallOf names (".call".toList.reverse ++ before) = false := by
  rw [isCallOf, endsMember_call, Bool.not_true, Bool.and_false]

theorem not_mem_open_call : '(' ∉ ".call".toList := by decide

/-- What stands in an edited text at a place: the method and the parenthesis, or the character. -/
theorem throughCall_cons_of_call {names : List (List Char)} {before : List Char}
    (h : isCallOf names before = true) (text : List Char) :
    throughCall names before ('(' :: text) =
      ".call".toList ++ '(' :: throughCall names ('(' :: before) text := by
  rw [throughCall, h]
  rfl

theorem throughCall_cons_of_not_call {names : List (List Char)} {before : List Char} {c : Char}
    (h : ¬(c = '(' ∧ isCallOf names before = true)) (text : List Char) :
    throughCall names before (c :: text) = c :: throughCall names (c :: before) text := by
  have hword : ([] : List Char).all isWord = true := rfl
  exact throughCall_run hword h

/-- **Editing for some names and then for others is editing for all of them.** -/
theorem throughCall_throughCall (names others : List (List Char)) {before before' : List Char}
    (h : EndAlike before before') (text : List Char) :
    throughCall others before' (throughCall names before text) =
      throughCall (names ++ others) before text := by
  -- the two edits see different texts before a place, but the same word ends there
  have hboth (before : List Char) : isCallOf (names ++ others) before =
      (isCallOf names before || isCallOf others before) := by
    simp [isCallOf, Bool.and_or_distrib_right]
  induction text generalizing before before' with
  | nil => rfl
  | cons c text ih =>
      by_cases hc : c = '(' ∧ isCallOf names before = true
      · obtain ⟨rfl, hcall⟩ := hc
        have hall : isCallOf (names ++ others) before = true := by rw [hboth, hcall]; rfl
        -- behind `.call` no name is called, so the second edit leaves the parenthesis
        have halike := endAlike_cons_of_not_isWord (by decide : isWord '(' = false) before
          (".call".toList.reverse ++ before')
        rw [throughCall_cons_of_call hcall, throughCall_append_of_not_mem not_mem_open_call,
          throughCall_cons_of_not_call (by rw [isCallOf_call]; simp), ih halike,
          throughCall_cons_of_call hall]
      · rw [throughCall_cons_of_not_call hc]
        by_cases ho : c = '(' ∧ isCallOf others before = true
        · obtain ⟨rfl, hcall⟩ := ho
          have hall : isCallOf (names ++ others) before = true := by rw [hboth, hcall]; simp
          rw [throughCall_cons_of_call (h.isCallOf_eq others ▸ hcall), ih (h.cons '('),
            throughCall_cons_of_call hall]
        · have hnone : ¬(c = '(' ∧ isCallOf (names ++ others) before = true) := by
            rintro ⟨rfl, hall⟩
            rw [hboth, Bool.or_eq_true] at hall
            exact hall.elim (fun hn => hc ⟨rfl, hn⟩) fun hn => ho ⟨rfl, hn⟩
          rw [throughCall_cons_of_not_call (h.isCallOf_eq others ▸ ho), ih (h.cons c),
            throughCall_cons_of_not_call hnone]

/-- **After the edit for some names, the other words that were called still are**, and none of these
names is. -/
theorem callWords_throughCall (names : List (List Char)) {before before' : List Char}
    (h : EndAlike before before') (text : List Char) :
    callWords before' (throughCall names before text) =
      (callWords before text).filter (!names.contains ·) := by
  induction text generalizing before before' with
  | nil => rfl
  | cons c text ih =>
      by_cases hc : c = '(' ∧ isCallOf names before = true
      · obtain ⟨rfl, hcall⟩ := hc
        have halike := endAlike_cons_of_not_isWord (by decide : isWord '(' = false) before
          (".call".toList.reverse ++ before')
        rw [throughCall_cons_of_call hcall, callWords_append_of_not_mem not_mem_open_call,
          callWords, endsMember_call, ih halike, callWords]
        rw [isCallOf, Bool.and_eq_true] at hcall
        simp_all
      · rw [throughCall_cons_of_not_call hc, callWords, callWords, ih (h.cons c), h.wordBefore_eq,
          h.endsMember_eq, List.filter_append]
        congr 1
        split
        · rename_i hopen
          rw [Bool.and_eq_true, beq_iff_eq] at hopen
          have hother : wordBefore before' ∉ names := by
            rw [h.isCallOf_eq, isCallOf, hopen.2, Bool.and_true] at hc
            simpa [hopen.1] using hc
          simp [hother]
        · rfl

/-- A text in which no name is called stays as it is. -/
theorem throughCall_eq_self {names : List (List Char)} {before text : List Char}
    (h : ∀ word ∈ callWords before text, word ∉ names) : throughCall names before text = text := by
  induction text generalizing before with
  | nil => rfl
  | cons c text ih =>
      rw [callWords, List.forall_mem_append] at h
      have hc : ¬(c = '(' ∧ isCallOf names before = true) := by
        rintro ⟨rfl, hcall⟩
        rw [isCallOf, Bool.and_eq_true] at hcall
        exact h.1 (wordBefore before) (by simp [hcall.2]) (by simpa using hcall.1)
      rw [throughCall_cons_of_not_call hc, ih h.2]

/-- A name is not called any more after the edit for it. -/
theorem not_mem_callWords_throughCall {names : List (List Char)} {word : List Char}
    (body : List Char) (h : word ∈ callWords [] (throughCall names [] body)) : word ∉ names := by
  rw [callWords_throughCall names (EndAlike.refl []), List.mem_filter] at h
  simpa using h.2

theorem throughCall_throughCall_self (names : List (List Char)) (body : List Char) :
    throughCall names [] (throughCall names [] body) = throughCall names [] body :=
  throughCall_eq_self fun _ => not_mem_callWords_throughCall body

/-! ## Bodies of definitions -/

section

variable {names : List (List Char)} (hn : ∀ name ∈ names, IsWordText name)

include hn

/-- **Marking names one after the other is marking them at once.** -/
theorem body_markBody (position : Nat) (body : List Char) :
    (markBody names position body).body = throughCall names [] body := by
  induction names generalizing position body with
  | nil => exact (throughCall_eq_self (by simp)).symm
  | cons name names ih =>
      obtain ⟨hname, hnames⟩ := List.forall_mem_cons.mp hn
      have hstep : (markBody (name :: names) position body).body =
          (markBody names (position + 1) (throughCall [name] [] body)).body := by
        rw [markBody]
        split
        · rw [callThrough_eq_throughCall hname]
        · rename_i hc
          rw [isCalled_iff hname] at hc
          rw [throughCall_eq_self]
          rintro word hw hm
          exact hc (List.mem_singleton.mp hm ▸ hw)
      rw [hstep, ih hnames, throughCall_throughCall _ _ (EndAlike.refl []), List.singleton_append]

/-- The names that are found to be called are those that are called in the body as it was. -/
theorem called_markBody (hd : names.Nodup) (position : Nat) (body : List Char) :
    (markBody names position body).called =
      (names.zipIdx position).filter fun e => (callWords [] body).contains e.1 := by
  induction names generalizing position body with
  | nil => rfl
  | cons name names ih =>
      obtain ⟨hname, hnames⟩ := List.forall_mem_cons.mp hn
      obtain ⟨hfirst, hrest⟩ := List.nodup_cons.mp hd
      rw [markBody, List.zipIdx_cons, List.filter_cons]
      by_cases hc : name ∈ callWords [] body
      · rw [if_pos ((isCalled_iff hname body).mpr hc), if_pos (by simpa using hc)]
        dsimp only
        rw [callThrough_eq_throughCall hname, ih hnames hrest,
          callWords_throughCall _ (EndAlike.refl [])]
        -- the other names are called as before, since they are other ones
        refine congrArg _ (List.filter_congr fun e he => ?_)
        have hne : e.1 ≠ name := by
          rintro rfl
          exact hfirst (List.fst_mem_of_mem_zipIdx he)
        rw [Bool.eq_iff_iff]
        simp [hne]
      · rw [if_neg (by rwa [isCalled_iff hname]), if_neg (by simpa using hc), ih hnames hrest]

end

end EstreeEmitter.Passes
