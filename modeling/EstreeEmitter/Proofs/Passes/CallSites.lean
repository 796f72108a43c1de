import EstreeEmitter.Proofs.Passes.Cuts
import EstreeEmitter.Proofs.Text.Blank

set_option autoImplicit false

/-! # Which texts are call sites

The arguments of a recognised call are words, or words with a parenthesis that holds no further ones
(`IsArgument`), with a comma and a blank between neighbours (`Listed`). The reader of arguments
accepts exactly the texts of such lists (`arguments?_eq_some_iff`), so a call site is a name with
such a list in parentheses, at a place where a call can start (`callSite?_eq_some_iff`). -/

namespace EstreeEmitter.Passes

open Text

/-! ## Arguments -/

/-- A character other than a parenthesis. -/
def isFlat (c : Char) : Bool := c != '(' && c != ')'

/-- The text is a word. -/
structure IsWordText (cs : List Char) : Prop where
  ne_nil : cs ≠ []
  all_isWord : cs.all isWord = true

/-- The text is a simple argument. -/
inductive IsArgument : List Char → Prop where
  | word {word : List Char} (hw : IsWordText word) : IsArgument word
  | call {word inner : List Char} (hw : IsWordText word) (hi : inner.all isFlat = true) :
    IsArgument (word ++ '(' :: (inner ++ [')']))

/-- A word does not go on in the text, nor does a call open there. -/
def EndsWord (cs : List Char) : Prop := ∀ c ∈ cs.head?, isWord c = false ∧ c ≠ '('

theorem endsWord_nil : EndsWord [] := nofun

theorem isWordText_iff {cs : List Char} : IsWordText cs ↔ cs ≠ [] ∧ cs.all isWord = true :=
  ⟨fun h => ⟨h.ne_nil, h.all_isWord⟩, fun h => ⟨h.1, h.2⟩⟩

instance (cs : List Char) : Decidable (IsWordText cs) := decidable_of_iff _ isWordText_iff.symm

theorem isFlat_of_isWord {c : Char} (h : isWord c = true) : isFlat c = true := by
  have hne : ∀ d : Char, isWord d = false → c ≠ d := by
    rintro d hd rfl
    rw [h] at hd
    cases hd
  simp [isFlat, hne '(' (by decide), hne ')' (by decide)]

/-- What satisfies a condition is taken up to the first character that does not. -/
theorem takeWhile_append_eq {p : Char → Bool} {cs rest : List Char} (h : cs.all p = true)
    (hr : ∀ c ∈ rest.head?, p c = false) : (cs ++ rest).takeWhile p = cs := by
  rw [List.takeWhile_append_of_pos (List.all_eq_true.mp h)]
  cases rest with
  | nil => simp
  | cons c rest => rw [List.takeWhile_cons_of_neg (by simp [hr c rfl]), List.append_nil]

/-- A text is of one kind, or it is so up to a first character that is not. -/
theorem all_or_exists_append_cons (p : Char → Bool) (cs : List Char) :
    cs.all p = true ∨
      ∃ front c rest, front.all p = true ∧ p c = false ∧ cs = front ++ c :: rest := by
  induction cs with
  | nil => exact .inl rfl
  | cons d cs ih =>
      cases hd : p d with
      | false => exact .inr ⟨[], d, cs, rfl, hd, rfl⟩
      | true =>
          rcases ih with h | ⟨front, c, rest, hf, hc, rfl⟩
          · exact .inl (by rw [List.all_cons, hd, h]; rfl)
          · exact .inr ⟨d :: front, c, rest, by rw [List.all_cons, hd, hf]; rfl, hc, rfl⟩

/-- A word is an argument if it ends there. -/
theorem argumentLength_word {word rest : List Char} (hw : IsWordText word) (hr : EndsWord rest) :
    argumentLength (word ++ rest) = word.length := by
  have htake := takeWhile_append_eq hw.all_isWord fun c hc => (hr c hc).1
  have hpos : word.length ≠ 0 := by simpa using hw.ne_nil
  unfold argumentLength
  simp only [htake, beq_iff_eq, if_neg hpos, List.drop_left]
  split
  · exact absurd rfl (hr '(' rfl).2
  · rfl

/-- Behind a word and a parenthesis the next parenthesis decides. -/
theorem argumentLength_open {word inner rest : List Char} (hw : IsWordText word)
    (hi : inner.all isFlat = true) (hr : ∀ c ∈ rest.head?, isFlat c = false) :
    argumentLength (word ++ '(' :: (inner ++ rest)) =
      if rest.head? = some ')' then word.length + 1 + inner.length + 1 else word.length := by
  have htake : (word ++ '(' :: (inner ++ rest)).takeWhile isWord = word :=
    takeWhile_append_eq hw.all_isWord (by simp [(by decide : isWord '(' = false)])
  have hinner : (inner ++ rest).takeWhile (fun c => c != '(' && c != ')') = inner :=
    takeWhile_append_eq hi hr
  have hpos : word.length ≠ 0 := by simpa using hw.ne_nil
  have hnext : (inner ++ rest)[inner.length]? = rest.head? := by
    rw [List.getElem?_append_right (Nat.le_refl _), Nat.sub_self, List.head?_eq_getElem?]
  unfold argumentLength
  simp only [htake, beq_iff_eq, if_neg hpos, List.drop_left, hinner, hnext]

/-- A call without inner parentheses is an argument, whatever follows. -/
theorem argumentLength_call {word inner : List Char} (hw : IsWordText word)
    (hi : inner.all isFlat = true) (rest : List Char) :
    argumentLength (word ++ '(' :: (inner ++ ')' :: rest)) = word.length + inner.length + 2 := by
  rw [argumentLength_open hw hi (by simp [(by decide : isFlat ')' = false)]),
    if_pos List.head?_cons]
  omega

/-- An argument is read to its end. -/
theorem IsArgument.argumentLength_append {text rest : List Char} (h : IsArgument text)
    (hr : EndsWord rest) : argumentLength (text ++ rest) = text.length := by
  cases h with
  | word hw => exact argumentLength_word hw hr
  | @call word inner hw hi =>
      have htext : word ++ '(' :: (inner ++ [')']) ++ rest =
          word ++ '(' :: (inner ++ ')' :: rest) := by simp
      rw [htext, argumentLength_call hw hi]
      simp only [List.length_append, List.length_cons, List.length_nil]
      omega

/-- What is read is an argument. -/
theorem isArgument_take {cs : List Char} (h : argumentLength cs ≠ 0) :
    IsArgument (cs.take (argumentLength cs)) := by
  have hcs : cs.takeWhile isWord ++ cs.drop (cs.takeWhile isWord).length = cs :=
    List.prefix_iff_eq_append.mp (List.takeWhile_prefix _)
  have hw : (cs.takeWhile isWord).all isWord = true := by simp
  unfold argumentLength at h ⊢
  generalize cs.takeWhile isWord = word at hcs hw h ⊢
  generalize cs.drop word.length = after at hcs
  subst hcs
  dsimp only at h ⊢
  rw [List.drop_left] at h ⊢
  split at h
  · exact absurd rfl h
  · rename_i hpos
    have hword : IsWordText word := ⟨by simpa using hpos, hw⟩
    rw [if_neg hpos]
    split
    · rename_i rest
      split
      · rename_i hclose
        have hi : (rest.takeWhile fun c => c != '(' && c != ')').all isFlat = true :=
          List.all_takeWhile
        have hin : (rest.takeWhile fun c => c != '(' && c != ')') ++
            rest.drop (rest.takeWhile fun c => c != '(' && c != ')').length = rest :=
          List.prefix_iff_eq_append.mp (List.takeWhile_prefix _)
        generalize (rest.takeWhile fun c => c != '(' && c != ')') = inner at hclose hi hin ⊢
        rw [drop_eq_cons_of_getElem? (eq_of_beq hclose)] at hin
        have hcall : word ++ '(' :: rest =
            word ++ '(' :: (inner ++ [')']) ++ rest.drop (inner.length + 1) := by
          simpa using hin.symm
        have hlen : word.length + 1 + inner.length + 1 =
            (word ++ '(' :: (inner ++ [')'])).length := by
          simp
          omega
        rw [← take_eq_of_append hcall hlen]
        exact .call hword hi
      · rw [List.take_left]
        exact .word hword
    · rw [List.take_left]
      exact .word hword

theorem IsArgument.ne_nil {text : List Char} (h : IsArgument text) : text ≠ [] := by
  cases h with
  | word hw => exact hw.ne_nil
  | call hw hi => simp

/-- A text is an argument if it is read whole. -/
theorem isArgument_iff {cs : List Char} :
    IsArgument cs ↔ cs ≠ [] ∧ argumentLength cs = cs.length := by
  constructor
  · intro h
    have hlen := h.argumentLength_append endsWord_nil
    rw [List.append_nil] at hlen
    exact ⟨h.ne_nil, hlen⟩
  · rintro ⟨hne, hlen⟩
    have h := isArgument_take (by rwa [hlen, ne_eq, List.length_eq_zero_iff])
    rwa [hlen, List.take_length] at h

instance (cs : List Char) : Decidable (IsArgument cs) := decidable_of_iff _ isArgument_iff.symm

/-- The text ends inside the argument that is read at its front, or that argument is followed in the
text by something else than an argument is followed by. -/
def Stops (text : List Char) : Prop :=
  ∀ rest, ∃ c behind, (text ++ rest).drop (argumentLength (text ++ rest)) = c :: behind ∧
    c ≠ ',' ∧ c ≠ ')'

theorem Stops.append {text : List Char} (h : Stops text) (more : List Char) :
    Stops (text ++ more) := by
  intro rest
  rw [List.append_assoc]
  exact h (more ++ rest)

/-- An argument does not begin with a character outside words. -/
theorem stops_cons {c : Char} (hc : isWord c = false) (h : c ≠ ',' ∧ c ≠ ')') (cs : List Char) :
    Stops (c :: cs) := by
  intro rest
  have hzero : argumentLength (c :: cs ++ rest) = 0 := by
    simp [argumentLength, List.takeWhile_cons_of_neg, hc]
  exact ⟨c, cs ++ rest, by rw [hzero]; rfl, h⟩

/-- A word with another character behind it. -/
theorem stops_word {word : List Char} {c : Char} (hw : IsWordText word)
    (hc : isWord c = false) (h : c ≠ '(' ∧ c ≠ ',' ∧ c ≠ ')') (cs : List Char) :
    Stops (word ++ c :: cs) := by
  intro rest
  have hend : EndsWord (c :: (cs ++ rest)) := by
    rintro d ⟨⟩
    exact ⟨hc, h.1⟩
  refine ⟨c, cs ++ rest, ?_, h.2⟩
  rw [List.append_assoc, List.cons_append, argumentLength_word hw hend, List.drop_left]

/-- A call with something else behind it. -/
theorem stops_call {word inner : List Char} {c : Char} (hw : IsWordText word)
    (hi : inner.all isFlat = true) (h : c ≠ ',' ∧ c ≠ ')') (cs : List Char) :
    Stops (word ++ '(' :: (inner ++ [')']) ++ c :: cs) := by
  intro rest
  have htext : word ++ '(' :: (inner ++ [')']) ++ c :: cs ++ rest =
      word ++ '(' :: (inner ++ ')' :: (c :: (cs ++ rest))) := by simp
  refine ⟨c, cs ++ rest, ?_, h⟩
  rw [htext, argumentLength_call hw hi]
  have hcall : word.length + inner.length + 2 = (word ++ '(' :: (inner ++ [')'])).length := by
    simp
    omega
  rw [← htext, hcall, List.append_assoc, List.drop_left, List.cons_append]

/-- A call in which a further parenthesis opens first. -/
theorem stops_nested {word inner : List Char} (hw : IsWordText word)
    (hi : inner.all isFlat = true) (cs : List Char) :
    Stops (word ++ '(' :: (inner ++ '(' :: cs)) := by
  intro rest
  have htext : word ++ '(' :: (inner ++ '(' :: cs) ++ rest =
      word ++ '(' :: (inner ++ '(' :: (cs ++ rest)) := by simp
  refine ⟨'(', inner ++ '(' :: (cs ++ rest), ?_, by decide⟩
  rw [htext, argumentLength_open hw hi (by simp [(by decide : isFlat '(' = false)]),
    if_neg (by simp), List.drop_left]

/-! ## The first parenthesis -/

/-- The first parenthesis of the text, if it has any, opens. -/
def opensFirst (cs : List Char) : Bool := (cs.dropWhile isFlat).head? != some ')'

theorem dropWhile_append_cons {p : Char → Bool} {front rest : List Char} {c : Char}
    (hf : front.all p = true) (hc : p c = false) :
    (front ++ c :: rest).dropWhile p = c :: rest := by
  rw [List.dropWhile_append_of_pos (List.all_eq_true.mp hf),
    List.dropWhile_cons_of_neg (by simp [hc])]

theorem dropWhile_of_all {p : Char → Bool} {cs : List Char} (h : cs.all p = true) :
    cs.dropWhile p = [] := List.dropWhile_eq_nil_iff.mpr (List.all_eq_true.mp h)

theorem opensFirst_iff {cs : List Char} : opensFirst cs = true ↔
    cs.all isFlat = true ∨ ∃ inner rest, inner.all isFlat = true ∧ cs = inner ++ '(' :: rest := by
  rw [opensFirst, bne_iff_ne]
  constructor
  · intro h
    rcases all_or_exists_append_cons isFlat cs with hall | ⟨inner, c, rest, hi, hc, rfl⟩
    · exact .inl hall
    · have hopen : c = '(' := by
        rw [dropWhile_append_cons hi hc, List.head?_cons] at h
        simp only [isFlat, Bool.and_eq_false_iff, bne_eq_false_iff_eq] at hc
        exact hc.resolve_right fun hclose => h (congrArg some hclose)
      exact .inr ⟨inner, rest, hi, by rw [hopen]⟩
  · rintro (h | ⟨inner, rest, hi, rfl⟩)
    · rw [dropWhile_of_all h]
      simp
    · rw [dropWhile_append_cons hi (by decide)]
      simp

theorem opensFirst_of_all {cs : List Char} (h : cs.all isFlat = true) : opensFirst cs = true :=
  opensFirst_iff.mpr (.inl h)

theorem opensFirst_append {cs ds : List Char} (hcs : opensFirst cs = true)
    (hds : opensFirst ds = true) : opensFirst (cs ++ ds) = true := by
  rw [opensFirst_iff] at hcs hds ⊢
  rcases hcs with hcs | ⟨inner, rest, hi, rfl⟩
  · rcases hds with hds | ⟨inner, rest, hi, rfl⟩
    · exact .inl (by rw [List.all_append, hcs, hds]; rfl)
    · exact .inr ⟨cs ++ inner, rest, by rw [List.all_append, hcs, hi]; rfl, by simp⟩
  · exact .inr ⟨inner, rest ++ ds, hi, by simp⟩

theorem opensFirst_open (cs : List Char) : opensFirst ('(' :: cs) = true := by
  simp [opensFirst, isFlat]

theorem IsWordText.all_isFlat {word : List Char} (h : IsWordText word) :
    word.all isFlat = true := by
  rw [List.all_eq_true]
  exact fun c hc => isFlat_of_isWord (List.all_eq_true.mp h.all_isWord c hc)

theorem IsArgument.opensFirst {text : List Char} (h : IsArgument text) :
    Passes.opensFirst text = true := by
  cases h with
  | word hw => exact opensFirst_of_all hw.all_isFlat
  | call hw hi => exact opensFirst_append (opensFirst_of_all hw.all_isFlat) (opensFirst_open _)

/-- What a word and a parenthesis begin is an argument, or stops. -/
theorem isArgument_or_stops {word inner : List Char} (hw : IsWordText word)
    (hi : opensFirst inner = true) :
    inner.all isFlat = true ∨ ∀ rest, Stops (word ++ '(' :: (inner ++ rest)) := by
  rcases opensFirst_iff.mp hi with hflat | ⟨inner, rest, hflat, rfl⟩
  · exact .inl hflat
  · refine .inr fun more => ?_
    rw [List.append_assoc, List.cons_append]
    exact stops_nested hw hflat (rest ++ more)

/-! ## Lists of arguments -/

/-- Neighbours are separated by a comma and a blank; `gap` stands before the first one. -/
inductive Spaced : List Char → List Argument → Prop where
  | last {gap text : List Char} : Spaced gap [⟨gap, text⟩]
  | more {gap text : List Char} {blank : Char} {args : List Argument} (hb : isBlank blank = true)
    (h : Spaced [',', blank] args) : Spaced gap (⟨gap, text⟩ :: args)

/-- The list of arguments of a recognised call. -/
structure Listed (args : List Argument) : Prop where
  spaced : Spaced [] args
  simple : ∀ a ∈ args, IsArgument a.text

theorem endsWord_close (rest : List Char) : EndsWord (')' :: rest) := by
  rintro c ⟨⟩
  exact ⟨by decide, by decide⟩

theorem endsWord_comma (rest : List Char) : EndsWord (',' :: rest) := by
  rintro c ⟨⟩
  exact ⟨by decide, by decide⟩

theorem IsArgument.length_ne_zero {text : List Char} (h : IsArgument text) :
    ¬(text.length == 0) = true := by
  simpa using h.ne_nil

/-- The last argument. -/
theorem argumentsFrom_close {text : List Char} (h : IsArgument text) (fuel : Nat)
    (gap rest : List Char) : argumentsFrom (fuel + 1) gap (text ++ ')' :: rest) =
      some [⟨gap, text⟩] := by
  have hr := endsWord_close rest
  simp only [argumentsFrom, h.argumentLength_append hr, if_neg h.length_ne_zero,
    List.take_left, List.drop_left]

/-- An argument with another one behind it. -/
theorem argumentsFrom_comma {text : List Char} {blank : Char} (h : IsArgument text)
    (hb : isBlank blank = true) (fuel : Nat) (gap rest : List Char) :
    argumentsFrom (fuel + 1) gap (text ++ ',' :: blank :: rest) =
      (argumentsFrom fuel [',', blank] rest).map (⟨gap, text⟩ :: ·) := by
  have hr := endsWord_comma (blank :: rest)
  simp only [argumentsFrom, h.argumentLength_append hr, if_neg h.length_ne_zero,
    List.take_left, List.drop_left, if_pos hb]

/-- No list of arguments begins with a text that stops. -/
theorem argumentsFrom_of_stops {text : List Char} (h : Stops text) (fuel : Nat)
    (gap rest : List Char) : argumentsFrom fuel gap (text ++ rest) = none := by
  obtain ⟨c, behind, hd, hcomma, hclose⟩ := h rest
  cases fuel with
  | zero => rfl
  | succ fuel =>
      simp only [argumentsFrom, hd]
      split
      · rfl
      · split
        · rename_i hc
          exact absurd (List.cons.inj hc).1 hclose
        · rename_i hc
          exact absurd (List.cons.inj hc).1 hcomma
        · rfl

/-- The text of spaced arguments goes on with the separator of the second one. -/
theorem Spaced.flatMap_whole {gap : List Char} {args : List Argument} (h : Spaced gap args) :
    ∃ behind, args.flatMap Argument.whole = gap ++ behind := by
  cases h with
  | last => exact ⟨_, List.append_nil _⟩
  | more hb h => exact ⟨_, List.append_assoc _ _ _⟩

theorem all_isFlat_gap {blank : Char} (hb : isBlank blank = true) :
    [',', blank].all isFlat = true := by
  have hopen : blank ≠ '(' := by rintro rfl; cases hb
  have hclose : blank ≠ ')' := by rintro rfl; cases hb
  simp [isFlat, hopen, hclose]

/-- The first parenthesis in the text of arguments is the first one in an argument. -/
theorem Spaced.opensFirst {gap : List Char} {args : List Argument} (h : Spaced gap args)
    (hg : gap.all isFlat = true) (ha : ∀ a ∈ args, Passes.opensFirst a.text = true) :
    Passes.opensFirst (args.flatMap Argument.whole) = true := by
  induction h with
  | last =>
      rw [List.flatMap_singleton]
      exact opensFirst_append (opensFirst_of_all hg) (ha _ (List.mem_singleton_self _))
  | more hb h ih =>
      obtain ⟨hfirst, hothers⟩ := List.forall_mem_cons.mp ha
      rw [List.flatMap_cons]
      exact opensFirst_append (opensFirst_append (opensFirst_of_all hg) hfirst)
        (ih (all_isFlat_gap hb) hothers)

theorem Listed.opensFirst {args : List Argument} (h : Listed args) :
    Passes.opensFirst (args.flatMap Argument.whole) = true :=
  h.spaced.opensFirst rfl fun a ha => (h.simple a ha).opensFirst

/-- A list of arguments is read whole. -/
theorem argumentsFrom_of_spaced {gap cs rest : List Char} {args : List Argument}
    (hs : Spaced gap args) (ha : ∀ a ∈ args, IsArgument a.text) {fuel : Nat}
    (hf : args.length ≤ fuel) (hcs : gap ++ cs = args.flatMap Argument.whole ++ ')' :: rest) :
    argumentsFrom fuel gap cs = some args := by
  induction hs generalizing cs fuel with
  | @last gap text =>
      obtain ⟨fuel, rfl⟩ := Nat.exists_eq_add_of_le' hf
      have hcs : cs = text ++ ')' :: rest := by simpa [Argument.whole] using hcs
      rw [hcs]
      exact argumentsFrom_close (ha _ (List.mem_singleton_self _)) fuel gap rest
  | @more gap text blank args hb hs ih =>
      obtain ⟨fuel, rfl⟩ : ∃ n, fuel = n + 1 :=
        ⟨fuel - 1, by rw [List.length_cons] at hf; omega⟩
      obtain ⟨behind, hbehind⟩ := hs.flatMap_whole
      have hcs : cs = text ++ ',' :: blank :: (behind ++ ')' :: rest) := by
        simpa [Argument.whole, hbehind] using hcs
      rw [hcs, argumentsFrom_comma (ha _ List.mem_cons_self) hb,
        ih (fun a hm => ha a (List.mem_cons_of_mem _ hm)) (by simpa using hf)
          (by rw [hbehind, List.append_assoc])]
      rfl

/-- A list in which some argument stops is not read. -/
theorem argumentsFrom_eq_none {gap cs rest : List Char} {args : List Argument}
    (hs : Spaced gap args) (ha : ∀ a ∈ args, IsArgument a.text ∨ Stops a.text)
    (hstop : ∃ a ∈ args, Stops a.text) (fuel : Nat)
    (hcs : gap ++ cs = args.flatMap Argument.whole ++ rest) :
    argumentsFrom fuel gap cs = none := by
  induction hs generalizing cs fuel with
  | @last gap text =>
      obtain ⟨a, hm, ht⟩ := hstop
      rw [List.mem_singleton.mp hm] at ht
      have hcs : cs = text ++ rest := by simpa [Argument.whole] using hcs
      rw [hcs]
      exact argumentsFrom_of_stops ht fuel gap rest
  | @more gap text blank args hb hs ih =>
      obtain ⟨hfirst, hothers⟩ := List.forall_mem_cons.mp ha
      obtain ⟨behind, hbehind⟩ := hs.flatMap_whole
      have hcs : cs = text ++ ',' :: blank :: (behind ++ rest) := by
        simpa [Argument.whole, hbehind] using hcs
      rw [hcs]
      by_cases ht : Stops text
      · exact argumentsFrom_of_stops ht fuel gap _
      · have hrest : ∃ a ∈ args, Stops a.text := by
          obtain ⟨a, hm, hstops⟩ := hstop
          rcases List.mem_cons.mp hm with rfl | hm
          · exact absurd hstops ht
          · exact ⟨a, hm, hstops⟩
        cases fuel with
        | zero => rfl
        | succ fuel =>
            have htail : argumentsFrom fuel [',', blank] (behind ++ rest) = none :=
              ih hothers hrest fuel (by rw [hbehind, List.append_assoc])
            rw [argumentsFrom_comma (hfirst.resolve_right ht) hb, htail]
            rfl

/-- What is read is a list of arguments. -/
theorem spaced_of_argumentsFrom {fuel : Nat} {gap cs : List Char} {args : List Argument}
    (h : argumentsFrom fuel gap cs = some args) :
    Spaced gap args ∧ ∀ a ∈ args, IsArgument a.text := by
  fun_induction argumentsFrom fuel gap cs generalizing args with
  | case1 => cases h
  | case2 => cases h
  | case3 fuel gap cs length hl argument rest =>
      have ha : IsArgument argument.text := isArgument_take (by simpa using hl)
      cases h
      exact ⟨.last, fun a hm => List.mem_singleton.mp hm ▸ ha⟩
  | case4 fuel gap cs length hl argument blank rest hd hb =>
      rename_i ih
      have ha : IsArgument argument.text := isArgument_take (by simpa using hl)
      obtain ⟨others, ho, rfl⟩ := Option.map_eq_some_iff.mp h
      obtain ⟨hs, hothers⟩ := ih ho
      exact ⟨.more hb hs, List.forall_mem_cons.mpr ⟨ha, hothers⟩⟩
  | case5 => cases h
  | case6 => cases h

/-- Every argument has a character. -/
theorem length_le_flatMap_whole {args : List Argument} (h : ∀ a ∈ args, IsArgument a.text) :
    args.length ≤ (args.flatMap Argument.whole).length := by
  induction args with
  | nil => exact Nat.le_refl _
  | cons a args ih =>
      obtain ⟨ha, hargs⟩ := List.forall_mem_cons.mp h
      have hpos := List.length_pos_iff.mpr ha.ne_nil
      have hrest := ih hargs
      simp only [List.flatMap_cons, List.length_append, List.length_cons, Argument.whole]
      omega

/-- **The reader of arguments accepts exactly the lists of simple arguments** that a parenthesis
closes. -/
theorem arguments?_eq_some_iff {cs : List Char} {args : List Argument} :
    arguments? cs = some args ↔
      Listed args ∧ ∃ rest, cs = args.flatMap Argument.whole ++ ')' :: rest := by
  constructor
  · intro h
    obtain ⟨hs, ha⟩ := spaced_of_argumentsFrom h
    exact ⟨⟨hs, ha⟩, argumentsFrom_eq_some h⟩
  · rintro ⟨hl, rest, rfl⟩
    refine argumentsFrom_of_spaced hl.spaced hl.simple ?_ (List.nil_append _)
    have hlen := length_le_flatMap_whole hl.simple
    rw [List.length_append]
    omega

/-! ## Call sites -/

/-- **A call site is a name with a list of simple arguments**, at a place where a call can start. -/
theorem callSite?_eq_some_iff {name before cs : List Char} {args : List Argument} {n : Nat} :
    callSite? name before cs = some (args, n) ↔
      startsCall before = true ∧ Listed args ∧ n = (callSource name args).length ∧
        ∃ rest, cs = callSource name args ++ rest := by
  have hlen : (callSource name args).length =
      name.length + 1 + (args.flatMap Argument.whole).length + 1 := by
    simp [callSource]
    omega
  unfold callSite?
  cases hs : startsCall before with
  | false => simp
  | true =>
      simp only [Bool.not_true, Bool.false_eq_true, if_false, Option.bind_eq_bind, true_and,
        Option.bind_eq_some_iff, Option.pure_def, Option.some.injEq, Prod.mk.injEq,
        after?_eq_some_iff, arguments?_eq_some_iff]
      constructor
      · rintro ⟨behind, rfl, args', ⟨hl, rest, rfl⟩, rfl, rfl⟩
        exact ⟨hl, hlen.symm, rest, by simp [callSource]⟩
      · rintro ⟨hl, rfl, rest, rfl⟩
        exact ⟨_, by simp [callSource], args, ⟨hl, rest, rfl⟩, rfl, hlen.symm⟩

theorem callSource_append (name : List Char) (args : List Argument) (rest : List Char) :
    callSource name args ++ rest =
      name ++ '(' :: (args.flatMap Argument.whole ++ ')' :: rest) := by
  simp [callSource]

/-- A call with an argument that stops is not recognised. -/
theorem callSite?_eq_none_of_stops {args : List Argument} (hs : Spaced [] args)
    (ha : ∀ a ∈ args, IsArgument a.text ∨ Stops a.text) (hstop : ∃ a ∈ args, Stops a.text)
    (name before rest : List Char) :
    callSite? name before (callSource name args ++ rest) = none := by
  cases h : callSite? name before (callSource name args ++ rest) with
  | none => rfl
  | some found =>
      obtain ⟨-, hl, -, behind, hcs⟩ := callSite?_eq_some_iff.mp h
      rw [callSource_append, callSource_append] at hcs
      have hargs := (List.cons.inj (List.append_cancel_left hcs)).2
      have hread := arguments?_eq_some_iff.mpr ⟨hl, behind, hargs⟩
      rw [arguments?, argumentsFrom_eq_none hs ha hstop _ (List.nil_append _)] at hread
      cases hread

end EstreeEmitter.Passes
