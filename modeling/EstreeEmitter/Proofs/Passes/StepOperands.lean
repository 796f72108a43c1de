import EstreeEmitter.Proofs.Passes.StepLines
import EstreeEmitter.Proofs.Printer.Layout

set_option autoImplicit false

/-! # The operands of increments

The operand of an increment in a script is a chain of names with dots between, perhaps with an
index behind it (`StepOperand`). The edit reads words where the script has names, and an index up to
the next bracket. So of these operands it knows those whose names are words and whose index has no
brackets (`Fits.isOperand_iff`); of a chain before the sign, only the last character has to be part
of a word (`Fits.endsOperand_iff`). -/

namespace EstreeEmitter.Passes

open Text

/-! ## Chains of names -/

/-- A character of a name in a script. -/
def isNameChar (c : Char) : Bool :=
  isGap c && !isQuote c && !isBlank c && c != '.' && c != '[' && c != ']'

/-- A character of a chain of words. -/
def isChainChar (c : Char) : Bool := isWord c || c == '.'

/-- Names with dots between. -/
inductive IsDotted : List Char → Prop where
  | name {cs : List Char} (hne : cs ≠ []) (h : cs.all isNameChar = true) : IsDotted cs
  | dot {cs ds : List Char} (hc : IsDotted cs) (hne : ds ≠ []) (h : ds.all isNameChar = true) :
    IsDotted (cs ++ '.' :: ds)

theorem IsDotted.mem {cs : List Char} (h : IsDotted cs) {c : Char} (hc : c ∈ cs) :
    isNameChar c = true ∨ c = '.' := by
  induction h with
  | name hne h => exact .inl (List.all_eq_true.mp h c hc)
  | dot _ hne h ih =>
      rcases List.mem_append.mp hc with hc | hc
      · exact ih hc
      · rcases List.mem_cons.mp hc with rfl | hc
        · exact .inr rfl
        · exact .inl (List.all_eq_true.mp h c hc)

/-- What is false of all characters of names and of dots is false of all characters of a chain. -/
theorem IsDotted.not_mem {cs : List Char} (h : IsDotted cs) {c : Char} (hn : isNameChar c = false)
    (hd : c ≠ '.') : c ∉ cs := by
  intro hm
  rcases h.mem hm with hc | hc
  · rw [hn] at hc
    cases hc
  · exact hd hc

theorem eq_concat_of_all {cs : List Char} (hne : cs ≠ []) (h : cs.all isNameChar = true) :
    ∃ front c, cs = front ++ [c] ∧ isNameChar c = true := by
  obtain ⟨front, c, rfl⟩ := (List.eq_nil_or_concat cs).resolve_left hne
  exact ⟨front, c, List.concat_eq_append, List.all_eq_true.mp h c (by simp)⟩

theorem IsDotted.eq_concat {cs : List Char} (h : IsDotted cs) :
    ∃ front c, cs = front ++ [c] ∧ isNameChar c = true := by
  cases h with
  | name hne h => exact eq_concat_of_all hne h
  | @dot cs ds hc hne h =>
      obtain ⟨front, c, rfl, hw⟩ := eq_concat_of_all hne h
      exact ⟨cs ++ '.' :: front, c, by simp, hw⟩

theorem IsDotted.eq_cons {cs : List Char} (h : IsDotted cs) :
    ∃ c rest, cs = c :: rest ∧ isNameChar c = true := by
  induction h with
  | @name cs hne h =>
      cases cs with
      | nil => exact absurd rfl hne
      | cons c rest => exact ⟨c, rest, rfl, (Bool.and_eq_true_iff.mp h).1⟩
  | dot _ hne h ih =>
      obtain ⟨c, rest, rfl, hc⟩ := ih
      exact ⟨c, _, rfl, hc⟩

/-- Behind a chain, a dot and a word go on with it. -/
theorem wordChain_append_dot {chain ds : List Char} (h : wordChain chain = chain)
    (hd : ds.head?.any isWord = true) :
    wordChain (chain ++ '.' :: ds) = chain ++ '.' :: wordChain ds := by
  induction chain with
  | nil =>
      have hdot : ¬isWord '.' = true := by decide
      rw [List.nil_append, wordChain, if_neg hdot, hd]
      rfl
  | cons c cs ih =>
      rw [wordChain] at h
      rw [List.cons_append, wordChain]
      split at h
      · rename_i hc
        rw [if_pos hc, ih (List.cons.inj h).2]
        rfl
      · rename_i hc
        split at h
        · rename_i hdot
          have hhead : (cs ++ '.' :: ds).head?.any isWord = true :=
            head?_append_any (Bool.and_eq_true_iff.mp hdot).2
          rw [if_neg hc, (Bool.and_eq_true_iff.mp hdot).1, hhead, Bool.and_self, if_pos rfl,
            ih (List.cons.inj h).2]
          rfl
        · cases h

theorem wordChain_of_all {cs : List Char} (h : cs.all isWord = true) : wordChain cs = cs := by
  induction cs with
  | nil => rfl
  | cons c cs ih =>
      obtain ⟨hc, hcs⟩ := Bool.and_eq_true_iff.mp h
      rw [wordChain, if_pos hc, ih hcs]

/-- Names with dots between are a chain of words exactly if all names are words. -/
theorem IsDotted.isChain_iff {cs : List Char} (h : IsDotted cs) :
    IsChain cs ↔ cs.all isChainChar = true := by
  have hword : ∀ {ds : List Char}, ds.all isNameChar = true → ds.all isChainChar = true →
      ds.all isWord = true := by
    intro ds hn hc
    refine List.all_eq_true.mpr fun c hm => ?_
    rcases Bool.or_eq_true_iff.mp (List.all_eq_true.mp hc c hm) with hw | hw
    · exact hw
    · rw [beq_iff_eq.mp hw] at hm
      exact absurd (List.all_eq_true.mp hn _ hm) (by decide)
  have hhead : ∀ {ds : List Char}, ds ≠ [] → ds.all isWord = true → ds.head?.any isWord = true := by
    intro ds hne hds
    cases ds with
    | nil => exact absurd rfl hne
    | cons c ds => exact (Bool.and_eq_true_iff.mp hds).1
  constructor
  · intro hc
    refine List.all_eq_true.mpr fun c hm => ?_
    rcases hc.mem hm with hw | rfl
    · rw [isChainChar, hw, Bool.true_or]
    · rfl
  · intro hm
    induction h with
    | name hne hn =>
        have hall := hword hn hm
        exact ⟨hhead hne hall, wordChain_of_all hall⟩
    | @dot cs ds hc hne hn ih =>
        -- the chain before the dot is read whole, and goes on with the word behind it
        simp only [List.all_append, List.all_cons, Bool.and_eq_true] at hm
        obtain ⟨hcs, -, hds⟩ := hm
        have hchain := ih hcs
        have hall := hword hn hds
        refine ⟨head?_append_any hchain.1, ?_⟩
        rw [wordChain_append_dot hchain.2 (hhead hne hall), wordChain_of_all hall]

/-! ## Indexes -/

/-- Behind every `a` there is a `b`. -/
def isFollowed (a b : Char) : List Char → Bool
  | [] => true
  | c :: cs => (c != a || cs.contains b) && isFollowed a b cs

section

variable {a b : Char} {cs ds : List Char}

theorem isFollowed_append (hc : isFollowed a b cs = true) (hd : isFollowed a b ds = true) :
    isFollowed a b (cs ++ ds) = true := by
  induction cs with
  | nil => exact hd
  | cons c cs ih =>
      simp only [isFollowed, Bool.and_eq_true, Bool.or_eq_true] at hc
      simp only [List.cons_append, isFollowed, Bool.and_eq_true, Bool.or_eq_true, ih hc.2, and_true]
      exact hc.1.imp_right fun h => by simpa using Or.inl (by simpa using h)

theorem isFollowed_of_not_mem (h : a ∉ cs) : isFollowed a b cs = true := by
  induction cs with
  | nil => rfl
  | cons c cs ih =>
      obtain ⟨hc, hcs⟩ := not_or.mp (mt List.mem_cons.mpr h)
      simp [isFollowed, Ne.symm hc, ih hcs]

/-- A pair around a text. -/
theorem isFollowed_between (hne : b ≠ a) (hc : isFollowed a b cs = true) :
    isFollowed a b (a :: (cs ++ [b])) = true := by
  have hb : isFollowed a b [b] = true := by simp [isFollowed, hne]
  simp [isFollowed, isFollowed_append hc hb]

theorem mem_of_isFollowed (h : isFollowed a b (cs ++ a :: ds) = true) : b ∈ ds := by
  induction cs with
  | nil =>
      simp only [List.nil_append, isFollowed, Bool.and_eq_true, Bool.or_eq_true] at h
      simpa using h.1
  | cons c cs ih =>
      rw [List.cons_append, isFollowed, Bool.and_eq_true] at h
      exact ih h.2

end

/-- A text that can stand as an index: a still one without quotes, with its brackets in pairs. -/
structure IsIndexText (cs : List Char) : Prop where
  still : IsStill cs
  unquoted : cs.all (!isQuote ·) = true
  closes : isFollowed '[' ']' cs = true
  opens : isFollowed ']' '[' cs.reverse = true

instance (cs : List Char) : Decidable (IsIndexText cs) :=
  decidable_of_iff (IsStill cs ∧ cs.all (!isQuote ·) = true ∧ isFollowed '[' ']' cs = true ∧
      isFollowed ']' '[' cs.reverse = true)
    ⟨fun h => ⟨h.1, h.2.1, h.2.2.1, h.2.2.2⟩, fun h => ⟨h.still, h.unquoted, h.closes, h.opens⟩⟩

namespace IsIndexText

variable {cs ds : List Char}

/-- Two texts with a character between them that is neither a bracket nor a quote. -/
theorem append_cons {c : Char} (hc : IsIndexText [c] ∧ isGap c = true) (h : IsIndexText cs)
    (h' : IsIndexText ds) : IsIndexText (cs ++ c :: ds) := by
  have hsplit : cs ++ c :: ds = cs ++ ([c] ++ ds) := rfl
  refine ⟨(isStill_append_cons hc.2).mpr ⟨h.still, h'.still⟩, ?_, ?_, ?_⟩
  · rw [hsplit, List.all_append, List.all_append, h.unquoted, hc.1.unquoted, h'.unquoted]
    rfl
  · exact isFollowed_append h.closes (isFollowed_append hc.1.closes h'.closes)
  · rw [hsplit, List.reverse_append, List.reverse_append]
    exact isFollowed_append (isFollowed_append h'.opens hc.1.opens) h.opens

/-- A text with an index, or an array behind nothing. -/
theorem append_indexed (h : IsIndexText cs) (h' : IsIndexText ds) :
    IsIndexText (cs ++ '[' :: (ds ++ [']'])) := by
  have hbracket : IsStill (ds ++ [']']) :=
    (isStill_append_cons (by decide)).mpr ⟨h'.still, by decide⟩
  refine ⟨(isStill_append_cons (by decide)).mpr ⟨h.still, hbracket⟩, ?_, ?_, ?_⟩
  · simp only [List.all_append, List.all_cons, h.unquoted, h'.unquoted]
    rfl
  · exact isFollowed_append h.closes (isFollowed_between (by decide) h'.closes)
  · have hreverse : (cs ++ '[' :: (ds ++ [']'])).reverse =
        ']' :: (ds.reverse ++ ['[']) ++ cs.reverse := by simp
    rw [hreverse]
    exact isFollowed_append (isFollowed_between (by decide) h'.opens) h.opens

/-- A call with its arguments. -/
theorem append_call (h : IsIndexText cs) (h' : IsIndexText ds) :
    IsIndexText (cs ++ '(' :: (ds ++ [')'])) :=
  h.append_cons (by decide) (h'.append_cons (by decide) (by decide))

/-- A chain of names is such a text. -/
theorem of_isDotted (h : IsDotted cs) : IsIndexText cs := by
  have hname : ∀ {ds : List Char}, ds.all isNameChar = true → IsIndexText ds := by
    intro ds hds
    have hmem : ∀ {c : Char}, c ∈ ds → isNameChar c = true := List.all_eq_true.mp hds _
    have hnot : ∀ {c : Char}, isNameChar c = false → c ∉ ds := fun hc hm => by
      rw [hmem hm] at hc
      cases hc
    have hgaps : ds.all isGap = true := List.all_eq_true.mpr fun c hc => by
      have := hmem hc
      simp only [isNameChar, Bool.and_eq_true] at this
      exact this.1.1.1.1.1
    refine ⟨?_, ?_, isFollowed_of_not_mem (hnot (by decide)), isFollowed_of_not_mem ?_⟩
    · have := isStill_append_of_gaps hgaps (by decide : IsStill [])
      rwa [List.append_nil] at this
    · refine List.all_eq_true.mpr fun c hc => ?_
      have := hmem hc
      simp only [isNameChar, Bool.and_eq_true] at this
      exact this.1.1.1.1.2
    · rw [List.mem_reverse]
      exact hnot (by decide)
  induction h with
  | name _ h => exact hname h
  | dot _ _ h ih => exact ih.append_cons (by decide) (hname h)

theorem all_isIndexChar (h : IsIndexText cs) (hb : '[' ∉ cs) : cs.all isIndexChar = true := by
  refine List.all_eq_true.mpr fun c hc => isIndexChar_iff.mpr ⟨?_, ?_, ?_⟩
  · rintro rfl
    exact hb hc
  · rintro rfl
    obtain ⟨front, rest, rfl⟩ := List.append_of_mem hc
    have hopens := h.opens
    rw [List.reverse_append, List.reverse_cons, List.append_assoc] at hopens
    have hm := mem_of_isFollowed hopens
    exact hb (List.mem_append_left _ (by simpa using hm))
  · rintro rfl
    exact h.still.oneLine hc

end IsIndexText

/-! ## What the edit reads at the end of a text -/

/-- What stands behind the last opening bracket is unique. -/
theorem append_bracket_inj {cs ds t u : List Char} (ht : '[' ∉ t) (hu : '[' ∉ u)
    (h : cs ++ '[' :: t = ds ++ '[' :: u) : cs = ds ∧ t = u := by
  have hall : ∀ {l : List Char}, '[' ∉ l → l.reverse.all (· != '[') = true := fun hl =>
    all_bne_bracket (mt List.mem_reverse.mp hl)
  have hreverse : t.reverse ++ '[' :: cs.reverse = u.reverse ++ '[' :: ds.reverse := by
    simpa using congrArg List.reverse h
  obtain ⟨h₁, -, h₂⟩ :=
    append_cons_inj_of_all (hall ht) (hall hu) (by decide) (by decide) hreverse
  exact ⟨List.reverse_injective h₂, List.reverse_injective h₁⟩

theorem exists_last_bracket {t : List Char} (h : '[' ∈ t) :
    ∃ front rest, t = front ++ '[' :: rest ∧ '[' ∉ rest := by
  induction t with
  | nil => cases h
  | cons c t ih =>
      by_cases ht : '[' ∈ t
      · obtain ⟨front, rest, rfl, hr⟩ := ih ht
        exact ⟨c :: front, rest, rfl, hr⟩
      · obtain rfl : '[' = c := by simpa [ht] using h
        exact ⟨[], t, rfl, ht⟩

/-- An operand of the edit ends in a word, or in an index without brackets behind a word. -/
theorem eq_of_endsOperand {cs : List Char} (h : EndsOperand cs) :
    (∃ front c, cs = front ++ [c] ∧ isWord c = true) ∨
      ∃ front c inner, cs = front ++ c :: '[' :: (inner ++ [']']) ∧ isWord c = true ∧
        inner ≠ [] ∧ inner.all isIndexChar = true := by
  obtain ⟨front, x, rfl, hx⟩ := h
  cases hx with
  | chain h =>
      obtain ⟨before, c, rfl, hc⟩ := h.eq_concat
      exact .inl ⟨front ++ before, c, by simp, hc⟩
  | @indexed chain inner h hn hi =>
      obtain ⟨before, c, rfl, hc⟩ := h.eq_concat
      exact .inr ⟨front ++ before, c, inner, by simp, hc, hn, hi⟩

/-- Behind a chain of names: its last character decides. -/
theorem IsDotted.endsOperand_iff {cs : List Char} (h : IsDotted cs) (front : List Char) :
    EndsOperand (front ++ cs) ↔ cs.getLast?.any isWord = true := by
  obtain ⟨before, c, rfl, hc⟩ := h.eq_concat
  rw [List.getLast?_concat, Option.any_some, ← List.append_assoc]
  constructor
  · intro he
    rcases eq_of_endsOperand he with ⟨other, d, hd, hw⟩ | ⟨other, d, inner, hd, -⟩
    · obtain rfl : c = d := by simpa using (List.append_inj' hd rfl).2
      exact hw
    · have hd' : (front ++ before) ++ [c] = (other ++ d :: '[' :: inner) ++ [']'] := by
        simpa using hd
      obtain rfl : c = ']' := by simpa using (List.append_inj' hd' rfl).2
      exact absurd hc (by decide)
  · intro hw
    exact ⟨_, _, rfl, .chain (isChain_singleton hw)⟩

/-- Behind an index: it must have no brackets, and the chain before it decides. -/
theorem IsDotted.endsOperand_index_iff {cs t : List Char} (h : IsDotted cs) (hne : t ≠ [])
    (ht : IsIndexText t) (front : List Char) :
    EndsOperand (front ++ (cs ++ '[' :: (t ++ [']']))) ↔
      cs.getLast?.any isWord = true ∧ '[' ∉ t := by
  obtain ⟨before, c, rfl, hc⟩ := h.eq_concat
  rw [List.getLast?_concat, Option.any_some]
  constructor
  · intro he
    rcases eq_of_endsOperand he with ⟨other, d, hd, hw⟩ | ⟨other, d, inner, hd, hw, -, hi⟩
    · have hd' : (front ++ before ++ [c] ++ '[' :: t) ++ [']'] = other ++ [d] := by
        simpa using hd
      obtain rfl : ']' = d := by simpa using (List.append_inj' hd' rfl).2
      exact absurd hw (by decide)
    · obtain ⟨hopen, hclose, -⟩ := not_mem_of_all_isIndexChar hi
      have hcut : (front ++ before ++ [c]) ++ '[' :: t = (other ++ [d]) ++ '[' :: inner := by
        have hd' : ((front ++ before ++ [c]) ++ '[' :: t) ++ [']'] =
            ((other ++ [d]) ++ '[' :: inner) ++ [']'] := by simpa using hd
        exact List.append_cancel_right hd'
      -- a bracket in the index would open what the edit reads, and be closed in it
      have hflat : '[' ∉ t := by
        intro hm
        obtain ⟨outer, rest, rfl, hrest⟩ := exists_last_bracket hm
        have hcut' : (front ++ before ++ [c] ++ '[' :: outer) ++ '[' :: rest =
            (other ++ [d]) ++ '[' :: inner := by simpa using hcut
        obtain ⟨-, rfl⟩ := append_bracket_inj hrest hopen hcut'
        exact hclose (mem_of_isFollowed ht.closes)
      obtain ⟨hfront, -⟩ := append_bracket_inj hflat hopen hcut
      obtain rfl : c = d := by simpa using (List.append_inj' hfront rfl).2
      exact ⟨hw, hflat⟩
  · rintro ⟨hw, hb⟩
    exact ⟨front ++ before, [c] ++ '[' :: (t ++ [']']), by simp,
      .indexed (isChain_singleton hw) hne (ht.all_isIndexChar hb)⟩

/-! ## What the edit reads as a whole -/

theorem IsDotted.isOperand_iff {cs : List Char} (h : IsDotted cs) :
    IsOperand cs ↔ cs.all isChainChar = true := by
  rw [← h.isChain_iff]
  refine ⟨fun hx => ?_, .chain⟩
  have hbracket : '[' ∉ cs := h.not_mem (by decide) (by decide)
  cases hx with
  | chain hc => exact hc
  | indexed => simp at hbracket

theorem IsDotted.isOperand_index_iff {cs t : List Char} (h : IsDotted cs) (hne : t ≠ [])
    (ht : IsIndexText t) :
    IsOperand (cs ++ '[' :: (t ++ [']'])) ↔ cs.all isChainChar = true ∧ '[' ∉ t := by
  have hbracket : '[' ∉ cs := h.not_mem (by decide) (by decide)
  have hchain : ∀ {ds : List Char}, IsChain ds → '[' ∉ ds := fun hd =>
    hd.not_mem (by decide) (by decide)
  rw [← h.isChain_iff]
  constructor
  · intro hx
    generalize htext : cs ++ '[' :: (t ++ [']']) = text at hx
    cases hx with
    | chain hc => exact absurd (by rw [← htext]; simp) (hchain hc)
    | @indexed ds inner hd hn hi =>
        -- both chains end at the first bracket
        obtain ⟨rfl, -, hinner⟩ := append_cons_inj_of_all (all_bne_bracket hbracket)
          (all_bne_bracket (hchain hd)) (by decide) (by decide) htext
        obtain rfl : t = inner := List.append_cancel_right hinner
        exact ⟨hd, (not_mem_of_all_isIndexChar hi).1⟩
  · rintro ⟨hc, hb⟩
    exact .indexed hc hne (ht.all_isIndexChar hb)

/-! ## Operands -/

/-- The operand of an increment in a script: a chain of names, and perhaps an index. -/
structure StepOperand where
  chain : List Char
  index : Option (List Char)

namespace StepOperand

/-- The index in its brackets. -/
def indexText (x : StepOperand) : List Char := x.index.elim [] fun t => '[' :: (t ++ [']'])

/-- The text of an operand. -/
def text (x : StepOperand) : List Char := x.chain ++ x.indexText

/-- There is no bracket in the index. -/
def isFlat (x : StepOperand) : Bool := x.index.all fun t => !t.contains '['

/-- The parts of the operand are such texts. -/
structure Fits (x : StepOperand) : Prop where
  dotted : IsDotted x.chain
  index : ∀ {t}, x.index = some t → t ≠ [] ∧ IsIndexText t

variable {x : StepOperand} {t : List Char}

theorem text_of_none (h : x.index = none) : x.text = x.chain := by simp [text, indexText, h]

theorem text_of_some (h : x.index = some t) : x.text = x.chain ++ '[' :: (t ++ [']']) := by
  simp [text, indexText, h]

theorem isFlat_of_none (h : x.index = none) : x.isFlat = true := by simp [isFlat, h]

theorem isFlat_iff_of_some (h : x.index = some t) : x.isFlat = true ↔ '[' ∉ t := by
  simp [isFlat, h]

/-- The edit finds an operand at the end of a text exactly if its chain ends in a word and its index
has no brackets. -/
theorem Fits.endsOperand_iff (h : x.Fits) (front : List Char) :
    EndsOperand (front ++ x.text) ↔ x.chain.getLast?.any isWord = true ∧ x.isFlat = true := by
  cases hindex : x.index with
  | none =>
      rw [text_of_none hindex, h.dotted.endsOperand_iff, isFlat_of_none hindex]
      simp
  | some t =>
      obtain ⟨hne, ht⟩ := h.index hindex
      rw [text_of_some hindex, h.dotted.endsOperand_index_iff hne ht, isFlat_iff_of_some hindex]

/-- The operand is one that the edit knows exactly if its names are words and its index has no
brackets. -/
theorem Fits.isOperand_iff (h : x.Fits) :
    IsOperand x.text ↔ x.chain.all isChainChar = true ∧ x.isFlat = true := by
  cases hindex : x.index with
  | none =>
      rw [text_of_none hindex, h.dotted.isOperand_iff, isFlat_of_none hindex]
      simp
  | some t =>
      obtain ⟨hne, ht⟩ := h.index hindex
      rw [text_of_some hindex, h.dotted.isOperand_index_iff hne ht, isFlat_iff_of_some hindex]

theorem Fits.isIndexText (h : x.Fits) : IsIndexText x.text := by
  have hchain := IsIndexText.of_isDotted h.dotted
  cases hindex : x.index with
  | none => rwa [text_of_none hindex]
  | some t =>
      rw [text_of_some hindex]
      exact hchain.append_indexed (h.index hindex).2

theorem Fits.eq_cons (h : x.Fits) : ∃ c rest, x.text = c :: rest ∧ isNameChar c = true := by
  obtain ⟨c, rest, hchain, hc⟩ := h.dotted.eq_cons
  exact ⟨c, rest ++ x.indexText, by rw [text, hchain]; rfl, hc⟩

theorem Fits.eq_concat (h : x.Fits) :
    ∃ front c, x.text = front ++ [c] ∧ (isNameChar c = true ∨ c = ']') := by
  cases hindex : x.index with
  | none =>
      obtain ⟨front, c, hchain, hc⟩ := h.dotted.eq_concat
      exact ⟨front, c, by rw [text_of_none hindex, hchain], .inl hc⟩
  | some t => exact ⟨x.chain ++ '[' :: t, ']', by simp [text_of_some hindex], .inr rfl⟩

end StepOperand

/-! ## Increments on a line -/

/-- An increment or decrement as a statement. -/
structure Step where
  sign : Char
  isLeading : Bool
  operand : StepOperand

namespace Step

/-- The text of a step, with its sign before or behind the operand. -/
def text (s : Step) : List Char :=
  if s.isLeading then s.sign :: s.sign :: s.operand.text else s.operand.text ++ [s.sign, s.sign]

/-- The edit knows the step. With `returning`, the step stands behind a `return`. -/
def isKnown (returning : Bool) (s : Step) : Bool :=
  s.operand.isFlat &&
    if s.isLeading then !returning && s.operand.chain.all isChainChar
    else s.operand.chain.getLast?.any isWord

/-- The text of a step after the edit. -/
def editedText (returning : Bool) (s : Step) : List Char :=
  if s.isKnown returning then s.operand.text ++ stepText s.sign else s.text

/-- The parts of a step are such texts. -/
structure Fits (s : Step) : Prop where
  sign : IsSign s.sign
  operand : s.operand.Fits

end Step

/-- The word before an expression that is handed back. -/
def returnWord (returning : Bool) : List Char := if returning then "return ".toList else []

/-- What stands before a step on its line. -/
def stepMargin (returning : Bool) (level : Nat) : List Char := margin level ++ returnWord returning

theorem margin_succ (level : Nat) : margin (level + 1) = ' ' :: ' ' :: margin level := by
  simp [margin, List.replicate_succ]

theorem all_margin {p : Char → Bool} (h : p ' ' = true) (level : Nat) :
    (margin level).all p = true := by
  induction level with
  | zero => rfl
  | succ level ih => rw [margin_succ, List.all_cons, List.all_cons, h, ih]; rfl

theorem all_stepMargin {p : Char → Bool} (h : "return ".toList.all p = true) (returning : Bool)
    (level : Nat) : (stepMargin returning level).all p = true := by
  have hspace : p ' ' = true := List.all_eq_true.mp h ' ' (by decide)
  rw [stepMargin, List.all_append, all_margin hspace, Bool.true_and]
  cases returning with
  | true => exact h
  | false => rfl

theorem getLast?_stepMargin {returning : Bool} {level : Nat} {c : Char}
    (h : (stepMargin returning level).getLast? = some c) : c = ' ' := by
  cases returning with
  | true =>
      rw [stepMargin, returnWord, List.getLast?_append] at h
      simpa using h.symm
  | false =>
      have hm : c ∈ margin level := List.mem_of_getLast? (by simpa [stepMargin, returnWord] using h)
      have := List.all_eq_true.mp (all_margin (p := (· == ' ')) rfl level) c hm
      simpa using this

theorem isSpaceOrTab_stepMargin (returning : Bool) (level : Nat) :
    (stepMargin returning level).all isSpaceOrTab = !returning := by
  rw [stepMargin, List.all_append, all_margin (by decide), Bool.true_and]
  cases returning <;> decide

/-- A step is not hidden by what stands before it: no operand ends there. -/
theorem not_endsOperand_stepMargin (returning : Bool) (level : Nat) :
    ¬EndsOperand (stepMargin returning level) := by
  intro h
  have hspace : ∀ {front : List Char} {c : Char}, stepMargin returning level = front ++ [c] →
      c = ' ' := fun hc => getLast?_stepMargin (by rw [hc, List.getLast?_concat])
  rcases eq_of_endsOperand h with ⟨front, c, hc, hw⟩ | ⟨front, c, inner, hc, -⟩
  · rw [hspace hc] at hw
    exact absurd hw (by decide)
  · rw [← List.cons_append, ← List.cons_append, ← List.append_assoc] at hc
    exact absurd (hspace hc) (by decide)

namespace StepOperand

variable {x : StepOperand} {sign : Char}

theorem ne_sign (hs : IsSign sign) {c : Char} (hc : isNameChar c = true ∨ c = ']') : c ≠ sign := by
  rintro rfl
  rcases hs with rfl | rfl
  · exact absurd hc (by decide)
  · exact absurd hc (by decide)

/-- The sign behind the operand. -/
theorem Fits.increments_behind (h : x.Fits) (hs : IsSign sign) (returning : Bool) (level : Nat) :
    increments (stepMargin returning level ++ (x.text ++ [sign, sign])) =
      stepMargin returning level ++
        if (x.isFlat && x.chain.getLast?.any isWord) = true then x.text ++ stepText sign
        else x.text ++ [sign, sign] := by
  obtain ⟨front, hfront⟩ : ∃ front, front = stepMargin returning level := ⟨_, rfl⟩
  have htext := h.isIndexText
  have hgaps : front.all isGap = true := hfront ▸ all_stepMargin (by decide) returning level
  have hplain : front.all (!isQuote ·) = true :=
    hfront ▸ all_stepMargin (by decide) returning level
  have hquotes : ∀ c ∈ front ++ x.text, isQuote c = false := by
    intro c hc
    rcases List.mem_append.mp hc with hc | hc
    · simpa using List.all_eq_true.mp hplain c hc
    · simpa using List.all_eq_true.mp htext.unquoted c hc
  have hend : (front ++ x.text).getLast? ≠ some sign := by
    obtain ⟨rest, c, hconcat, hc⟩ := h.eq_concat
    rw [hconcat, ← List.append_assoc, List.getLast?_concat]
    exact fun he => ne_sign hs hc (Option.some.inj he)
  obtain ⟨hknown, hother⟩ := increments_trailing hs hquotes
    ⟨isStill_append_of_gaps hgaps htext.still, by decide, hend, by simp⟩
  rw [h.endsOperand_iff, and_comm, ← Bool.and_eq_true] at hknown hother
  rw [← hfront, ← List.append_assoc]
  split
  · rename_i hk
    rw [hknown hk, List.append_assoc]
  · rename_i hk
    rw [hother hk, List.append_assoc]

/-- The sign before the operand. -/
theorem Fits.increments_before (h : x.Fits) (hs : IsSign sign) (returning : Bool) (level : Nat) :
    increments (stepMargin returning level ++ sign :: sign :: x.text) =
      stepMargin returning level ++
        if (x.isFlat && (!returning && x.chain.all isChainChar)) = true then
          x.text ++ stepText sign
        else sign :: sign :: x.text := by
  obtain ⟨front, hfront⟩ : ∃ front, front = stepMargin returning level := ⟨_, rfl⟩
  have htext := h.isIndexText
  have hgaps : front.all isGap = true := hfront ▸ all_stepMargin (by decide) returning level
  have hstill : IsStill front := by
    have := isStill_append_of_gaps hgaps (by decide : IsStill [])
    rwa [List.append_nil] at this
  have hlast : front.getLast? ≠ some sign := by
    intro hl
    have hspace : sign = ' ' := getLast?_stepMargin (hfront ▸ hl)
    rcases hs with rfl | rfl <;> exact absurd hspace (by decide)
  have hhead : x.text.head? ≠ some sign := by
    obtain ⟨c, rest, hcons, hc⟩ := h.eq_cons
    rw [hcons, List.head?_cons]
    exact fun he => ne_sign hs (.inl hc) (Option.some.inj he)
  have hblank : ∀ c, x.text.getLast? = some c → isSpaceOrTab c = false := by
    obtain ⟨rest, c, hconcat, hc⟩ := h.eq_concat
    rw [hconcat, List.getLast?_concat]
    rintro d hd
    obtain rfl := Option.some.inj hd
    rw [← Bool.not_eq_true]
    intro hs
    rcases (by simpa [isSpaceOrTab] using hs : c = ' ' ∨ c = '\t') with rfl | rfl
    · exact absurd hc (by decide)
    · exact absurd hc (by decide)
  obtain ⟨hknown, hother⟩ := increments_leading hs ⟨hstill, htext.still, hlast, hhead⟩
    (hfront ▸ not_endsOperand_stepMargin returning level) hblank
  have hcondition : (front.all isSpaceOrTab = true ∧ IsOperand x.text) ↔
      (x.isFlat && (!returning && x.chain.all isChainChar)) = true := by
    rw [hfront, isSpaceOrTab_stepMargin, h.isOperand_iff, Bool.and_eq_true, Bool.and_eq_true]
    exact ⟨fun hk => ⟨hk.2.2, hk.1, hk.2.1⟩, fun hk => ⟨hk.2.1, hk.2.2, hk.1⟩⟩
  rw [hcondition] at hknown hother
  rw [← hfront]
  split
  · rename_i hk
    rw [hknown hk, List.append_assoc]
  · rename_i hk
    rw [hother hk]

end StepOperand

/-- **A line with a step**: the edit writes it out if it knows it. -/
theorem Step.Fits.increments_line {s : Step} (h : s.Fits) (returning : Bool) (level : Nat) :
    increments (stepMargin returning level ++ s.text) =
      stepMargin returning level ++ s.editedText returning := by
  cases hlead : s.isLeading with
  | false =>
      simp only [Step.editedText, Step.isKnown, Step.text, hlead]
      exact h.operand.increments_behind h.sign returning level
  | true =>
      simp only [Step.editedText, Step.isKnown, Step.text, hlead]
      exact h.operand.increments_before h.sign returning level

theorem Step.Fits.eq_concat {s : Step} (h : s.Fits) :
    ∃ front c, s.text = front ++ [c] ∧ isBlank c = false := by
  cases hlead : s.isLeading with
  | false =>
      refine ⟨s.operand.text ++ [s.sign], s.sign, by simp [Step.text, hlead], ?_⟩
      rcases h.sign with hs | hs <;> rw [hs] <;> decide
  | true =>
      obtain ⟨front, c, htext, hc⟩ := h.operand.eq_concat
      refine ⟨s.sign :: s.sign :: front, c, by simp [Step.text, hlead, htext], ?_⟩
      rcases hc with hc | rfl
      · simp only [isNameChar, Bool.and_eq_true] at hc
        simpa using hc.1.1.1.2
      · decide

theorem Step.Fits.editedText_eq_concat {s : Step} (h : s.Fits) (returning : Bool) :
    ∃ front c, s.editedText returning = front ++ [c] ∧ isBlank c = false := by
  rw [Step.editedText]
  split
  · exact ⟨s.operand.text ++ [' ', s.sign, '=', ' '], '1', by simp [stepText], by decide⟩
  · exact h.eq_concat

theorem Step.doubled_text (s : Step) : Doubled s.sign s.text := by
  rw [Step.text]
  split
  · exact doubled_iff.mpr ⟨[], _, rfl⟩
  · exact doubled_iff.mpr ⟨_, [], rfl⟩

/-- A step that the edit does not know still has its sign, and no other is left. -/
theorem Step.Fits.stepless_iff {s : Step} (h : s.Fits) (returning : Bool) (level : Nat) :
    Stepless (stepMargin returning level ++ s.editedText returning) ↔
      s.isKnown returning = true := by
  rw [Step.editedText]
  split
  · rename_i hknown
    have hgaps := all_stepMargin (p := isGap) (by decide) returning level
    have hstill := isStill_append_of_gaps hgaps
      (isStill_append_stepText h.sign h.operand.isIndexText.still)
    exact iff_of_true hstill.stepless hknown
  · rename_i hknown
    refine iff_of_false (fun hnone => ?_) hknown
    have hdouble := s.doubled_text.append_left (stepMargin returning level)
    rcases h.sign with hs | hs
    · rw [hs] at hdouble
      exact hnone.1 hdouble
    · rw [hs] at hdouble
      exact hnone.2 hdouble

/-- A line without a doubled sign, or with one step on it. -/
inductive SteppedLine : List Char → Prop where
  | still {line : List Char} (h : IsStill line) : SteppedLine line
  | step {s : Step} (h : s.Fits) (returning : Bool) (level : Nat) :
    SteppedLine (stepMargin returning level ++ s.text)

end EstreeEmitter.Passes
