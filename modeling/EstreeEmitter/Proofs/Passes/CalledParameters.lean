import EstreeEmitter.Proofs.Assoc
import EstreeEmitter.Proofs.Passes.MarkedDefinitions
import EstreeEmitter.Proofs.Passes.RegistryOrder

set_option autoImplicit false

/-! # Calls of parameters, marked and registered

Where the parameters of definitions are lists of distinct words, the pass marks all their calls as
`callAtOnce` does, and the calls that it finds on the way are the ones in the body as it was
(`Chunk.IsPlain.mem_called_iff`). They are found in the order of their positions, and the registry
keeps the last of them (`Chunk.IsPlain.lastCalled?_eq_some_iff`), from the last definition of a name
that has any (`lookup_registerCallable`). -/

namespace EstreeEmitter.Passes

open Text

/-! ## Parameter texts -/

/-- The text is a list of distinct words, with a comma and a space between neighbours. -/
structure ListsNames (parameters : List Char) (names : List (List Char)) : Prop where
  words : ∀ name ∈ names, IsWordText name
  distinct : names.Nodup
  text : parameters = joinWith ", ".toList names

instance (parameters : List Char) (names : List (List Char)) :
    Decidable (ListsNames parameters names) :=
  decidable_of_iff
    (names.all (fun name => decide (IsWordText name)) = true ∧ names.Nodup ∧
      parameters = joinWith ", ".toList names)
    ⟨fun ⟨hw, hd, ht⟩ => ⟨by simpa using hw, hd, ht⟩,
      fun h => ⟨by simpa using h.words, h.distinct, h.text⟩⟩

theorem isSeparator_eq_false_of_isWord {c : Char} (h : isWord c = true) :
    isSeparator c = false := by
  have hblank : isBlank c = false := by
    by_contra hb
    rw [isWord_eq_false_of_isBlank (by simpa using hb)] at h
    cases h
  have hcomma : c ≠ ',' := by
    rintro rfl
    cases h
  simp [isSeparator, hblank, hcomma]

/-- A word before a separator is a parameter. -/
theorem parameter?_word {name rest : List Char} (hn : IsWordText name)
    (hr : ∀ c ∈ rest.head?, isSeparator c = true) :
    parameter? (name ++ rest) = some (name, name.length) := by
  have hrun : (name ++ rest).takeWhile (!isSeparator ·) = name := by
    refine takeWhile_append_eq ?_ (by simpa using hr)
    rw [List.all_eq_true]
    intro c hc
    simp [isSeparator_eq_false_of_isWord (List.all_eq_true.mp hn.all_isWord c hc)]
  have hopen : parenthesisedLength? name.length (name ++ rest) = none := by
    rw [parenthesisedLength?, List.findSome?_eq_none_iff]
    intro k hk
    have hlt : k < name.length := by simpa using hk
    have hne : (name ++ rest)[k]? ≠ some '(' := by
      rw [List.getElem?_append_left hlt]
      intro hc
      exact not_mem_open_of_isWord hn.all_isWord (List.mem_of_getElem? hc)
    simp [hne]
  have hpos : name.length ≠ 0 := by simpa using hn.ne_nil
  rw [parameter?, hrun]
  simp [hopen, hpos]

theorem parameter?_separator {c : Char} (hc : isSeparator c = true) (rest : List Char) :
    parameter? (c :: rest) = none := by
  rw [parameter?, List.takeWhile_cons_of_neg (by simp [hc])]
  rfl

theorem parametersOf_word_append {name rest : List Char} (hn : IsWordText name)
    (hr : ∀ c ∈ rest.head?, isSeparator c = true) :
    parametersOf (name ++ rest) = name :: parametersOf rest := by
  rw [parametersOf, cut_found hn.ne_nil (parameter?_word hn hr), cut_ahead _ []]
  rfl

theorem parametersOf_separator {c : Char} (hc : isSeparator c = true) (rest : List Char) :
    parametersOf (c :: rest) = parametersOf rest := by
  rw [parametersOf, cut_ahead_keep (parameter?_separator hc rest)]
  rfl

theorem parametersOf_nil : parametersOf [] = [] := by
  rw [parametersOf, cut]
  rfl

/-- **The parameters of a list of names are the names.** -/
theorem ListsNames.parametersOf_eq {parameters : List Char} {names : List (List Char)}
    (h : ListsNames parameters names) : parametersOf parameters = names := by
  rw [h.text]
  have hwords := h.words
  clear h
  induction names with
  | nil => exact parametersOf_nil
  | cons name names ih =>
      obtain ⟨hname, hnames⟩ := List.forall_mem_cons.mp hwords
      cases names with
      | nil =>
          have hlast : parametersOf (name ++ []) = name :: parametersOf [] :=
            parametersOf_word_append hname (by simp)
          rwa [List.append_nil, parametersOf_nil] at hlast
      | cons next names =>
          rw [joinWith_cons _ _ (by simp), List.append_assoc,
            parametersOf_word_append hname (by simp [isSeparator])]
          refine congrArg (name :: ·) ?_
          calc parametersOf (',' :: ' ' :: joinWith ", ".toList (next :: names))
              = parametersOf (' ' :: joinWith ", ".toList (next :: names)) :=
                parametersOf_separator (by decide) _
            _ = parametersOf (joinWith ", ".toList (next :: names)) :=
                parametersOf_separator (by decide) _
            _ = next :: names := ih hnames

/-! ## One definition -/

/-- The parameters of the definition are a list of distinct words. -/
def Chunk.IsPlain (chunk : Chunk) : Prop := ∃ names, ListsNames chunk.parameters names

/-- The definition calls its parameter at the position. -/
def Chunk.CallsAt (chunk : Chunk) (position : Nat) : Prop :=
  ∃ name, (parametersOf chunk.parameters)[position]? = some name ∧ Calls name chunk.body

/-- The largest position of a parameter that the definition calls. -/
structure Chunk.LastCall (chunk : Chunk) (position : Nat) : Prop where
  called : chunk.CallsAt position
  largest : ∀ other, chunk.CallsAt other → other ≤ position

/-- What the definition puts into the registry in the end. -/
def Chunk.lastCalled? (chunk : Chunk) : Option Int :=
  chunk.mark.called.getLast?.map fun call => (call.2 : Int)

theorem Chunk.IsPlain.listsNames {chunk : Chunk} (h : chunk.IsPlain) :
    ListsNames chunk.parameters (parametersOf chunk.parameters) := by
  obtain ⟨names, hnames⟩ := h
  rwa [hnames.parametersOf_eq]

instance (chunk : Chunk) : Decidable chunk.IsPlain :=
  decidable_of_iff (ListsNames chunk.parameters (parametersOf chunk.parameters))
    ⟨fun h => ⟨_, h⟩, Chunk.IsPlain.listsNames⟩

section

variable {chunk : Chunk} (h : chunk.IsPlain)

include h

theorem Chunk.IsPlain.marked_eq : chunk.marked = chunk.throughCalls.source := by
  rw [Chunk.marked, Chunk.mark, body_markBody h.listsNames.words]
  rfl

theorem Chunk.IsPlain.mem_called_iff {name : List Char} {position : Nat} :
    (name, position) ∈ chunk.mark.called ↔
      (parametersOf chunk.parameters)[position]? = some name ∧ Calls name chunk.body := by
  rw [Chunk.mark, called_markBody h.listsNames.words h.listsNames.distinct, List.mem_filter,
    List.mem_zipIdx_iff_getElem?]
  refine and_congr_right fun hname => ?_
  rw [calls_iff_mem_callWords (h.listsNames.words name (List.mem_of_getElem? hname))]
  simp

/-- The parameters that are called are in the order of their positions. -/
theorem Chunk.IsPlain.pairwise_called :
    chunk.mark.called.Pairwise fun first second => first.2 < second.2 := by
  rw [Chunk.mark, called_markBody h.listsNames.words h.listsNames.distinct]
  refine List.Pairwise.filter _ ?_
  rw [← List.pairwise_map (f := Prod.snd) (R := (· < ·)), List.zipIdx_map_snd]
  exact List.pairwise_lt_range'

theorem Chunk.IsPlain.called_eq_nil_iff :
    chunk.mark.called = [] ↔ ∀ position, ¬chunk.CallsAt position := by
  constructor
  · rintro hnil position ⟨name, hcalls⟩
    rw [← h.mem_called_iff, hnil] at hcalls
    cases hcalls
  · intro hnone
    refine List.eq_nil_iff_forall_not_mem.mpr ?_
    rintro ⟨name, position⟩ hm
    exact hnone position ⟨name, h.mem_called_iff.mp hm⟩

theorem Chunk.IsPlain.lastCalled?_eq_none_iff :
    chunk.lastCalled? = none ↔ ∀ position, ¬chunk.CallsAt position := by
  rw [Chunk.lastCalled?, Option.map_eq_none_iff, List.getLast?_eq_none_iff, h.called_eq_nil_iff]

/-- **What stays in the registry is the largest position of a parameter that is called.** -/
theorem Chunk.IsPlain.lastCalled?_eq_some_iff {i : Int} :
    chunk.lastCalled? = some i ↔ ∃ position : Nat, i = position ∧ chunk.LastCall position := by
  have hlast : ∀ {call}, chunk.mark.called.getLast? = some call → chunk.LastCall call.2 := by
    intro call hcall
    obtain ⟨earlier, hcalled⟩ := List.getLast?_eq_some_iff.mp hcall
    have horder := h.pairwise_called
    rw [hcalled, List.pairwise_append] at horder
    refine ⟨⟨call.1, h.mem_called_iff.mp (List.mem_of_getLast? hcall)⟩, ?_⟩
    rintro other ⟨name, hother⟩
    rw [← h.mem_called_iff, hcalled, List.mem_append, List.mem_singleton] at hother
    rcases hother with hm | rfl
    · exact Nat.le_of_lt (horder.2.2 _ hm call (List.mem_singleton.mpr rfl))
    · exact Nat.le_refl other
  constructor
  · intro hi
    obtain ⟨call, hcall, rfl⟩ := Option.map_eq_some_iff.mp hi
    exact ⟨call.2, rfl, hlast hcall⟩
  · rintro ⟨position, rfl, hposition⟩
    obtain ⟨name, hname⟩ := hposition.called
    -- there is a last call, and its position is a largest one too
    have hne : chunk.mark.called ≠ [] := List.ne_nil_of_mem (h.mem_called_iff.mpr hname)
    have hcall := List.getLast?_eq_some_getLast hne
    have hat := hlast hcall
    have heq : (chunk.mark.called.getLast hne).2 = position :=
      Nat.le_antisymm (hposition.largest _ hat.called) (hat.largest _ hposition.called)
    rw [Chunk.lastCalled?, hcall, Option.map_some, heq]

end

/-! ## The registry -/

/-- What the definition puts into the registry under a name. -/
def Chunk.registers? (name : List Char) (chunk : Chunk) : Option Int :=
  if name == chunk.name then chunk.lastCalled? else none

theorem Chunk.registers?_eq_some_iff {name : List Char} {chunk : Chunk} {i : Int} :
    chunk.registers? name = some i ↔ chunk.name = name ∧ chunk.lastCalled? = some i := by
  rw [Chunk.registers?]
  by_cases hname : chunk.name = name
  · simp [hname]
  · simp [hname, Ne.symm hname]

theorem Chunk.registers?_eq_none_iff {name : List Char} {chunk : Chunk} :
    chunk.registers? name = none ↔ (chunk.name = name → chunk.lastCalled? = none) := by
  rw [Chunk.registers?]
  by_cases hname : chunk.name = name
  · simp [hname]
  · simp [hname, Ne.symm hname]

/-- Under each name, the registry has what the last definition put there that put anything. -/
theorem lookup_registerCallable (code : List Char) (registry : Registry) (name : List Char) :
    (registerCallable code registry).lookup name =
      ((pieces (cutChunks code)).reverse.findSome? (Chunk.registers? name)).or
        (registry.lookup name) := by
  rw [registerCallable]
  generalize pieces (cutChunks code) = chunks
  induction chunks generalizing registry with
  | nil => rfl
  | cons chunk chunks ih =>
      -- the first definition is asked last
      rw [List.foldl_cons, ih, List.reverse_cons, List.findSome?_append, Option.or_assoc,
        Assoc.lookup_foldl_put]
      refine congrArg _ ?_
      rw [List.findSome?_singleton, Chunk.registers?]
      split <;> rfl

/-- The position is the largest one of a parameter called in the last definition of the name that
calls any. -/
def Registered (chunks : List Chunk) (name : List Char) (position : Nat) : Prop :=
  ∃ earlier chunk later, chunks = earlier ++ chunk :: later ∧ chunk.name = name ∧
    chunk.LastCall position ∧ ∀ other ∈ later, other.name = name → ∀ k, ¬other.CallsAt k

section

variable {code : List Char} (h : ∀ chunk ∈ pieces (cutChunks code), chunk.IsPlain)

include h

theorem lookup_registerCallable_eq_some_iff (name : List Char) (i : Int) :
    (registerCallable code []).lookup name = some i ↔
      ∃ position : Nat, i = position ∧ Registered (pieces (cutChunks code)) name position := by
  rw [lookup_registerCallable, List.lookup_nil, Option.or_none, List.findSome?_eq_some_iff]
  constructor
  · rintro ⟨later, chunk, earlier, hchunks, hchunk, hlater⟩
    have hsplit : pieces (cutChunks code) = earlier.reverse ++ chunk :: later.reverse := by
      rw [← List.reverse_reverse (pieces _), hchunks]
      simp
    have hplain := hsplit ▸ h
    obtain ⟨hname, hlast⟩ := Chunk.registers?_eq_some_iff.mp hchunk
    obtain ⟨position, rfl, hposition⟩ :=
      (hplain chunk (by simp)).lastCalled?_eq_some_iff.mp hlast
    refine ⟨position, rfl, earlier.reverse, chunk, later.reverse, hsplit, hname, hposition, ?_⟩
    intro other hm hother
    exact (hplain other (by simp_all)).lastCalled?_eq_none_iff.mp
      (Chunk.registers?_eq_none_iff.mp (hlater other (by simpa using hm)) hother)
  · rintro ⟨position, rfl, earlier, chunk, later, hsplit, hname, hposition, hlater⟩
    have hplain := hsplit ▸ h
    refine ⟨later.reverse, chunk, earlier.reverse, by simp [hsplit], ?_, ?_⟩
    · exact Chunk.registers?_eq_some_iff.mpr
        ⟨hname, (hplain chunk (by simp)).lastCalled?_eq_some_iff.mpr ⟨position, rfl, hposition⟩⟩
    · intro other hm
      have hm : other ∈ later := by simpa using hm
      exact Chunk.registers?_eq_none_iff.mpr fun hother =>
        (hplain other (by simp [hm])).lastCalled?_eq_none_iff.mpr (hlater other hm hother)

/-! ## The pass -/

theorem markCallable_eq_callAtOnce : markCallable code = callAtOnce code :=
  paste_congr fun chunk hm => (h chunk hm).marked_eq

theorem pieces_cutChunks_markCallable :
    pieces (cutChunks (markCallable code)) = (pieces (cutChunks code)).map Chunk.throughCalls := by
  rw [markCallable_eq_callAtOnce h, pieces_cutChunks_callAtOnce]

theorem isPlain_of_mem_markCallable :
    ∀ chunk ∈ pieces (cutChunks (markCallable code)), chunk.IsPlain := by
  rw [pieces_cutChunks_markCallable h]
  exact List.forall_mem_map.mpr h

/-- Behind the pass no parameter is called. -/
theorem not_callsAt_of_mem_markCallable :
    ∀ chunk ∈ pieces (cutChunks (markCallable code)), ∀ position, ¬chunk.CallsAt position := by
  rw [pieces_cutChunks_markCallable h, List.forall_mem_map]
  rintro chunk hm position ⟨name, hname, hcalls⟩
  have hmem := List.mem_of_getElem? hname
  rw [calls_iff_mem_callWords ((h chunk hm).listsNames.words name hmem)] at hcalls
  exact not_mem_callWords_throughCall chunk.body hcalls hmem

theorem markCallable_markCallable : markCallable (markCallable code) = markCallable code := by
  rw [markCallable_eq_callAtOnce (isPlain_of_mem_markCallable h), markCallable_eq_callAtOnce h,
    callAtOnce_callAtOnce]

/-- A text with no parameter called adds nothing to a registry. -/
theorem registerCallable_of_not_callsAt
    (hc : ∀ chunk ∈ pieces (cutChunks code), ∀ position, ¬chunk.CallsAt position)
    (registry : Registry) : registerCallable code registry = registry := by
  have hnone : ∀ chunk ∈ pieces (cutChunks code), chunk.mark.called = [] := fun chunk hm =>
    (h chunk hm).called_eq_nil_iff.mpr (hc chunk hm)
  rw [registerCallable]
  generalize pieces (cutChunks code) = chunks at hnone
  induction chunks with
  | nil => rfl
  | cons chunk chunks ih =>
      obtain ⟨hchunk, hrest⟩ := List.forall_mem_cons.mp hnone
      rw [List.foldl_cons, hchunk]
      exact ih hrest

end

/-- All calls of parameters are marked in the text, and registered. -/
structure MarksCalls (code : List Char) : Prop where
  /-- The parameters of a definition are the words that its parameter text lists. -/
  parameters : ∀ chunk ∈ pieces (cutChunks code),
    ListsNames chunk.parameters (parametersOf chunk.parameters)
  /-- The text is made of definitions and characters, and it changes in the bodies of definitions
  only, where `.call` is put between a parameter and the parenthesis behind it. -/
  text : paste Chunk.source (cutChunks code) = code ∧
    markCallable code = paste (fun chunk => chunk.throughCalls.source) (cutChunks code)
  /-- The same definitions are there behind the pass, and none of them calls a parameter. -/
  complete :
    pieces (cutChunks (markCallable code)) = (pieces (cutChunks code)).map Chunk.throughCalls ∧
      ∀ chunk ∈ pieces (cutChunks (markCallable code)), ∀ name ∈ parametersOf chunk.parameters,
        ¬Calls name chunk.body
  /-- The registry has each name once, and those and their positions that are to be there. -/
  registry : (registerCallable code []).Pairwise (fun first second => first.1 ≠ second.1) ∧
    ∀ name i, (name, i) ∈ registerCallable code [] ↔
      ∃ position : Nat, i = position ∧ Registered (pieces (cutChunks code)) name position
  /-- A second time, the pass changes nothing and registers nothing. -/
  stable : markCallable (markCallable code) = markCallable code ∧
    ∀ registry, registerCallable (markCallable code) registry = registry

/-- **Calls of parameters are marked completely, in no particular order, and only once.** -/
theorem marksCalls_of_isPlain {code : List Char}
    (h : ∀ chunk ∈ pieces (cutChunks code), chunk.IsPlain) : MarksCalls code where
  parameters chunk hm := (h chunk hm).listsNames
  text := ⟨(cuts_chunks code).paste_eq fun _ _ _ hc => hc, markCallable_eq_callAtOnce h⟩
  complete := by
    refine ⟨pieces_cutChunks_markCallable h, fun chunk hm name hname hcalls => ?_⟩
    obtain ⟨position, hposition⟩ := List.mem_iff_getElem?.mp hname
    exact not_callsAt_of_mem_markCallable h chunk hm position ⟨name, hposition, hcalls⟩
  registry := by
    have hdistinct := (wellNamed_registerCallable code).distinct
    refine ⟨hdistinct, fun name i => ?_⟩
    rw [Assoc.mem_iff_lookup_eq_some hdistinct, lookup_registerCallable_eq_some_iff h]
  stable :=
    ⟨markCallable_markCallable h, registerCallable_of_not_callsAt (isPlain_of_mem_markCallable h)
      (not_callsAt_of_mem_markCallable h)⟩

/-- Definitions of two methods, with names that end in other names. -/
def fourDefinitions : List Char :=
  "def f(call, g, fg)\n  fg(call(1))\n  g(x.g(2))\nend\n\n".toList ++
    "def f(xg, g)\n  xg(g)\n  g.call(1)\nend\n\n".toList ++
    "def f(a)\n  a.a(a)\nend\n\ndef h(a, b)\n  b(a(1))\nend\n".toList

/-- The first definition of a method calls more parameters than the second, and the last none. -/
theorem marksCalls_fourDefinitions :
    (∀ chunk ∈ pieces (cutChunks fourDefinitions), chunk.IsPlain) ∧
      MarksCalls fourDefinitions ∧
      markCallable fourDefinitions =
        "def f(call, g, fg)\n  fg.call(call.call(1))\n  g.call(x.g(2))\nend\n\n".toList ++
          "def f(xg, g)\n  xg.call(g)\n  g.call(1)\nend\n\n".toList ++
          "def f(a)\n  a.a(a)\nend\n\ndef h(a, b)\n  b.call(a.call(1))\nend\n".toList ∧
      registerCallable fourDefinitions [] = [("f".toList, 0), ("h".toList, 1)] := by
  have hall : (pieces (cutChunks fourDefinitions)).all (fun chunk => decide chunk.IsPlain) = true :=
    by decide +kernel
  have hplain : ∀ chunk ∈ pieces (cutChunks fourDefinitions), chunk.IsPlain := fun chunk hm =>
    of_decide_eq_true (List.all_eq_true.mp hall chunk hm)
  exact ⟨hplain, marksCalls_of_isPlain hplain, by decide +kernel, by decide +kernel⟩

end EstreeEmitter.Passes
