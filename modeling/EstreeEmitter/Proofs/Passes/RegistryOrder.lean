import EstreeEmitter.Proofs.Passes.ReferenceOrder

set_option autoImplicit false

/-! # The order of the registry

Methods of which no two clash can be taken in any order (`passAllReferences_perm`), since the pass
for one method adds no clashes between others (`mem_pieces_passFrom`). The methods of a registry
have different names, which are words (`wellNamed_registerCallable`), so the corrected text does not
depend on the order of the registry where there are no clashes. -/

namespace EstreeEmitter.Passes

open Text

/-! ## A third method -/

section

variable {f h : List Char} {k : Int} (hf : IsWordText f) (hh : IsWordText h) (hne : f ≠ h)

include hf hh hne

/-- In an argument behind a pass, only calls with words for arguments are found. -/
theorem IsArgument.words_of_mem_pieces_pass {text : List Char} {args : List Argument}
    (ht : IsArgument text) (ha : args ∈ pieces (sites f [] (passReferences h k text))) :
    ∀ a ∈ args, IsWordText a.text := by
  rcases ht.pass_cases k hh with heq | ⟨others, hl, -, -, hpass, -⟩
  · rw [heq] at ha
    exact ht.words_of_mem_pieces hf ha
  · have hlisted := hl.referred k
    rw [hpass, ← List.append_nil (callSource h (referred k others)),
      pieces_sites_callSource hf hh.all_isWord hlisted.spaced
        (fun a ha => (hlisted.simple a ha).closes hf)
        (callSite?_callSource_of_ne hf hh.all_isWord (Ne.symm hne) [] [] _),
      List.mem_append, List.mem_flatMap] at ha
    rcases ha with ⟨a, hm, hfound⟩ | hnil
    · exact (hlisted.simple a hm).words_of_mem_pieces hf hfound
    · rw [sites_nil] at hnil
      cases hnil

/-- **The pass for one method makes no calls of another with calls in their arguments.** -/
theorem mem_pieces_passFrom (before code : List Char) {args : List Argument}
    (ha : args ∈ pieces (sites f before (passFrom h k before code))) :
    args ∈ pieces (sites f before code) ∨ ∀ a ∈ args, IsWordText a.text := by
  induction before, code using scan_induction (f := h) (g := f) with
  | nil before =>
      rw [passFrom_nil, sites_nil] at ha
      cases ha
  | @first before others rest hb hl ih =>
      rw [← passReferences_eq_passFrom] at ih
      have hpieces {args : List Argument} (hl : Listed args) (rest : List Char) :=
        pieces_sites_callSource hf hh.all_isWord hl.spaced
          (fun a ha => (hl.simple a ha).closes hf)
          (callSite?_callSource_of_ne hf hh.all_isWord (Ne.symm hne) before rest args)
      rw [passFrom_found k hb hl, hpieces (hl.referred k), List.mem_append,
        List.mem_flatMap] at ha
      rw [hpieces hl, List.mem_append]
      rcases ha with ⟨a, hm, hfound⟩ | ha
      · exact .inr (((hl.referred k).simple a hm).words_of_mem_pieces hf hfound)
      · exact (ih ha).imp_left .inr
  | @second before others rest hb hl ih =>
      rw [← passReferences_eq_passFrom] at ih
      rw [passFrom_other hh hne hf.all_isWord hl] at ha
      rw [sites_found hb hl]
      by_cases hc : others.map (Argument.pass h k) = others
      · rw [hc, sites_found hb hl] at ha
        rcases List.mem_cons.mp ha with rfl | ha
        · exact .inl List.mem_cons_self
        · exact (ih ha).imp_left (List.mem_cons_of_mem _)
      · -- The call is not found behind the pass, only what is in its arguments.
        rw [pieces_sites_callSource hf hf.all_isWord
            (hl.spaced.of_gaps (map_gap_pass h k others))
            (List.forall_mem_map.mpr fun a ha =>
              closes_passReferences hf hh hne (hl.simple a ha))
            (callSite?_map_pass hh hl hc f before _),
          List.mem_append, List.mem_flatMap] at ha
        rcases ha with ⟨a, hm, hfound⟩ | ha
        · obtain ⟨b, hb, rfl⟩ := List.mem_map.mp hm
          exact .inr ((hl.simple b hb).words_of_mem_pieces_pass hf hh hne hfound)
        · exact (ih ha).imp_left (List.mem_cons_of_mem _)
  | keep hfirst hsecond ih =>
      have hnew := callSite?_passFrom_eq_none hh k hf.all_isWord hfirst hsecond
      rw [passFrom_keep k hfirst] at hnew ha
      rw [sites_keep hnew] at ha
      rw [sites_keep hsecond]
      exact ih ha

end

/-- A pass for another method adds no clashes. -/
theorem not_clash_passReferences {f g h : List Char} {i j : Int} (k : Int) (hf : IsWordText f)
    (hg : IsWordText g) (hh : IsWordText h) (hne : f ≠ h) {code : List Char}
    (hc : ¬Clash f i g j code) : ¬Clash f i g j (passReferences h k code) := by
  rintro ⟨args, ha, hclash⟩
  rw [passReferences_eq_passFrom] at ha
  rcases mem_pieces_passFrom hf hh hne [] code ha with hm | hw
  · exact hc ⟨args, hm, hclash⟩
  · exact not_clashing_of_words hg hw hclash

/-! ## Any number of methods -/

/-- The calls of two methods do not clash, and the methods are different. -/
structure Independent (code : List Char) (d e : List Char × Int) : Prop where
  ne : d.1 ≠ e.1
  left : ¬Clash d.1 d.2 e.1 e.2 code
  right : ¬Clash e.1 e.2 d.1 d.2 code

theorem Independent.symm {code : List Char} {d e : List Char × Int} (h : Independent code d e) :
    Independent code e d := ⟨Ne.symm h.ne, h.right, h.left⟩

/-- A word that names a method of its own. -/
structure IsMethodName (name : List Char) : Prop where
  word : IsWordText name
  ne_method : name ≠ "method".toList

theorem Independent.passReferences_comm {code : List Char} {d e : List Char × Int}
    (h : Independent code d e) (hd : IsMethodName d.1) (he : IsMethodName e.1) :
    passReferences e.1 e.2 (passReferences d.1 d.2 code) =
      passReferences d.1 d.2 (passReferences e.1 e.2 code) := by
  simp only [passReferences_eq_passFrom]
  exact (passFrom_comm_iff hd.word he.word h.ne hd.ne_method he.ne_method [] code).mpr
    ⟨h.left, h.right⟩

/-- Methods that do not clash can be taken in any order. -/
theorem passAllReferences_perm {registry others : Registry} (hp : registry.Perm others)
    (code : List Char) (hn : ∀ e ∈ registry, IsMethodName e.1)
    (hi : registry.Pairwise (Independent code)) :
    passAllReferences registry code = passAllReferences others code := by
  induction hp generalizing code with
  | nil => rfl
  | cons e _ ih =>
      obtain ⟨he, hrest⟩ := List.forall_mem_cons.mp hn
      obtain ⟨hfirst, hpairs⟩ := List.pairwise_cons.mp hi
      refine ih (passReferences e.1 e.2 code) hrest (hpairs.imp_of_mem fun ha hb h => ?_)
      have ha' := (hrest _ ha).word
      have hb' := (hrest _ hb).word
      exact ⟨h.ne, not_clash_passReferences e.2 ha' hb' he.word (Ne.symm (hfirst _ ha).ne) h.left,
        not_clash_passReferences e.2 hb' ha' he.word (Ne.symm (hfirst _ hb).ne) h.right⟩
  | swap d e rest =>
      obtain ⟨he, hrest⟩ := List.forall_mem_cons.mp hn
      obtain ⟨hd, -⟩ := List.forall_mem_cons.mp hrest
      have hde := (List.pairwise_cons.mp hi).1 d List.mem_cons_self
      exact congrArg (passAllReferences rest) (hde.passReferences_comm he hd)
  | trans hp _ ih ih' =>
      have hmiddle := (hp.pairwise_iff fun h => Independent.symm h).mp hi
      exact (ih code hn hi).trans (ih' code (fun e he => hn e (hp.mem_iff.mpr he)) hmiddle)

/-! ## The registry of a text -/

/-- Every method is there once, by its name. -/
structure WellNamed (registry : Registry) : Prop where
  words : ∀ e ∈ registry, IsWordText e.1
  distinct : registry.Pairwise fun d e => d.1 ≠ e.1

theorem fst_eq_of_mem_put {name : List Char} {position : Int} {registry : Registry}
    {e : List Char × Int} (h : e ∈ Assoc.put name position registry) :
    e.1 = name ∨ ∃ d ∈ registry, d.1 = e.1 := by
  induction registry with
  | nil => exact .inl (List.mem_singleton.mp h ▸ rfl)
  | cons d registry ih =>
      rw [Assoc.put] at h
      split at h
      · rcases List.mem_cons.mp h with rfl | h
        · exact .inr ⟨d, List.mem_cons_self, rfl⟩
        · exact .inr ⟨e, List.mem_cons_of_mem _ h, rfl⟩
      · rcases List.mem_cons.mp h with rfl | h
        · exact .inr ⟨_, List.mem_cons_self, rfl⟩
        · rcases ih h with h | ⟨b, hb, he⟩
          · exact .inl h
          · exact .inr ⟨b, List.mem_cons_of_mem _ hb, he⟩

theorem WellNamed.put {registry : Registry} (h : WellNamed registry) {name : List Char}
    (hn : IsWordText name) (position : Int) : WellNamed (Assoc.put name position registry) where
  words := by
    intro e he
    rcases fst_eq_of_mem_put he with he | ⟨d, hd, he⟩
    · exact he ▸ hn
    · exact he ▸ h.words d hd
  distinct := by
    have hd := h.distinct
    clear h
    induction registry with
    | nil => exact List.pairwise_singleton _ _
    | cons d registry ih =>
        obtain ⟨hfirst, hpairs⟩ := List.pairwise_cons.mp hd
        rw [Assoc.put]
        split
        · exact List.pairwise_cons.mpr ⟨hfirst, hpairs⟩
        · rename_i hne
          refine List.pairwise_cons.mpr ⟨fun e he => ?_, ih hpairs⟩
          rcases fst_eq_of_mem_put he with he | ⟨b, hb, he⟩
          · exact he ▸ by simpa using hne
          · exact he ▸ hfirst b hb

theorem WellNamed.putAll {registry : Registry} (h : WellNamed registry) {name : List Char}
    (hn : IsWordText name) (calls : List (List Char × Nat)) :
    WellNamed (calls.foldl (fun registry call => Assoc.put name call.2 registry) registry) := by
  induction calls generalizing registry with
  | nil => exact h
  | cons call calls ih => exact ih (h.put hn call.2)

theorem isWordText_of_chunk? {cs : List Char} {chunk : Chunk} (h : chunk? cs = some chunk) :
    IsWordText chunk.name := by
  obtain ⟨afterDef, -, h⟩ := Option.bind_eq_some_iff.mp h
  dsimp only at h
  split at h
  · cases h
  · rename_i hempty
    obtain ⟨afterName, -, h⟩ := Option.bind_eq_some_iff.mp h
    obtain ⟨parameters, -, h⟩ := Option.bind_eq_some_iff.mp h
    obtain ⟨afterLine, -, h⟩ := Option.bind_eq_some_iff.mp h
    split at h
    · cases h
    · cases h
      exact ⟨by simpa using hempty, List.all_takeWhile⟩

/-- The registry of a text is well-named. -/
theorem wellNamed_registerCallable (code : List Char) : WellNamed (registerCallable code []) := by
  have hwords : ∀ chunk ∈ pieces (cutChunks code), IsWordText chunk.name := by
    intro chunk hc
    obtain ⟨-, rest, n, hf⟩ := exists_find?_of_mem_pieces hc
    obtain ⟨found, hfound, heq⟩ := Option.map_eq_some_iff.mp hf
    cases heq
    exact isWordText_of_chunk? hfound
  have hempty : WellNamed [] := ⟨nofun, .nil⟩
  rw [registerCallable]
  generalize ([] : Registry) = registry at hempty
  generalize pieces (cutChunks code) = chunks at hwords
  induction chunks generalizing registry with
  | nil => exact hempty
  | cons chunk chunks ih =>
      obtain ⟨hchunk, hrest⟩ := List.forall_mem_cons.mp hwords
      exact ih _ (hempty.putAll hchunk chunk.mark.called) hrest

end EstreeEmitter.Passes

namespace EstreeEmitter

open Passes Text

/-- **When the order of methods matters.** The passes for two methods agree in both orders exactly
if no call of one clashes with the pass for the other. So the corrected text does not depend on the
order of the registry if no two of its methods clash. -/
theorem passReferences_comm_iff (table : Table) (code : List Char) :
    (∀ (f g : List Char) (i j : Int), IsWordText f → IsWordText g → f ≠ g →
      f ≠ "method".toList → g ≠ "method".toList →
        (passReferences g j (passReferences f i code) =
            passReferences f i (passReferences g j code) ↔
          ¬Clash f i g j code ∧ ¬Clash g j f i code)) ∧
      ∀ registry : Registry,
        registry.Perm (registerCallable (floorCalls (table.apply code)) []) →
        (∀ e ∈ registry, e.1 ≠ "method".toList) →
        (∀ d ∈ registry, ∀ e ∈ registry, d ≠ e →
          ¬Clash d.1 d.2 e.1 e.2 (markCallable (floorCalls (table.apply code)))) →
        stringifyPuts (increments (passAllReferences registry
          (markCallable (floorCalls (table.apply code))))) = correct table code := by
  constructor
  · intro f g i j hf hg hne hfm hgm
    simp only [passReferences_eq_passFrom]
    exact passFrom_comm_iff hf hg hne hfm hgm [] code
  · intro registry hp hm hc
    have hnamed := wellNamed_registerCallable (floorCalls (table.apply code))
    have hnames : ∀ e ∈ registry, IsMethodName e.1 := fun e he =>
      ⟨hnamed.words e (hp.mem_iff.mp he), hm e he⟩
    have hpairs := (hp.pairwise_iff fun h => Ne.symm h).mpr hnamed.distinct
    have hindependent : registry.Pairwise
        (Independent (markCallable (floorCalls (table.apply code)))) := by
      refine hpairs.imp_of_mem fun {d e} hd he hne => ?_
      have hde : d ≠ e := fun h => hne (congrArg Prod.fst h)
      exact ⟨hne, hc d hd e he hde, hc e he d hd (Ne.symm hde)⟩
    rw [correct, passAllReferences_perm hp _ hnames hindependent]

/-- The definitions of two methods that call a parameter, with calls of them. -/
def withDefinitions (calls : String) : List Char :=
  "def g(k)\n  k(1)\nend\n\ndef f(x, k)\n  k(x)\nend\n\n".toList ++ calls.toList

/-- The corrected text, with the methods of the registry in the reverse order. -/
def correctReversed (code : List Char) : List Char :=
  stringifyPuts (increments (passAllReferences
    (registerCallable (floorCalls (Table.apply [] code)) []).reverse
    (markCallable (floorCalls (Table.apply [] code)))))

/-- A call in an argument does no harm where only one of the two calls is passed a reference. -/
theorem passReferences_comm_withDefinitions :
    passReferences "g".toList 0
          (passReferences "f".toList 1 "f(g(1), b)\nf(2, g(a))\n".toList) =
        passReferences "f".toList 1
          (passReferences "g".toList 0 "f(g(1), b)\nf(2, g(a))\n".toList) ∧
      correctReversed (withDefinitions "f(g(1), b)\nf(2, g(a))\n") =
        correct [] (withDefinitions "f(g(1), b)\nf(2, g(a))\n") :=
  ⟨((passReferences_comm_iff [] _).1 "f".toList "g".toList 1 0 (by decide) (by decide) (by decide)
      (by decide) (by decide)).mpr ⟨by decide +kernel, by decide +kernel⟩,
    (passReferences_comm_iff [] _).2 _ (List.reverse_perm _) (by decide +kernel)
      (by decide +kernel)⟩

/-- The outer call is passed a reference only if it is not the inner one's turn first. -/
theorem correct_ne_of_nested_call :
    passReferences "g".toList 0 (passReferences "f".toList 1 "f(g(a), b)".toList) ≠
        passReferences "f".toList 1 (passReferences "g".toList 0 "f(g(a), b)".toList) ∧
      correctReversed (withDefinitions "f(g(a), b)\n") ≠
        correct [] (withDefinitions "f(g(a), b)\n") := by
  decide +kernel

end EstreeEmitter
