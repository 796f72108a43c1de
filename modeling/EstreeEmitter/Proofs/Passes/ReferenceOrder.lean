import EstreeEmitter.Proofs.Passes.NoNewSites

set_option autoImplicit false

/-! # The order of two methods

Two methods can be called in one another's arguments. The pass for the inner one may leave a method
reference in the outer call's argument; the outer call is not recognised then any more, and what its
own pass would have done is not done. Such calls clash (`Clashing`). In all others the two passes do
not depend on each other: the orders agree exactly if no call clashes (`passFrom_comm_iff`). The
proof goes along the scans for both methods; at a call, arguments in the two orders are compared one
by one (`pass_refer`), and their texts can be told apart (`eq_of_flatMap_whole`). -/

namespace EstreeEmitter.Passes

open Text

/-! ## Clashes -/

/-- The arguments of a call of `f`, of which one changes for `g`. As the call is not recognised any
more then, it clashes if a name was to be passed as a reference, or if it kept the pass for `f` from
an argument. -/
def Clashing (f : List Char) (i : Int) (g : List Char) (j : Int) (args : List Argument) : Prop :=
  (∃ a ∈ args, passReferences g j a.text ≠ a.text) ∧
    (referredNames i 0 args ≠ [] ∨ ∃ a ∈ args, passReferences f i a.text ≠ a.text)

/-- A call of `f` in the code clashes with the pass for `g`. -/
def Clash (f : List Char) (i : Int) (g : List Char) (j : Int) (code : List Char) : Prop :=
  ∃ args ∈ pieces (cutCallSites f code), Clashing f i g j args

instance (f : List Char) (i : Int) (g : List Char) (j : Int) (args : List Argument) :
    Decidable (Clashing f i g j args) := inferInstanceAs (Decidable (_ ∧ _))

instance (f : List Char) (i : Int) (g : List Char) (j : Int) (code : List Char) :
    Decidable (Clash f i g j code) := inferInstanceAs (Decidable (∃ args ∈ _, _))

theorem methodReference_ne (cs : List Char) : methodReference cs ≠ cs := by
  intro h
  have hlen := congrArg List.length h
  rw [methodReference_eq] at hlen
  simp only [List.length_append, List.length_cons] at hlen
  omega

theorem referredNames_eq_nil_iff (index : Int) (position : Nat) (args : List Argument) :
    referredNames index position args = [] ↔
      (args.mapIdx fun k a => a.refer index (position + k)) = args := by
  induction args generalizing position with
  | nil => simp [referredNames]
  | cons a args ih =>
      rw [referredNames, mapIdx_refer_cons, List.append_eq_nil_iff, ih, List.cons.injEq,
        Argument.refer]
      refine and_congr_left fun _ => ?_
      by_cases hr : isReferred index position a = true
      · simp only [if_pos hr, List.cons_ne_nil, false_iff]
        exact fun h => methodReference_ne a.text (congrArg Argument.text h)
      · simp [hr]

/-- No name is passed as a reference exactly if all arguments are passed as they are. -/
theorem referredNames_eq_nil_iff_referred {index : Int} {args : List Argument} :
    referredNames index 0 args = [] ↔ referred index args = args := by
  rw [referredNames_eq_nil_iff]
  simp only [Nat.zero_add]
  rfl

/-- Words change for no method, so they do not clash. -/
theorem not_clashing_of_words {f g : List Char} {i j : Int} (hg : IsWordText g)
    {args : List Argument} (h : ∀ a ∈ args, IsWordText a.text) : ¬Clashing f i g j args := by
  rintro ⟨⟨a, ha, hc⟩, -⟩
  exact hc (passReferences_of_isWordText j hg (h a ha))

/-! ## One method after the other in an argument -/

theorem passReferences_methodReference {name cs : List Char} {index : Int}
    (hn : IsWordText name) (hm : name ≠ "method".toList) (hw : IsWordText cs) :
    passReferences name index (methodReference cs) = methodReference cs := by
  rcases (isArgument_methodReference hw).pass_cases index hn with h | ⟨args, -, -, h, -⟩
  · exact h
  · rw [methodReference_eq, ← List.append_nil (callSource name args), callSource_append] at h
    have hmethod : "method".toList.all isWord = true := by decide
    obtain ⟨hname, -⟩ :=
      append_cons_inj_of_all hmethod hn.all_isWord (by decide) (by decide) h
    exact absurd hname.symm hm

theorem passReferences_callSource {name word : List Char} {index : Int} {args : List Argument}
    (hn : IsWordText name) (hw : word.all isWord = true) (hne : word ≠ name) (hs : Spaced [] args)
    (hc : ∀ a ∈ args, Closes name a.text) :
    passReferences name index (callSource word args) =
      callSource word (args.map (Argument.pass name index)) := by
  have h := passFrom_callSource index hn hw hs hc
    (callSite?_callSource_of_ne hn hw hne [] [] args)
  rwa [List.append_nil, passReferences_eq_passFrom _ _ [], passFrom_nil, List.append_nil,
    ← passReferences_eq_passFrom] at h

theorem map_pass_eq_self_iff {name : List Char} {index : Int} {args : List Argument} :
    args.map (Argument.pass name index) = args ↔
      ∀ a ∈ args, passReferences name index a.text = a.text := by
  have hmap : args.map (Argument.pass name index) = args.map id ↔ _ := List.map_inj_left
  rw [List.map_id] at hmap
  rw [hmap]
  refine forall₂_congr fun a _ => ⟨congrArg Argument.text, fun h => ?_⟩
  rw [Argument.pass, h]
  rfl

section

variable {f g : List Char} {i j : Int} (hf : IsWordText f) (hg : IsWordText g) (hne : f ≠ g)

/-- Arguments that a pass leaves as they are it also leaves behind a reference. -/
theorem map_pass_referred (hg : IsWordText g) (hgm : g ≠ "method".toList) {args : List Argument}
    (h : ∀ a ∈ args, passReferences g j a.text = a.text) :
    (referred i args).map (Argument.pass g j) = referred i args := by
  refine map_pass_eq_self_iff.mpr fun a ha => ?_
  rcases eq_or_of_mem_referred ha with ha | ⟨b, hb, hw, rfl⟩
  · exact h a ha
  · exact passReferences_methodReference hg hgm hw

include hf hg hne

/-- What one method's pass changed in an argument, another one's leaves. -/
theorem passReferences_passReferences (hfm : f ≠ "method".toList) {text : List Char}
    (ht : IsArgument text) (hc : passReferences g j text ≠ text) :
    passReferences f i (passReferences g j text) = passReferences g j text := by
  rcases ht.pass_cases j hg with h | ⟨args, hl, hw, -, hpass, -⟩
  · exact absurd h hc
  · have hlisted := hl.referred j
    rw [hpass, passReferences_callSource hf hg.all_isWord (Ne.symm hne) hlisted.spaced
      fun a ha => (hlisted.simple a ha).closes hf]
    rw [map_pass_referred hf hfm fun a ha => passReferences_of_isWordText i hf (hw a ha)]

theorem closes_passReferences {text : List Char} (ht : IsArgument text) :
    Closes f (passReferences g j text) := by
  rcases ht.pass_cases j hg with h | ⟨args, hl, -, -, hpass, -⟩
  · rw [h]
    exact ht.closes hf
  · have hlisted := hl.referred j
    rw [hpass]
    exact closes_callSource hf hg.all_isWord (Ne.symm hne) hlisted.spaced
      fun a ha => (hlisted.simple a ha).closes hf

end

/-! ## Lists of arguments that can be told apart -/

/-- The arguments are the same, or the first one is simple and the second one is simple or stops. -/
structure Comparable (a b : Argument) : Prop where
  gap_eq : a.gap = b.gap
  text : a.text = b.text ∨ IsArgument a.text ∧ (IsArgument b.text ∨ Stops b.text)

theorem endsWord_of_ends {d : Char} (hd : d = ',' ∨ d = ')') (rest : List Char) :
    EndsWord (d :: rest) := by
  rcases hd with rfl | rfl
  · exact endsWord_comma rest
  · exact endsWord_close rest

theorem IsArgument.eq_of_append {text other front behind : List Char} {c d : Char}
    (ht : IsArgument text) (ho : IsArgument other ∨ Stops other) (hc : c = ',' ∨ c = ')')
    (hd : d = ',' ∨ d = ')') (h : text ++ c :: front = other ++ d :: behind) : text = other := by
  have htext := ht.argumentLength_append (endsWord_of_ends hc front)
  rcases ho with ho | ho
  · have hother := ho.argumentLength_append (endsWord_of_ends hd behind)
    rw [h, hother] at htext
    exact (List.append_inj h htext.symm).1
  · obtain ⟨e, rest, he, hcomma, hclose⟩ := ho (d :: behind)
    rw [← h, htext, List.drop_left] at he
    obtain ⟨rfl, -⟩ := List.cons.inj he
    rcases hc with rfl | rfl
    · exact absurd rfl hcomma
    · exact absurd rfl hclose

theorem map_gap_eq_of_comparable {args others : List Argument}
    (h : List.Forall₂ Comparable args others) :
    others.map Argument.gap = args.map Argument.gap := by
  induction h with
  | nil => rfl
  | cons hab _ ih => rw [List.map_cons, List.map_cons, hab.gap_eq, ih]

/-- Lists of comparable arguments with the same text are the same. -/
theorem eq_of_flatMap_whole {gap front behind : List Char} {args others : List Argument}
    (hs : Spaced gap args) (hc : List.Forall₂ Comparable args others)
    (h : args.flatMap Argument.whole ++ ')' :: front =
      others.flatMap Argument.whole ++ ')' :: behind) : args = others ∧ front = behind := by
  induction hs generalizing others with
  | @last gap text =>
      obtain ⟨b, rest, hb, hrest, rfl⟩ := List.forall₂_cons_left_iff.mp hc
      rw [List.forall₂_nil_left_iff] at hrest
      subst hrest
      obtain ⟨bgap, btext⟩ := b
      obtain ⟨rfl, hb⟩ := hb
      have htext : text ++ ')' :: front = btext ++ ')' :: behind := by
        simpa [Argument.whole] using h
      have heq : text = btext := by
        rcases hb with heq | ⟨ht, ho⟩
        · exact heq
        · exact ht.eq_of_append ho (.inr rfl) (.inr rfl) htext
      subst heq
      exact ⟨rfl, (List.cons.inj (List.append_cancel_left htext)).2⟩
  | @more gap text blank args hblank hs ih =>
      obtain ⟨b, rest, hb, hrest, rfl⟩ := List.forall₂_cons_left_iff.mp hc
      obtain ⟨bgap, btext⟩ := b
      obtain ⟨rfl, hb⟩ := hb
      obtain ⟨more, hmore⟩ := hs.flatMap_whole
      obtain ⟨bmore, hbmore⟩ := (hs.of_gaps (map_gap_eq_of_comparable hrest)).flatMap_whole
      have htext : text ++ (args.flatMap Argument.whole ++ ')' :: front) =
          btext ++ (rest.flatMap Argument.whole ++ ')' :: behind) := by
        simpa [Argument.whole] using h
      have heq : text = btext := by
        rcases hb with heq | ⟨ht, ho⟩
        · exact heq
        · rw [hmore, hbmore] at htext
          exact ht.eq_of_append ho (.inl rfl) (.inl rfl) htext
      subst heq
      obtain ⟨rfl, rfl⟩ := ih hrest (List.append_cancel_left htext)
      exact ⟨rfl, rfl⟩

/-! ## At a call of one of the methods -/

section

variable {f g : List Char} {i j : Int} (hf : IsWordText f) (hg : IsWordText g) (hne : f ≠ g)
  (hfm : f ≠ "method".toList) (hgm : g ≠ "method".toList)

theorem map_gap_pass (name : List Char) (index : Int) (args : List Argument) :
    (args.map (Argument.pass name index)).map Argument.gap = args.map Argument.gap := by
  rw [List.map_map]
  rfl

/-- A call with an argument that the pass changes is not recognised any more. -/
theorem callSite?_map_pass (hg : IsWordText g) {args : List Argument} (hl : Listed args)
    (hc : args.map (Argument.pass g j) ≠ args) (name before rest : List Char) :
    callSite? name before (callSource name (args.map (Argument.pass g j)) ++ rest) = none := by
  have hspaced := hl.spaced.of_gaps (map_gap_pass g j args)
  refine callSite?_eq_none_of_stops hspaced ?_ ?_ name before rest
  · rw [List.forall_mem_map]
    intro a ha
    rcases (hl.simple a ha).pass_cases j hg with h | ⟨_, -, -, -, h, hs⟩
    · exact .inl (show IsArgument (passReferences g j a.text) from h.symm ▸ hl.simple a ha)
    · exact .inr (show Stops (passReferences g j a.text) from h.symm ▸ hs)
  · obtain ⟨a, ha, hchange⟩ : ∃ a ∈ args, passReferences g j a.text ≠ a.text := by
      simpa only [ne_eq, map_pass_eq_self_iff, not_forall, exists_prop] using hc
    rcases (hl.simple a ha).pass_cases j hg with h | ⟨_, -, -, -, h, hs⟩
    · exact absurd h hchange
    · exact ⟨a.pass g j, List.mem_map_of_mem ha,
        show Stops (passReferences g j a.text) from h.symm ▸ hs⟩

include hg hne

/-- The pass for one method at a call of the other. -/
theorem passFrom_other (hf : f.all isWord = true) {args : List Argument} (hl : Listed args)
    (before rest : List Char) :
    passFrom g j before (callSource f args ++ rest) =
      callSource f (args.map (Argument.pass g j)) ++ passReferences g j rest :=
  passFrom_callSource j hg hf hl.spaced (fun a ha => (hl.simple a ha).closes hg)
    (callSite?_callSource_of_ne hg hf hne before rest args)

include hf

/-- Only one of the methods changes an argument. -/
theorem passReferences_eq_of_ne {text : List Char} (ht : IsArgument text)
    (hc : passReferences g j text ≠ text) : passReferences f i text = text := by
  rcases ht.pass_cases j hg with h | ⟨args, -, -, htext, -⟩
  · exact absurd h hc
  · rcases ht.pass_cases i hf with h | ⟨others, -, -, hother, -⟩
    · exact h
    · rw [htext, ← List.append_nil (callSource g args), ← List.append_nil (callSource f others),
        callSource_append, callSource_append] at hother
      obtain ⟨hname, -⟩ := append_cons_inj_of_all hg.all_isWord hf.all_isWord (by decide)
        (by decide) hother
      exact absurd hname.symm hne

include hfm hgm

/-- An argument in the two orders. Behind the pass for `f` it is passed as that pass left it; behind
the pass for `g`, if that kept the call from being recognised, it has the pass for `f` inside. -/
theorem pass_refer {a : Argument} (ha : IsArgument a.text) (k : Nat) :
    Comparable ((a.refer i k).pass g j) ((a.pass g j).pass f i) ∧
      ((a.refer i k).pass g j = (a.pass g j).pass f i ↔
        a.refer i k = a ∧ passReferences f i a.text = a.text) := by
  obtain ⟨gap, text⟩ := a
  by_cases hr : isReferred i k ⟨gap, text⟩ = true
  · have hw : IsWordText text := by
      rw [isReferred, Bool.and_eq_true] at hr
      exact isWordText_of_isPlainName hr.2
    have hleft : (Argument.refer i k ⟨gap, text⟩).pass g j = ⟨gap, methodReference text⟩ := by
      rw [Argument.refer, if_pos hr, Argument.pass, passReferences_methodReference hg hgm hw]
    have hright : (Argument.pass g j ⟨gap, text⟩).pass f i = ⟨gap, text⟩ := by
      rw [Argument.pass, Argument.pass, passReferences_of_isWordText j hg hw,
        passReferences_of_isWordText i hf hw]
    rw [hleft, hright]
    refine ⟨⟨rfl, .inr ⟨isArgument_methodReference hw, .inl ha⟩⟩, ?_⟩
    simp only [Argument.refer, if_pos hr, Argument.mk.injEq, methodReference_ne, and_false,
      false_and]
  · have hleft : Argument.refer i k ⟨gap, text⟩ = ⟨gap, text⟩ := by
      rw [Argument.refer, if_neg hr]
    simp only [hleft, true_and, Argument.pass, Argument.mk.injEq]
    by_cases hc : passReferences g j text = text
    · rw [hc, eq_comm]
      refine ⟨⟨rfl, .inr ⟨ha, ?_⟩⟩, Iff.rfl⟩
      rcases ha.pass_cases i hf with h | ⟨args, -, -, -, h, hs⟩
      · exact .inl (h.symm ▸ ha)
      · exact .inr (h.symm ▸ hs)
    · have hsame := passReferences_passReferences (i := i) hf hg hne hfm ha hc
      exact ⟨⟨rfl, .inl hsame.symm⟩, fun _ => passReferences_eq_of_ne hf hg hne ha hc,
        fun _ => hsame.symm⟩

/-- Arguments in the two orders. -/
theorem map_pass_referred_eq_iff {args : List Argument} (hl : Listed args) :
    List.Forall₂ Comparable ((referred i args).map (Argument.pass g j))
        ((args.map (Argument.pass g j)).map (Argument.pass f i)) ∧
      ((referred i args).map (Argument.pass g j) =
          (args.map (Argument.pass g j)).map (Argument.pass f i) ↔
        referred i args = args ∧ ∀ a ∈ args, passReferences f i a.text = a.text) := by
  have hpass (k : Nat) (hk : k < args.length) :=
    pass_refer (i := i) (j := j) hf hg hne hfm hgm (hl.simple args[k] (List.getElem_mem hk)) k
  constructor
  · rw [List.forall₂_iff_get]
    refine ⟨by simp [referred], fun k hk _ => ?_⟩
    have hlt : k < args.length := by simpa [referred] using hk
    simpa [referred] using (hpass k hlt).1
  · constructor
    · intro h
      have heach (k : Nat) (hk : k < args.length) :
          args[k].refer i k = args[k] ∧ passReferences f i args[k].text = args[k].text := by
        refine (hpass k hk).2.mp ?_
        have hget := congrArg (·[k]?) h
        simpa [referred, hk] using hget
      constructor
      · refine List.ext_getElem (by simp [referred]) fun k _ hk => ?_
        simpa [referred] using (heach k hk).1
      · intro a ha
        obtain ⟨k, hk, rfl⟩ := List.getElem_of_mem ha
        exact (heach k hk).2
    · rintro ⟨hr, hf⟩
      refine List.ext_getElem (by simp [referred]) fun k hk _ => ?_
      have hlt : k < args.length := by simpa [referred] using hk
      have hrefer : args[k].refer i k = args[k] := by
        have hget := congrArg (·[k]?) hr
        simpa [referred, hlt] using hget
      simpa [referred] using (hpass k hlt).2.mpr ⟨hrefer, hf _ (List.getElem_mem hlt)⟩

/-- **At a call of one method the orders agree if it does not clash** and they agree behind it. -/
theorem passFrom_comm_site {before : List Char} {args : List Argument}
    (hb : startsCall before = true) (hl : Listed args) (rest : List Char) :
    passFrom g j before (passFrom f i before (callSource f args ++ rest)) =
        passFrom f i before (passFrom g j before (callSource f args ++ rest)) ↔
      ¬Clashing f i g j args ∧ passReferences g j (passReferences f i rest) =
        passReferences f i (passReferences g j rest) := by
  rw [passFrom_found i hb hl, passFrom_other hg hne hf.all_isWord (hl.referred i),
    passFrom_other hg hne hf.all_isWord hl]
  by_cases hc : ∀ a ∈ args, passReferences g j a.text = a.text
  · have hclash : ¬Clashing f i g j args := by
      rintro ⟨⟨a, ha, hne⟩, -⟩
      exact hne (hc a ha)
    rw [map_pass_eq_self_iff.mpr hc, map_pass_referred hg hgm hc, passFrom_found i hb hl,
      List.append_cancel_left_eq, and_iff_right hclash]
  · have hchanged : ∃ a ∈ args, passReferences g j a.text ≠ a.text := by
      simpa only [not_forall, exists_prop] using hc
    have hsource := map_pass_eq_self_iff.not.mpr hc
    have hcloses : ∀ a ∈ args.map (Argument.pass g j), Closes f a.text := by
      rw [List.forall_mem_map]
      exact fun a ha => closes_passReferences hf hg hne (hl.simple a ha)
    rw [passFrom_callSource i hf hf.all_isWord (hl.spaced.of_gaps (map_gap_pass g j args)) hcloses
      (callSite?_map_pass hg hl hsource f before _)]
    obtain ⟨hcomparable, hiff⟩ := map_pass_referred_eq_iff (i := i) (j := j) hf hg hne hfm hgm hl
    have hclash : ¬Clashing f i g j args ↔
        referred i args = args ∧ ∀ a ∈ args, passReferences f i a.text = a.text := by
      rw [Clashing, and_iff_right hchanged, not_or, not_not, referredNames_eq_nil_iff_referred]
      simp only [not_exists, not_and, not_not]
    rw [hclash, ← hiff]
    constructor
    · intro h
      rw [callSource_append, callSource_append] at h
      have hargs := (List.cons.inj (List.append_cancel_left h)).2
      exact eq_of_flatMap_whole
        ((hl.referred i).spaced.of_gaps (map_gap_pass g j _)) hcomparable hargs
    · rintro ⟨hargs, hrest⟩
      rw [hargs, hrest]

end

/-! ## Two methods -/

/-- What is found in a call that is not found itself is found in its arguments. -/
theorem pieces_sites_callSource {name word before rest : List Char} {args : List Argument}
    (hn : IsWordText name) (hw : word.all isWord = true) (hs : Spaced [] args)
    (hc : ∀ a ∈ args, Closes name a.text)
    (h : callSite? name before (callSource word args ++ rest) = none) :
    pieces (sites name before (callSource word args ++ rest)) =
      (args.flatMap fun a => pieces (sites name [] a.text)) ++ pieces (sites name [] rest) := by
  have hargs : pieces (args.flatMap fun a => kept a.gap ++ sites name [] a.text) =
      args.flatMap fun a => pieces (sites name [] a.text) := by
    have ha (a : Argument) : pieces (kept a.gap ++ sites name [] a.text) =
        pieces (sites name [] a.text) := by rw [pieces_append, pieces_kept, List.nil_append]
    simp only [← ha]
    exact List.filterMap_flatMap
  rw [sites_callSource hn hw hs hc h, pieces_append, pieces_append, pieces_kept, hargs]
  rfl

/-- In a simple argument only calls with words for arguments are found. -/
theorem IsArgument.words_of_mem_pieces {name text : List Char} {args : List Argument}
    (hn : IsWordText name) (h : IsArgument text) (ha : args ∈ pieces (sites name [] text)) :
    ∀ a ∈ args, IsWordText a.text := by
  rcases h.site_or_kept hn with ⟨others, hl, hw, rfl⟩ | hk
  · rw [sites_callSource_self hl] at ha
    rw [List.mem_singleton.mp ha]
    exact hw
  · rw [hk.sites_eq, pieces_kept] at ha
    cases ha

/-- A call of `f` from a place on clashes with the pass for `g`. -/
def ClashFrom (f : List Char) (i : Int) (g : List Char) (j : Int) (before code : List Char) :
    Prop := ∃ args ∈ pieces (sites f before code), Clashing f i g j args

section

variable {f g : List Char} {i j : Int}

theorem clashFrom_keep {before cs : List Char} {c : Char}
    (h : callSite? f before (c :: cs) = none) :
    ClashFrom f i g j before (c :: cs) ↔ ClashFrom f i g j (c :: before) cs := by
  rw [ClashFrom, sites_keep h]
  rfl

theorem clashFrom_found {before : List Char} {args : List Argument}
    (hb : startsCall before = true) (hl : Listed args) (rest : List Char) :
    ClashFrom f i g j before (callSource f args ++ rest) ↔
      Clashing f i g j args ∨ Clash f i g j rest := by
  rw [ClashFrom, sites_found hb hl]
  exact List.exists_mem_cons_iff ..

theorem clashFrom_other (hf : IsWordText f) (hg : IsWordText g) (hne : f ≠ g)
    {args : List Argument} (hl : Listed args) (before rest : List Char) :
    ClashFrom f i g j before (callSource g args ++ rest) ↔ Clash f i g j rest := by
  rw [ClashFrom, pieces_sites_callSource hf hg.all_isWord hl.spaced
    (fun a ha => (hl.simple a ha).closes hf)
    (callSite?_callSource_of_ne hf hg.all_isWord (Ne.symm hne) before rest args)]
  constructor
  · rintro ⟨found, hm, hc⟩
    rcases List.mem_append.mp hm with hm | hm
    · obtain ⟨a, ha, hfound⟩ := List.mem_flatMap.mp hm
      exact absurd hc
        (not_clashing_of_words hg ((hl.simple a ha).words_of_mem_pieces hf hfound))
    · exact ⟨found, hm, hc⟩
  · rintro ⟨found, hm, hc⟩
    exact ⟨found, List.mem_append_right _ hm, hc⟩

/-- Where neither method is called, both passes go on behind the character. -/
theorem passFrom_passFrom_keep {before cs : List Char} {c : Char} (hf : IsWordText f)
    (hg : g.all isWord = true) (hfirst : callSite? f before (c :: cs) = none)
    (hsecond : callSite? g before (c :: cs) = none) :
    passFrom g j before (passFrom f i before (c :: cs)) =
      c :: passFrom g j (c :: before) (passFrom f i (c :: before) cs) := by
  have hnew := callSite?_passFrom_eq_none hf i hg hfirst hsecond
  rw [passFrom_keep i hfirst] at hnew ⊢
  exact passFrom_keep j hnew

/-- From any place on, the orders agree exactly if no call clashes. -/
theorem passFrom_comm_iff (hf : IsWordText f) (hg : IsWordText g) (hne : f ≠ g)
    (hfm : f ≠ "method".toList) (hgm : g ≠ "method".toList) (before code : List Char) :
    passFrom g j before (passFrom f i before code) =
        passFrom f i before (passFrom g j before code) ↔
      ¬ClashFrom f i g j before code ∧ ¬ClashFrom g j f i before code := by
  induction before, code using scan_induction (f := f) (g := g) with
  | nil before =>
      simp only [passFrom_nil, ClashFrom, sites_nil]
      simp [pieces]
  | first rest hb hl ih =>
      simp only [← passReferences_eq_passFrom] at ih
      rw [passFrom_comm_site hf hg hne hfm hgm hb hl, clashFrom_found hb hl,
        clashFrom_other hg hf (Ne.symm hne) hl, ih, not_or, and_assoc]
      rfl
  | second rest hb hl ih =>
      simp only [← passReferences_eq_passFrom] at ih
      rw [eq_comm, passFrom_comm_site hg hf (Ne.symm hne) hgm hfm hb hl, clashFrom_found hb hl,
        clashFrom_other hf hg hne hl, eq_comm, ih, not_or, and_left_comm]
      rfl
  | keep hfirst hsecond ih =>
      rw [passFrom_passFrom_keep hf hg.all_isWord hfirst hsecond,
        passFrom_passFrom_keep hg hf.all_isWord hsecond hfirst, clashFrom_keep hfirst,
        clashFrom_keep hsecond, List.cons_inj_right]
      exact ih

end

end EstreeEmitter.Passes
