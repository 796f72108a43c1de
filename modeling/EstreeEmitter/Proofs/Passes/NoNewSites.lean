import EstreeEmitter.Proofs.Passes.References

set_option autoImplicit false

/-! # References make no call sites

A call that has a method reference for an argument is no simple argument, so a call around it is not
recognised. Hence the pass for one method never makes a call site of another one, nor of its own:
what is recognised behind the pass was there before it (`callSite?_of_passFrom`). The proof reads
the text back from the text with references, one argument after the other. A second pass for the
same method therefore finds the calls that the first one found, and has nothing left to do
(`passReferences_idempotent`). -/

namespace EstreeEmitter.Passes

open Text

theorem startsCall_of_mem_ends {d : Char} (hd : d = ',' ∨ d = ')') (before : List Char) :
    startsCall (d :: before) = true := by
  rcases hd with rfl | rfl
  · exact startsCall_cons (by decide) (by decide) before
  · exact startsCall_close before

theorem isWord_of_mem_ends {d : Char} (hd : d = ',' ∨ d = ')') : isWord d = false := by
  rcases hd with rfl | rfl <;> decide

section

variable {name : List Char} (hn : IsWordText name) (index : Int)

include hn

/-- Where no call is found, the first word stays and the scan goes on behind it. -/
theorem passFrom_span {before cs : List Char} (h : callSite? name before cs = none) :
    ∃ word, word.all isWord = true ∧
      ((cs = word ∧ passFrom name index before cs = word) ∨
        ∃ c rest, isWord c = false ∧ cs = word ++ c :: rest ∧
          passFrom name index before cs =
            word ++ c :: passFrom name index (c :: (word.reverse ++ before)) rest) := by
  rcases all_or_exists_append_cons isWord cs with hw | ⟨word, c, rest, hw, hc, rfl⟩
  · have hsites : sites name before (cs ++ []) = _ := sites_word hw (by rwa [List.append_nil])
    rw [List.append_nil, sites_nil, List.append_nil] at hsites
    exact ⟨cs, hw, .inl ⟨rfl, by rw [passFrom, hsites, paste_kept]⟩⟩
  · refine ⟨word, hw, .inr ⟨c, rest, hc, rfl, ?_⟩⟩
    rw [passFrom, sites_word hw h, sites_cons_of_not_isWord hn hc, paste_append, paste_kept,
      paste_cons]
    rfl

/-- A character outside words that comes first was first. -/
theorem eq_cons_of_passFrom {before cs behind : List Char} {c : Char} (hc : isWord c = false)
    (h : passFrom name index before cs = c :: behind) :
    ∃ rest, cs = c :: rest ∧ behind = passFrom name index (c :: before) rest := by
  cases cs with
  | nil =>
      rw [passFrom_nil] at h
      cases h
  | cons d rest =>
      cases hs : callSite? name before (d :: rest) with
      | none =>
          rw [passFrom_keep index hs] at h
          obtain ⟨rfl, rfl⟩ := List.cons.inj h
          exact ⟨rest, rfl, rfl⟩
      | some found =>
          obtain ⟨hb, hl, -, more, hcs⟩ := callSite?_eq_some_iff.mp hs
          rw [hcs, passFrom_found index hb hl, callSource_append] at h
          obtain ⟨e, es, rfl⟩ := List.exists_cons_of_ne_nil hn.ne_nil
          have he := (List.all_eq_true.mp hn.all_isWord) e List.mem_cons_self
          rw [(List.cons.inj h).1, hc] at he
          cases he

/-- A text up to a closing parenthesis with no other one before was there. -/
theorem eq_append_close_of_passFrom {before cs inner behind : List Char}
    (hi : inner.all isFlat = true)
    (h : passFrom name index before cs = inner ++ ')' :: behind) :
    ∃ rest, cs = inner ++ ')' :: rest ∧ behind = passReferences name index rest := by
  induction inner generalizing before cs with
  | nil =>
      obtain ⟨rest, rfl, rfl⟩ := eq_cons_of_passFrom hn index (by decide) h
      exact ⟨rest, rfl, passFrom_of_startsCall name index (startsCall_close before) rest⟩
  | cons c inner ih =>
      cases hs : callSite? name before cs with
      | some found =>
          -- The parenthesis of the call would come before the closing one.
          obtain ⟨hb, hl, -, more, rfl⟩ := callSite?_eq_some_iff.mp hs
          rw [passFrom_found index hb hl, callSource_append] at h
          have hparen := (append_cons_inj_of_all hn.all_isFlat hi (by decide) (by decide) h).2.1
          exact absurd hparen (by decide)
      | none =>
          rw [List.all_cons, Bool.and_eq_true] at hi
          cases cs with
          | nil =>
              rw [passFrom_nil] at h
              cases h
          | cons d cs =>
              rw [passFrom_keep index hs] at h
              obtain ⟨rfl, hbehind⟩ := List.cons.inj h
              obtain ⟨rest, rfl, hrest⟩ := ih hi.2 hbehind
              exact ⟨rest, rfl, hrest⟩

/-- A simple argument at the front was there. -/
theorem eq_append_of_passReferences {cs text behind : List Char} {d : Char}
    (ht : IsArgument text) (hd : d = ',' ∨ d = ')')
    (h : passReferences name index cs = text ++ d :: behind) :
    ∃ rest, cs = text ++ d :: rest ∧ behind = passReferences name index rest := by
  have hword := isWord_of_mem_ends hd
  -- What ends the argument stays in its place, and the scan starts anew behind it.
  have hends {before rest : List Char} (hb : startsCall before = true)
      (hr : passFrom name index before rest = d :: behind) :
      ∃ more, rest = d :: more ∧ behind = passReferences name index more := by
    obtain ⟨more, rfl, rfl⟩ := eq_cons_of_passFrom hn index hword hr
    exact ⟨more, rfl, passFrom_of_startsCall name index (startsCall_of_mem_ends hd _) more⟩
  rw [passReferences_eq_passFrom] at h
  cases hs : callSite? name [] cs with
  | some found =>
      obtain ⟨hb, hl, -, rest, rfl⟩ := callSite?_eq_some_iff.mp hs
      rw [passFrom_found index hb hl] at h
      cases ht with
      | word hw =>
          rw [callSource_append] at h
          have hc := (append_cons_inj_of_all hn.all_isWord hw.all_isWord (by decide) hword h).2.1
          rcases hd with rfl | rfl <;> exact absurd hc (by decide)
      | @call word inner hw hi =>
          have htext : word ++ '(' :: (inner ++ [')']) ++ d :: behind =
              word ++ '(' :: (inner ++ ')' :: d :: behind) := by simp
          rw [htext] at h
          obtain ⟨rfl, rfl, hrest⟩ := eq_of_append_callSource hn.all_isWord hw.all_isWord hi
            (hl.referred index) h.symm
          rw [passReferences_eq_passFrom] at hrest
          obtain ⟨more, rfl, hmore⟩ := hends rfl hrest.symm
          rw [referred_eq_self hi]
          exact ⟨more, by simp [callSource], hmore⟩
  | none =>
      obtain ⟨word, hw, ⟨rfl, hpass⟩ | ⟨c, rest, hc, rfl, hpass⟩⟩ := passFrom_span hn index hs
      · rw [hpass] at h
        have hmem := (List.all_eq_true.mp hw) d (by rw [h]; simp)
        rw [hword] at hmem
        cases hmem
      · rw [hpass] at h
        cases ht with
        | word ht =>
            obtain ⟨rfl, rfl, rfl⟩ := append_cons_inj_of_all hw ht.all_isWord hc hword h
            exact ⟨rest, rfl, passFrom_of_startsCall name index (startsCall_of_mem_ends hd _) rest⟩
        | @call front inner hf hi =>
            have htext : front ++ '(' :: (inner ++ [')']) ++ d :: behind =
                front ++ '(' :: (inner ++ ')' :: d :: behind) := by simp
            rw [htext] at h
            obtain ⟨rfl, rfl, h⟩ :=
              append_cons_inj_of_all hw hf.all_isWord hc (by decide) h
            obtain ⟨more, rfl, hmore⟩ := eq_append_close_of_passFrom hn index hi h
            rw [passReferences_eq_passFrom] at hmore
            obtain ⟨last, rfl, hlast⟩ := hends rfl hmore.symm
            exact ⟨last, by simp, hlast⟩

/-- A list of simple arguments was there. -/
theorem eq_arguments_of_passReferences {gap cs behind : List Char} {args : List Argument}
    (hs : Spaced gap args) (ha : ∀ a ∈ args, IsArgument a.text)
    (h : gap ++ passReferences name index cs = args.flatMap Argument.whole ++ ')' :: behind) :
    ∃ rest, gap ++ cs = args.flatMap Argument.whole ++ ')' :: rest := by
  induction hs generalizing cs with
  | @last gap text =>
      have htext : passReferences name index cs = text ++ ')' :: behind := by
        simpa [Argument.whole] using h
      obtain ⟨rest, rfl, -⟩ := eq_append_of_passReferences hn index
        (ha _ (List.mem_singleton_self _)) (.inr rfl) htext
      exact ⟨rest, by simp [Argument.whole]⟩
  | @more gap text blank args hb hs ih =>
      obtain ⟨hfirst, hothers⟩ := List.forall_mem_cons.mp ha
      obtain ⟨more, hmore⟩ := hs.flatMap_whole
      have htext : passReferences name index cs =
          text ++ ',' :: blank :: (more ++ ')' :: behind) := by
        simpa [Argument.whole, hmore] using h
      obtain ⟨rest, rfl, hrest⟩ := eq_append_of_passReferences hn index hfirst (.inl rfl) htext
      rw [passReferences_eq_passFrom] at hrest
      obtain ⟨others, rfl, hpass⟩ :=
        eq_cons_of_passFrom hn index (isWord_eq_false_of_isBlank hb) hrest.symm
      have hblank : startsCall [blank] = true := startsCall_blank hb
      rw [passFrom_of_startsCall name index hblank] at hpass
      obtain ⟨last, hlast⟩ := ih hothers (by rw [hmore, ← hpass, List.append_assoc])
      exact ⟨last, by simpa [Argument.whole] using hlast⟩

/-- **What is recognised behind the pass was there before it.** At a place where no call of the one
method is found, the pass for it makes no call site of another. -/
theorem callSite?_of_passFrom {other before cs : List Char} {site : List Argument × Nat}
    (ho : other.all isWord = true) (hnone : callSite? name before cs = none)
    (h : callSite? other before (passFrom name index before cs) = some site) :
    callSite? other before cs = some site := by
  obtain ⟨args, n⟩ := site
  obtain ⟨hb, hl, rfl, behind, hcs⟩ := callSite?_eq_some_iff.mp h
  rw [callSource_append] at hcs
  refine callSite?_eq_some_iff.mpr ⟨hb, hl, rfl, ?_⟩
  obtain ⟨word, hw, ⟨rfl, hpass⟩ | ⟨c, rest, hc, rfl, hpass⟩⟩ := passFrom_span hn index hnone
  · rw [hpass] at hcs
    have hmem := (List.all_eq_true.mp hw) '(' (by rw [hcs]; simp)
    cases hmem
  · rw [hpass] at hcs
    obtain ⟨rfl, rfl, hargs⟩ := append_cons_inj_of_all hw ho hc (by decide) hcs
    rw [passFrom_of_startsCall name index (startsCall_open _)] at hargs
    obtain ⟨more, hmore⟩ :=
      eq_arguments_of_passReferences hn index hl.spaced hl.simple hargs
    rw [List.nil_append] at hmore
    exact ⟨more, by rw [callSource_append, hmore]⟩

theorem callSite?_passFrom_eq_none {other before cs : List Char} (ho : other.all isWord = true)
    (hnone : callSite? name before cs = none) (hother : callSite? other before cs = none) :
    callSite? other before (passFrom name index before cs) = none := by
  cases h : callSite? other before (passFrom name index before cs) with
  | none => rfl
  | some site =>
      rw [callSite?_of_passFrom hn index ho hnone h] at hother
      cases hother

end

/-! ## The pass a second time -/

/-- A reference is no plain name. -/
theorem isPlainName_methodReference (cs : List Char) :
    isPlainName (methodReference cs) = false := by
  have hopen : ('(' : Char) ∈ "ethod".toList ++ '(' :: (':' :: cs ++ [')']) := by simp
  rw [methodReference_eq]
  change (('m'.isAlpha || 'm' == '_') && List.all _ isWord) = false
  rw [Bool.and_eq_false_iff]
  right
  rw [List.all_eq_false]
  exact ⟨'(', hopen, by decide⟩

theorem Argument.refer_refer (index : Int) (position : Nat) (a : Argument) :
    (a.refer index position).refer index position = a.refer index position := by
  by_cases h : isReferred index position a = true
  · have hsame : isReferred index position { a with text := methodReference a.text } = false := by
      rw [isReferred, isPlainName_methodReference, Bool.and_false]
    have hrefer : a.refer index position = { a with text := methodReference a.text } := if_pos h
    rw [hrefer, refer, hsame]
    rfl
  · have hrefer : a.refer index position = a := if_neg h
    rw [hrefer, hrefer]

/-- Arguments that were passed are passed as they are. -/
theorem referred_referred (index : Int) (args : List Argument) :
    referred index (referred index args) = referred index args := by
  refine List.ext_getElem (by simp [referred]) fun k _ _ => ?_
  simp [referred, Argument.refer_refer]

/-- **The scan finds behind the pass what it found before**, with the arguments as they are passed:
a call that was recognised still is, and no other one comes to be. -/
theorem sites_passFrom {name : List Char} (hn : IsWordText name) (index : Int)
    (before code : List Char) :
    sites name before (passFrom name index before code) =
      (sites name before code).map (Stretch.map (referred index)) := by
  have hfound {before args} (rest : List Char) (hb : startsCall before = true)
      (hl : Listed args) (ih : sites name [] (passFrom name index [] rest) =
        (sites name [] rest).map (Stretch.map (referred index))) :
      sites name before (passFrom name index before (callSource name args ++ rest)) =
        (sites name before (callSource name args ++ rest)).map (Stretch.map (referred index)) := by
    rw [passFrom_found index hb hl, sites_found hb (hl.referred index), sites_found hb hl,
      passReferences_eq_passFrom, ih]
    rfl
  induction before, code using scan_induction (f := name) (g := name) with
  | nil before =>
      rw [passFrom_nil, sites_nil]
      rfl
  | first rest hb hl ih => exact hfound rest hb hl ih
  | second rest hb hl ih => exact hfound rest hb hl ih
  | keep hnone _ ih =>
      have hbehind := callSite?_passFrom_eq_none hn index hn.all_isWord hnone hnone
      rw [passFrom_keep index hnone] at hbehind ⊢
      rw [sites_keep hbehind, sites_keep hnone, ih]
      rfl

/-- **A second pass changes nothing**, for every method, `method` itself included: its call sites
are those of the first one, and their arguments have already been passed. -/
theorem passReferences_idempotent {name : List Char} (hn : IsWordText name) (index : Int)
    (code : List Char) :
    passReferences name index (passReferences name index code) = passReferences name index code ∧
      pieces (cutCallSites name (passReferences name index code)) =
        (pieces (cutCallSites name code)).map (referred index) := by
  have hsites := sites_passFrom hn index [] code
  constructor
  · have hwrite : (fun args => callSource name (referred index args)) ∘ referred index =
        fun args => callSource name (referred index args) := by
      funext args
      rw [Function.comp_apply, referred_referred]
    rw [passReferences_eq_passFrom name index code, passReferences_eq_passFrom, passFrom, hsites,
      paste_map, hwrite]
    rfl
  · rw [passReferences_eq_passFrom, cutCallSites, ← sites, hsites, pieces_map]
    rfl

/-- The outer call is not recognised; the inner one gets its reference in the first pass. -/
theorem passReferences_idempotent_method :
    IsWordText "method".toList ∧
      passReferences "method".toList 0 "method(1 + method(run, method(x)))".toList =
        "method(1 + method(method(:run), method(x)))".toList ∧
      passReferences "method".toList 0
          (passReferences "method".toList 0 "method(1 + method(run, method(x)))".toList) =
        passReferences "method".toList 0 "method(1 + method(run, method(x)))".toList :=
  ⟨by decide, by decide, (passReferences_idempotent (by decide) 0 _).1⟩

end EstreeEmitter.Passes
