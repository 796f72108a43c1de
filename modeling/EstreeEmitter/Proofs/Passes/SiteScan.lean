import EstreeEmitter.Proofs.Passes.CallSites

set_option autoImplicit false

/-! # The scan for call sites

How the scan for the call sites of a method goes through a text. A recognised call is one piece
(`sites_found`); a word, a text without parentheses and a call of another method are kept, except
for the calls inside (`sites_word`, `sites_flat`, `sites_callSource`). Behind a character at which a
call can start, the scan does not depend on what came before (`sites_of_startsCall`). -/

namespace EstreeEmitter.Passes

open Text

/-- The text from a place on, cut at the calls of a method. -/
def sites (name before code : List Char) : List (Stretch (List Argument)) :=
  cut (callSite? name) before 0 code

/-- A text in which nothing is found. -/
def kept (cs : List Char) : List (Stretch (List Argument)) := cs.map .keep

/-! ## What came before -/

/-- Behind a place where a call can start, what came before that place does not matter. -/
theorem startsCall_append {before : List Char} (h : startsCall before = true) (cs : List Char) :
    startsCall (cs ++ before) = startsCall cs := by
  cases before with
  | nil => rw [List.append_nil]
  | cons b before =>
      -- The nearest character before is no letter, so the four letters do not reach over it.
      have hword : isWord b = false := by
        rw [startsCall] at h
        simp only [Bool.and_eq_true, Bool.not_eq_true', Bool.or_eq_false_iff] at h
        exact h.2.1.1
      have hne : ∀ d : Char, isWord d = true → b ≠ d := by
        rintro d hd rfl
        rw [hd] at hword
        cases hword
      have hf := hne 'f' (by decide)
      have he := hne 'e' (by decide)
      have hd := hne 'd' (by decide)
      cases cs with
      | nil => exact h
      | cons c₁ cs =>
          cases cs with
          | nil => simp [startsCall, hf]
          | cons c₂ cs =>
              cases cs with
              | nil => simp [startsCall, he]
              | cons c₃ cs =>
                  cases cs with
                  | nil => simp [startsCall, hd]
                  | cons c₄ cs => simp [startsCall]

theorem cut_callSite?_append {before : List Char} (h : startsCall before = true)
    (name cs : List Char) (near : List Char) (skip : Nat) :
    cut (callSite? name) (near ++ before) skip cs = cut (callSite? name) near skip cs := by
  induction cs generalizing near skip with
  | nil => simp only [cut]
  | cons c cs ih =>
      have hsite : callSite? name (near ++ before) (c :: cs) = callSite? name near (c :: cs) := by
        rw [callSite?, callSite?, startsCall_append h]
      cases skip with
      | succ skip => exact ih (c :: near) skip
      | zero =>
          rw [cut, cut, hsite]
          cases callSite? name near (c :: cs) with
          | none => exact congrArg _ (ih (c :: near) 0)
          | some found => exact congrArg _ (ih (c :: near) (found.2 - 1))

/-- The scan starts anew where a call can start. -/
theorem sites_of_startsCall {before : List Char} (h : startsCall before = true)
    (name cs : List Char) : sites name before cs = sites name [] cs :=
  cut_callSite?_append h name cs [] 0

theorem startsCall_cons {c : Char} (hc : isWord c = false) (h : c ≠ '.' ∧ c ≠ ':' ∧ c ≠ ' ')
    (before : List Char) : startsCall (c :: before) = true := by
  simp [startsCall, hc, h]

theorem startsCall_close (before : List Char) : startsCall (')' :: before) = true :=
  startsCall_cons (by decide) (by decide) before

theorem startsCall_open (before : List Char) : startsCall ('(' :: before) = true :=
  startsCall_cons (by decide) (by decide) before

theorem startsCall_eq_false_of_isWord {c : Char} (hc : isWord c = true) (before : List Char) :
    startsCall (c :: before) = false := by
  simp [startsCall, hc]

theorem startsCall_blank {blank : Char} (hb : isBlank blank = true) :
    startsCall [blank] = true := by
  have hword := isWord_eq_false_of_isBlank hb
  have hdot : blank ≠ '.' := by rintro rfl; cases hb
  have hcolon : blank ≠ ':' := by rintro rfl; cases hb
  simp [startsCall, hword, hdot, hcolon]

/-- A call can start behind the separator of arguments. -/
theorem startsCall_gap {blank : Char} (hb : isBlank blank = true) (before : List Char) :
    startsCall (blank :: ',' :: before) = true := by
  have hcomma : startsCall (',' :: before) = true := startsCall_cons (by decide) (by decide) before
  exact (startsCall_append hcomma [blank]).trans (startsCall_blank hb)

/-! ## One step -/

theorem sites_nil (name before : List Char) : sites name before [] = [] := by
  rw [sites, cut]

theorem sites_keep {name before : List Char} {c : Char} {cs : List Char}
    (h : callSite? name before (c :: cs) = none) :
    sites name before (c :: cs) = .keep c :: sites name (c :: before) cs := cut_keep h

theorem callSource_ne_nil (name : List Char) (args : List Argument) :
    callSource name args ≠ [] := by
  simp [callSource]

/-- A recognised call is one piece, and the scan starts anew behind it. -/
theorem sites_found {before : List Char} {args : List Argument} (hs : startsCall before = true)
    (hl : Listed args) (name rest : List Char) :
    sites name before (callSource name args ++ rest) = .found args :: sites name [] rest := by
  have hsite : callSite? name before (callSource name args ++ rest) =
      some (args, (callSource name args).length) :=
    callSite?_eq_some_iff.mpr ⟨hs, hl, rfl, rest, rfl⟩
  have hend : startsCall ((callSource name args).reverse ++ before) = true := by
    rw [callSource, List.reverse_append]
    exact startsCall_close _
  rw [sites, cut_found (callSource_ne_nil name args) hsite]
  exact congrArg _ (sites_of_startsCall hend name rest)

/-- Induction along the scans for two methods: a call of one of them, or a character at which
neither is called. -/
theorem scan_induction {f g : List Char} {P : List Char → List Char → Prop}
    (nil : ∀ before, P before [])
    (first : ∀ {before args} (rest), startsCall before = true → Listed args → P [] rest →
      P before (callSource f args ++ rest))
    (second : ∀ {before args} (rest), startsCall before = true → Listed args → P [] rest →
      P before (callSource g args ++ rest))
    (keep : ∀ {before c cs}, callSite? f before (c :: cs) = none →
      callSite? g before (c :: cs) = none → P (c :: before) cs → P before (c :: cs))
    (before code : List Char) : P before code := by
  induction hlen : code.length using Nat.strong_induction_on generalizing before code with
  | _ n ih =>
      have hrest {name : List Char} {args : List Argument} {rest : List Char}
          (hcode : code = callSource name args ++ rest) : P [] rest := by
        have hpos := List.length_pos_iff.mpr (callSource_ne_nil name args)
        refine ih rest.length ?_ [] rest rfl
        rw [← hlen, hcode, List.length_append]
        omega
      cases hfirst : callSite? f before code with
      | some found =>
          obtain ⟨hb, hl, -, rest, hcode⟩ := callSite?_eq_some_iff.mp hfirst
          exact hcode ▸ first rest hb hl (hrest hcode)
      | none =>
          cases hsecond : callSite? g before code with
          | some found =>
              obtain ⟨hb, hl, -, rest, hcode⟩ := callSite?_eq_some_iff.mp hsecond
              exact hcode ▸ second rest hb hl (hrest hcode)
          | none =>
              cases code with
              | nil => exact nil before
              | cons c cs =>
                  refine keep hfirst hsecond (ih cs.length ?_ (c :: before) cs rfl)
                  rw [← hlen]
                  exact Nat.lt_succ_self _

/-! ## Where no call is found -/

/-- Texts up to the first character of another kind are unique. -/
theorem append_cons_inj_of_all {p : Char → Bool} {cs ds xs ys : List Char} {c d : Char}
    (hcs : cs.all p = true) (hds : ds.all p = true) (hc : p c = false) (hd : p d = false)
    (h : cs ++ c :: xs = ds ++ d :: ys) : cs = ds ∧ c = d ∧ xs = ys := by
  have htake : (cs ++ c :: xs).takeWhile p = (ds ++ d :: ys).takeWhile p := by rw [h]
  rw [takeWhile_append_eq hcs (by simp [hc]), takeWhile_append_eq hds (by simp [hd])] at htake
  subst htake
  have hcons := List.append_cancel_left h
  exact ⟨rfl, (List.cons.inj hcons).1, (List.cons.inj hcons).2⟩

theorem callSite?_of_startsCall_eq_false {name before : List Char}
    (h : startsCall before = false) (cs : List Char) : callSite? name before cs = none := by
  simp [callSite?, h]

/-- A call starts with the name and a parenthesis. -/
theorem callSite?_eq_none_of_ne {name before cs : List Char}
    (h : ∀ rest, cs ≠ name ++ '(' :: rest) : callSite? name before cs = none := by
  cases hs : callSite? name before cs with
  | none => rfl
  | some found =>
      obtain ⟨-, -, -, rest, hcs⟩ := callSite?_eq_some_iff.mp hs
      rw [callSource_append] at hcs
      exact absurd hcs (h _)

/-- Inside a word no call starts. -/
theorem sites_inside {word : List Char} (hw : word.all isWord = true) {c : Char}
    (hc : isWord c = true) (name before rest : List Char) :
    sites name (c :: before) (word ++ rest) =
      kept word ++ sites name (word.reverse ++ c :: before) rest := by
  induction word generalizing c before with
  | nil => rfl
  | cons d word ih =>
      simp only [List.all_cons, Bool.and_eq_true] at hw
      have hstart := startsCall_eq_false_of_isWord hc before
      rw [List.cons_append, sites_keep (callSite?_of_startsCall_eq_false hstart _),
        ih hw.2 hw.1 (c :: before)]
      simp [kept]

/-- A word that is not the name of a call found there is kept. -/
theorem sites_word {name word before rest : List Char} (hw : word.all isWord = true)
    (h : callSite? name before (word ++ rest) = none) :
    sites name before (word ++ rest) = kept word ++ sites name (word.reverse ++ before) rest := by
  cases word with
  | nil => rfl
  | cons c word =>
      simp only [List.all_cons, Bool.and_eq_true] at hw
      rw [List.cons_append] at h ⊢
      rw [sites_keep h, sites_inside hw.2 hw.1]
      simp [kept]

theorem all_not_isWord_gap {blank : Char} (hb : isBlank blank = true) :
    [',', blank].all (!isWord ·) = true := by
  have hcomma : isWord ',' = false := by decide
  simp [hcomma, isWord_eq_false_of_isBlank hb]

/-! ## Calls found and texts kept -/

/-- An argument without parentheses is a word. -/
theorem IsArgument.isWordText {text : List Char} (h : IsArgument text)
    (hf : text.all isFlat = true) : IsWordText text := by
  cases h with
  | word hw => exact hw
  | call hw hi => simp [isFlat] at hf

/-- A text of a word and a parenthesis without further ones inside is that of a call site only with
that word for the name and what is inside for the arguments. -/
theorem eq_of_append_callSource {name word inner rest behind : List Char} {args : List Argument}
    (hn : name.all isWord = true) (hw : word.all isWord = true) (hi : inner.all isFlat = true)
    (hl : Listed args)
    (h : word ++ '(' :: (inner ++ ')' :: rest) = callSource name args ++ behind) :
    word = name ∧ inner = args.flatMap Argument.whole ∧ rest = behind := by
  rw [callSource_append] at h
  obtain ⟨rfl, -, h⟩ := append_cons_inj_of_all hw hn (by decide) (by decide) h
  rcases opensFirst_iff.mp hl.opensFirst with hflat | ⟨front, more, hf, hargs⟩
  · obtain ⟨rfl, -, rfl⟩ := append_cons_inj_of_all hi hflat (by decide) (by decide) h
    exact ⟨rfl, rfl, rfl⟩
  · rw [hargs, List.append_assoc, List.cons_append] at h
    obtain ⟨-, hc, -⟩ := append_cons_inj_of_all hi hf (by decide) (by decide) h
    exact absurd hc (by decide)

/-- The scan keeps the text, whatever comes before and behind. -/
def Kept (name text : List Char) : Prop :=
  ∀ before rest, EndsWord rest →
    sites name before (text ++ rest) = kept text ++ sites name (text.reverse ++ before) rest

/-- Nothing that the scan finds in the text goes on behind it. -/
def Closes (name text : List Char) : Prop :=
  ∀ before rest, startsCall before = true → EndsWord rest →
    sites name before (text ++ rest) =
      sites name [] text ++ sites name (text.reverse ++ before) rest

theorem Kept.sites_eq {name text : List Char} (h : Kept name text) :
    sites name [] text = kept text := by
  have hk := h [] [] endsWord_nil
  rwa [List.append_nil, sites_nil, List.append_nil] at hk

theorem Kept.closes {name text : List Char} (h : Kept name text) : Closes name text := by
  intro before rest hb hr
  rw [h before rest hr, h.sites_eq]

theorem startsCall_callSource (word before : List Char) (args : List Argument) :
    startsCall ((callSource word args).reverse ++ before) = true := by
  rw [callSource, List.reverse_append]
  exact startsCall_close _

theorem sites_callSource_self {args : List Argument} (hl : Listed args) (name : List Char) :
    sites name [] (callSource name args) = [.found args] := by
  have h := sites_found (by rfl : startsCall [] = true) hl name []
  rwa [List.append_nil, sites_nil] at h

theorem closes_callSource_self {args : List Argument} (hl : Listed args) (name : List Char) :
    Closes name (callSource name args) := by
  intro before rest hb hr
  rw [sites_found hb hl, sites_callSource_self hl,
    sites_of_startsCall (startsCall_callSource name before args)]
  rfl

section

variable {name : List Char} (hn : IsWordText name)

include hn

/-- No call starts at a character outside words. -/
theorem callSite?_cons_of_not_isWord {c : Char} (hc : isWord c = false)
    (before cs : List Char) : callSite? name before (c :: cs) = none := by
  refine callSite?_eq_none_of_ne ?_
  intro rest h
  obtain ⟨d, ds, rfl⟩ := List.exists_cons_of_ne_nil hn.ne_nil
  have hd := (List.all_eq_true.mp hn.all_isWord) d List.mem_cons_self
  rw [← (List.cons.inj h).1, hc] at hd
  cases hd

theorem sites_cons_of_not_isWord {c : Char} (hc : isWord c = false) (before cs : List Char) :
    sites name before (c :: cs) = .keep c :: sites name (c :: before) cs :=
  sites_keep (callSite?_cons_of_not_isWord hn hc before cs)

/-- A text without parentheses is kept. -/
theorem sites_flat {text rest : List Char} (ht : text.all isFlat = true) (hr : EndsWord rest)
    (before : List Char) :
    sites name before (text ++ rest) = kept text ++ sites name (text.reverse ++ before) rest := by
  induction text generalizing before with
  | nil => rfl
  | cons c text ih =>
      have hnone : callSite? name before (c :: text ++ rest) = none := by
        refine callSite?_eq_none_of_ne ?_
        intro behind h
        -- The parenthesis of a call can stand neither in the text nor right behind it.
        rcases List.append_eq_append_iff.mp h with ⟨more, hname, hrest⟩ | ⟨more, htext, hrest⟩
        · cases more with
          | nil =>
              rw [List.nil_append] at hrest
              exact (hr '(' (by rw [hrest]; rfl)).2 rfl
          | cons d more =>
              have hd := (List.all_eq_true.mp hn.all_isWord) d (by rw [hname]; simp)
              rw [(hr d (by rw [hrest]; rfl)).1] at hd
              cases hd
        · cases more with
          | nil =>
              rw [List.nil_append] at hrest
              exact (hr '(' (by rw [← hrest]; rfl)).2 rfl
          | cons d more =>
              obtain ⟨rfl, -⟩ := List.cons.inj hrest
              have hd := (List.all_eq_true.mp ht) '(' (by rw [htext]; simp)
              cases hd
      simp only [List.all_cons, Bool.and_eq_true] at ht
      rw [List.cons_append] at hnone ⊢
      rw [sites_keep hnone, ih ht.2]
      simp [kept]

/-- A separator is kept. -/
theorem sites_gap {gap : List Char} (hg : gap.all (!isWord ·) = true) (before rest : List Char) :
    sites name before (gap ++ rest) = kept gap ++ sites name (gap.reverse ++ before) rest := by
  induction gap generalizing before with
  | nil => rfl
  | cons c gap ih =>
      simp only [List.all_cons, Bool.and_eq_true, Bool.not_eq_true'] at hg
      rw [List.cons_append, sites_cons_of_not_isWord hn hg.1, ih hg.2]
      simp [kept]

/-! ## Arguments and calls -/

theorem callSite?_callSource_of_ne {word : List Char} (hw : word.all isWord = true)
    (hne : word ≠ name) (before rest : List Char) (args : List Argument) :
    callSite? name before (callSource word args ++ rest) = none := by
  refine callSite?_eq_none_of_ne ?_
  intro behind h
  rw [callSource_append] at h
  exact hne (append_cons_inj_of_all hw hn.all_isWord (by decide) (by decide) h).1

/-- The text of a word is kept. -/
theorem kept_of_isWordText {word : List Char} (hw : IsWordText word) : Kept name word :=
  fun before _ hr => sites_flat hn hw.all_isFlat hr before

/-- In a simple argument, either the whole is a call site with words for arguments, or nothing is
found. -/
theorem IsArgument.site_or_kept {text : List Char} (h : IsArgument text) :
    (∃ args, Listed args ∧ (∀ a ∈ args, IsWordText a.text) ∧ text = callSource name args) ∨
      Kept name text := by
  cases h with
  | word hw => exact .inr (kept_of_isWordText hn hw)
  | @call word inner hw hi =>
      by_cases hsite : ∃ args, Listed args ∧ word = name ∧ inner = args.flatMap Argument.whole
      · obtain ⟨args, hl, rfl, rfl⟩ := hsite
        refine .inl ⟨args, hl, ?_, by simp [callSource]⟩
        intro a ha
        refine (hl.simple a ha).isWordText ?_
        rw [List.all_flatMap, List.all_eq_true] at hi
        have hwhole := hi a ha
        rw [Argument.whole, List.all_append, Bool.and_eq_true] at hwhole
        exact hwhole.2
      · refine .inr fun before rest hr => ?_
        have htext : word ++ '(' :: (inner ++ [')']) ++ rest =
            word ++ '(' :: (inner ++ ')' :: rest) := by simp
        have hnone : callSite? name before (word ++ '(' :: (inner ++ ')' :: rest)) = none := by
          cases hs : callSite? name before (word ++ '(' :: (inner ++ ')' :: rest)) with
          | none => rfl
          | some found =>
              obtain ⟨-, hl, -, behind, hcs⟩ := callSite?_eq_some_iff.mp hs
              obtain ⟨hname, hargs, -⟩ :=
                eq_of_append_callSource hn.all_isWord hw.all_isWord hi hl hcs
              exact absurd ⟨found.1, hl, hname, hargs⟩ hsite
        rw [htext, sites_word hw.all_isWord hnone, sites_cons_of_not_isWord hn (by decide),
          sites_flat hn hi (endsWord_close rest), sites_cons_of_not_isWord hn (by decide)]
        simp [kept]

theorem IsArgument.closes {text : List Char} (h : IsArgument text) : Closes name text := by
  rcases h.site_or_kept hn with ⟨args, hl, -, rfl⟩ | hk
  · exact closes_callSource_self hl name
  · exact hk.closes

/-- Between the parentheses of a call, separators are kept and the arguments are scanned one by
one. -/
theorem sites_arguments {gap before : List Char} {args : List Argument} (hs : Spaced gap args)
    (hg : gap.all (!isWord ·) = true) (hb : startsCall (gap.reverse ++ before) = true)
    (hc : ∀ a ∈ args, Closes name a.text) (rest : List Char) :
    sites name before (args.flatMap Argument.whole ++ ')' :: rest) =
      args.flatMap (fun a => kept a.gap ++ sites name [] a.text) ++
        .keep ')' :: sites name [] rest := by
  induction hs generalizing before with
  | @last gap text =>
      have htext : [(⟨gap, text⟩ : Argument)].flatMap Argument.whole ++ ')' :: rest =
          gap ++ (text ++ ')' :: rest) := by simp [Argument.whole]
      rw [htext, sites_gap hn hg,
        hc _ (List.mem_singleton_self _) _ _ hb (endsWord_close rest),
        sites_cons_of_not_isWord hn (by decide), sites_of_startsCall (startsCall_close _)]
      simp
  | @more gap text blank args hblank hs ih =>
      obtain ⟨hfirst, hothers⟩ := List.forall_mem_cons.mp hc
      obtain ⟨behind, hbehind⟩ := hs.flatMap_whole
      have htext : ((⟨gap, text⟩ : Argument) :: args).flatMap Argument.whole ++ ')' :: rest =
          gap ++ (text ++ (args.flatMap Argument.whole ++ ')' :: rest)) := by
        simp [Argument.whole]
      have hend : EndsWord (args.flatMap Argument.whole ++ ')' :: rest) := by
        rw [hbehind, List.append_assoc, List.cons_append]
        exact endsWord_comma _
      rw [htext, sites_gap hn hg, hfirst _ _ hb hend,
        ih (all_not_isWord_gap hblank) (startsCall_gap hblank _) hothers]
      simp

/-- A call that is not found itself is kept but for what is found in its arguments. -/
theorem sites_callSource {word before rest : List Char} {args : List Argument}
    (hw : word.all isWord = true) (hs : Spaced [] args) (hc : ∀ a ∈ args, Closes name a.text)
    (h : callSite? name before (callSource word args ++ rest) = none) :
    sites name before (callSource word args ++ rest) =
      kept (word ++ ['(']) ++ (args.flatMap (fun a => kept a.gap ++ sites name [] a.text) ++
        .keep ')' :: sites name [] rest) := by
  rw [callSource_append] at h ⊢
  rw [sites_word hw h, sites_cons_of_not_isWord hn (by decide),
    sites_arguments hn hs rfl (startsCall_open _) hc]
  simp [kept]

/-- What is found in the arguments of another method's call does not go on behind it. -/
theorem closes_callSource {word : List Char} {args : List Argument}
    (hw : word.all isWord = true) (hne : word ≠ name) (hs : Spaced [] args)
    (hc : ∀ a ∈ args, Closes name a.text) : Closes name (callSource word args) := by
  intro before rest hb hr
  have hnone (before rest : List Char) := callSite?_callSource_of_ne hn hw hne before rest args
  have hself := sites_callSource hn hw hs hc (hnone [] [])
  rw [List.append_nil] at hself
  rw [sites_callSource hn hw hs hc (hnone before rest), hself, sites_nil,
    sites_of_startsCall (startsCall_callSource word before args)]
  simp

end

end EstreeEmitter.Passes
