import EstreeEmitter.Proofs.Passes.SiteScan

set_option autoImplicit false

/-! # Method references at call sites

What the pass does to the texts that the scan goes through: the arguments of a call that is found
are passed as `referred` says (`passFrom_found`), a call of another method keeps its name and has
the pass in its arguments (`passFrom_callSource`), and a simple argument stays or stops being simple
(`IsArgument.pass_cases`). -/

namespace EstreeEmitter.Passes

open Text

/-! ## Arguments with a reference -/

/-- The argument at a position, as a method reference if it is to be passed so. -/
def Argument.refer (index : Int) (position : Nat) (a : Argument) : Argument :=
  if isReferred index position a then { a with text := methodReference a.text } else a

/-- Arguments, the one at `index` as a method reference if it is a plain name. -/
def referred (index : Int) (args : List Argument) : List Argument :=
  args.mapIdx (Argument.refer index)

theorem Argument.gap_refer (index : Int) (position : Nat) (a : Argument) :
    (a.refer index position).gap = a.gap := by
  unfold refer
  split <;> rfl

theorem mapIdx_refer_cons (index : Int) (position : Nat) (a : Argument) (args : List Argument) :
    ((a :: args).mapIdx fun k b => b.refer index (position + k)) =
      a.refer index position :: args.mapIdx fun k b => b.refer index (position + 1 + k) := by
  have hshift : (fun k (b : Argument) => b.refer index (position + (k + 1))) =
      fun k b => b.refer index (position + 1 + k) := by
    funext k b
    rw [Nat.add_right_comm, Nat.add_assoc]
  rw [List.mapIdx_cons, hshift, Nat.add_zero]

theorem argumentsText_eq (index : Int) (position : Nat) (args : List Argument) :
    argumentsText index position args =
      (args.mapIdx fun k a => a.refer index (position + k)).flatMap Argument.whole := by
  induction args generalizing position with
  | nil => rfl
  | cons a args ih =>
      have hfirst : (a.refer index position).whole =
          a.gap ++ if isReferred index position a then methodReference a.text else a.text := by
        unfold Argument.refer Argument.whole
        split <;> rfl
      rw [argumentsText, ih, mapIdx_refer_cons, List.flatMap_cons, hfirst]

theorem argumentsText_eq_referred (index : Int) (args : List Argument) :
    argumentsText index 0 args = (referred index args).flatMap Argument.whole := by
  simp only [argumentsText_eq, Nat.zero_add, referred]

/-- Separators are what spacing depends on. -/
theorem Spaced.of_gaps {gap : List Char} {args others : List Argument} (h : Spaced gap args)
    (ho : others.map Argument.gap = args.map Argument.gap) : Spaced gap others := by
  induction h generalizing others with
  | last =>
      obtain ⟨a, rest, rfl, rfl, hr⟩ := List.map_eq_cons_iff.mp ho
      rw [List.map_nil, List.map_eq_nil_iff] at hr
      rw [hr]
      exact .last
  | more hb h ih =>
      obtain ⟨a, rest, rfl, rfl, hr⟩ := List.map_eq_cons_iff.mp ho
      exact .more hb (ih hr)

theorem map_gap_referred (index : Int) (args : List Argument) :
    (referred index args).map Argument.gap = args.map Argument.gap := by
  refine List.ext_getElem (by simp [referred]) fun k _ _ => ?_
  simp [referred, Argument.gap_refer]

theorem isWord_of_isAlpha {c : Char} (h : c.isAlpha = true) : isWord c = true := by
  have hsmall : c.toNat < 0x80 := by
    have hcases : c.isUpper || c.isLower := h
    rcases (Bool.or_eq_true _ _).mp hcases with hupper | hlower
    · have hle : c.val ≤ 'Z'.val := (of_decide_eq_true hupper).2
      exact Nat.lt_of_le_of_lt (UInt32.le_iff_toNat_le.mp hle) (by decide)
    · have hle : c.val ≤ 'z'.val := of_decide_eq_true ((Bool.and_eq_true _ _).mp hlower).2
      exact Nat.lt_of_le_of_lt (UInt32.le_iff_toNat_le.mp hle) (by decide)
  rw [isWord, if_pos hsmall, isAsciiWord, Char.isAlphanum, h]
  rfl

theorem isWordText_of_isPlainName {cs : List Char} (h : isPlainName cs = true) :
    IsWordText cs := by
  cases cs with
  | nil => cases h
  | cons c cs =>
      rw [isPlainName, Bool.and_eq_true, Bool.or_eq_true, beq_iff_eq] at h
      have hc : isWord c = true := by
        rcases h.1 with ha | rfl
        · exact isWord_of_isAlpha ha
        · decide
      exact ⟨List.cons_ne_nil _ _, by rw [List.all_cons, hc, h.2]; rfl⟩

theorem methodReference_eq (cs : List Char) :
    methodReference cs = "method".toList ++ '(' :: (':' :: cs ++ [')']) := rfl

/-- A method reference is a simple argument. -/
theorem isArgument_methodReference {cs : List Char} (h : IsWordText cs) :
    IsArgument (methodReference cs) := by
  have hmethod : IsWordText "method".toList := ⟨by decide, by decide⟩
  have hinner : (':' :: cs).all isFlat = true := by
    rw [List.all_cons, h.all_isFlat]
    rfl
  exact .call hmethod hinner

/-- An argument that is passed is the given one, or a reference to its name. -/
theorem eq_or_of_mem_referred {index : Int} {args : List Argument} {a : Argument}
    (h : a ∈ referred index args) :
    a ∈ args ∨ ∃ b ∈ args, IsWordText b.text ∧ a = { b with text := methodReference b.text } := by
  obtain ⟨k, hk, rfl⟩ := List.mem_mapIdx.mp h
  unfold Argument.refer
  split
  · rename_i hr
    rw [isReferred, Bool.and_eq_true] at hr
    exact .inr ⟨args[k], List.getElem_mem hk, isWordText_of_isPlainName hr.2, rfl⟩
  · exact .inl (List.getElem_mem hk)

theorem Listed.referred {args : List Argument} (h : Listed args) (index : Int) :
    Listed (referred index args) where
  spaced := h.spaced.of_gaps (map_gap_referred index args)
  simple := by
    intro a ha
    rcases eq_or_of_mem_referred ha with ha | ⟨b, hb, hw, rfl⟩
    · exact h.simple a ha
    · exact isArgument_methodReference hw

/-- A reference has a parenthesis, so arguments without any are passed as they are. -/
theorem referred_eq_self {index : Int} {args : List Argument}
    (h : ((referred index args).flatMap Argument.whole).all isFlat = true) :
    referred index args = args := by
  rw [referred, List.mapIdx_eq_iff]
  intro k
  cases hk : args[k]? with
  | none => rfl
  | some a =>
      have hmem : a.refer index k ∈ referred index args := by
        obtain ⟨hlt, rfl⟩ := List.getElem?_eq_some_iff.mp hk
        exact List.mem_mapIdx.mpr ⟨k, hlt, rfl⟩
      have hsame : ¬isReferred index k a = true := by
        intro hr
        have hopen : '(' ∈ (a.refer index k).whole := by
          rw [Argument.refer, if_pos hr, Argument.whole, methodReference_eq]
          exact List.mem_append_right _ (List.mem_append_right _ List.mem_cons_self)
        have hflat : isFlat '(' = true :=
          List.all_eq_true.mp h '(' (List.mem_flatMap_of_mem hmem hopen)
        exact absurd hflat (by decide)
      rw [Option.map_some, Argument.refer, if_neg hsame]

/-! ## The pass from a place on -/

/-- The text from a place on with references. -/
def passFrom (name : List Char) (index : Int) (before code : List Char) : List Char :=
  paste (fun args => callSource name (referred index args)) (sites name before code)

theorem passReferences_eq_passFrom (name : List Char) (index : Int) (code : List Char) :
    passReferences name index code = passFrom name index [] code := by
  simp only [passReferences, passFrom, argumentsText_eq_referred]
  rfl

theorem paste_kept (write : List Argument → List Char) (cs : List Char) :
    paste write (kept cs) = cs := paste_map_keep write cs

theorem pieces_kept (cs : List Char) : pieces (kept cs) = [] := pieces_map_keep cs

section

variable (name : List Char) (index : Int)

theorem passFrom_nil (before : List Char) : passFrom name index before [] = [] := by
  rw [passFrom, sites_nil]
  rfl

theorem passFrom_of_startsCall {before : List Char} (h : startsCall before = true)
    (cs : List Char) : passFrom name index before cs = passReferences name index cs := by
  rw [passReferences_eq_passFrom, passFrom, passFrom, sites_of_startsCall h]

variable {name}

theorem passFrom_keep {before cs : List Char} {c : Char}
    (h : callSite? name before (c :: cs) = none) :
    passFrom name index before (c :: cs) = c :: passFrom name index (c :: before) cs := by
  rw [passFrom, sites_keep h, paste_cons]
  rfl

/-- The arguments of a call that is found are passed as they should. -/
theorem passFrom_found {before : List Char} {args : List Argument}
    (hb : startsCall before = true) (hl : Listed args) (rest : List Char) :
    passFrom name index before (callSource name args ++ rest) =
      callSource name (referred index args) ++ passReferences name index rest := by
  rw [passReferences_eq_passFrom, passFrom, sites_found hb hl, paste_cons]
  simp [paste, passFrom]

theorem Kept.passReferences_eq {text : List Char} (h : Kept name text) :
    passReferences name index text = text := by
  rw [passReferences_eq_passFrom, passFrom, h.sites_eq, paste_kept]

/-- The pass in the text of an argument. -/
def Argument.pass (name : List Char) (index : Int) (a : Argument) : Argument :=
  { a with text := passReferences name index a.text }

variable (hn : IsWordText name)

include hn

theorem passReferences_of_isWordText {word : List Char} (hw : IsWordText word) :
    passReferences name index word = word :=
  (kept_of_isWordText hn hw).passReferences_eq index

/-- A call that is not found itself has the pass in its arguments. -/
theorem passFrom_callSource {word before rest : List Char} {args : List Argument}
    (hw : word.all isWord = true) (hs : Spaced [] args) (hc : ∀ a ∈ args, Closes name a.text)
    (h : callSite? name before (callSource word args ++ rest) = none) :
    passFrom name index before (callSource word args ++ rest) =
      callSource word (args.map (Argument.pass name index)) ++ passReferences name index rest := by
  have harg (a : Argument) : paste (fun args => callSource name (referred index args))
      (kept a.gap ++ sites name [] a.text) = (a.pass name index).whole := by
    rw [paste_append, paste_kept, Argument.whole, Argument.pass, passReferences_eq_passFrom]
    rfl
  have hargs : paste (fun args => callSource name (referred index args))
      (args.flatMap fun a => kept a.gap ++ sites name [] a.text) =
        (args.map (Argument.pass name index)).flatMap Argument.whole := by
    rw [paste, List.flatMap_assoc, List.flatMap_map]
    simp only [← harg]
    rfl
  rw [passFrom, sites_callSource hn hw hs hc h, paste_append, paste_append, paste_kept, hargs,
    paste_cons, callSource_append, passReferences_eq_passFrom]
  simp [paste, passFrom]

/-- **A simple argument stays as it is or is no simple one any more.** It changes only if it is a
call site, with words for arguments, one of which becomes a reference. -/
theorem IsArgument.pass_cases {text : List Char} (h : IsArgument text) :
    passReferences name index text = text ∨
      ∃ args, Listed args ∧ (∀ a ∈ args, IsWordText a.text) ∧ text = callSource name args ∧
        passReferences name index text = callSource name (referred index args) ∧
          Stops (callSource name (referred index args)) := by
  rcases h.site_or_kept hn with ⟨args, hl, hw, rfl⟩ | hk
  · have hpass : passReferences name index (callSource name args) =
        callSource name (referred index args) := by
      have hfound : passFrom name index [] (callSource name args ++ []) = _ :=
        passFrom_found index rfl hl []
      rwa [List.append_nil, ← passReferences_eq_passFrom, passReferences_eq_passFrom _ _ [],
        passFrom_nil, List.append_nil] at hfound
    rcases isArgument_or_stops hn (hl.referred index).opensFirst with hflat | hstops
    · exact .inl (by rw [hpass, referred_eq_self hflat])
    · refine .inr ⟨args, hl, hw, rfl, hpass, ?_⟩
      have hs := hstops [')']
      rwa [← callSource_append, List.append_nil] at hs
  · exact .inl (hk.passReferences_eq index)

end

end EstreeEmitter.Passes
