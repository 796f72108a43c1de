import EstreeEmitter.Proofs.Passes.References
import EstreeEmitter.Proofs.Printer.Arguments

set_option autoImplicit false

/-! # Method references in emitted calls

The pass reaches a call of a method if all its arguments are simple, and if no call of the same
method that goes over it was found before. Then the argument at the index becomes a reference if it
is a plain name, and all else stays (`passFrom_callText`). Otherwise the call itself stays and the
scan goes on behind its parenthesis. -/

namespace EstreeEmitter

open Passes Text

namespace Passes

/-! ## Scanning two texts one after the other -/

/-- No call of the method that is found in `front` goes on behind it. -/
def staysIn (name before : List Char) : List Char → List Char → Bool
  | [], _ => true
  | c :: front, rest =>
    ((callSite? name before (c :: front ++ rest)).all fun site => site.2 ≤ front.length + 1) &&
      staysIn name (c :: before) front rest

/-- What is recognised does not depend on what comes behind it. -/
theorem callSite?_append {name before front rest : List Char}
    (h : ∀ site ∈ callSite? name before (front ++ rest), site.2 ≤ front.length) :
    callSite? name before front = callSite? name before (front ++ rest) := by
  cases hs : callSite? name before (front ++ rest) with
  | some site =>
      obtain ⟨args, n⟩ := site
      have hn := h _ hs
      obtain ⟨hb, hl, rfl, behind, hcs⟩ := callSite?_eq_some_iff.mp hs
      refine callSite?_eq_some_iff.mpr ⟨hb, hl, rfl, front.drop (callSource name args).length, ?_⟩
      have htake : callSource name args = front.take (callSource name args).length := by
        have hall := congrArg (List.take (callSource name args).length) hcs
        rw [List.take_left, List.take_append_of_le_length hn] at hall
        exact hall.symm
      conv_lhs => rw [← List.take_append_drop (callSource name args).length front, ← htake]
  | none =>
      cases hf : callSite? name before front with
      | none => rfl
      | some site =>
          obtain ⟨args, n⟩ := site
          obtain ⟨hb, hl, hn, behind, rfl⟩ := callSite?_eq_some_iff.mp hf
          have hsite : callSite? name before (callSource name args ++ behind ++ rest) =
              some (args, n) :=
            callSite?_eq_some_iff.mpr ⟨hb, hl, hn, behind ++ rest, List.append_assoc ..⟩
          rw [hs] at hsite
          cases hsite

theorem cut_callSite?_front {name before front rest : List Char} {skip : Nat}
    (hs : skip ≤ front.length) (h : staysIn name before front rest = true) :
    cut (callSite? name) before skip (front ++ rest) =
      cut (callSite? name) before skip front ++
        cut (callSite? name) (front.reverse ++ before) 0 rest := by
  induction front generalizing before skip with
  | nil =>
      rw [Nat.le_zero.mp hs]
      simp only [cut]
      rfl
  | cons c front ih =>
      rw [staysIn, Bool.and_eq_true] at h
      have hbefore : (c :: front).reverse ++ before = front.reverse ++ c :: before := by simp
      rw [hbefore]
      cases skip with
      | succ skip => exact ih (Nat.le_of_succ_le_succ hs) h.2
      | zero =>
          have hsite : callSite? name before (c :: front) =
              callSite? name before (c :: front ++ rest) := by
            refine callSite?_append fun site hm => ?_
            have hall := h.1
            rw [hm, Option.all_some] at hall
            simpa using hall
          rw [List.cons_append] at hsite ⊢
          rw [cut, cut, hsite]
          cases hf : callSite? name before (c :: (front ++ rest)) with
          | none => exact congrArg _ (ih (Nat.zero_le _) h.2)
          | some site =>
              have hle : site.2 ≤ front.length + 1 := by
                have hall := h.1
                rw [List.cons_append, hf, Option.all_some] at hall
                simpa using hall
              exact congrArg _ (ih (by omega) h.2)

/-- The pass over two texts, where no call that is found in the first one goes on in the second. -/
theorem passReferences_append {name front rest : List Char} (index : Int)
    (h : staysIn name [] front rest = true) :
    passReferences name index (front ++ rest) =
      passReferences name index front ++ passFrom name index front.reverse rest := by
  simp only [passReferences_eq_passFrom, passFrom, sites]
  rw [cut_callSite?_front (Nat.zero_le _) h, paste_append, List.append_nil]

/-- A call that is not recognised keeps its name, and the scan starts anew behind its
parenthesis. -/
theorem passFrom_of_callSite?_eq_none {name before rest : List Char} (index : Int)
    (hn : IsWordText name) (h : callSite? name before (name ++ '(' :: rest) = none) :
    passFrom name index before (name ++ '(' :: rest) =
      name ++ '(' :: passReferences name index rest := by
  rw [passFrom, sites_word hn.all_isWord h, sites_cons_of_not_isWord hn (by decide), paste_append,
    paste_kept, paste_cons, sites_of_startsCall (startsCall_open _), passReferences_eq_passFrom]
  rfl

/-! ## Calls in text -/

/-- The text of a call from the texts of its arguments. -/
def callText (name : List Char) (texts : List (List Char)) : List Char :=
  name ++ '(' :: joinWith ", ".toList texts ++ [')']

/-- The text of the argument at a position, as a method reference if it is a plain name at the
index. -/
def referText (index : Int) (position : Nat) (text : List Char) : List Char :=
  if (position : Int) = index ∧ isPlainName text = true then methodReference text else text

/-- Arguments with a comma and a space between neighbours. -/
def spacedArguments : List (List Char) → List Argument
  | [] => []
  | text :: texts => ⟨[], text⟩ :: texts.map fun text => ⟨[',', ' '], text⟩

theorem joinWith_cons_eq_flatMap (separator text : List Char) (texts : List (List Char)) :
    joinWith separator (text :: texts) = text ++ texts.flatMap (separator ++ ·) := by
  induction texts generalizing text with
  | nil => exact (List.append_nil text).symm
  | cons next texts ih =>
      rw [joinWith_cons _ _ (List.cons_ne_nil _ _), ih, List.flatMap_cons]
      simp

theorem flatMap_whole_spacedArguments (texts : List (List Char)) :
    (spacedArguments texts).flatMap Argument.whole = joinWith ", ".toList texts := by
  cases texts with
  | nil => rfl
  | cons text texts =>
      rw [spacedArguments, joinWith_cons_eq_flatMap, List.flatMap_cons, List.flatMap_map]
      rfl

theorem callSource_spacedArguments (name : List Char) (texts : List (List Char)) :
    callSource name (spacedArguments texts) = callText name texts := by
  rw [callSource, flatMap_whole_spacedArguments, callText]

theorem spaced_spacedArguments {texts : List (List Char)} (h : texts ≠ []) :
    Spaced [] (spacedArguments texts) := by
  cases texts with
  | nil => exact absurd rfl h
  | cons text texts =>
      have hspace : isBlank ' ' = true := by decide
      have hall (gap text : List Char) : Spaced gap
          (⟨gap, text⟩ :: texts.map fun text => ⟨[',', ' '], text⟩) := by
        clear h
        induction texts generalizing gap text with
        | nil => exact .last
        | cons next texts ih => exact .more hspace (ih [',', ' '] next)
      exact hall [] text

theorem mem_spacedArguments {texts : List (List Char)} {a : Argument}
    (h : a ∈ spacedArguments texts) : a.text ∈ texts := by
  cases texts with
  | nil => cases h
  | cons text texts =>
      rcases List.mem_cons.mp h with rfl | h
      · exact List.mem_cons_self
      · obtain ⟨next, hn, rfl⟩ := List.mem_map.mp h
        exact List.mem_cons_of_mem _ hn

theorem exists_of_mem_texts {texts : List (List Char)} {text : List Char} (h : text ∈ texts) :
    ∃ a ∈ spacedArguments texts, a.text = text := by
  cases texts with
  | nil => cases h
  | cons first texts =>
      rcases List.mem_cons.mp h with rfl | h
      · exact ⟨_, List.mem_cons_self, rfl⟩
      · exact ⟨_, List.mem_cons_of_mem _ (List.mem_map_of_mem h), rfl⟩

theorem refer_mk (index : Int) (position : Nat) (gap text : List Char) :
    Argument.refer index position ⟨gap, text⟩ = ⟨gap, referText index position text⟩ := by
  simp only [Argument.refer, isReferred, referText, Bool.and_eq_true, beq_iff_eq]
  split <;> rfl

theorem referred_spacedArguments (index : Int) (texts : List (List Char)) :
    referred index (spacedArguments texts) =
      spacedArguments (texts.mapIdx (referText index)) := by
  cases texts with
  | nil => rfl
  | cons text texts =>
      refine List.ext_getElem (by simp [referred, spacedArguments]) fun k _ _ => ?_
      cases k with
      | zero => simp [referred, spacedArguments, refer_mk]
      | succ k => simp [referred, spacedArguments, refer_mk]

/-- The pass at a call: recognised if all arguments are simple, and kept otherwise. -/
theorem passFrom_callText {name before : List Char} {texts : List (List Char)} (index : Int)
    (hn : IsWordText name) (hb : startsCall before = true) (hne : texts ≠ [])
    (hp : ∀ t ∈ texts, Passable t) (behind : List Char) :
    ((∀ t ∈ texts, IsArgument t) →
        passFrom name index before (callText name texts ++ behind) =
          callText name (texts.mapIdx (referText index)) ++ passReferences name index behind) ∧
      ((∃ t ∈ texts, ¬IsArgument t) →
        passFrom name index before (callText name texts ++ behind) =
          name ++ '(' :: passReferences name index
            (joinWith ", ".toList texts ++ ')' :: behind)) := by
  have hspaced := spaced_spacedArguments hne
  constructor
  · intro hall
    have hl : Listed (spacedArguments texts) :=
      ⟨hspaced, fun a ha => hall a.text (mem_spacedArguments ha)⟩
    rw [← callSource_spacedArguments, passFrom_found index hb hl, referred_spacedArguments,
      callSource_spacedArguments]
  · rintro ⟨t, ht, hnot⟩
    have hreads : ∀ a ∈ spacedArguments texts, IsArgument a.text ∨ Stops a.text :=
      fun a ha => (hp a.text (mem_spacedArguments ha)).reads
    have hstop : ∃ a ∈ spacedArguments texts, Stops a.text := by
      obtain ⟨a, ha, rfl⟩ := exists_of_mem_texts ht
      exact ⟨a, ha, (hreads a ha).resolve_left hnot⟩
    have hnone := callSite?_eq_none_of_stops hspaced hreads hstop name before behind
    rw [callSource_append, flatMap_whole_spacedArguments] at hnone
    rw [← callSource_spacedArguments, callSource_append, flatMap_whole_spacedArguments]
    exact passFrom_of_callSite?_eq_none index hn hnone

end Passes

/-! ## Emitted calls -/

/-- A call of a method by its name. -/
def Value.callOf (name : String) (arguments : List Value) : Value :=
  .node none (.callExpression (.node none (.identifier (.str name))) (.list arguments))

/-- Expressions have texts. -/
theorem exists_texts {arguments : List Value} (h : ∀ v ∈ arguments, v.isPassable = true) :
    ∃ texts, List.Forall₂ (fun v t => v.generate .ruby = .ok t ∧ expressionText .ruby v = .ok t)
        arguments texts ∧ ∀ t ∈ texts, Passable t := by
  induction arguments with
  | nil => exact ⟨[], .nil, nofun⟩
  | cons v arguments ih =>
      obtain ⟨hv, hrest⟩ := List.forall_mem_cons.mp h
      obtain ⟨t, ht, hp⟩ := makesPassable_expressionText v hv
      obtain ⟨texts, htexts, hpass⟩ := ih hrest
      have hgenerate : v.generate .ruby = .ok t := by
        rw [generate_expression .ruby (v.isExpression_of_isPassable hv), ht]
      exact ⟨t :: texts, .cons ⟨hgenerate, ht⟩ htexts, List.forall_mem_cons.mpr ⟨hp, hpass⟩⟩

theorem Value.isPresent_of_isPassable {v : Value} (h : v.isPassable = true) :
    v.isPresent = true := by
  cases v with
  | node pos n => rfl
  | _ => cases h

theorem joined_map_ok (texts : List (List Char)) :
    joined (texts.map .ok) = .ok texts.flatten := by
  induction texts with
  | nil => rfl
  | cons text texts ih =>
      rw [List.map_cons, joined_cons_of_ok rfl, ih]
      rfl

/-- The texts of arguments behind the first one. -/
theorem separatedText_false {arguments : List Value} {texts : List (List Char)}
    (hp : ∀ v ∈ arguments, v.isPassable = true)
    (h : List.Forall₂ (fun v t => expressionText .ruby v = .ok t) arguments texts) :
    separatedText .ruby false arguments = .ok (texts.flatMap (", ".toList ++ ·)) := by
  induction h with
  | nil => rfl
  | @cons v t arguments texts hv _ ih =>
      obtain ⟨hfirst, hrest⟩ := List.forall_mem_cons.mp hp
      rw [separatedText, if_pos (Value.isPresent_of_isPassable hfirst), hv, ih hrest]
      refine (joined_map_ok [", ".toList, t, _]).trans ?_
      simp

/-- The texts of arguments with commas between them. -/
theorem separatedText_true {arguments : List Value} {texts : List (List Char)}
    (hp : ∀ v ∈ arguments, v.isPassable = true)
    (h : List.Forall₂ (fun v t => expressionText .ruby v = .ok t) arguments texts) :
    separatedText .ruby true arguments = .ok (joinWith ", ".toList texts) := by
  cases h with
  | nil => rfl
  | @cons v t arguments texts hv h =>
      obtain ⟨hfirst, hrest⟩ := List.forall_mem_cons.mp hp
      rw [separatedText, if_pos (Value.isPresent_of_isPassable hfirst), hv,
        separatedText_false hrest h, joinWith_cons_eq_flatMap]
      refine (joined_map_ok [[], t, _]).trans ?_
      simp

theorem isExpression_callOf (name : String) {arguments : List Value}
    (hp : ∀ v ∈ arguments, v.isPassable = true) :
    (Value.callOf name arguments).isExpression = true := by
  have hlist : arePassable arguments = true := by
    induction arguments with
    | nil => rfl
    | cons v arguments ih =>
        obtain ⟨hfirst, hrest⟩ := List.forall_mem_cons.mp hp
        rw [arePassable, hfirst, ih hrest, Bool.or_true]
        rfl
  exact areExpressions_of_arePassable arguments hlist

/-- A call is written with its arguments in parentheses. -/
theorem generate_callOf (name : String) {arguments : List Value} {texts : List (List Char)}
    (hp : ∀ v ∈ arguments, v.isPassable = true)
    (h : List.Forall₂ (fun v t => expressionText .ruby v = .ok t) arguments texts) :
    (Value.callOf name arguments).generate .ruby = .ok (callText name.toList texts) := by
  rw [generate_expression .ruby (isExpression_callOf name hp), Value.callOf, expressionText,
    constructText, expressionText, constructText, listText, separatedText_true hp h]
  refine (joined_map_ok [name.toList, ['('], _, [')']]).trans ?_
  simp [callText]

/-- **Which emitted calls are passed a reference.** A call of a method with any expressions for
arguments stands where a call can start, and no call of the method that is found before goes over
it. If all arguments are simple, the one at the index becomes a method reference if it is a plain
name, and the other arguments stay as they are, calls in them too. Otherwise the call stays, and the
scan goes on with what is in its parentheses. -/
theorem passReferences_emittedCall (name : String) (hn : IsWordText name.toList) (index : Int)
    (arguments : List Value) (hne : arguments ≠ []) (hp : ∀ v ∈ arguments, v.isPassable = true)
    (front behind : List Char) (hs : startsCall front.reverse = true) :
    ∃ texts, List.Forall₂ (fun v t => v.generate .ruby = .ok t) arguments texts ∧
      (Value.callOf name arguments).generate .ruby = .ok (callText name.toList texts) ∧
      (staysIn name.toList [] front (callText name.toList texts ++ behind) = true →
        ((∀ t ∈ texts, IsArgument t) →
          passReferences name.toList index (front ++ (callText name.toList texts ++ behind)) =
            passReferences name.toList index front ++
              (callText name.toList (texts.mapIdx (referText index)) ++
                passReferences name.toList index behind)) ∧
        ((∃ t ∈ texts, ¬IsArgument t) →
          passReferences name.toList index (front ++ (callText name.toList texts ++ behind)) =
            passReferences name.toList index front ++
              (name.toList ++ '(' :: passReferences name.toList index
                (joinWith ", ".toList texts ++ ')' :: behind)))) := by
  obtain ⟨texts, htexts, hpass⟩ := exists_texts hp
  refine ⟨texts, htexts.imp fun _ _ h => h.1,
    generate_callOf name hp (htexts.imp fun _ _ h => h.2), fun hstays => ?_⟩
  have hnonempty : texts ≠ [] := by
    rintro rfl
    exact hne (List.forall₂_nil_right_iff.mp htexts)
  rw [passReferences_append index hstays]
  obtain ⟨hsimple, hother⟩ := passFrom_callText index hn hs hnonempty hpass behind
  exact ⟨fun h => congrArg _ (hsimple h), fun h => congrArg _ (hother h)⟩

/-- A name, a number and a call, as the arguments of a call of `run`. -/
def simpleArguments : List Value :=
  let leaf (n : Node) : Value := .node none n
  [leaf (.identifier (.str "show")), leaf (.numericLiteral (.scalar (.int 3)) .null),
    .callOf "h" [leaf (.identifier (.str "y")), leaf (.stringLiteral (.str "s") .null)]]

/-- A call behind another one, in which a third one stays as it is. -/
theorem passReferences_simpleArguments :
    passReferences "run".toList 0 "x = run(a, run(b)) + run(show, 3, h(y, \"s\"))\n".toList =
      "x = run(method(:a), run(b)) + run(method(:show), 3, h(y, \"s\"))\n".toList := by
  obtain ⟨texts, htexts, -, h⟩ := passReferences_emittedCall "run" (by decide) 0 simpleArguments
    (by decide) (by decide +kernel) "x = run(a, run(b)) + ".toList "\n".toList (by decide +kernel)
  have hunique : texts = ["show".toList, "3".toList, "h(y, \"s\")".toList] :=
    List.right_unique_forall₂' (fun _ _ _ h h' => Except.ok.inj (h.symm.trans h')) htexts
      (.cons rfl (.cons rfl (.cons rfl .nil)))
  subst hunique
  have htext : "x = run(a, run(b)) + run(show, 3, h(y, \"s\"))\n".toList =
      "x = run(a, run(b)) + ".toList ++ (callText "run".toList
        ["show".toList, "3".toList, "h(y, \"s\")".toList] ++ "\n".toList) := by decide +kernel
  rw [htext, (h (by decide +kernel)).1 (by decide +kernel)]
  decide +kernel

/-- A text among the arguments keeps the call from being passed its reference, a call in another
call of the method is passed none, and a text with parentheses can be taken for arguments. -/
theorem passReferences_quoted_argument :
    passReferences "run".toList 0 "run(show, \"x\")\n".toList ≠
        "run(method(:show), \"x\")\n".toList ∧
      passReferences "run".toList 0 "run(run(show))".toList = "run(run(show))".toList ∧
      passReferences "run".toList 1 "run(h(\"a), b)\"))".toList =
        "run(h(\"a), method(:b))\"))".toList := by
  decide +kernel

end EstreeEmitter
