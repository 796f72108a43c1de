import EstreeEmitter.Text.Scan

set_option autoImplicit false

/-! # Leading words, and parts between separators

`after?` takes exactly a leading word away. A text joined with a separator that no part holds splits
into its parts again, and the parts of a text, joined, are the text. -/

namespace EstreeEmitter.Text

theorem after?_append (word cs : List Char) : after? word (word ++ cs) = some cs := by
  induction word with
  | nil => rfl
  | cons w ws ih =>
      rw [List.cons_append, after?, if_pos (beq_self_eq_true w)]
      exact ih

/-- A leading word that both sides share does not matter. -/
theorem after?_append_append (word ws cs : List Char) :
    after? (word ++ ws) (word ++ cs) = after? ws cs := by
  induction word with
  | nil => rfl
  | cons w word ih =>
      rw [List.cons_append, List.cons_append, after?, if_pos (beq_self_eq_true w)]
      exact ih

theorem after?_eq_some_iff {word cs rest : List Char} :
    after? word cs = some rest ↔ cs = word ++ rest := by
  constructor
  · intro h
    fun_induction after? word cs with
    | case1 cs => rw [Option.some.inj h, List.nil_append]
    | case2 => cases h
    | case3 w ws c cs hwc ih => rw [eq_of_beq hwc, List.cons_append, ih h]
    | case4 => cases h
  · rintro rfl
    exact after?_append word rest

theorem splitOn_of_not_mem {separator : Char} {part : List Char} (h : separator ∉ part) :
    splitOn separator part = [part] := by
  induction part with
  | nil => rfl
  | cons c cs ih =>
      obtain ⟨hc, hcs⟩ : separator ≠ c ∧ separator ∉ cs := by simpa using h
      rw [splitOn, if_neg (by simpa using hc.symm), ih hcs]

theorem splitOn_append_cons {separator : Char} {part : List Char} (h : separator ∉ part)
    (rest : List Char) :
    splitOn separator (part ++ separator :: rest) = part :: splitOn separator rest := by
  induction part with
  | nil => rw [List.nil_append, splitOn, if_pos (beq_self_eq_true separator)]
  | cons c cs ih =>
      obtain ⟨hc, hcs⟩ : separator ≠ c ∧ separator ∉ cs := by simpa using h
      rw [List.cons_append, splitOn, if_neg (by simpa using hc.symm), ih hcs]

/-- Splitting takes joined parts apart again. -/
theorem splitOn_joinWith {separator : Char} {parts : List (List Char)} (hne : parts ≠ [])
    (h : ∀ part ∈ parts, separator ∉ part) :
    splitOn separator (joinWith [separator] parts) = parts := by
  fun_induction joinWith [separator] parts with
  | case1 => exact absurd rfl hne
  | case2 part => exact splitOn_of_not_mem (h part List.mem_cons_self)
  | case3 part rest hrest ih =>
      rw [List.append_assoc, List.singleton_append, splitOn_append_cons (h part List.mem_cons_self),
        ih (fun hr => hrest hr) fun p hp => h p (List.mem_cons_of_mem _ hp)]

theorem splitOn_ne_nil (separator : Char) (cs : List Char) : splitOn separator cs ≠ [] := by
  fun_induction splitOn separator cs <;> simp

theorem joinWith_cons (separator part : List Char) {parts : List (List Char)} (h : parts ≠ []) :
    joinWith separator (part :: parts) = part ++ separator ++ joinWith separator parts := by
  cases parts with
  | nil => exact absurd rfl h
  | cons p ps => rfl

/-- Joining puts the parts of a text together again. -/
theorem joinWith_splitOn (separator : Char) (cs : List Char) :
    joinWith [separator] (splitOn separator cs) = cs := by
  fun_induction splitOn separator cs with
  | case1 => rfl
  | case2 c cs hc ih =>
      rw [joinWith_cons _ _ (splitOn_ne_nil separator cs), ih, eq_of_beq hc]
      rfl
  | case3 c cs hc hnil ih => exact absurd hnil (splitOn_ne_nil separator cs)
  | case4 c cs hc part parts hsplit ih =>
      rw [hsplit] at ih
      cases parts with
      | nil => rw [← ih]; rfl
      | cons p ps =>
          rw [joinWith_cons _ _ (by simp)] at ih ⊢
          rw [← ih]
          rfl

/-- Joined parts are those before the last one, each with its separator, and the last one. -/
theorem joinWith_eq_flatMap (separator : List Char) {parts : List (List Char)} (h : parts ≠ []) :
    joinWith separator parts = parts.dropLast.flatMap (· ++ separator) ++ parts.getLast h := by
  induction parts with
  | nil => exact absurd rfl h
  | cons part parts ih =>
      by_cases hp : parts = []
      · subst hp
        rfl
      · rw [joinWith_cons _ _ hp, ih hp, List.dropLast_cons_of_ne_nil hp, List.getLast_cons hp]
        simp

/-- The parts of two texts with a separator between are those of the one and those of the other. -/
theorem splitOn_append (separator : Char) (cs rest : List Char) :
    splitOn separator (cs ++ separator :: rest) =
      splitOn separator cs ++ splitOn separator rest := by
  fun_induction splitOn separator cs with
  | case1 => exact splitOn_append_cons (List.not_mem_nil) rest
  | case2 c cs hc ih => rw [List.cons_append, splitOn, if_pos hc, ih, List.cons_append]
  | case3 c cs hc hnil ih => exact absurd hnil (splitOn_ne_nil separator cs)
  | case4 c cs hc part parts hsplit ih =>
      rw [hsplit] at ih
      rw [List.cons_append, splitOn, if_neg hc, ih]
      rfl

theorem joinWith_append (separator : List Char) {parts parts' : List (List Char)}
    (h : parts ≠ []) (h' : parts' ≠ []) :
    joinWith separator (parts ++ parts') =
      joinWith separator parts ++ separator ++ joinWith separator parts' := by
  induction parts with
  | nil => exact absurd rfl h
  | cons part parts ih =>
      by_cases hp : parts = []
      · subst hp
        exact joinWith_cons separator part h'
      · rw [List.cons_append, joinWith_cons _ _ (by simp [hp]), joinWith_cons _ _ hp, ih hp]
        simp

end EstreeEmitter.Text
