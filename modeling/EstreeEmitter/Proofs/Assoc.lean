import EstreeEmitter.Assoc

set_option autoImplicit false

/-! # Looking up what was put into an association list

A key has the value that was put there last; what is put under other keys does not matter. -/

namespace EstreeEmitter.Assoc

variable {α β : Type} [BEq α] [LawfulBEq α]

theorem lookup_put_self (key : α) (value : β) (entries : List (α × β)) :
    (put key value entries).lookup key = some value := by
  induction entries with
  | nil => simp [put]
  | cons entry entries ih =>
      obtain ⟨k, v⟩ := entry
      by_cases hk : k = key
      · simp [put, hk]
      · have hne : (key == k) = false := beq_false_of_ne (Ne.symm hk)
        simp [put, hk, List.lookup_cons, hne, ih]

theorem lookup_put_of_ne {key other : α} (h : other ≠ key) (value : β) (entries : List (α × β)) :
    (put key value entries).lookup other = entries.lookup other := by
  have hne : (other == key) = false := beq_false_of_ne h
  induction entries with
  | nil => simp [put, List.lookup_cons, hne]
  | cons entry entries ih =>
      obtain ⟨k, v⟩ := entry
      by_cases hk : k = key
      · simp [put, hk, List.lookup_cons, hne]
      · simp [put, hk, List.lookup_cons, ih]

/-- Of values put under one key one after the other, the last one counts. -/
theorem lookup_foldl_put {γ : Type} (key name : α) (value : γ → β) (items : List γ)
    (entries : List (α × β)) :
    (items.foldl (fun entries item => put key (value item) entries) entries).lookup name =
      if name == key then (items.getLast?.map value).or (entries.lookup name)
      else entries.lookup name := by
  induction items generalizing entries with
  | nil => simp
  | cons item items ih =>
      rw [List.foldl_cons, ih]
      by_cases h : name = key
      · rw [h, lookup_put_self, List.getLast?_cons]
        cases items.getLast? <;> simp
      · rw [lookup_put_of_ne h, if_neg (by simpa using h), if_neg (by simpa using h)]

/-- Where no key is there twice, the entries are what is looked up. -/
theorem mem_iff_lookup_eq_some {entries : List (α × β)}
    (h : entries.Pairwise fun first second => first.1 ≠ second.1) {key : α} {value : β} :
    (key, value) ∈ entries ↔ entries.lookup key = some value := by
  rw [List.lookup_eq_some_iff]
  constructor
  · intro hm
    obtain ⟨front, behind, rfl⟩ := List.append_of_mem hm
    refine ⟨front, behind, rfl, fun entry he => ?_⟩
    have hne := (List.pairwise_append.mp h).2.2 entry he (key, value) List.mem_cons_self
    exact bne_iff_ne.mpr (Ne.symm hne)
  · rintro ⟨front, behind, rfl, -⟩
    simp

end EstreeEmitter.Assoc
