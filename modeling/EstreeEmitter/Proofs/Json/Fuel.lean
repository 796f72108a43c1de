import EstreeEmitter.Json.Reader
import EstreeEmitter.Proofs.Result

set_option autoImplicit false

/-! # The fuel of the JSON reader

Values, items and members are read with `fuel` for the calls of one another. What is left of a text
never grows (`Shrinks`), and of two calls in a row at least one passes over a character. So with
more than two steps for each character that is left, the answer, an error as well, is the same for
every fuel (`ReadersAgree`), and `parse` has enough of it (`value_of_lt_fuel`). -/

namespace EstreeEmitter.Json

/-! ## What is left of a text -/

/-- The number of characters that are left. -/
def Rest.size (r : Rest) : Nat := r.chars.length

theorem Rest.size_skip_le (r : Rest) (n : Nat) : (r.skip n).size ≤ r.size := by
  simp [Rest.size, Rest.skip]

theorem Rest.size_skipSpace_le (r : Rest) : r.skipSpace.size ≤ r.size :=
  (List.dropWhile_sublist isSpace).length_le

/-- A character and the space behind it are passed over. -/
theorem Rest.size_skip_skipSpace_lt {r : Rest} {c : Char} {cs : List Char} (h : r.chars = c :: cs) :
    (r.skip 1).skipSpace.size < r.size := by
  have hskip : (r.skip 1).size + 1 = r.size := by simp [Rest.size, Rest.skip, h]
  have hspace := (r.skip 1).size_skipSpace_le
  omega

theorem size_of_chars {r : Rest} {c : Char} {cs : List Char} (h : r.chars = c :: cs) :
    cs.length ≤ r.size := by
  simp [Rest.size, h]

/-- What is left behind a result is no more than what was there. -/
def Shrinks {α : Type} (r : Rest) (result : Except Error (α × Rest)) : Prop :=
  ∀ a rest, result = .ok (a, rest) → rest.size ≤ r.size

theorem shrinks_error {α : Type} (r : Rest) (e : Error) :
    Shrinks r (.error e : Except Error (α × Rest)) := by
  intro a rest h
  cases h

theorem shrinks_ok {α : Type} {r rest : Rest} (a : α) (h : rest.size ≤ r.size) :
    Shrinks r (.ok (a, rest)) := by
  intro b rest' hok
  cases hok
  exact h

theorem Shrinks.of_le {α : Type} {r r' : Rest} {result : Except Error (α × Rest)}
    (h : Shrinks r' result) (hle : r'.size ≤ r.size) : Shrinks r result :=
  fun a rest hok => Nat.le_trans (h a rest hok) hle

/-- A result and what is read behind it. -/
theorem Shrinks.bind {α β : Type} {r : Rest} {result : Except Error (α × Rest)}
    {next : α × Rest → Except Error (β × Rest)} (h : Shrinks r result)
    (hnext : ∀ a rest, Shrinks rest (next (a, rest))) : Shrinks r (result >>= next) := by
  intro b rest' hok
  obtain ⟨⟨a, rest⟩, hresult, hb⟩ := bind_eq_ok_iff.mp hok
  exact Nat.le_trans (hnext a rest b rest' hb) (h a rest hresult)

/-- A result that is wrapped up with nothing more read. -/
theorem Shrinks.bind_ok {α β : Type} {r : Rest} {result : Except Error (α × Rest)}
    (h : Shrinks r result) (wrap : α → β) :
    Shrinks r (result >>= fun x => .ok (wrap x.1, x.2)) :=
  h.bind fun a rest => shrinks_ok (wrap a) (Nat.le_refl rest.size)

theorem shrinks_stringRest (r : Rest) (start : Nat) (out : List Char) (place skip : Nat)
    {cs : List Char} (h : cs.length ≤ r.size) :
    Shrinks r (stringRest start out place skip cs) := by
  fun_induction stringRest start out place skip cs with
  | case1 | case4 | case5 | case6 | case10 | case12 => exact shrinks_error r _
  | case3 => exact shrinks_ok _ (Nat.le_of_succ_le h)
  | case2 _ _ _ _ _ ih => exact ih (Nat.le_of_succ_le h)
  | _ =>
    rename_i ih
    exact ih (Nat.le_of_succ_le h)

theorem shrinks_number (r : Rest) : Shrinks r (number r) := by
  unfold number
  split
  extract_lets
  split
  · exact shrinks_error r _
  · split
    · split
      · exact shrinks_error r _
      · exact shrinks_ok _ (r.size_skip_le _)
    · exact shrinks_ok _ (r.size_skip_le _)

theorem shrinks_plain (r : Rest) : Shrinks r (plain r) := by
  unfold plain
  split
  · exact shrinks_ok _ (r.size_skip_le _)
  · exact shrinks_number r

/-- With this fuel, no reader leaves more than what was there. -/
structure ReadersShrink (fuel : Nat) : Prop where
  value : ∀ r, Shrinks r (value fuel r)
  arrayRest : ∀ r, Shrinks r (arrayRest fuel r)
  objectRest : ∀ members r, Shrinks r (objectRest fuel members r)

theorem ReadersShrink.value_succ {fuel : Nat} (ih : ReadersShrink fuel) (r : Rest) :
    Shrinks r (Json.value (fuel + 1) r) := by
  rw [Json.value]
  split
  · exact shrinks_error r _
  · rename_i hchars
    exact (shrinks_stringRest r _ _ _ _ (size_of_chars hchars)).bind_ok ofChars
  · rename_i hchars
    have hinner := Nat.le_of_lt (r.size_skip_skipSpace_lt hchars)
    extract_lets inner
    split
    · exact shrinks_ok _ (Nat.le_trans (inner.size_skip_le 1) hinner)
    · exact ((ih.objectRest [] inner).of_le hinner).bind_ok obj
  · rename_i hchars
    have hinner := Nat.le_of_lt (r.size_skip_skipSpace_lt hchars)
    extract_lets inner
    split
    · exact shrinks_ok _ (Nat.le_trans (inner.size_skip_le 1) hinner)
    · exact ((ih.arrayRest inner).of_le hinner).bind_ok arr
  · exact (shrinks_plain r).bind_ok scalar

theorem ReadersShrink.arrayRest_succ {fuel : Nat} (ih : ReadersShrink fuel) (r : Rest) :
    Shrinks r (Json.arrayRest (fuel + 1) r) := by
  rw [Json.arrayRest]
  refine (ih.value r).bind fun item rest => Shrinks.of_le ?_ rest.size_skipSpace_le
  dsimp only
  split
  · exact shrinks_ok _ (Rest.size_skip_le _ 1)
  · rename_i hcomma
    have hnext := Nat.le_of_lt (Rest.size_skip_skipSpace_lt hcomma)
    exact ((ih.arrayRest _).of_le hnext).bind_ok (item :: ·)
  · exact shrinks_error _ _

theorem ReadersShrink.objectRest_succ {fuel : Nat} (ih : ReadersShrink fuel)
    (members : List (String × Json)) (r : Rest) :
    Shrinks r (Json.objectRest (fuel + 1) members r) := by
  rw [Json.objectRest]
  split
  · rename_i hchars
    refine (shrinks_stringRest r _ _ _ _ (size_of_chars hchars)).bind
      fun key rest => Shrinks.of_le ?_ rest.size_skipSpace_le
    dsimp only
    split
    · rename_i hcolon
      have hvalue := Nat.le_of_lt (Rest.size_skip_skipSpace_lt hcolon)
      refine ((ih.value _).of_le hvalue).bind fun v rest => Shrinks.of_le ?_ rest.size_skipSpace_le
      dsimp only
      split
      · exact shrinks_ok _ (Rest.size_skip_le _ 1)
      · rename_i hcomma
        exact (ih.objectRest _ _).of_le (Nat.le_of_lt (Rest.size_skip_skipSpace_lt hcomma))
      · exact shrinks_error _ _
    · exact shrinks_error _ _
  · exact shrinks_error r _

theorem readersShrink (fuel : Nat) : ReadersShrink fuel := by
  induction fuel with
  | zero => exact ⟨fun r => shrinks_error r _, fun r => shrinks_error r _,
      fun _ r => shrinks_error r _⟩
  | succ fuel ih => exact ⟨ih.value_succ, ih.arrayRest_succ, ih.objectRest_succ⟩

/-! ## Enough fuel -/

/-- What is read behind a result may be replaced by what agrees with it on all that can be left. -/
theorem Shrinks.bind_congr {α β : Type} {r : Rest} {result : Except Error (α × Rest)}
    {next next' : α × Rest → Except Error β} (h : Shrinks r result)
    (hnext : ∀ a rest, rest.size ≤ r.size → next (a, rest) = next' (a, rest)) :
    result >>= next = result >>= next' := by
  cases hresult : result with
  | error e => rfl
  | ok x => exact hnext x.1 x.2 (h x.1 x.2 hresult)

/-- The readers agree for two fuels where both are enough: the items of an array take a step more
than a value, for the call that reads the first item passes over nothing. -/
structure ReadersAgree (fuel fuel' : Nat) : Prop where
  value : ∀ r, 2 * r.size < fuel → 2 * r.size < fuel' → value fuel r = value fuel' r
  arrayRest : ∀ r, 2 * r.size + 1 < fuel → 2 * r.size + 1 < fuel' →
    arrayRest fuel r = arrayRest fuel' r
  objectRest : ∀ members r, 2 * r.size < fuel → 2 * r.size < fuel' →
    objectRest fuel members r = objectRest fuel' members r

section Step

variable {fuel fuel' : Nat} (ih : ReadersAgree fuel fuel') (r : Rest)

include ih

theorem ReadersAgree.value_succ (h : 2 * r.size < fuel + 1) (h' : 2 * r.size < fuel' + 1) :
    Json.value (fuel + 1) r = Json.value (fuel' + 1) r := by
  rw [Json.value, Json.value]
  split
  · rfl
  · rfl
  · rename_i hchars
    have hinner := r.size_skip_skipSpace_lt hchars
    dsimp only
    rw [ih.objectRest [] (r.skip 1).skipSpace (by omega) (by omega)]
  · rename_i hchars
    have hinner := r.size_skip_skipSpace_lt hchars
    dsimp only
    rw [ih.arrayRest (r.skip 1).skipSpace (by omega) (by omega)]
  · rfl

theorem ReadersAgree.arrayRest_succ (h : 2 * r.size + 1 < fuel + 1)
    (h' : 2 * r.size + 1 < fuel' + 1) :
    Json.arrayRest (fuel + 1) r = Json.arrayRest (fuel' + 1) r := by
  -- the first item starts where the items do: one step of fuel goes, and no character
  rw [Json.arrayRest, Json.arrayRest, ih.value r (by omega) (by omega)]
  refine ((readersShrink fuel').value r).bind_congr fun item rest hrest => ?_
  have hspace := rest.size_skipSpace_le
  dsimp only
  split
  · rfl
  · rename_i hcomma
    have hnext := Rest.size_skip_skipSpace_lt hcomma
    rw [ih.arrayRest _ (by omega) (by omega)]
  · rfl

theorem ReadersAgree.objectRest_succ (members : List (String × Json))
    (h : 2 * r.size < fuel + 1) (h' : 2 * r.size < fuel' + 1) :
    Json.objectRest (fuel + 1) members r = Json.objectRest (fuel' + 1) members r := by
  rw [Json.objectRest, Json.objectRest]
  split
  · rename_i hchars
    refine (shrinks_stringRest r _ _ _ _ (size_of_chars hchars)).bind_congr
      fun key rest hrest => ?_
    have hspace := rest.size_skipSpace_le
    dsimp only
    split
    · rename_i hcolon
      have hvalue := Rest.size_skip_skipSpace_lt hcolon
      rw [ih.value _ (by omega) (by omega)]
      refine ((readersShrink fuel').value _).bind_congr fun v rest' hrest' => ?_
      have hspace' := rest'.size_skipSpace_le
      dsimp only
      split
      · rfl
      · rename_i hcomma
        have hnext := Rest.size_skip_skipSpace_lt hcomma
        exact ih.objectRest _ _ (by omega) (by omega)
      · rfl
    · rfl
  · rfl

end Step

theorem readersAgree (fuel fuel' : Nat) : ReadersAgree fuel fuel' := by
  induction fuel generalizing fuel' with
  | zero => exact ⟨fun _ h => by omega, fun _ h => by omega, fun _ _ h => by omega⟩
  | succ fuel ih =>
    cases fuel' with
    | zero => exact ⟨fun _ _ h => by omega, fun _ _ h => by omega, fun _ _ _ h => by omega⟩
    | succ fuel' =>
      exact ⟨(ih fuel').value_succ, (ih fuel').arrayRest_succ,
        fun members r => (ih fuel').objectRest_succ r members⟩

/-- **The fuel with which a text is read is enough**: with any more of it, the value at its front,
and each error, is the same. -/
theorem value_of_lt_fuel {fuel : Nat} {cs : List Char} (h : 2 * cs.length < fuel) :
    value fuel (Rest.skipSpace ⟨0, cs⟩) = value (2 * cs.length + 1) (Rest.skipSpace ⟨0, cs⟩) := by
  have hspace : (Rest.skipSpace ⟨0, cs⟩).size ≤ cs.length := Rest.size_skipSpace_le ⟨0, cs⟩
  exact (readersAgree fuel _).value _ (by omega) (by omega)

end EstreeEmitter.Json
