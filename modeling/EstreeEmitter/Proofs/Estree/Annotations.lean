import EstreeEmitter.Corrections.Default
import EstreeEmitter.Proofs.Emit.Placeless
import EstreeEmitter.Proofs.Result
import EstreeEmitter.Session

set_option autoImplicit false

/-! # Annotations have no influence on the translation

A document may say more about a construct than its declared fields: a position, comments, ranges,
the order in which the members are written. `Json.SameButNotes` relates documents that differ in
nothing else, at any depth. Both are read as the same tree up to positions, so both have the same
translation or are refused for the same reason (`translate_of_sameButNotes`). -/

namespace EstreeEmitter

/-! ## Documents that differ in annotations only -/

/-- The names of the declared fields of the constructs with a tag; an unsupported tag has none. -/
def declaredFields (tag : String) : List String :=
  match Node.ofFields? tag [] with
  | some (.ok n) => (Value.outlineNode n).map (·.1)
  | _ => []

/-- The documents are the same up to annotations of constructs. Plain data is the same altogether;
two constructs have the same type, each a position that can be read or none, and the same declared
fields, up to annotations again. -/
inductive Json.SameButNotes : Json → Json → Prop where
  | scalar (s : Scalar) : SameButNotes (.scalar s) (.scalar s)
  | nil : SameButNotes (.arr []) (.arr [])
  | cons {j j' : Json} {items items' : List Json} (h : SameButNotes j j')
    (h' : SameButNotes (.arr items) (.arr items')) :
    SameButNotes (.arr (j :: items)) (.arr (j' :: items'))
  | data {members : List (String × Json)} (h : members.lookup "type" = none) :
    SameButNotes (.obj members) (.obj members)
  | construct {members members' : List (String × Json)} {type : Json} {pos pos' : Option Pos}
    (ht : members.lookup "type" = some type) (ht' : members'.lookup "type" = some type)
    (hp : positionOf members = .ok pos) (hp' : positionOf members' = .ok pos')
    (hmissing : ∀ name ∈ declaredFields (tagOf members),
      members.lookup name = none ↔ members'.lookup name = none)
    (hfield : ∀ name ∈ declaredFields (tagOf members), ∀ j j',
      members.lookup name = some j → members'.lookup name = some j' → SameButNotes j j') :
    SameButNotes (.obj members) (.obj members')

/-! ## Results that agree -/

/-- Both results are values that look the same, or both are faults of one kind. -/
inductive Agrees {α β : Type} (view : α → β) : Except Fault α → Except Fault α → Prop where
  | ok {a a' : α} (h : view a = view a') : Agrees view (.ok a) (.ok a')
  | error {fault fault' : Fault} (h : fault.placeless = fault'.placeless) :
    Agrees view (.error fault) (.error fault')

section Agrees

variable {α β γ δ : Type} {view : α → β} {view' : γ → δ}

theorem agrees_refl (r : Except Fault α) : Agrees view r r := by
  cases r with
  | ok a => exact .ok rfl
  | error fault => exact .error rfl

theorem Agrees.bind {r r' : Except Fault α} {f f' : α → Except Fault γ} (h : Agrees view r r')
    (hf : ∀ a a', view a = view a' → Agrees view' (f a) (f' a')) :
    Agrees view' (r >>= f) (r' >>= f') := by
  cases h with
  | ok h => exact hf _ _ h
  | error h => exact .error h

/-- A value made of a part that agrees. -/
theorem Agrees.make {r r' : Except Fault α} (h : Agrees view r r') {f f' : α → γ}
    (hf : ∀ a a', view a = view a' → view' (f a) = view' (f' a')) :
    Agrees view' (do return f (← r)) (do return f' (← r')) :=
  h.bind fun a a' ha => .ok (hf a a' ha)

end Agrees

/-! ## Reading constructs -/

/-- The field of a name agrees, whatever its default is. -/
def FieldAgrees (fields fields' : ReadFields) (name : String) : Prop :=
  ∀ default, Agrees Value.placeless (fields.field name default) (fields'.field name default)

/-- Constructs are made of their declared fields and nothing else. -/
theorem agrees_ofFields? {tag : String} {fields fields' : ReadFields}
    (h : ∀ name ∈ declaredFields tag, FieldAgrees fields fields' name) :
    (Node.ofFields? tag fields = none ∧ Node.ofFields? tag fields' = none) ∨
      ∃ r r', Node.ofFields? tag fields = some r ∧ Node.ofFields? tag fields' = some r' ∧
        Agrees Node.placeless r r' := by
  unfold Node.ofFields?
  dsimp only
  split
  case h_31 => exact .inl ⟨rfl, rfl⟩
  all_goals
    -- one field after the other, each of them declared
    refine .inr ⟨_, _, rfl, rfl, ?_⟩
    repeat refine Agrees.bind (h _ (by decide) _) fun a a' ha => ?_
    exact .ok (by simp only [Node.placeless, *])

theorem lookup_readMembers (members : List (String × Json)) (name : String) :
    (Value.readMembers members).lookup name = (members.lookup name).map Value.read := by
  induction members with
  | nil => rfl
  | cons member rest ih =>
      obtain ⟨key, j⟩ := member
      simp only [Value.readMembers, List.lookup_cons, ih]
      split <;> rfl

theorem tagOf_eq_of_lookup {members members' : List (String × Json)}
    (h : members.lookup "type" = members'.lookup "type") : tagOf members = tagOf members' := by
  rw [tagOf, tagOf, h]

/-- Constructs with the same type whose declared fields agree are read as one, up to places. -/
theorem agrees_ofObject {members members' : List (String × Json)} {fields fields' : ReadFields}
    {pos pos' : Option Pos} (ht : members.lookup "type" = members'.lookup "type")
    (hp : positionOf members = .ok pos) (hp' : positionOf members' = .ok pos')
    (h : ∀ name ∈ declaredFields (tagOf members), FieldAgrees fields fields' name) :
    Agrees Value.placeless (Value.ofObject members fields) (Value.ofObject members' fields') := by
  unfold Value.ofObject
  rw [hp, hp', ← tagOf_eq_of_lookup ht]
  rcases agrees_ofFields? h with ⟨hn, hn'⟩ | ⟨r, r', hr, hr', hrr⟩
  · simp only [hn, hn']
    exact .error (Fault.placeless_unsupportedAt _ _ _)
  · simp only [hr, hr']
    exact hrr.make fun n n' hn => congrArg (Value.node none) hn

/-- Lists that are read as one have items that are read as one. -/
theorem agrees_readItems_of_read {items items' : List Json}
    (h : Agrees Value.placeless (Value.read (.arr items)) (Value.read (.arr items'))) :
    Agrees placelessItems (Value.readItems items) (Value.readItems items') := by
  simp only [Value.read] at h
  generalize Value.readItems items = r at h ⊢
  generalize Value.readItems items' = r' at h ⊢
  cases r with
  | ok vs =>
      cases r' with
      | ok vs' =>
          cases h with
          | ok h => exact .ok (Value.list.inj h)
      | error fault' => cases h
  | error fault =>
      cases r' with
      | ok vs' => cases h
      | error fault' =>
          cases h with
          | error h => exact .error h

theorem fieldAgrees_readMembers {members members' : List (String × Json)} {name : String}
    (hmissing : members.lookup name = none ↔ members'.lookup name = none)
    (hfield : ∀ j j', members.lookup name = some j → members'.lookup name = some j' →
      Agrees Value.placeless (Value.read j) (Value.read j')) :
    FieldAgrees (Value.readMembers members) (Value.readMembers members') name := by
  intro default
  unfold ReadFields.field
  rw [lookup_readMembers, lookup_readMembers]
  cases hm : members.lookup name with
  | none =>
      rw [hmissing.mp hm]
      exact agrees_refl _
  | some j =>
      cases hm' : members'.lookup name with
      | none =>
          rw [hmissing.mpr hm'] at hm
          cases hm
      | some j' => exact hfield j j' hm hm'

/-- Documents that differ in annotations only are read as one tree up to positions. -/
theorem agrees_read {j j' : Json} (h : j.SameButNotes j') :
    Agrees Value.placeless (Value.read j) (Value.read j') := by
  induction h with
  | scalar s => exact agrees_refl _
  | nil => exact agrees_refl _
  | @cons j j' items items' _ _ ih ih' =>
      simp only [Value.read, Value.readItems]
      have hs : Agrees placelessItems
          (do return (← Value.read j) :: (← Value.readItems items))
          (do return (← Value.read j') :: (← Value.readItems items')) :=
        ih.bind fun v v' hv => (agrees_readItems_of_read ih').make fun vs vs' hvs => by
          rw [placelessItems, placelessItems, hv, hvs]
      exact hs.make fun vs vs' hvs => congrArg Value.list hvs
  | data h => exact agrees_refl _
  | @construct members members' type pos pos' ht ht' hp hp' hmissing _ ih =>
      have hs : (members.lookup "type").isSome = true := by rw [ht]; rfl
      have hs' : (members'.lookup "type").isSome = true := by rw [ht']; rfl
      simp only [Value.read, hs, hs', if_true]
      exact agrees_ofObject (ht.trans ht'.symm) hp hp' fun name hn =>
        fieldAgrees_readMembers (hmissing name hn) (ih name hn)

theorem agrees_ofDocument {j j' : Json} (h : j.SameButNotes j') :
    Agrees Value.placeless (Value.ofDocument j) (Value.ofDocument j') := by
  cases h with
  | scalar s => exact agrees_refl _
  | nil => exact agrees_refl _
  | cons h h' => exact .error rfl
  | data h => exact agrees_refl _
  | @construct members members' type pos pos' ht ht' hp hp' hmissing hfield =>
      exact agrees_ofObject (ht.trans ht'.symm) hp hp' fun name hn =>
        fieldAgrees_readMembers (hmissing name hn) fun j j' hj hj' =>
          agrees_read (hfield name hn j j' hj hj')

/-! ## The translation -/

open Emission in
theorem agrees_generate (d : Dialect) {v v' : Value} (h : v.placeless = v'.placeless) :
    Agrees id (v.generate d) (v'.generate d) := by
  have he : Alike (emit d v) (emit d v') := by
    have hv' := (alike_emit d v').symm
    rw [← h] at hv'
    exact (alike_emit d v).trans hv'
  unfold Value.generate
  rcases he Buffer.fresh with ⟨c, hv, hv'⟩ | ⟨fault, fault', c, hv, hv', hf⟩
  · rw [hv, hv']
    exact .ok rfl
  · rw [hv, hv']
    exact .error hf

theorem agrees_translate (table : Table) {j j' : Json} (h : j.SameButNotes j') :
    Agrees id (translate table j) (translate table j') := by
  unfold translate
  refine (agrees_ofDocument h).bind fun v v' hv => ?_
  unfold Value.translate
  refine (agrees_generate .ruby hv).bind fun code code' hc => ?_
  rw [show code = code' from hc]
  exact agrees_refl _

/-- **Annotations have no influence on the translation.** Whatever the table is, documents that
differ in annotations only have the same translation, or both are refused with the same fault up to
the place of an unsupported construct. -/
theorem translate_of_sameButNotes (table : Table) {j j' : Json} (h : j.SameButNotes j') :
    (∃ text, translate table j = .ok text ∧ translate table j' = .ok text) ∨
      ∃ fault fault', translate table j = .error fault ∧ translate table j' = .error fault' ∧
        fault.placeless = fault'.placeless := by
  have ht := agrees_translate table h
  generalize translate table j = r at ht
  generalize translate table j' = r' at ht
  cases ht with
  | @ok text text' h =>
      rw [show text = text' from h]
      exact .inl ⟨text', rfl, rfl⟩
  | error h => exact .inr ⟨_, _, rfl, rfl, h⟩

/-- A name as a statement, with nothing but its declared fields. -/
def bareName : Json :=
  .obj [("type", .scalar (.str "ExpressionStatement")),
    ("expression", .obj [("type", .scalar (.str "Identifier")), ("name", .scalar (.str "x"))])]

/-- The same statement with a place, a comment and its members in another order. -/
def annotatedName : Json :=
  .obj [("expression", .obj [("name", .scalar (.str "x")), ("comments", .arr []),
      ("type", .scalar (.str "Identifier"))]),
    ("loc", .obj [("start", .obj [("line", .scalar (.int 7)), ("column", .scalar (.str "2"))])]),
    ("type", .scalar (.str "ExpressionStatement"))]

theorem sameButNotes_annotatedName : annotatedName.SameButNotes bareName := by
  refine .construct rfl rfl rfl rfl ?_ ?_
  · decide
  · intro name hname j j' hj hj'
    obtain rfl : name = "expression" := List.mem_singleton.mp hname
    cases hj
    cases hj'
    refine .construct rfl rfl rfl rfl ?_ ?_
    · decide
    · intro name hname j j' hj hj'
      obtain rfl : name = "name" := List.mem_singleton.mp hname
      cases hj
      cases hj'
      exact .scalar _

theorem translate_annotatedName : translate Table.ruby bareName = .ok "x\n".toList ∧
    translate Table.ruby annotatedName = .ok "x\n".toList := by
  have htext : translate Table.ruby bareName = .ok "x\n".toList :=
    toOption_eq_some_iff.mp (by decide +kernel)
  rcases translate_of_sameButNotes Table.ruby sameButNotes_annotatedName with
    ⟨text, hnotes, hbare⟩ | ⟨_, fault, -, hbare, -⟩
  · obtain rfl : text = "x\n".toList := Except.ok.inj (hbare.symm.trans htext)
    exact ⟨htext, hnotes⟩
  · rw [htext] at hbare
    cases hbare

end EstreeEmitter
