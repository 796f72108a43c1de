import EstreeEmitter.Estree.Load
import EstreeEmitter.Proofs.Result

set_option autoImplicit false

/-! # The first fault of a document

Reading a document comes to its objects with a type in a fixed order: an object before what is in
it, its declared fields in the order of declaration and not as they are written, lists from the
front. `Members.inOrder` lists these objects without reading any of them. The document is read
exactly if each of them has a supported tag and a position that can be read or none; otherwise the
first that has not is reported (`ofDocument_reports_first`). -/

namespace EstreeEmitter

/-! ## The objects of a document -/

/-- The supported constructs, each with its fields in the order of declaration. -/
def constructFields : List (String × List String) := [
  ("Program", ["body"]), ("File", ["program"]), ("ExpressionStatement", ["expression"]),
  ("ImportDeclaration", ["source"]), ("BlockStatement", ["body"]),
  ("FunctionDeclaration", ["id", "params", "body"]), ("VariableDeclarator", ["id", "init"]),
  ("VariableDeclaration", ["kind", "declarations"]), ("ReturnStatement", ["argument"]),
  ("IfStatement", ["test", "consequent", "alternate"]), ("WhileStatement", ["test", "body"]),
  ("DoWhileStatement", ["body", "test"]), ("ForStatement", ["init", "test", "update", "body"]),
  ("BreakStatement", []), ("AssignmentExpression", ["operator", "left", "right"]),
  ("CallExpression", ["callee", "arguments"]),
  ("MemberExpression", ["object", "property", "computed"]),
  ("UnaryExpression", ["operator", "argument", "prefix"]),
  ("UpdateExpression", ["operator", "argument", "prefix"]),
  ("BinaryExpression", ["operator", "left", "right"]),
  ("LogicalExpression", ["operator", "left", "right"]),
  ("ConditionalExpression", ["test", "consequent", "alternate"]),
  ("ArrayExpression", ["elements"]), ("Identifier", ["name"]),
  ("Literal", ["value", "raw", "regex"]), ("NumericLiteral", ["value", "extra"]),
  ("StringLiteral", ["value", "extra"]), ("BooleanLiteral", ["value"]), ("NullLiteral", []),
  ("RegExpLiteral", ["pattern", "flags", "extra"])]

/-- The tag is that of a supported construct. -/
def isSupported (tag : String) : Bool := (constructFields.lookup tag).isSome

/-- The members of an object. -/
abbrev Members := List (String × Json)

/-- An object, and behind it what is found in its declared fields; nothing if its tag is not
supported. -/
def Members.followedBy (members : Members) (parts : String → List Members) : List Members :=
  members :: ((constructFields.lookup (tagOf members)).getD []).flatMap parts

mutual

/-- The objects with a type that reading a value comes to, in order. Plain objects are not
searched. -/
def Json.objects : Json → List Members
  | .scalar _ => []
  | .arr items => itemObjects items
  | .obj members =>
    if (members.lookup "type").isSome then Members.followedBy members (memberObjects members)
    else []

/-- The objects in items, one item after the other. -/
def Json.itemObjects : List Json → List Members
  | [] => []
  | j :: rest => j.objects ++ itemObjects rest

/-- The objects in the member of a name. -/
def Json.memberObjects : List (String × Json) → String → List Members
  | [], _ => []
  | (key, j) :: rest, name => if name == key then j.objects else memberObjects rest name

end

/-- The objects that reading a document comes to, in order: the document itself, whatever its type
is, and the objects with a type in its declared fields. -/
def Members.inOrder (members : Members) : List Members :=
  members.followedBy (Json.memberObjects members)

/-- What is wrong with an object itself: its position cannot be read, or else its tag is not
supported. -/
def Members.fault? (members : Members) : Option Fault :=
  match positionOf members with
  | .error fault => some fault
  | .ok pos =>
    if isSupported (tagOf members) then none else some (.unsupportedAt (tagOf members) pos)

/-- The object has a position that can be read or none, and a supported tag. -/
def Members.IsReadable (members : Members) : Prop :=
  (∃ pos, positionOf members = .ok pos) ∧ isSupported (tagOf members) = true

/-! ## Fields -/

/-- The fault of a field that is there. -/
def ReadFields.fault? (fields : ReadFields) (name : String) : Option Fault :=
  (fields.lookup name).bind EstreeEmitter.fault?

theorem fault?_field (fields : ReadFields) (name : String) (default : Value) :
    fault? (fields.field name default) = fields.fault? name := by
  unfold ReadFields.field ReadFields.fault?
  cases fields.lookup name <;> rfl

/-- A construct is made of its first field and then of the others. -/
theorem fault?_field_bind {fields : ReadFields} {name : String} {names : List String}
    {default : Value} {make : Value → Except Fault Node}
    (h : ∀ v, fault? (make v) = names.findSome? fields.fault?) :
    fault? (fields.field name default >>= make) = (name :: names).findSome? fields.fault? := by
  rw [fault?_bind fun v _ => h v, fault?_field, List.findSome?_cons]
  cases fields.fault? name <;> rfl

/-- Constructs have the listed fields, and the first that is refused counts. -/
theorem fault?_ofFields? (tag : String) (fields : ReadFields) :
    (constructFields.lookup tag = none ∧ Node.ofFields? tag fields = none) ∨
      ∃ names r, constructFields.lookup tag = some names ∧ Node.ofFields? tag fields = some r ∧
        fault? r = names.findSome? fields.fault? := by
  unfold Node.ofFields?
  dsimp only
  split
  case h_31 =>
    refine .inl ⟨List.lookup_eq_none_iff.mpr ?_, rfl⟩
    simp only [constructFields, List.forall_mem_cons, bne_iff_ne, List.not_mem_nil,
      false_implies, implies_true, and_true]
    and_intros <;> assumption
  all_goals
    -- the fields of the construct are read in the order of the table
    refine .inr ⟨_, _, rfl, rfl, ?_⟩
    repeat refine fault?_field_bind fun v => ?_
    rfl

/-! ## Values -/

theorem findSome?_flatMap {α β γ : Type} (found? : β → Option γ) (parts : α → List β)
    (items : List α) :
    (items.flatMap parts).findSome? found? =
      items.findSome? fun item => (parts item).findSome? found? := by
  induction items with
  | nil => rfl
  | cons item items ih =>
      rw [List.flatMap_cons, List.findSome?_append, ih, List.findSome?_cons]
      cases (parts item).findSome? found? <;> rfl

/-- An object is refused for itself, or else for the first fault in its fields. -/
theorem fault?_ofObject {members : Members} {fields : ReadFields}
    (h : ∀ name, fields.fault? name =
      (Json.memberObjects members name).findSome? Members.fault?) :
    fault? (Value.ofObject members fields) = members.inOrder.findSome? Members.fault? := by
  rw [Members.inOrder, Members.followedBy, List.findSome?_cons, findSome?_flatMap, Members.fault?,
    Value.ofObject]
  cases positionOf members with
  | error fault => rfl
  | ok pos =>
      rcases fault?_ofFields? (tagOf members) fields with ⟨hn, hr⟩ | ⟨names, r, hn, hr, hfault⟩
      · have hs : isSupported (tagOf members) = false := by rw [isSupported, hn]; rfl
        rw [hs]
        simp only [bind, Except.bind, hr]
        rfl
      · have hs : isSupported (tagOf members) = true := by rw [isSupported, hn]; rfl
        rw [hs, hn]
        simp only [bind, Except.bind, hr]
        rw [← funext h]
        exact (fault?_make _).trans hfault

mutual

theorem fault?_read (j : Json) :
    fault? (Value.read j) = j.objects.findSome? Members.fault? := by
  cases j with
  | scalar s => rfl
  | arr items =>
      rw [Value.read, Json.objects, fault?_make, fault?_readItems items]
  | obj members =>
      rw [Value.read, Json.objects]
      split
      · exact fault?_ofObject (fault?_readMembers members)
      · rfl
termination_by sizeOf j

theorem fault?_readItems (items : List Json) :
    fault? (Value.readItems items) = (Json.itemObjects items).findSome? Members.fault? := by
  cases items with
  | nil => rfl
  | cons j rest =>
      rw [Value.readItems, Json.itemObjects, List.findSome?_append,
        fault?_bind fun v _ => fault?_make _, fault?_read j, fault?_readItems rest]
termination_by sizeOf items

theorem fault?_readMembers (members : Members) (name : String) :
    ReadFields.fault? (Value.readMembers members) name =
      (Json.memberObjects members name).findSome? Members.fault? := by
  cases members with
  | nil => rfl
  | cons member rest =>
      obtain ⟨key, j⟩ := member
      have hrest := fault?_readMembers rest name
      rw [ReadFields.fault?] at hrest ⊢
      rw [Value.readMembers, Json.memberObjects, List.lookup_cons]
      cases name == key with
      | true => exact fault?_read j
      | false => exact hrest
termination_by sizeOf members

end

/-! ## Documents -/

/-- **The first fault in the order of reading is the fault of a document.** -/
theorem fault?_ofDocument (members : Members) :
    fault? (Value.ofDocument (.obj members)) = members.inOrder.findSome? Members.fault? :=
  fault?_ofObject (fault?_readMembers members)

theorem Members.fault?_eq_none_iff {members : Members} :
    members.fault? = none ↔ members.IsReadable := by
  unfold Members.fault? IsReadable
  cases positionOf members with
  | error fault => simp
  | ok pos => simp

/-- **Reading reports the first bad object.** A document is read exactly if every object that
reading comes to has a position that can be read or none, and a supported tag. Otherwise the first
object that has not is reported: by what is wrong with its position, or else by its tag and its own
line and column, which are zero without a position. -/
theorem ofDocument_reports_first (members : Members) :
    ((∃ v, Value.ofDocument (.obj members) = .ok v) ↔
        ∀ object ∈ members.inOrder, Members.IsReadable object) ∧
      ∀ before object behind, members.inOrder = before ++ object :: behind →
        (∀ earlier ∈ before, Members.IsReadable earlier) →
        (∀ fault, positionOf object = .error fault →
          Value.ofDocument (.obj members) = .error fault) ∧
        ∀ pos, positionOf object = .ok pos → isSupported (tagOf object) = false →
          Value.ofDocument (.obj members) = .error (.unsupported (tagOf object)
            (pos.elim 0 Pos.line) (pos.elim 0 Pos.column)) := by
  have hfault := fault?_ofDocument members
  constructor
  · rw [← fault?_eq_none_iff, hfault, List.findSome?_eq_none_iff]
    exact forall₂_congr fun object _ => Members.fault?_eq_none_iff
  · intro before object behind horder hbefore
    have hfirst : ∀ {fault}, Members.fault? object = some fault →
        Value.ofDocument (.obj members) = .error fault := by
      intro fault hobject
      rw [← fault?_eq_some_iff, hfault, List.findSome?_eq_some_iff]
      exact ⟨before, object, behind, horder, hobject,
        fun earlier he => Members.fault?_eq_none_iff.mpr (hbefore earlier he)⟩
    refine ⟨fun fault hpos => hfirst ?_, fun pos hpos hs => hfirst ?_⟩
    · rw [Members.fault?, hpos]
    · rw [Members.fault?, hpos]
      cases pos <;> simp [hs, Fault.unsupportedAt]

/-- An object with a tag and the line of its position. -/
def placedObject (tag : String) (line : Json) : Members :=
  [("loc", .obj [("start", .obj [("line", line)])]), ("type", .str tag)]

/-- A loop whose body is written before its test. The body has a position that cannot be read, the
test a list with an unsupported tag in a list, and before it plain data with another one. -/
def misreadLoop : Members :=
  [("body", .obj (placedObject "BreakStatement" .null)), ("type", .str "WhileStatement"),
    ("test", .arr [.obj [("data", .obj (placedObject "Data" (.int 3)))],
      .arr [.obj (placedObject "Sequence" (.str " 7 "))]])]

theorem ofDocument_misreadLoop :
    Value.ofDocument (.obj misreadLoop) = .error (.unsupported "Sequence" 7 0) := by
  have horder : misreadLoop.inOrder = [misreadLoop] ++
      placedObject "Sequence" (.str " 7 ") :: [placedObject "BreakStatement" .null] := rfl
  have hpos : positionOf (placedObject "Sequence" (.str " 7 ")) = .ok (some ⟨7, 0⟩) :=
    toOption_eq_some_iff.mp (by decide +kernel)
  have hfirst : ∀ earlier ∈ [misreadLoop], Members.IsReadable earlier := by
    intro earlier he
    rw [List.mem_singleton.mp he]
    exact ⟨⟨none, rfl⟩, by decide +kernel⟩
  exact ((ofDocument_reports_first misreadLoop).2 _ _ _ horder hfirst).2 _ hpos (by decide +kernel)

end EstreeEmitter
