import EstreeEmitter.Proofs.Corrections.Template

set_option autoImplicit false

/-! # References that make a table fail

A replacement refers to groups by digits behind a dollar sign; `references` lists them. A reference
is bad if its digits denote no group of the pattern. The first bad one decides why a replacement is
refused (`fault?_ofReplacement`), and the first entry with a bad one why a table is
(`fault?_ofMembers`). The entry is named only where all digits of that reference are decimal
(`ofMembers_names_entry_iff`): superscripts and the like are taken for digits of a reference too,
and they have no decimal value. -/

namespace EstreeEmitter

open Text

namespace Template

/-! ## The references of a replacement -/

/-- The digits of a reference at the front of a replacement, one or two, and its number of
characters. A doubled dollar sign and the whole match are references without digits. -/
def referenceDigits? : List Char → Option (List Char × Nat)
  | c :: d :: rest =>
    if c != '$' then none
    else if d == '$' || d == '&' then some ([], 2)
    else
      let digits := ((d :: rest).take 2).takeWhile isDigitLike
      if digits.isEmpty then none else some (digits, digits.length + 1)
  | _ => none

/-- The digits of the references to groups in a replacement, in order. -/
def references (replacement : List Char) : List (List Char) :=
  (pieces (cut (fun _ rest => referenceDigits? rest) [] 0 replacement)).filter (!·.isEmpty)

/-- The digits denote one of the groups. -/
def denotesGroup (groups : Nat) (digits : List Char) : Bool :=
  match decimalNumber? digits with
  | some n => 1 ≤ n && n ≤ groups
  | none => false

/-- Why a reference that denotes no group is refused. -/
def badReferenceFault (groups : Nat) (digits : List Char) : TemplateFault :=
  match decimalNumber? digits with
  | some n => .noGroup n groups
  | none => .notDecimal

/-- The first reference of a replacement that denotes no group. -/
def badReference? (groups : Nat) (replacement : List Char) : Option (List Char) :=
  (references replacement).find? fun digits => !denotesGroup groups digits

theorem references_found {c : Char} {cs digits : List Char} {n : Nat}
    (h : referenceDigits? (c :: cs) = some (digits, n + 1)) :
    references (c :: cs) =
      (if digits.isEmpty then [] else [digits]) ++ references (cs.drop n) := by
  rw [references, cut_ahead_found h (Nat.le_add_left 1 n), List.drop_succ_cons]
  cases digits with
  | nil => rfl
  | cons d ds => rfl

theorem references_keep {c : Char} {cs : List Char} (h : referenceDigits? (c :: cs) = none) :
    references (c :: cs) = references cs := by
  rw [references, cut_ahead_keep h]
  rfl

section

variable {groups : Nat}

theorem badReference?_found {c : Char} {cs digits : List Char} {n : Nat}
    (h : referenceDigits? (c :: cs) = some (digits, n + 1)) (hne : digits ≠ []) :
    badReference? groups (c :: cs) =
      if denotesGroup groups digits then badReference? groups (cs.drop n) else some digits := by
  rw [badReference?, references_found h, if_neg (by simpa using hne), List.singleton_append,
    List.find?_cons]
  cases denotesGroup groups digits <;> rfl

theorem badReference?_mark {c : Char} {cs : List Char} {n : Nat}
    (h : referenceDigits? (c :: cs) = some ([], n + 1)) :
    badReference? groups (c :: cs) = badReference? groups (cs.drop n) := by
  rw [badReference?, references_found h]
  rfl

theorem badReference?_keep {c : Char} {cs : List Char} (h : referenceDigits? (c :: cs) = none) :
    badReference? groups (c :: cs) = badReference? groups cs := by
  rw [badReference?, references_keep h, badReference?]

theorem fault?_reference (digits : List Char) :
    fault? (reference groups digits) =
      if denotesGroup groups digits then none else some (badReferenceFault groups digits) := by
  unfold reference badReferenceFault denotesGroup
  cases decimalNumber? digits with
  | none => rfl
  | some n =>
      by_cases hn : 1 ≤ n ∧ n ≤ groups
      · have hbad : (n == 0 || decide (groups < n)) = false := by
          simp
          omega
        simp [hbad, hn, fault?]
      · have hbad : (n == 0 || decide (groups < n)) = true := by
          simp
          omega
        simp [hbad, hn, fault?]

/-- The fault of a reference comes before those of the template behind it. -/
theorem fault?_reference_bind {c : Char} {cs digits : List Char} {n : Nat}
    (h : referenceDigits? (c :: cs) = some (digits, n + 1)) (hne : digits ≠ [])
    {r : Except TemplateFault Template}
    (hr : fault? r = (badReference? groups (cs.drop n)).map (badReferenceFault groups)) :
    fault? (do
      let part ← reference groups digits
      return part :: (← r)) =
      (badReference? groups (c :: cs)).map (badReferenceFault groups) := by
  rw [fault?_bind fun part _ => fault?_make _, fault?_reference, badReference?_found h hne]
  split
  · exact hr
  · rfl

/-- **A replacement is refused for its first bad reference**; without one it is accepted. -/
theorem fault?_ofReplacement (replacement : List Char) :
    fault? (ofReplacement groups replacement) =
      (badReference? groups replacement).map (badReferenceFault groups) := by
  fun_induction ofReplacement groups replacement with
  | case1 => rfl
  | case2 c =>
      -- a dollar sign at the end refers to nothing
      rw [badReference?_keep rfl]
      rfl
  | case3 c d rest hc ih =>
      have hkeep : referenceDigits? (c :: d :: rest) = none := by rw [referenceDigits?, if_pos hc]
      rw [fault?_make, ih, badReference?_keep hkeep]
  | case4 c d rest hc hd ih =>
      have hmark : referenceDigits? (c :: d :: rest) = some ([], 2) := by
        simp [referenceDigits?, hc, hd]
      rw [fault?_make, ih, badReference?_mark hmark]
      rfl
  | case5 c d rest hc hd hwhole ih =>
      have hmark : referenceDigits? (c :: d :: rest) = some ([], 2) := by
        simp [referenceDigits?, hc, hwhole]
      rw [fault?_make, ih, badReference?_mark hmark]
      rfl
  | case6 c d hc hd hwhole hlike e rest hlike' ih =>
      have hfound : referenceDigits? (c :: d :: e :: rest) = some ([d, e], 3) := by
        simp [referenceDigits?, hc, hd, hwhole, hlike, hlike']
      exact fault?_reference_bind hfound (List.cons_ne_nil _ _) ih
  | case7 c d hc hd hwhole hlike e rest hlike' ih =>
      have hfound : referenceDigits? (c :: d :: e :: rest) = some ([d], 2) := by
        simp [referenceDigits?, hc, hd, hwhole, hlike, hlike']
      exact fault?_reference_bind hfound (List.cons_ne_nil _ _) ih
  | case8 c d hc hd hwhole hlike =>
      have hfound : referenceDigits? [c, d] = some ([d], 2) := by
        simp [referenceDigits?, hc, hd, hwhole, hlike]
      rw [fault?_make, fault?_reference, badReference?_found hfound (List.cons_ne_nil _ _)]
      split <;> rfl
  | case9 c d rest hc hd hwhole hlike ih =>
      have hkeep : referenceDigits? (c :: d :: rest) = none := by
        simp [referenceDigits?, hd, hwhole, hlike]
      rw [fault?_make, ih, badReference?_keep hkeep]

end

/-- A row of digits has a value exactly if every digit has one. -/
theorem isSome_decimalNumber? (digits : List Char) :
    (decimalNumber? digits).isSome = digits.all isDecimal := by
  have hfold : ∀ start : Option Nat,
      (digits.foldl (fun n c => do return (← n) * 10 + (← decimalValue? c)) start).isSome =
        (start.isSome && digits.all isDecimal) := by
    induction digits with
    | nil => simp
    | cons c digits ih =>
        intro start
        rw [List.foldl_cons, ih, List.all_cons]
        cases start with
        | none => rfl
        | some n => cases hc : decimalValue? c <;> simp [isDecimal, hc]
  exact hfold (some 0)

theorem badReferenceFault_of_isDecimal (groups : Nat) {digits : List Char}
    (h : digits.all isDecimal = true) :
    ∃ n, badReferenceFault groups digits = .noGroup n groups := by
  rw [← isSome_decimalNumber?, Option.isSome_iff_exists] at h
  obtain ⟨n, hn⟩ := h
  exact ⟨n, by rw [badReferenceFault, hn]⟩

theorem badReferenceFault_of_not_isDecimal (groups : Nat) {digits : List Char}
    (h : digits.all isDecimal = false) : badReferenceFault groups digits = .notDecimal := by
  rw [← isSome_decimalNumber?, Option.isSome_eq_false_iff, Option.isNone_iff_eq_none] at h
  rw [badReferenceFault, h]

end Template

/-! ## The entries of a table -/

namespace Table

/-- Entries of texts, as members of an object. -/
def textMembers (entries : List (String × String)) : List (String × Json) :=
  entries.map fun entry => (entry.1, .str entry.2)

/-- The number of groups of a pattern. -/
def groupCount (pattern : String) : Nat :=
  match Pattern.parse pattern.toList with
  | .ok compiled => compiled.groups
  | .error _ => 0

/-- The first reference of an entry that denotes no group of its pattern. -/
def badReferenceOf? (entry : String × String) : Option (List Char) :=
  Template.badReference? (groupCount entry.1) entry.2.toList

/-- Why an entry is refused for a bad reference. -/
def entryFault (entry : String × String) (digits : List Char) : TableFault :=
  .ofTemplate entry.1 (Template.badReferenceFault (groupCount entry.1) digits)

/-- An entry whose pattern can be read is refused for its first bad reference only. -/
theorem fault?_ofStrings {entry : String × String}
    (h : (Pattern.parse entry.1.toList).isOk = true) :
    fault? (Correction.ofStrings entry.1 entry.2) =
      (badReferenceOf? entry).map (entryFault entry) := by
  cases hp : Pattern.parse entry.1.toList with
  | error e =>
      rw [hp] at h
      cases h
  | ok compiled =>
      have hgroups : groupCount entry.1 = compiled.groups := by rw [groupCount, hp]
      have hfault := @Template.fault?_ofReplacement compiled.groups entry.2.toList
      have hentry : entryFault entry =
          TableFault.ofTemplate entry.1 ∘ Template.badReferenceFault compiled.groups := by
        funext digits
        rw [entryFault, hgroups]
        rfl
      rw [hentry, badReferenceOf?, hgroups, ← Option.map_map, ← hfault, Correction.ofStrings]
      simp only [hp]
      cases Template.ofReplacement compiled.groups entry.2.toList <;> rfl

/-- **The first entry with a bad reference is why a table is refused.** -/
theorem fault?_ofMembers {entries : List (String × String)}
    (h : ∀ entry ∈ entries, (Pattern.parse entry.1.toList).isOk = true) :
    fault? (ofMembers (textMembers entries)) =
      entries.findSome? fun entry => (badReferenceOf? entry).map (entryFault entry) := by
  induction entries with
  | nil => rfl
  | cons entry entries ih =>
      obtain ⟨he, hrest⟩ := List.forall_mem_cons.mp h
      have hcons : fault? (ofMembers (textMembers (entry :: entries))) =
          (fault? (Correction.ofStrings entry.1 entry.2)).or
            (fault? (ofMembers (textMembers entries))) :=
        fault?_bind fun correction _ => fault?_make _
      rw [hcons, fault?_ofStrings he, ih hrest, List.findSome?_cons]
      cases badReferenceOf? entry <;> rfl

/-- **Which bad tables are reported as such.** A table of texts whose patterns can be read is made
exactly if every reference denotes a group of its pattern. Otherwise the first entry with another
reference is named exactly if the digits of its first such reference are all decimal; if one of them
is not, the table fails without naming any entry. -/
theorem ofMembers_names_entry_iff {entries : List (String × String)}
    (h : ∀ entry ∈ entries, (Pattern.parse entry.1.toList).isOk = true) :
    ((∃ table, ofMembers (textMembers entries) = .ok table) ↔
        ∀ entry ∈ entries, badReferenceOf? entry = none) ∧
      ∀ before entry behind digits, entries = before ++ entry :: behind →
        (∀ earlier ∈ before, badReferenceOf? earlier = none) →
        badReferenceOf? entry = some digits →
        ((∃ n, ofMembers (textMembers entries) =
            .error (.entry entry.1 (.noGroup n (groupCount entry.1)))) ↔
          digits.all isDecimal = true) ∧
        (digits.all isDecimal = false → ofMembers (textMembers entries) = .error .notDecimal) := by
  have hfault := fault?_ofMembers h
  constructor
  · rw [← fault?_eq_none_iff, hfault, List.findSome?_eq_none_iff]
    simp only [Option.map_eq_none_iff]
  · intro before entry behind digits hentries hbefore hentry
    have hfirst : ofMembers (textMembers entries) = .error (entryFault entry digits) := by
      rw [← fault?_eq_some_iff, hfault, List.findSome?_eq_some_iff]
      refine ⟨before, entry, behind, hentries, by rw [hentry]; rfl, fun earlier he => ?_⟩
      rw [hbefore earlier he]
      rfl
    rw [hfirst, entryFault]
    cases hd : digits.all isDecimal with
    | true =>
        obtain ⟨n, hn⟩ := Template.badReferenceFault_of_isDecimal (groupCount entry.1) hd
        rw [hn]
        exact ⟨⟨fun _ => rfl, fun _ => ⟨n, rfl⟩⟩, fun h => by cases h⟩
    | false =>
        rw [Template.badReferenceFault_of_not_isDecimal _ hd]
        refine ⟨⟨?_, fun h => by cases h⟩, fun _ => rfl⟩
        rintro ⟨n, hn⟩
        cases hn

/-- Behind an entry without bad references, one that refers to a third group by an Arabic digit and
then by a superscript: the first of the two is reported. -/
theorem ofMembers_names_arabic_digit :
    ∃ n, ofMembers [("(a)", .str "$1$$²"), ("b", .str "$& $٣ $²")] =
      .error (.entry "b" (.noGroup n 0)) := by
  have hall : ([("(a)", "$1$$²"), ("b", "$& $٣ $²")].all fun entry =>
      (Pattern.parse entry.1.toList).isOk) = true := by decide +kernel
  have hbefore : ([("(a)", "$1$$²")].all fun entry =>
      (badReferenceOf? entry).isNone) = true := by decide +kernel
  have hentry : badReferenceOf? ("b", "$& $٣ $²") = some ['٣'] := by decide +kernel
  have hgroups : groupCount "b" = 0 := by decide +kernel
  have hnamed := ((ofMembers_names_entry_iff (List.all_eq_true.mp hall)).2 [("(a)", "$1$$²")]
    ("b", "$& $٣ $²") [] ['٣'] rfl (by simpa using hbefore) hentry).1.mpr (by decide)
  rwa [hgroups] at hnamed

/-- A superscript behind a dollar sign is a digit without a decimal value, and the failure is no
report about the configuration. -/
theorem ofMembers_superscript :
    ofMembers [("a", .str "$²")] = .error .notDecimal ∧
      TableFault.message? .notDecimal = none :=
  ⟨fault?_eq_some_iff.mp (by decide +kernel), rfl⟩

end Table

end EstreeEmitter
