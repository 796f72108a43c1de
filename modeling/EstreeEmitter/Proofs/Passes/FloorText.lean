import EstreeEmitter.Proofs.Passes.Balanced
import EstreeEmitter.Proofs.Passes.Weight
import Mathlib.Data.List.Basic

set_option autoImplicit false

/-! # Floor calls in text

`Floors` says what the edit of floor calls does to a text: some of them become method calls. Texts
are edited apart where no floor call starts in one and closes in the other
(`Apart.floorCalls_append`).

In a balanced text without quotes every floor call closes, and behind the edit the text is balanced
again. So such texts can be edited apart wherever no floor call reaches from one into the other
(`Paired.floorCalls_append`), and a call is edited if the text of what is called ends in
`Math.floor` (`EditedTo.call`). -/

namespace EstreeEmitter.Passes

/-- The name that a floor call starts with. -/
def floorName : List Char := "Math.floor".toList

theorem floorHead_eq : floorHead = floorName ++ ['('] := rfl

/-! ## Texts beside each other -/

/-- A floor call that starts in the text has its opening parenthesis there, with `rest` behind. -/
def Apart (text rest : List Char) : Prop :=
  ∀ front behind, text = front ++ behind → behind ≠ [] → floorHead <+: behind ++ rest →
    floorHead <+: behind

theorem Apart.of_append (front : List Char) {text rest : List Char}
    (h : Apart (front ++ text) rest) : Apart text rest := by
  rintro before behind rfl
  exact h (front ++ before) behind (by rw [List.append_assoc])

theorem Apart.of_cons {c : Char} {text rest : List Char} (h : Apart (c :: text) rest) :
    Apart text rest := h.of_append [c]

/-- A floor call that reaches from one text into another is in two parts. -/
theorem apart_of {text rest : List Char}
    (h : ∀ {behind more}, behind <:+ text → behind ≠ [] → more ≠ [] → floorHead = behind ++ more →
      ¬more <+: rest) : Apart text rest := by
  rintro front behind rfl hne ⟨others, ho⟩
  rcases List.append_eq_append_iff.mp ho with ⟨more, hb, -⟩ | ⟨more, hhead, hrest⟩
  · exact ⟨more, hb.symm⟩
  · by_cases hm : more = []
    · rw [hm, List.append_nil] at hhead
      exact ⟨[], by rw [hhead, List.append_nil]⟩
    · exact absurd ⟨others, hrest.symm⟩ (h (List.suffix_append front behind) hne hm hhead)

theorem not_mem_open_of_all {text : List Char} (h : text.all isOrdinary = true) : '(' ∉ text :=
  fun hm => absurd (List.all_eq_true.mp h _ hm) (by decide)

theorem apart_of_all {rest : List Char} (h : rest.all isOrdinary = true) (text : List Char) :
    Apart text rest := by
  refine apart_of fun {behind more} _ _ hm hhead hp => not_mem_open_of_all h (hp.subset ?_)
  have hlast := congrArg List.getLast? hhead
  rw [List.getLast?_append_of_ne_nil _ hm] at hlast
  exact List.mem_of_getLast? hlast.symm

theorem apart_of_head {c : Char} (h : c ∉ floorHead.tail) (text rest : List Char) :
    Apart text (c :: rest) := by
  refine apart_of fun {behind more} _ hb hm hhead hp => h ?_
  obtain ⟨d, more, rfl⟩ := List.exists_cons_of_ne_nil hm
  obtain ⟨b, behind, rfl⟩ := List.exists_cons_of_ne_nil hb
  obtain ⟨rfl, -⟩ := List.cons_prefix_cons.mp hp
  rw [hhead]
  simp

theorem apart_of_last {c : Char} (h : c ∉ floorName) (text rest : List Char) :
    Apart (text ++ [c]) rest := by
  refine apart_of fun {behind more} ⟨front, hf⟩ hb hm hhead _ => h ?_
  have hlast : behind.getLast? = some c := by
    rw [← List.getLast?_append_of_ne_nil front hb, hf]
    simp
  have hname : floorName = behind ++ more.dropLast := by
    rw [← List.dropLast_append_of_ne_nil hm, ← hhead]
    rfl
  rw [hname]
  exact List.mem_append_left _ (List.mem_of_getLast? hlast)

theorem apart_open {text : List Char} (h : ¬floorName <:+ text) (rest : List Char) :
    Apart text ('(' :: rest) := by
  refine apart_of fun {behind more} hs _ hm hhead hp => h ?_
  obtain ⟨d, more, rfl⟩ := List.exists_cons_of_ne_nil hm
  obtain ⟨rfl, -⟩ := List.cons_prefix_cons.mp hp
  have hparts : floorName ++ '(' :: [] = behind ++ '(' :: more := hhead
  rw [List.append_cons_inj_of_notMem (by decide) (by decide)] at hparts
  rwa [hparts.1]

/-! ## Edits of a text -/

theorem floorCalls_cons {c : Char} {cs : List Char} (h : ¬floorHead <+: c :: cs) :
    floorCalls (c :: cs) = c :: floorCalls cs := by
  rw [floorCalls, if_neg (by rwa [List.isPrefixOf_iff_prefix])]

theorem floorCalls_cons_of_ne {c : Char} (h : c ≠ 'M') (cs : List Char) :
    floorCalls (c :: cs) = c :: floorCalls cs :=
  floorCalls_cons fun hp => h (List.cons_prefix_cons.mp hp).1.symm

theorem floorCalls_of_not_mem {cs : List Char} (h : '(' ∉ cs) : floorCalls cs = cs := by
  induction cs with
  | nil => rfl
  | cons c cs ih =>
      have hno : ¬floorHead <+: c :: cs := fun hp => h (hp.subset (by decide))
      rw [floorCalls_cons hno, ih fun hm => h (List.mem_cons_of_mem c hm)]

theorem exists_of_closingOffset? {cs : List Char} {i : Nat} (h : closingOffset? cs = some i) :
    ∃ inner rest, cs = inner ++ ')' :: rest ∧ inner.length = i := by
  have hclose := getElem?_of_closingFrom h
  obtain ⟨hlt, -⟩ := List.getElem?_eq_some_iff.mp hclose
  refine ⟨cs.take i, cs.drop (i + 1), ?_, List.length_take_of_le (Nat.le_of_lt hlt)⟩
  rw [← drop_eq_cons_of_getElem? hclose, List.take_append_drop]

/-- A floor call is edited if it closes in the edited text behind it. -/
theorem floorCalls_call {rest inner behind : List Char}
    (h : floorCalls rest = inner ++ ')' :: behind)
    (hc : closingOffset? (inner ++ ')' :: behind) = some inner.length) :
    floorCalls (floorHead ++ rest) = '(' :: (inner ++ (floorTail ++ behind)) := by
  have hhead : floorHead ++ rest = 'M' :: (floorHead.tail ++ rest) := rfl
  have hprefix : floorHead.isPrefixOf ('M' :: (floorHead.tail ++ rest)) = true := rfl
  have hdrop : (floorHead.tail ++ (inner ++ ')' :: behind)).drop (floorHead.length - 1) =
      inner ++ ')' :: behind := rfl
  rw [hhead, floorCalls, if_pos hprefix, floorCalls_head, h, editFloor, hdrop, hc]
  simp

/-- A floor call that does not close stays. -/
theorem floorCalls_open {rest : List Char} (h : closingOffset? (floorCalls rest) = none) :
    floorCalls (floorHead ++ rest) = floorHead ++ floorCalls rest := by
  have hhead : floorHead ++ rest = 'M' :: (floorHead.tail ++ rest) := rfl
  have hprefix : floorHead.isPrefixOf ('M' :: (floorHead.tail ++ rest)) = true := rfl
  have hdrop : (floorHead.tail ++ floorCalls rest).drop (floorHead.length - 1) =
      floorCalls rest := rfl
  rw [hhead, floorCalls, if_pos hprefix, floorCalls_head, editFloor, hdrop, h]
  rfl

/-- The second text is the first one with some floor calls as method calls. -/
inductive Floors : List Char → List Char → Prop where
  | nil : Floors [] []
  | cons (c : Char) {cs ds : List Char} (h : Floors cs ds) : Floors (c :: cs) (c :: ds)
  | call {rest inner behind : List Char} (h : Floors rest (inner ++ ')' :: behind)) :
    Floors (floorHead ++ rest) ('(' :: (inner ++ (floorTail ++ behind)))

theorem Floors.append_left {cs ds : List Char} (h : Floors cs ds) (front : List Char) :
    Floors (front ++ cs) (front ++ ds) := by
  induction front with
  | nil => exact h
  | cons c front ih => exact ih.cons c

theorem floors_floorCalls (cs : List Char) : Floors cs (floorCalls cs) := by
  induction hlen : cs.length using Nat.strongRecOn generalizing cs with
  | _ length ih =>
      cases cs with
      | nil => exact .nil
      | cons c cs =>
          by_cases hp : floorHead <+: c :: cs
          · obtain ⟨rest, hrest⟩ := hp
            rw [← hrest] at hlen ⊢
            have hshort : rest.length < length := by
              rw [← hlen, List.length_append]
              exact Nat.lt_add_of_pos_left (by decide)
            have hfloors := ih rest.length hshort rest rfl
            cases hclose : closingOffset? (floorCalls rest) with
            | none =>
                rw [floorCalls_open hclose]
                exact hfloors.append_left floorHead
            | some i =>
                obtain ⟨inner, behind, hsplit, rfl⟩ := exists_of_closingOffset? hclose
                rw [floorCalls_call hsplit (by rw [← hsplit, hclose])]
                exact .call (hsplit ▸ hfloors)
          · rw [floorCalls_cons hp]
            exact (ih cs.length (by simp [← hlen]) cs rfl).cons c

/-- Texts are edited apart where no floor call starts in one and closes in the other. -/
theorem Apart.floorCalls_append {text rest : List Char} (ha : Apart text rest)
    (hs : ∀ behind, behind <:+ text →
      closingOffset? (floorCalls behind ++ floorCalls rest) = closingOffset? (floorCalls behind)) :
    floorCalls (text ++ rest) = floorCalls text ++ floorCalls rest := by
  induction hlen : text.length using Nat.strongRecOn generalizing text with
  | _ length ih =>
      cases text with
      | nil => rfl
      | cons c cs =>
          by_cases hp : floorHead <+: c :: cs
          · obtain ⟨behind, hbehind⟩ := hp
            rw [← hbehind] at ha hs hlen ⊢
            have hshort : behind.length < length := by
              rw [← hlen, List.length_append]
              exact Nat.lt_add_of_pos_left (by decide)
            have happend := ih behind.length hshort (ha.of_append floorHead)
              (fun more hm => hs more (hm.trans (List.suffix_append _ _))) rfl
            have hscan := hs behind (List.suffix_append _ _)
            rw [← happend] at hscan
            rw [List.append_assoc]
            cases hclose : closingOffset? (floorCalls behind) with
            | none =>
                rw [floorCalls_open (hscan.trans hclose), floorCalls_open hclose, happend,
                  List.append_assoc]
            | some i =>
                obtain ⟨inner, more, hmore, rfl⟩ := exists_of_closingOffset? hclose
                have hsplit : floorCalls (behind ++ rest) =
                    inner ++ ')' :: (more ++ floorCalls rest) := by
                  rw [happend, hmore]
                  simp
                rw [floorCalls_call hsplit (by rw [← hsplit, hscan, hclose]),
                  floorCalls_call hmore (by rw [← hmore, hclose])]
                simp
          · have hrest : ¬floorHead <+: c :: (cs ++ rest) := fun hp' =>
              hp (ha [] (c :: cs) rfl (by simp) hp')
            have hshort : cs.length < length := by simp [← hlen]
            rw [List.cons_append, floorCalls_cons hrest, floorCalls_cons hp, List.cons_append,
              ih cs.length hshort ha.of_cons
                (fun more hm => hs more (hm.trans (List.suffix_cons c cs))) rfl]

/-- The edit of the text ends where the text ends. -/
structure EditsApart (text : List Char) : Prop where
  balanced : Balanced (floorCalls text)
  append : ∀ {rest}, Apart text rest →
    floorCalls (text ++ rest) = floorCalls text ++ floorCalls rest

section

variable {inner : List Char} (h : EditsApart inner)

include h

theorem EditsApart.append_close (rest : List Char) :
    floorCalls (inner ++ ')' :: rest) = floorCalls inner ++ ')' :: floorCalls rest := by
  rw [h.append (apart_of_head (by decide) _ _), floorCalls_cons_of_ne (by decide)]

theorem EditsApart.group (rest : List Char) :
    floorCalls ('(' :: (inner ++ ')' :: rest)) =
      '(' :: (floorCalls inner ++ ')' :: floorCalls rest) := by
  rw [floorCalls_cons_of_ne (by decide), h.append_close]

/-- A floor call is edited, since its parenthesis closes behind the edited argument. -/
theorem EditsApart.floor (rest : List Char) :
    floorCalls (floorHead ++ (inner ++ ')' :: rest)) =
      '(' :: (floorCalls inner ++ (floorTail ++ floorCalls rest)) := by
  refine floorCalls_call (h.append_close rest) ?_
  have hparen := closingParen?_of_balanced h.balanced (floorCalls rest)
  rw [closingParen?, List.drop_zero] at hparen
  simpa using hparen

end

/-! ## Texts without quotes -/

/-- The text is balanced and has no quotes. -/
structure Paired (text : List Char) : Prop where
  balanced : Balanced text
  unquoted : ∀ c ∈ text, isQuote c = false

/-- Texts of ordinary characters, groups and floor calls. -/
inductive FloorText : List Char → Prop where
  | nil : FloorText []
  | char {c : Char} {cs : List Char} (hc : isOrdinary c = true) (hno : ¬floorHead <+: c :: cs)
    (h : FloorText cs) : FloorText (c :: cs)
  | group {inner rest : List Char} (h : FloorText inner) (h' : FloorText rest) :
    FloorText ('(' :: (inner ++ ')' :: rest))
  | floor {inner rest : List Char} (h : FloorText inner) (h' : FloorText rest) :
    FloorText (floorHead ++ (inner ++ ')' :: rest))

theorem FloorText.editsApart {text : List Char} (h : FloorText text) : EditsApart text := by
  -- both facts at once: a call is edited if its edited argument is balanced, and the edited text is
  -- balanced if its calls are edited
  induction h with
  | nil => exact ⟨.nil, fun _ => rfl⟩
  | @char c cs hc hno h ih =>
      refine ⟨?_, fun {rest} ha => ?_⟩
      · rw [floorCalls_cons hno]
        exact .char hc ih.balanced
      · have hrest : ¬floorHead <+: c :: (cs ++ rest) := fun hp =>
          hno (ha [] (c :: cs) rfl (by simp) hp)
        rw [List.cons_append, floorCalls_cons hrest, floorCalls_cons hno, ih.append ha.of_cons]
        rfl
  | @group inner tail h h' ih ih' =>
      refine ⟨?_, fun {rest} ha => ?_⟩
      · rw [ih.group]
        exact .group ih.balanced ih'.balanced
      · have htail : Apart tail rest := (ha.of_cons.of_append inner).of_cons
        rw [ih.group, List.cons_append, List.append_assoc, List.cons_append, ih.group,
          ih'.append htail]
        simp
  | @floor inner tail h h' ih ih' =>
      refine ⟨?_, fun {rest} ha => ?_⟩
      · rw [ih.floor]
        exact .group ih.balanced ((balanced_of_all (by decide)).append ih'.balanced)
      · -- the call closes before `rest`, and only its tail can reach into it
        have htail : Apart tail rest := ((ha.of_append floorHead).of_append inner).of_cons
        rw [ih.floor, List.append_assoc, List.append_assoc, List.cons_append, ih.floor,
          ih'.append htail]
        simp

/-! ### Parts of balanced texts -/

theorem Balanced.of_cons {c : Char} {cs : List Char} (h : Balanced (c :: cs))
    (hc : isOrdinary c = true) : Balanced cs := by
  obtain ⟨hquote, hopen, -⟩ := isOrdinary_iff.mp hc
  cases h with
  | char _ h => exact h
  | group => exact absurd rfl hopen
  | quoted hq => exact absurd hq (by simp [hquote])

theorem Balanced.of_append {front cs : List Char} (h : Balanced (front ++ cs))
    (hf : front.all isOrdinary = true) : Balanced cs := by
  induction front with
  | nil => exact h
  | cons c front ih =>
      obtain ⟨hc, hfront⟩ := Bool.and_eq_true_iff.mp hf
      exact ih (h.of_cons hc) hfront

theorem Balanced.exists_group {cs : List Char} (h : Balanced ('(' :: cs)) :
    ∃ inner rest, cs = inner ++ ')' :: rest ∧ Balanced inner ∧ Balanced rest := by
  cases h with
  | char hc => exact absurd hc (by decide)
  | group hi hr => exact ⟨_, _, rfl, hi, hr⟩
  | quoted hq => exact absurd hq (by decide)

theorem exists_eq_concat (front : List Char) {rest cs : List Char} {c d : Char}
    (h : cs ++ [c] = front ++ d :: rest) (hne : c ≠ d) :
    ∃ others, rest = others ++ [c] ∧ cs = front ++ d :: others := by
  rcases List.eq_nil_or_concat rest with rfl | ⟨others, e, rfl⟩
  · obtain ⟨-, hd⟩ := List.append_inj' h rfl
    exact absurd (List.cons.inj hd).1 hne
  · have hend : cs ++ [c] = (front ++ d :: others) ++ [e] := by simpa using h
    obtain ⟨hcs, he⟩ := List.append_inj' hend rfl
    exact ⟨others, by rw [he, List.concat_eq_append], hcs⟩

/-- An ordinary character at the end can be left out. -/
theorem Balanced.of_concat {cs : List Char} {c : Char} (h : Balanced (cs ++ [c]))
    (hc : isOrdinary c = true) : Balanced cs := by
  obtain ⟨hquote, -, hclose, -⟩ := isOrdinary_iff.mp hc
  generalize ht : cs ++ [c] = text at h
  induction h generalizing cs with
  | nil => simp at ht
  | @char d ds hd h ih =>
      cases cs with
      | nil => exact .nil
      | cons e es =>
          obtain ⟨rfl, hds⟩ := List.cons.inj ht
          exact .char hd (ih hds)
  | @group inner rest hi hr _ ih =>
      obtain ⟨others, hrest, rfl⟩ := exists_eq_concat ('(' :: inner) ht hclose
      exact .group hi (ih hrest.symm)
  | @quoted q body rest hq hb hr ih =>
      have hne : c ≠ q := (ne_of_isQuote hq hquote).symm
      obtain ⟨others, hrest, rfl⟩ := exists_eq_concat (q :: body) ht hne
      exact .quoted hq hb (ih hrest.symm)

theorem Balanced.of_append_right {cs behind : List Char} (h : Balanced (cs ++ behind))
    (hb : behind.all isOrdinary = true) : Balanced cs := by
  induction behind generalizing cs with
  | nil => rwa [List.append_nil] at h
  | cons c behind ih =>
      obtain ⟨hc, hbehind⟩ := Bool.and_eq_true_iff.mp hb
      rw [List.append_cons] at h
      exact (ih h hbehind).of_concat hc

/-! ### Editing paired texts -/

theorem Paired.floorText {text : List Char} (h : Paired text) : FloorText text := by
  obtain ⟨hb, hq⟩ := h
  induction hlen : text.length using Nat.strongRecOn generalizing text with
  | _ length ih =>
      cases hb with
      | nil => exact .nil
      | @char c cs hc h =>
          by_cases hp : floorHead <+: c :: cs
          · -- the floor call has an argument and a parenthesis that closes it
            obtain ⟨behind, hbehind⟩ := hp
            have hname : Balanced (floorName ++ '(' :: behind) := by
              have hall : floorName ++ '(' :: behind = c :: cs := hbehind
              rw [hall]
              exact .char hc h
            obtain ⟨inner, rest, rfl, hi, hr⟩ := (hname.of_append (by decide)).exists_group
            rw [← hbehind] at hq hlen ⊢
            simp only [List.length_append, List.length_cons] at hlen
            exact .floor (ih inner.length (by omega) hi (fun d hd => hq d (by simp [hd])) rfl)
              (ih rest.length (by omega) hr (fun d hd => hq d (by simp [hd])) rfl)
          · refine .char hc hp (ih cs.length ?_ h (fun d hd => hq d ?_) rfl)
            · simp [← hlen]
            · exact List.mem_cons_of_mem c hd
      | @group inner rest hi hr =>
          simp only [List.length_cons, List.length_append] at hlen
          exact .group (ih inner.length (by omega) hi (fun d hd => hq d (by simp [hd])) rfl)
            (ih rest.length (by omega) hr (fun d hd => hq d (by simp [hd])) rfl)
      | quoted hquote => exact absurd (hq _ List.mem_cons_self) (by simp [hquote])

theorem paired_of_all {text : List Char} (h : text.all isOrdinary = true) : Paired text :=
  ⟨balanced_of_all h, fun c hc => (isOrdinary_iff.mp (List.all_eq_true.mp h c hc)).1⟩

theorem Paired.append {text rest : List Char} (h : Paired text) (h' : Paired rest) :
    Paired (text ++ rest) where
  balanced := h.balanced.append h'.balanced
  unquoted := List.forall_mem_append.mpr ⟨h.unquoted, h'.unquoted⟩

theorem Paired.group {text : List Char} (h : Paired text) : Paired ('(' :: (text ++ [')'])) where
  balanced := h.balanced.parenthesized
  unquoted := by
    intro c hc
    simp only [List.mem_cons, List.mem_append, List.not_mem_nil, or_false] at hc
    rcases hc with rfl | hc | rfl
    · rfl
    · exact h.unquoted c hc
    · rfl

/-- **Texts are edited apart where no floor call reaches from one into the other.** -/
theorem Paired.floorCalls_append {text rest : List Char} (h : Paired text) (ha : Apart text rest) :
    floorCalls (text ++ rest) = floorCalls text ++ floorCalls rest :=
  h.floorText.editsApart.append ha

/-- Whether the text of what is called ends in the name of the floor function. -/
def endsInFloor (text : List Char) : Bool := floorName.isSuffixOf text

/-- The text without a name `Math.floor` at its end. -/
def withoutFloor (text : List Char) : List Char := text.take (text.length - floorName.length)

/-- What stands before the name of the floor function is edited apart. -/
theorem Paired.exists_front {callee : List Char} (h : Paired callee)
    (he : endsInFloor callee = true) :
    ∃ front, Paired front ∧ callee = front ++ floorName ∧
      floorCalls callee = floorCalls front ++ floorName := by
  obtain ⟨front, rfl⟩ := List.isSuffixOf_iff_suffix.mp he
  have hfront : Paired front :=
    ⟨h.balanced.of_append_right (by decide), fun c hm => h.unquoted c (by simp [hm])⟩
  exact ⟨front, hfront, rfl, hfront.floorCalls_append (apart_of_all (by decide) _)⟩

/-! ### Texts and their edits -/

/-- The text is paired and edited as given. -/
structure EditedTo (text edited : List Char) : Prop where
  paired : Paired text
  eq : floorCalls text = edited

theorem editedTo_of_all {text : List Char} (h : text.all isOrdinary = true) : EditedTo text text :=
  ⟨paired_of_all h, floorCalls_of_not_mem (not_mem_open_of_all h)⟩

theorem EditedTo.append {text edited rest edited' : List Char} (h : EditedTo text edited)
    (h' : EditedTo rest edited') (ha : Apart text rest) :
    EditedTo (text ++ rest) (edited ++ edited') := by
  refine ⟨h.paired.append h'.paired, ?_⟩
  rw [h.paired.floorCalls_append ha, h.eq, h'.eq]

theorem EditedTo.group {text edited : List Char} (h : EditedTo text edited) :
    EditedTo ('(' :: (text ++ [')'])) ('(' :: (edited ++ [')'])) := by
  refine ⟨h.paired.group, ?_⟩
  rw [h.paired.floorText.editsApart.group, h.eq]
  rfl

theorem EditedTo.brackets {text edited : List Char} (h : EditedTo text edited) :
    EditedTo ('[' :: (text ++ [']'])) ('[' :: (edited ++ [']'])) := by
  have hopen : EditedTo ['['] ['['] := editedTo_of_all (by decide)
  have hclose : EditedTo (text ++ [']']) (edited ++ [']']) :=
    h.append (editedTo_of_all (by decide)) (apart_of_all (by decide) _)
  exact hopen.append hclose (apart_of_last (by decide) [] _)

/-- **A call is edited exactly if the text of what is called ends in `Math.floor`.** -/
theorem EditedTo.call {callee edited arguments edited' : List Char} (hc : EditedTo callee edited)
    (ha : EditedTo arguments edited') :
    EditedTo (callee ++ '(' :: (arguments ++ [')']))
      (if endsInFloor callee then withoutFloor edited ++ '(' :: (edited' ++ floorTail)
        else edited ++ '(' :: (edited' ++ [')'])) := by
  refine ⟨hc.paired.append ha.paired.group, ?_⟩
  rw [← hc.eq, ← ha.eq]
  split
  · rename_i hends
    obtain ⟨front, hfront, rfl, hname⟩ := hc.paired.exists_front hends
    have hhead : front ++ floorName ++ '(' :: (arguments ++ [')']) =
        front ++ (floorHead ++ (arguments ++ [')'])) := by
      rw [floorHead_eq]
      simp
    have hapart : Apart front (floorHead ++ (arguments ++ [')'])) :=
      apart_of_head (by decide) _ _
    rw [hhead, hfront.floorCalls_append hapart, ha.paired.floorText.editsApart.floor, hname]
    simp [withoutFloor, floorCalls]
  · rename_i hends
    rw [endsInFloor, List.isSuffixOf_iff_suffix] at hends
    rw [hc.paired.floorCalls_append (apart_open hends _), ha.group.eq, ha.eq]

end EstreeEmitter.Passes
