import EstreeEmitter.Proofs.Passes.Steps

set_option autoImplicit false

/-! # Literals on a line of code

A line of code is made of plain text and quoted literals (`Part`). A reader of the line is outside
of the literals, inside one, or behind a backslash in one (`Place`). Behind a line of code it is
outside (`after_codeText`), and every text on one line that leads it outside is a line of code
(`exists_parts`). The quoted characters of a line determine its literals
(`literals_eq_of_flatten_eq`). -/

namespace EstreeEmitter.Passes

open Text

/-! ## Where a reader is -/

/-- Where a reader of a line of code is. -/
inductive Place where
  | outside
  /-- In a literal with these quotes. -/
  | inside (quote : Char) (h : isQuote quote = true)
  /-- In a literal, right behind a backslash. -/
  | hidden (quote : Char) (h : isQuote quote = true)

namespace Place

/-- The place behind a character. -/
def next : Place → Char → Place
  | .outside, c => if h : isQuote c = true then .inside c h else .outside
  | .inside q h, c => if c = q then .outside else if c = '\\' then .hidden q h else .inside q h
  | .hidden q h, _ => .inside q h

/-- The place behind a text. -/
def after (p : Place) (cs : List Char) : Place := cs.foldl next p

/-- The next character belongs to a literal. -/
def covers : Place → Char → Bool
  | .outside, c => isQuote c
  | .inside .., _ | .hidden .., _ => true

theorem after_append (p : Place) (cs ds : List Char) : p.after (cs ++ ds) = (p.after cs).after ds :=
  List.foldl_append

theorem after_cons (p : Place) (c : Char) (cs : List Char) :
    p.after (c :: cs) = (p.next c).after cs := rfl

theorem next_outside {c : Char} (h : isQuote c = false) : outside.next c = outside := by
  simp [next, h]

theorem after_outside_of_plain {cs : List Char} (h : ∀ c ∈ cs, isQuote c = false) :
    outside.after cs = outside := by
  induction cs with
  | nil => rfl
  | cons c cs ih =>
      rw [after_cons, next_outside (h c List.mem_cons_self)]
      exact ih fun d hd => h d (List.mem_cons_of_mem _ hd)

/-- A character that is no quote does not end a literal. -/
theorem next_ne_outside {p : Place} (h : p ≠ outside) {c : Char} (hc : isQuote c = false) :
    p.next c ≠ outside := by
  cases p with
  | outside => exact absurd rfl h
  | inside q hq =>
      have hne : c ≠ q := (ne_of_isQuote hq hc).symm
      rw [next, if_neg hne]
      split <;> simp
  | hidden q hq => simp [next]

theorem after_ne_outside {p : Place} (h : p ≠ outside) {cs : List Char}
    (hc : ∀ c ∈ cs, isQuote c = false) : p.after cs ≠ outside := by
  induction cs generalizing p with
  | nil => exact h
  | cons c cs ih =>
      rw [after_cons]
      exact ih (next_ne_outside h (hc c List.mem_cons_self))
        fun d hd => hc d (List.mem_cons_of_mem _ hd)

end Place

/-- The characters of a text that belong to literals, for a reader at a place. -/
def quotedChars : Place → List Char → List Char
  | _, [] => []
  | p, c :: cs => (if p.covers c then [c] else []) ++ quotedChars (p.next c) cs

theorem quotedChars_append (p : Place) (cs ds : List Char) :
    quotedChars p (cs ++ ds) = quotedChars p cs ++ quotedChars (p.after cs) ds := by
  induction cs generalizing p with
  | nil => rfl
  | cons c cs ih =>
      rw [List.cons_append, quotedChars, quotedChars, ih, List.append_assoc]
      rfl

theorem quotedChars_of_plain {cs : List Char} (h : ∀ c ∈ cs, isQuote c = false) :
    quotedChars .outside cs = [] := by
  induction cs with
  | nil => rfl
  | cons c cs ih =>
      have hc := h c List.mem_cons_self
      rw [quotedChars, Place.next_outside hc, ih fun d hd => h d (List.mem_cons_of_mem _ hd)]
      simp [Place.covers, hc]

/-! ## The parts of a line -/

section

variable {q : Char} {hq : isQuote q = true} {body : List Char}

theorem QuotedBody.after (h : QuotedBody q body) :
    (Place.inside q hq).after body = .inside q hq := by
  have hslash : '\\' ≠ q := (ne_of_isQuote hq rfl).symm
  induction h with
  | nil => rfl
  | char hcq hb hn h ih => rw [Place.after_cons, Place.next, if_neg hcq, if_neg hb, ih]
  | escape h ih =>
      -- the character behind a backslash cannot close the literal
      rw [Place.after_cons, Place.after_cons, Place.next, if_neg hslash, if_pos rfl]
      exact ih

theorem QuotedBody.quotedChars (h : QuotedBody q body) :
    quotedChars (.inside q hq) body = body := by
  have hslash : '\\' ≠ q := (ne_of_isQuote hq rfl).symm
  induction h with
  | nil => rfl
  | char hcq hb hn h ih =>
      rw [Passes.quotedChars, Place.next, if_neg hcq, if_neg hb, ih]
      rfl
  | escape h ih =>
      rw [Passes.quotedChars, Passes.quotedChars, Place.next, if_neg hslash, if_pos rfl,
        Place.next, ih]
      rfl

/-- Where a reader comes out of a literal, its body ends. -/
theorem exists_quotedBody {cs : List Char} (hn : '\n' ∉ cs) :
    ((Place.inside q hq).after cs = .outside →
      ∃ body rest, cs = body ++ q :: rest ∧ QuotedBody q body) ∧
    ((Place.hidden q hq).after cs = .outside →
      ∃ c body rest, cs = c :: (body ++ q :: rest) ∧ QuotedBody q body) := by
  induction cs with
  | nil => exact ⟨fun h => (by cases h), fun h => (by cases h)⟩
  | cons c cs ih =>
      obtain ⟨hc, hcs⟩ : '\n' ≠ c ∧ '\n' ∉ cs := by simpa using hn
      obtain ⟨hinside, hhidden⟩ := ih hcs
      constructor
      · intro h
        rw [Place.after_cons, Place.next] at h
        split at h
        · rename_i hcq
          exact ⟨[], cs, by rw [hcq]; rfl, .nil⟩
        · rename_i hcq
          split at h
          · rename_i hb
            obtain ⟨d, body, rest, rfl, hbody⟩ := hhidden h
            exact ⟨c :: d :: body, rest, rfl, hb ▸ .escape hbody⟩
          · rename_i hb
            obtain ⟨body, rest, rfl, hbody⟩ := hinside h
            exact ⟨c :: body, rest, rfl, .char hcq hb hc.symm hbody⟩
      · intro h
        obtain ⟨body, rest, rfl, hbody⟩ := hinside h
        exact ⟨c, body, rest, rfl, hbody⟩

/-- A literal ends at one place. -/
theorem QuotedBody.append_inj (h : QuotedBody q body) {body' rest rest' : List Char}
    (hq : isQuote q = true) (h' : QuotedBody q body') (hn : '\n' ∉ body) (hn' : '\n' ∉ body')
    (he : body ++ q :: rest = body' ++ q :: rest') : body = body' ∧ rest = rest' := by
  have hlen := quotedRest?_append hq h hn rest
  rw [he, quotedRest?_append hq h' hn'] at hlen
  obtain ⟨hb, hr⟩ := List.append_inj he (by simpa using hlen.symm)
  exact ⟨hb, (List.cons.inj hr).2⟩

end

theorem after_of_isQuotedLine {cs : List Char} (h : IsQuotedLine cs) :
    Place.outside.after cs = .outside := by
  obtain ⟨-, q, body, rfl, hq, hbody⟩ := h
  have hopen : Place.outside.next q = .inside q hq := dif_pos hq
  rw [Place.after_cons, hopen, Place.after_append, hbody.after]
  exact if_pos rfl

theorem quotedChars_of_isQuotedLine {cs : List Char} (h : IsQuotedLine cs) :
    quotedChars .outside cs = cs := by
  obtain ⟨-, q, body, rfl, hq, hbody⟩ := h
  have hopen : Place.outside.next q = .inside q hq := dif_pos hq
  rw [Passes.quotedChars, hopen, quotedChars_append, hbody.quotedChars, hbody.after]
  simp [Place.covers, hq, Passes.quotedChars]

/-- A part of a line of code: text without quotes, or a literal on one line. -/
inductive Part where
  | plain (text : List Char) (h : text.all (fun c => !isQuote c && c != '\n') = true)
  | literal (text : List Char) (h : IsQuotedLine text)

/-- The text of a part. -/
def Part.text : Part → List Char
  | .plain text _ => text
  | .literal text _ => text

/-- The text of a part that is a literal. -/
def Part.literal? : Part → Option (List Char)
  | .plain _ _ => none
  | .literal text _ => some text

/-- The text of a line of code. -/
def codeText (parts : List Part) : List Char := parts.flatMap Part.text

/-- The literals of a line of code. -/
def literalTexts (parts : List Part) : List (List Char) := parts.filterMap Part.literal?

theorem Part.plain_iff {text : List Char} :
    text.all (fun c => !isQuote c && c != '\n') = true ↔
      (∀ c ∈ text, isQuote c = false) ∧ '\n' ∉ text := by
  simp only [List.all_eq_true, Bool.and_eq_true, Bool.not_eq_true', bne_iff_ne]
  constructor
  · intro h
    exact ⟨fun c hc => (h c hc).1, fun hm => (h _ hm).2 rfl⟩
  · rintro ⟨hq, hn⟩ c hc
    exact ⟨hq c hc, fun he => hn (he ▸ hc)⟩

theorem after_codeText (parts : List Part) : Place.outside.after (codeText parts) = .outside := by
  induction parts with
  | nil => rfl
  | cons part parts ih =>
      rw [codeText, List.flatMap_cons, Place.after_append]
      cases part with
      | plain text h =>
          rw [Part.text, Place.after_outside_of_plain (Part.plain_iff.mp h).1]
          exact ih
      | literal text h =>
          rw [Part.text, after_of_isQuotedLine h]
          exact ih

theorem lineFeed_not_mem_codeText (parts : List Part) : '\n' ∉ codeText parts := by
  intro hm
  obtain ⟨part, -, hm⟩ := List.mem_flatMap.mp hm
  cases part with
  | plain text h => exact (Part.plain_iff.mp h).2 hm
  | literal text h => exact h.1 hm

theorem quotedChars_codeText (parts : List Part) :
    quotedChars .outside (codeText parts) = (literalTexts parts).flatten := by
  induction parts with
  | nil => rfl
  | cons part parts ih =>
      rw [codeText, List.flatMap_cons, quotedChars_append]
      cases part with
      | plain text h =>
          have hplain := (Part.plain_iff.mp h).1
          rw [Part.text, quotedChars_of_plain hplain, Place.after_outside_of_plain hplain]
          exact ih
      | literal text h =>
          rw [Part.text, quotedChars_of_isQuotedLine h, after_of_isQuotedLine h]
          exact congrArg (text ++ ·) ih

/-- A text on one line that a reader leaves outside of literals is a line of code. -/
theorem exists_parts {cs : List Char} (h : Place.outside.after cs = .outside) (hn : '\n' ∉ cs) :
    ∃ parts, cs = codeText parts := by
  induction hlen : cs.length using Nat.strong_induction_on generalizing cs with
  | _ length ih =>
      cases cs with
      | nil => exact ⟨[], rfl⟩
      | cons c cs =>
          obtain ⟨hc, hcs⟩ : '\n' ≠ c ∧ '\n' ∉ cs := by simpa using hn
          by_cases hq : isQuote c = true
          · have hopen : Place.outside.next c = .inside c hq := dif_pos hq
            rw [Place.after_cons, hopen] at h
            obtain ⟨body, rest, rfl, hbody⟩ := (exists_quotedBody hcs).1 h
            simp only [List.mem_append, List.mem_cons, not_or] at hcs
            rw [Place.after_append, hbody.after, Place.after_cons, Place.next, if_pos rfl] at h
            obtain ⟨parts, rfl⟩ := ih rest.length (by rw [← hlen]; simp; omega) h hcs.2.2 rfl
            have hline : '\n' ∉ c :: (body ++ [c]) := by simp [hc, hcs.1]
            exact ⟨.literal (c :: (body ++ [c])) ⟨hline, c, body, rfl, hq, hbody⟩ :: parts, by
              simp [codeText, Part.text]⟩
          · have hplain : isQuote c = false := by simpa using hq
            rw [Place.after_cons, Place.next_outside hplain] at h
            obtain ⟨parts, rfl⟩ := ih cs.length (by rw [← hlen]; simp) h hcs rfl
            exact ⟨.plain [c] (by simp [hplain, hc.symm]) :: parts, rfl⟩

/-- Literals one after the other are told apart. -/
theorem literals_eq_of_flatten_eq {texts texts' : List (List Char)}
    (h : ∀ t ∈ texts, IsQuotedLine t) (h' : ∀ t ∈ texts', IsQuotedLine t)
    (he : texts.flatten = texts'.flatten) : texts = texts' := by
  induction texts generalizing texts' with
  | nil =>
      cases texts' with
      | nil => rfl
      | cons t texts' =>
          obtain ⟨-, q, body, rfl, -⟩ := h' t List.mem_cons_self
          cases he
  | cons t texts ih =>
      obtain ⟨hn, q, body, rfl, hq, hbody⟩ := h t List.mem_cons_self
      cases texts' with
      | nil => cases he
      | cons t' texts' =>
          obtain ⟨hn', q', body', rfl, hq', hbody'⟩ := h' t' List.mem_cons_self
          have hcons : q :: (body ++ q :: texts.flatten) =
              q' :: (body' ++ q' :: texts'.flatten) := by simpa using he
          obtain ⟨rfl, hrest⟩ := List.cons.inj hcons
          simp only [List.mem_cons, List.mem_append, not_or] at hn hn'
          obtain ⟨rfl, hflat⟩ := hbody.append_inj hq hbody' hn.2.1 hn'.2.1 hrest
          rw [ih (fun t ht => h t (List.mem_cons_of_mem _ ht))
            (fun t ht => h' t (List.mem_cons_of_mem _ ht)) hflat]

theorem isQuotedLine_of_mem_literalTexts {parts : List Part} {text : List Char}
    (h : text ∈ literalTexts parts) : IsQuotedLine text := by
  obtain ⟨part, -, hp⟩ := List.mem_filterMap.mp h
  cases part with
  | plain => cases hp
  | literal text h =>
      cases hp
      exact h

end EstreeEmitter.Passes
