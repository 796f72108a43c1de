import EstreeEmitter.Emit.Leaf
import EstreeEmitter.Json.Reader
import EstreeEmitter.Proofs.Passes.Balanced

set_option autoImplicit false

/-! # Values in Ruby literals

`doubleBody?` reads a double-quoted Ruby literal by a table of its escapes. `rubyValue?` knows the
escapes of Ruby, and `literalValue?` only the few that are written here. A quoted value is escaped
twice: first as JSON text, then against interpolation, without a look at the backslashes that the
first step wrote. It is read back nevertheless, and its only unescaped quotes are the outer ones
(`literalValue?_quote`). -/

namespace EstreeEmitter

/-! ## Reading a literal -/

/-- The character that a backslash and a letter stand for. -/
def literalEscape? (c : Char) : Option Char :=
  if c == '\\' || c == '"' || c == '#' then some c
  else if c == 'n' then some '\n'
  else if c == 'r' then some '\r'
  else if c == 't' then some '\t'
  else if c == 'b' then some '\x08'
  else if c == 'f' then some '\x0c'
  else none

/-- The letters that only Ruby reads behind a backslash: bell, escape and space, and the marks of
control and meta characters. -/
def isRubyLetter (c : Char) : Bool :=
  c == 'a' || c == 'e' || c == 's' || c == 'c' || c == 'C' || c == 'M'

/-- The character that a backslash and another character stand for between double quotes. Escapes
that take in more characters are none of these. -/
def rubyEscape? (c : Char) : Option Char :=
  match literalEscape? c with
  | some d => some d
  | none =>
    if c == 'a' then some '\x07'
    else if c == 'e' then some '\x1b'
    else if c == 's' then some ' '
    else if c == 'v' then some '\x0b'
    else if c.isDigit || c == 'x' || c == 'u' || c == '\n' || isRubyLetter c then none
    else some c

/-- The character whose code point is written in digits of base sixteen. -/
def codeChar? (digits : List Char) : Option Char :=
  match Json.hexNumber? digits with
  | some n => if n.isValidChar then some (Char.ofNat n) else none
  | none => none

/-- What a literal in double quotes says from behind its first quote on, where `escape?` tells what
a backslash and a character stand for. The next unescaped quote must be its end. An interpolation is
no part of a value. -/
def doubleBody? (escape? : Char → Option Char) : List Char → Option (List Char)
  | [] => none
  | '"' :: rest => if rest.isEmpty then some [] else none
  | '\\' :: 'u' :: a :: b :: c :: d :: rest => do
    return (← codeChar? [a, b, c, d]) :: (← doubleBody? escape? rest)
  | '\\' :: e :: rest => do return (← escape? e) :: (← doubleBody? escape? rest)
  | c :: rest =>
    if c == '#' && rest.head?.any opensInterpolation then none
    else (doubleBody? escape? rest).map (c :: ·)

/-- What a literal in single quotes says from behind its first quote on. A backslash only escapes
the quote and itself. -/
def singleBody? : List Char → Option (List Char)
  | [] => none
  | '\\' :: '\\' :: rest => (singleBody? rest).map ('\\' :: ·)
  | '\\' :: '\'' :: rest => (singleBody? rest).map ('\'' :: ·)
  | c :: rest =>
    if c == '\'' then if rest.isEmpty then some [] else none
    else (singleBody? rest).map (c :: ·)

/-- The value of a double-quoted literal with few escapes. -/
def literalValue? : List Char → Option (List Char)
  | '"' :: rest => doubleBody? literalEscape? rest
  | _ => none

/-- The value of a Ruby literal by the rules of its quotes. -/
def rubyValue? : List Char → Option (List Char)
  | '"' :: rest => doubleBody? rubyEscape? rest
  | '\'' :: rest => singleBody? rest
  | _ => none

section

variable {escape? : Char → Option Char} {c e : Char} {rest : List Char}

theorem doubleBody?_cons (hq : c ≠ '"') (hb : c ≠ '\\')
    (hi : (c == '#' && rest.head?.any opensInterpolation) = false) :
    doubleBody? escape? (c :: rest) = (doubleBody? escape? rest).map (c :: ·) := by
  rw [doubleBody?.eq_5 escape? c rest hq (fun _ _ _ _ _ h => absurd h hb)
    (fun _ _ h => absurd h hb), if_neg (by simp [hi])]

theorem doubleBody?_escape (hu : e ≠ 'u') :
    doubleBody? escape? ('\\' :: e :: rest) =
      (escape? e).bind fun c => (doubleBody? escape? rest).map (c :: ·) := by
  rw [doubleBody?.eq_4 escape? e rest fun _ _ _ _ _ h _ => hu h]
  cases escape? e with
  | none => rfl
  | some c => cases doubleBody? escape? rest <;> rfl

theorem doubleBody?_code (hc : c.toNat < 0x20) :
    doubleBody? escape? (Json.unitEscape c.toNat ++ rest) =
      (doubleBody? escape? rest).map (c :: ·) := by
  have hall : ∀ n < 0x20, codeChar? (hexText 4 n) = some (Char.ofNat n) := by decide
  have hread := hall _ hc
  rw [Char.ofNat_toNat] at hread
  obtain ⟨x, y, z, w, hdigits⟩ : ∃ x y z w, hexText 4 c.toNat = [x, y, z, w] := ⟨_, _, _, _, rfl⟩
  rw [hdigits] at hread
  rw [Json.unitEscape, hdigits]
  show doubleBody? escape? ('\\' :: 'u' :: x :: y :: z :: w :: rest) = _
  rw [doubleBody?, hread]
  cases doubleBody? escape? rest <;> rfl

/-- An interpolation has no value. -/
theorem doubleBody?_interpolation (h : rest.head?.any opensInterpolation = true) :
    doubleBody? escape? ('#' :: rest) = none := by
  rw [doubleBody?.eq_5 escape? '#' rest (by decide) (fun _ _ _ _ _ h => by cases h)
    (fun _ _ h => by cases h)]
  simp [h]

/-- A reader that knows more escapes reads the same. -/
theorem doubleBody?_mono {more? : Char → Option Char}
    (hmore : ∀ e c, escape? e = some c → more? e = some c) {cs value : List Char}
    (h : doubleBody? escape? cs = some value) : doubleBody? more? cs = some value := by
  fun_induction doubleBody? escape? cs generalizing value with
  | case1 => cases h
  | case2 rest hend => simpa [doubleBody?, hend] using h
  | case3 => cases h
  | case4 a b c d rest ih =>
    obtain ⟨x, hx, h⟩ := Option.bind_eq_some_iff.mp h
    obtain ⟨w, hw, h⟩ := Option.bind_eq_some_iff.mp h
    rw [doubleBody?, hx, ih hw]
    exact h
  | case5 e rest hu ih =>
    obtain ⟨x, hx, h⟩ := Option.bind_eq_some_iff.mp h
    obtain ⟨w, hw, h⟩ := Option.bind_eq_some_iff.mp h
    rw [doubleBody?.eq_4 more? e rest hu, hmore e x hx, ih hw]
    exact h
  | case6 => cases h
  | case7 c rest hq hu hb hi ih =>
    obtain ⟨w, hw, rfl⟩ := Option.map_eq_some_iff.mp h
    rw [doubleBody?.eq_5 more? c rest hq hu hb, if_neg hi, ih hw]
    rfl

end

/-- Ruby reads the literals with few escapes. -/
theorem rubyValue?_of_literalValue? {text value : List Char} (h : literalValue? text = some value) :
    rubyValue? text = some value := by
  unfold literalValue? at h
  split at h
  · refine doubleBody?_mono (fun e c he => ?_) h
    rw [rubyEscape?, he]
  · cases h

/-- The character behind a text is escaped: right before it stands a backslash that is not escaped
itself. `escaped` tells it of the first character of the text. -/
def escapesNext : Bool → List Char → Bool
  | escaped, [] => escaped
  | escaped, c :: cs => escapesNext (c == '\\' && !escaped) cs

/-- No quote stands unescaped in the text, and no interpolation starts in it. -/
def isSealed : Bool → List Char → Bool
  | _, [] => true
  | escaped, c :: cs =>
    (escaped || c != '"' && !(c == '#' && cs.head?.any opensInterpolation)) &&
      isSealed (c == '\\' && !escaped) cs

/-- In a sealed text, a character that is not escaped is no quote and starts no interpolation. -/
theorem isSealed_at {escaped : Bool} {before rest : List Char} {c : Char}
    (h : isSealed escaped (before ++ c :: rest) = true) (hb : escapesNext escaped before = false) :
    c ≠ '"' ∧ (c == '#' && rest.head?.any opensInterpolation) = false := by
  induction before generalizing escaped with
  | nil =>
      have he : escaped = false := hb
      subst he
      simp only [List.nil_append, isSealed, Bool.false_or, Bool.and_eq_true, bne_iff_ne,
        Bool.not_eq_true'] at h
      exact h.1
  | cons d before ih =>
      rw [List.cons_append, isSealed, Bool.and_eq_true] at h
      exact ih h.2 hb

/-! ## The characters of a quoted value -/

/-- The characters of a value between the quotes of a literal. -/
def literalChars : List Char → List Char
  | [] => []
  | c :: cs =>
    (if c == '#' && cs.head?.any opensInterpolation then ['\\', '#'] else Json.quoteChar false c) ++
      literalChars cs

/-- How a character is written in a literal: by itself, with a letter behind a backslash, or by its
code point. `opens` tells that the next character would make a number sign an interpolation. -/
inductive Spelled (c : Char) (opens : Bool) : List Char → Prop where
  | plain (hq : c ≠ '"') (hb : c ≠ '\\') (hn : c ≠ '\n') (hi : (c == '#' && opens) = false) :
    Spelled c opens [c]
  | letter {e : Char} (he : literalEscape? e = some c) (hu : e ≠ 'u') : Spelled c opens ['\\', e]
  | code (hc : c.toNat < 0x20) : Spelled c opens (Json.unitEscape c.toNat)

theorem spelled_ite {c : Char} {opens : Bool} {p : Prop} [Decidable p] {cs ds : List Char}
    (h : p → Spelled c opens cs) (h' : ¬p → Spelled c opens ds) :
    Spelled c opens (if p then cs else ds) := by
  split
  · exact h ‹_›
  · exact h' ‹_›

/-- JSON text spells every character, if no interpolation starts with it. -/
theorem spelled_quoteChar {c : Char} {opens : Bool} (hi : (c == '#' && opens) = false) :
    Spelled c opens (Json.quoteChar false c) := by
  have hpair : ∀ {d e : Char}, literalEscape? e = some d → e ≠ 'u' → (c == d) = true →
      Spelled c opens ['\\', e] := by
    intro d e he hu hc
    rw [eq_of_beq hc]
    exact .letter he hu
  -- the quote and the backslash, the short escapes, the controls, and all the rest
  refine spelled_ite (hpair rfl (by decide)) fun hquote => spelled_ite (hpair rfl (by decide))
    fun hslash => spelled_ite (hpair rfl (by decide)) fun hline => ?_
  refine spelled_ite (hpair rfl (by decide)) fun _ => spelled_ite (hpair rfl (by decide)) fun _ =>
    spelled_ite (hpair rfl (by decide)) fun _ => spelled_ite (hpair rfl (by decide)) fun _ => ?_
  refine spelled_ite .code fun _ => spelled_ite (fun h => ?_) fun _ => ?_
  · cases h
  · exact .plain (by simpa using hquote) (by simpa using hslash) (by simpa using hline) hi

/-- JSON text spells a character where no interpolation can start. -/
theorem spelled_quoteChar_alone (c : Char) : Spelled c false (Json.quoteChar false c) :=
  spelled_quoteChar (Bool.and_false _)

/-- The number sign of an interpolation gets a backslash, and then every character is spelled. -/
theorem exists_spelled (c : Char) (cs : List Char) :
    ∃ text, literalChars (c :: cs) = text ++ literalChars cs ∧
      Spelled c (cs.head?.any opensInterpolation) text := by
  by_cases h : (c == '#' && cs.head?.any opensInterpolation) = true
  · have hc : c = '#' := eq_of_beq (Bool.and_eq_true_iff.mp h).1
    refine ⟨['\\', '#'], by rw [literalChars, if_pos h], ?_⟩
    rw [hc]
    exact .letter rfl (by decide)
  · exact ⟨_, by rw [literalChars, if_neg h], spelled_quoteChar (by simpa using h)⟩

/-! ## Spellings one by one -/

section

variable {c : Char} {opens : Bool} {cs rest : List Char}

/-- A spelling is read as what it spells. -/
theorem Spelled.doubleBody?_append (h : Spelled c opens cs)
    (ho : rest.head?.any opensInterpolation = opens) :
    doubleBody? literalEscape? (cs ++ rest) = (doubleBody? literalEscape? rest).map (c :: ·) := by
  subst ho
  cases h with
  | plain hq hb hn hi => exact doubleBody?_cons hq hb hi
  | letter he hu =>
      rw [List.cons_append, List.singleton_append, doubleBody?_escape hu, he]
      rfl
  | code hn => exact doubleBody?_code hn

theorem escapesNext_cons (hb : c ≠ '\\') (rest : List Char) :
    escapesNext false (c :: rest) = escapesNext false rest := by
  rw [escapesNext, beq_false_of_ne hb, Bool.false_and]

theorem isSealed_cons (hq : c ≠ '"') (hb : c ≠ '\\')
    (hi : (c == '#' && rest.head?.any opensInterpolation) = false) :
    isSealed false (c :: rest) = isSealed false rest := by
  rw [isSealed, hi, beq_false_of_ne hb, bne_iff_ne.mpr hq]
  rfl

/-- Characters that are no marks of a literal are passed over. -/
theorem unmarked_append (h : ∀ d ∈ cs, d ≠ '"' ∧ d ≠ '\\' ∧ d ≠ '#') (rest : List Char) :
    escapesNext false (cs ++ rest) = escapesNext false rest ∧
      isSealed false (cs ++ rest) = isSealed false rest := by
  induction cs with
  | nil => exact ⟨rfl, rfl⟩
  | cons d ds ih =>
      obtain ⟨hq, hb, hs⟩ := h d List.mem_cons_self
      obtain ⟨hescapes, hseals⟩ := ih fun e he => h e (List.mem_cons_of_mem d he)
      rw [List.cons_append, escapesNext_cons hb, isSealed_cons hq hb (by simp [hs])]
      exact ⟨hescapes, hseals⟩

theorem hexText_unmarked {n : Nat} (h : n < 0x20) :
    ∀ d ∈ hexText 4 n, d ≠ '"' ∧ d ≠ '\\' ∧ d ≠ '#' := by
  have hall : ∀ n < 0x20,
      (hexText 4 n).all (fun d => d != '"' && (d != '\\' && d != '#')) = true := by decide
  intro d hd
  simpa using List.all_eq_true.mp (hall n h) d hd

/-- Behind a spelling nothing is escaped. -/
theorem Spelled.escapesNext_append (h : Spelled c opens cs) (rest : List Char) :
    escapesNext false (cs ++ rest) = escapesNext false rest := by
  cases h with
  | plain hq hb hn hi => exact escapesNext_cons hb rest
  | letter he hu => simp [escapesNext]
  | code hn => exact (unmarked_append (hexText_unmarked hn) rest).1

theorem Spelled.isSealed_append (h : Spelled c opens cs)
    (ho : rest.head?.any opensInterpolation = opens) :
    isSealed false (cs ++ rest) = isSealed false rest := by
  subst ho
  cases h with
  | plain hq hb hn hi => exact isSealed_cons hq hb hi
  | letter he hu => simp [isSealed]
  | code hn => exact (unmarked_append (hexText_unmarked hn) rest).2

/-- The character that makes an interpolation is written by itself, and no other spelling starts
like it. -/
theorem Spelled.any_head? (h : Spelled c opens cs) (rest : List Char) :
    (cs ++ rest).head?.any opensInterpolation = opensInterpolation c := by
  cases h with
  | plain => rfl
  | @letter e he hu =>
      have hletter : ∀ d, literalEscape? e = some d → opensInterpolation d = false := by
        unfold literalEscape?
        intro d hd
        split at hd
        · rename_i h
          rw [← Option.some.inj hd]
          simp only [Bool.or_eq_true, beq_iff_eq] at h
          rcases h with (rfl | rfl) | rfl <;> rfl
        · repeat' split at hd
          all_goals cases hd
          all_goals rfl
      rw [hletter c he]
      rfl
  | code hn =>
      have hall : ∀ n < 0x20, opensInterpolation (Char.ofNat n) = false := by decide
      have hc := hall _ hn
      rw [Char.ofNat_toNat] at hc
      rw [hc]
      rfl

end

/-- A spelling stands on one line. -/
theorem Spelled.lineFeed_not_mem {c : Char} {opens : Bool} {cs : List Char}
    (h : Spelled c opens cs) : '\n' ∉ cs := by
  have hcodes : ∀ n < 0x20, '\n' ∉ Json.unitEscape n := by decide +kernel
  cases h with
  | plain hq hb hn hi => simpa using hn.symm
  | @letter e he hu =>
      have hne : e ≠ '\n' := by
        rintro rfl
        cases he
      simpa using hne.symm
  | code hc => exact hcodes _ hc

/-! ## Whole values -/

theorem any_head?_literalChars (cs : List Char) :
    (literalChars cs ++ ['"']).head?.any opensInterpolation = cs.head?.any opensInterpolation := by
  cases cs with
  | nil => rfl
  | cons c cs =>
      obtain ⟨text, htext, hs⟩ := exists_spelled c cs
      rw [htext, List.append_assoc, hs.any_head?]
      rfl

theorem doubleBody?_literalChars (cs : List Char) :
    doubleBody? literalEscape? (literalChars cs ++ ['"']) = some cs := by
  induction cs with
  | nil => rfl
  | cons c cs ih =>
      obtain ⟨text, htext, hs⟩ := exists_spelled c cs
      rw [htext, List.append_assoc, hs.doubleBody?_append (any_head?_literalChars cs), ih]
      rfl

theorem escapesNext_literalChars (cs : List Char) :
    escapesNext false (literalChars cs) = false := by
  induction cs with
  | nil => rfl
  | cons c cs ih =>
      obtain ⟨text, htext, hs⟩ := exists_spelled c cs
      rw [htext, hs.escapesNext_append, ih]

theorem isSealed_literalChars (cs : List Char) : isSealed false (literalChars cs) = true := by
  induction cs with
  | nil => rfl
  | cons c cs ih =>
      obtain ⟨text, htext, hs⟩ := exists_spelled c cs
      have ho : (literalChars cs).head?.any opensInterpolation =
          cs.head?.any opensInterpolation := by
        rw [← any_head?_literalChars cs]
        cases literalChars cs <;> rfl
      rw [htext, hs.isSealed_append ho, ih]

/-! ## Both escapes together -/

theorem escapeInterpolation_cons_eq (c : Char) (cs : List Char) :
    escapeInterpolation (c :: cs) =
      (if c == '#' && cs.head?.any opensInterpolation then ['\\', '#'] else [c]) ++
        escapeInterpolation cs := by
  cases cs with
  | nil => simp [escapeInterpolation]
  | cons d ds =>
      show (if c == '#' && opensInterpolation d then _ else _) =
        (if c == '#' && opensInterpolation d then ['\\', '#'] else [c]) ++ _
      split <;> rfl

/-- Only a number sign is spelled with one. -/
theorem Spelled.sign_not_mem {c : Char} {opens : Bool} {cs : List Char} (h : Spelled c opens cs)
    (hc : c ≠ '#') : '#' ∉ cs := by
  have hcodes : ∀ n < 0x20, '#' ∉ Json.unitEscape n := by decide
  cases h with
  | plain => simpa using hc.symm
  | @letter e he =>
      have hne : e ≠ '#' := by
        rintro rfl
        exact hc (Option.some.inj he).symm
      simpa using hne.symm
  | code hn => exact hcodes _ hn

theorem escapeInterpolation_append {cs : List Char} (h : '#' ∉ cs) (rest : List Char) :
    escapeInterpolation (cs ++ rest) = cs ++ escapeInterpolation rest := by
  induction cs with
  | nil => rfl
  | cons c cs ih =>
      obtain ⟨hc, hcs⟩ : '#' ≠ c ∧ '#' ∉ cs := by simpa using h
      rw [List.cons_append, Passes.escapeInterpolation_cons_of_ne hc.symm, ih hcs]
      rfl

/-- The second escape sees the number signs of the value, and before the same characters. -/
theorem escapeInterpolation_quoteChars (cs : List Char) :
    escapeInterpolation (cs.flatMap (Json.quoteChar false) ++ ['"']) =
      literalChars cs ++ ['"'] := by
  induction cs with
  | nil => rfl
  | cons c cs ih =>
      rw [List.flatMap_cons, List.append_assoc, literalChars, List.append_assoc]
      by_cases hc : c = '#'
      · subst hc
        have hhead : (cs.flatMap (Json.quoteChar false) ++ ['"']).head?.any opensInterpolation =
            cs.head?.any opensInterpolation := by
          cases cs with
          | nil => rfl
          | cons d ds =>
              rw [List.flatMap_cons, List.append_assoc,
                (spelled_quoteChar_alone d).any_head?]
              rfl
        have hsign : Json.quoteChar false '#' = ['#'] := by decide
        rw [hsign, List.singleton_append, escapeInterpolation_cons_eq, hhead, ih]
      · rw [escapeInterpolation_append ((spelled_quoteChar_alone c).sign_not_mem hc), ih,
          beq_false_of_ne hc]
        rfl

/-- A quoted value is its characters in double quotes. -/
theorem quote_ruby_str (s : String) :
    Dialect.ruby.quote (.str s) = .ok ('"' :: (literalChars s.toList ++ ['"'])) := by
  have hquote : escapeInterpolation (Json.quote false s.toList) =
      '"' :: (literalChars s.toList ++ ['"']) := by
    rw [Json.quote, List.cons_append, Passes.escapeInterpolation_cons_of_ne (by decide),
      escapeInterpolation_quoteChars]
  rw [← hquote]
  rfl

/-- A place in a text with one more character at the end is that character or lies before it. -/
theorem eq_append_cons_of_concat {text before rest : List Char} {c d : Char}
    (h : text ++ [d] = before ++ c :: rest) :
    rest = [] ∧ text = before ∧ c = d ∨
      ∃ more, rest = more ++ [d] ∧ text = before ++ c :: more := by
  rcases List.eq_nil_or_concat rest with rfl | ⟨more, e, rfl⟩
  · obtain ⟨htext, hd⟩ := List.append_inj' h rfl
    exact .inl ⟨rfl, htext, (List.singleton_inj.mp hd).symm⟩
  · have h' : text ++ [d] = (before ++ c :: more) ++ [e] := by simpa using h
    obtain ⟨htext, hd⟩ := List.append_inj' h' rfl
    rw [List.singleton_inj.mp hd]
    exact .inr ⟨more, List.concat_eq_append, htext⟩

/-! ## Escaped marks -/

/-- In a literal, a quote is unescaped exactly if it is the first or the last character, provided
that those between are escaped and that the last one is not. -/
theorem escapesNext_quote_iff {q : Char} {body before rest : List Char} (hq : q ≠ '\\')
    (hbody : ∀ before rest, body = before ++ q :: rest → escapesNext false before = true)
    (hend : escapesNext false body = false) (h : q :: (body ++ [q]) = before ++ q :: rest) :
    escapesNext false before = false ↔ before = [] ∨ rest = [] := by
  rcases List.cons_eq_append_iff.mp h with ⟨rfl, -⟩ | ⟨before, rfl, htail⟩
  · exact ⟨fun _ => .inl rfl, fun _ => rfl⟩
  · rw [escapesNext_cons hq]
    rcases eq_append_cons_of_concat htail with ⟨rfl, htext, -⟩ | ⟨more, rfl, htext⟩
    · rw [← htext, hend]
      exact ⟨fun _ => .inr rfl, fun _ => rfl⟩
    · rw [hbody before more htext]
      simp

/-- In a literal, a number sign that could start an interpolation is escaped, provided that those
between the quotes are; the last quote opens nothing. -/
theorem escapesNext_sign {body before rest : List Char} {c : Char}
    (hbody : ∀ before rest, body = before ++ '#' :: rest →
      rest.head?.any opensInterpolation = true → escapesNext false before = true)
    (h : '"' :: (body ++ ['"']) = before ++ '#' :: c :: rest) (hc : opensInterpolation c = true) :
    escapesNext false before = true := by
  rcases List.cons_eq_append_iff.mp h with ⟨-, hnil⟩ | ⟨before, rfl, htail⟩
  · cases hnil
  · rw [escapesNext_cons (by decide)]
    rcases eq_append_cons_of_concat htail with ⟨hnil, -⟩ | ⟨more, hmore, htext⟩
    · cases hnil
    · refine hbody before more htext ?_
      cases more with
      | nil =>
          cases hmore
          cases hc
      | cons d more =>
          cases hmore
          exact hc

/-- A number sign that could start an interpolation is escaped. -/
theorem escapesNext_of_interpolation {cs before rest : List Char} {c : Char}
    (h : '"' :: (literalChars cs ++ ['"']) = before ++ '#' :: c :: rest)
    (hc : opensInterpolation c = true) : escapesNext false before = true := by
  refine escapesNext_sign (fun before rest htext hopens => eq_true_of_ne_false fun hb => ?_) h hc
  have hsealed := isSealed_literalChars cs
  rw [htext] at hsealed
  have hsign := (isSealed_at hsealed hb).2
  rw [hopens] at hsign
  cases hsign

/-- The unescaped quotes are the outer ones. -/
theorem escapesNext_of_quote {cs before rest : List Char}
    (h : '"' :: (literalChars cs ++ ['"']) = before ++ '"' :: rest) :
    escapesNext false before = false ↔ before = [] ∨ rest = [] := by
  refine escapesNext_quote_iff (by decide)
    (fun before rest htext => eq_true_of_ne_false fun hb => ?_) (escapesNext_literalChars cs) h
  have hsealed := isSealed_literalChars cs
  rw [htext] at hsealed
  exact (isSealed_at hsealed hb).1 rfl

/-- **Values survive quoting.** For every text there is a Ruby literal that is read back as the
text, and no more than the escapes of `literalEscape?` and of code points are needed for it. A
number sign before a brace, a dollar or an at sign is escaped in it, so that no interpolation
starts, and a double quote in it is unescaped exactly if it is the first or the last character. -/
theorem literalValue?_quote (s : String) :
    ∃ text, Dialect.ruby.quote (.str s) = .ok text ∧ literalValue? text = some s.toList ∧
      rubyValue? text = some s.toList ∧
      (∀ before c rest, text = before ++ '#' :: c :: rest → opensInterpolation c = true →
        escapesNext false before = true) ∧
      ∀ before rest, text = before ++ '"' :: rest →
        (escapesNext false before = false ↔ before = [] ∨ rest = []) := by
  have hvalue : literalValue? ('"' :: (literalChars s.toList ++ ['"'])) = some s.toList :=
    doubleBody?_literalChars s.toList
  refine ⟨_, quote_ruby_str s, hvalue, rubyValue?_of_literalValue? hvalue, ?_, ?_⟩
  · intro before c rest htext hc
    exact escapesNext_of_interpolation htext hc
  · intro before rest htext
    exact escapesNext_of_quote htext

/-- A value with a backslash and a quote before number signs. -/
example : (Dialect.ruby.quote (.str "\\#\x7bx\x7d \"#$y# ")).toOption =
    some "\"\\\\\\#\x7bx\x7d \\\"\\#$y# \"".toList := by
  decide

end EstreeEmitter
