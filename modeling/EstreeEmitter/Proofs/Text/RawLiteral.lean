import EstreeEmitter.Proofs.Printer.Expression
import EstreeEmitter.Proofs.Text.RubyLiteral

set_option autoImplicit false

/-! # Raw literals in Ruby

The raw text of a string literal is written as the document gives it, so it is read by the rules of
two languages. `scriptValue?` reads it as JavaScript and `rubyValue?` as Ruby, where the quotes
decide which escapes there are. Both give the same value exactly if every escape in the text is one
that means the same in Ruby (`rubyValue?_generate_iff`): in single quotes these are two escapes
only, and in double quotes an escaped number sign must not stand before a character that makes it an
interpolation, since it gets a backslash of its own there. -/

namespace EstreeEmitter

open Passes

/-! ## JavaScript literals -/

/-- A character that ends a line of JavaScript. -/
def isScriptLineEnd (c : Char) : Bool :=
  c == '\n' || c == '\r' || c == '\u2028' || c == '\u2029'

/-- The character that a backslash and another character stand for in JavaScript: a control
character, or else the character itself. A digit, `x` and `u` take in more characters, and the end
of a line is no part of the value; these are not read. -/
def scriptEscape? (c : Char) : Option Char :=
  if c == 'n' then some '\n'
  else if c == 'r' then some '\r'
  else if c == 't' then some '\t'
  else if c == 'b' then some '\x08'
  else if c == 'f' then some '\x0c'
  else if c == 'v' then some '\x0b'
  else if c.isDigit || c == 'x' || c == 'u' || isScriptLineEnd c then none
  else some c

/-- What a JavaScript literal in the quotes `q` says from behind its first quote on. The next
unescaped quote must be its end, and it stands on one line. -/
def scriptBody? (q : Char) : List Char → Option (List Char)
  | [] => none
  | '\\' :: e :: rest => do return (← scriptEscape? e) :: (← scriptBody? q rest)
  | c :: rest =>
    if c == q then if rest.isEmpty then some [] else none
    else if c == '\\' || c == '\n' || c == '\r' then none
    else (scriptBody? q rest).map (c :: ·)

/-- The value of a JavaScript literal in single or double quotes. -/
def scriptValue? : List Char → Option (List Char)
  | [] => none
  | q :: rest => if isQuote q then scriptBody? q rest else none

/-! ## Escapes with one meaning -/

/-- A backslash before the character means the same in Ruby between the quotes `q`, if the text goes
on with `rest`. -/
def keepsEscape (q e : Char) (rest : List Char) : Bool :=
  if q == '\'' then e == '\\' || e == '\''
  else !isRubyLetter e && !(e == '#' && rest.head?.any opensInterpolation)

/-- All escapes of a text between the quotes `q` mean the same in Ruby. -/
def keepsEscapes (q : Char) : List Char → Bool
  | [] => true
  | '\\' :: e :: rest => keepsEscape q e rest && keepsEscapes q rest
  | _ :: rest => keepsEscapes q rest

/-- The text of a literal has only escapes that mean the same in Ruby. -/
def isRubyAlike : List Char → Bool
  | [] => false
  | q :: rest => keepsEscapes q rest

/-- The characters that one of the languages does not read by themselves, or that a rule of its own
names. -/
def escapeLetters : List Char :=
  ['n', 'r', 't', 'b', 'f', 'v', 'a', 'e', 's', 'c', 'C', 'M', '\\', '"', '#']

/-- A letter of Ruby alone is what makes an escape of JavaScript mean something else in double
quotes. -/
theorem rubyEscape?_eq_iff {e d : Char} (h : scriptEscape? e = some d) :
    rubyEscape? e = some d ↔ isRubyLetter e = false := by
  by_cases he : e ∈ escapeLetters
  · have hall : (escapeLetters.all fun e =>
        decide (rubyEscape? e = scriptEscape? e ↔ isRubyLetter e = false)) = true := by decide
    rw [← h]
    exact of_decide_eq_true (List.all_eq_true.mp hall e he)
  · -- any other character stands for itself in both languages
    simp only [escapeLetters, List.mem_cons, List.not_mem_nil, or_false, not_or] at he
    simp [scriptEscape?, isScriptLineEnd, he] at h
    obtain ⟨h, rfl⟩ := h
    simp [rubyEscape?, literalEscape?, isRubyLetter, he, h]

/-- Only an escaped backslash says a backslash. -/
theorem eq_of_scriptEscape?_backslash {e : Char} (h : scriptEscape? e = some '\\') : e = '\\' := by
  unfold scriptEscape? at h
  repeat' split at h
  all_goals cases h
  rfl

/-- The escape against interpolation leaves the first character as it is, or puts a backslash before
a number sign; neither makes an interpolation of a number sign before the text. -/
theorem any_head?_escapeInterpolation (cs : List Char) :
    (escapeInterpolation cs).head?.any opensInterpolation = cs.head?.any opensInterpolation := by
  cases cs with
  | nil => rfl
  | cons c cs =>
      rcases escapeInterpolation_cons c cs with h | ⟨rfl, h⟩
      · rw [h]
        rfl
      · rw [h]
        rfl

/-! ## Escapes and other characters one by one -/

section

variable {c e d : Char} {rest value : List Char}

/-- A character that is not escaped is read as itself; a number sign is escaped where it has to
be. -/
theorem doubleBody?_plain (hq : c ≠ '"') (hb : c ≠ '\\') :
    doubleBody? rubyEscape? (escapeInterpolation (c :: rest)) =
      (doubleBody? rubyEscape? (escapeInterpolation rest)).map (c :: ·) := by
  rw [escapeInterpolation_cons_eq]
  by_cases hi : (c == '#' && rest.head?.any opensInterpolation) = true
  · rw [if_pos hi, eq_of_beq (Bool.and_eq_true_iff.mp hi).1]
    exact doubleBody?_escape (by decide)
  · rw [if_neg hi, List.singleton_append]
    refine doubleBody?_cons hq hb ?_
    rw [any_head?_escapeInterpolation]
    exact eq_false_of_ne_true hi

/-- An escaped character keeps its meaning in double quotes, or what is read differs. -/
theorem doubleBody?_escaped_iff (hd : scriptEscape? e = some d) :
    doubleBody? rubyEscape? (escapeInterpolation ('\\' :: e :: rest)) = some (d :: value) ↔
      keepsEscape '"' e rest = true ∧
        doubleBody? rubyEscape? (escapeInterpolation rest) = some value := by
  rw [keepsEscape, if_neg (by decide), escapeInterpolation_cons_of_ne (by decide),
    escapeInterpolation_cons_eq]
  by_cases hi : (e == '#' && rest.head?.any opensInterpolation) = true
  · -- the two backslashes make one character, and the number sign is bare
    have hopens : (escapeInterpolation rest).head?.any opensInterpolation = true := by
      rw [any_head?_escapeInterpolation]
      exact (Bool.and_eq_true_iff.mp hi).2
    rw [if_pos hi, hi]
    simp [doubleBody?_escape, doubleBody?_interpolation hopens]
  · have hu : e ≠ 'u' := by
      rintro rfl
      cases hd
    rw [if_neg hi, List.singleton_append, doubleBody?_escape hu, eq_false_of_ne_true hi]
    have hescape := rubyEscape?_eq_iff hd
    cases hr : rubyEscape? e with
    | none =>
        have hletter : isRubyLetter e = true := by simpa [hr] using hescape
        simp [hletter]
    | some d' =>
        have hsame : d' = d ↔ isRubyLetter e = false := by
          rw [← hescape, hr, Option.some.injEq]
        simpa [Option.map_eq_some_iff, hsame] using and_comm

theorem singleBody?_plain (hq : c ≠ '\'') (hb : c ≠ '\\') :
    singleBody? (c :: rest) = (singleBody? rest).map (c :: ·) := by
  rw [singleBody?.eq_4 c rest (fun _ h _ => hb h) fun _ h _ => hb h, if_neg (by simpa using hq)]

/-- In single quotes a backslash before another character is one more character of the value. -/
theorem singleBody?_escaped_iff (hd : scriptEscape? e = some d) :
    singleBody? ('\\' :: e :: rest) = some (d :: value) ↔
      keepsEscape '\'' e rest = true ∧ singleBody? rest = some value := by
  by_cases he : e ∈ ['\\', '\'']
  · rcases (by simpa using he : e = '\\' ∨ e = '\'') with rfl | rfl
    · cases hd
      simp [singleBody?, keepsEscape, Option.map_eq_some_iff]
    · cases hd
      simp [singleBody?, keepsEscape, Option.map_eq_some_iff]
  · -- the backslash itself is read, which no other escape stands for
    obtain ⟨hb, hq⟩ : e ≠ '\\' ∧ e ≠ '\'' := by simpa using he
    have hne : d ≠ '\\' := fun h => hb (eq_of_scriptEscape?_backslash (h ▸ hd))
    rw [singleBody?.eq_4 '\\' (e :: rest) (fun _ _ h => hb (List.cons.inj h).1)
      fun _ _ h => hq (List.cons.inj h).1]
    simp [keepsEscape, hb, hq, hne.symm, Option.map_eq_some_iff]

end

/-! ## Whole literals -/

/-- A reader that takes the characters of a JavaScript literal by themselves and its escapes only if
they mean the same gives the value of the literal exactly if all its escapes do. -/
theorem read_eq_some_iff {q : Char} {read : List Char → Option (List Char)}
    (hend : read [q] = some [])
    (hplain : ∀ c rest, c ≠ q → c ≠ '\\' → read (c :: rest) = (read rest).map (c :: ·))
    (hescape : ∀ e d rest value, scriptEscape? e = some d →
      (read ('\\' :: e :: rest) = some (d :: value) ↔
        keepsEscape q e rest = true ∧ read rest = some value))
    {body value : List Char} (h : scriptBody? q body = some value) :
    read body = some value ↔ keepsEscapes q body = true := by
  fun_induction scriptBody? q body generalizing value with
  | case1 => cases h
  | case2 e rest ih =>
      obtain ⟨d, hd, h⟩ := Option.bind_eq_some_iff.mp h
      obtain ⟨w, hw, h⟩ := Option.bind_eq_some_iff.mp h
      cases h
      rw [hescape e d rest w hd, ih hw, keepsEscapes, Bool.and_eq_true]
  | case3 c rest hb hc hrest =>
      cases h
      rw [eq_of_beq hc, List.isEmpty_iff.mp hrest, hend]
      simp [keepsEscapes]
  | case4 => cases h
  | case5 => cases h
  | case6 c rest hb hc hn ih =>
      obtain ⟨w, hw, rfl⟩ := Option.map_eq_some_iff.mp h
      have hslash : c ≠ '\\' := by
        rintro rfl
        exact hn rfl
      rw [hplain c rest (by simpa using hc) hslash, keepsEscapes.eq_3 q c rest hb, ← ih hw]
      simp [Option.map_eq_some_iff]

theorem doubleBody?_eq_some_iff {body value : List Char} (h : scriptBody? '"' body = some value) :
    doubleBody? rubyEscape? (escapeInterpolation body) = some value ↔
      keepsEscapes '"' body = true :=
  @read_eq_some_iff '"' (fun body => doubleBody? rubyEscape? (escapeInterpolation body)) rfl
    (fun _ _ => doubleBody?_plain) (fun _ _ _ _ => doubleBody?_escaped_iff) _ _ h

theorem singleBody?_eq_some_iff {body value : List Char} (h : scriptBody? '\'' body = some value) :
    singleBody? body = some value ↔ keepsEscapes '\'' body = true :=
  read_eq_some_iff rfl (fun _ _ => singleBody?_plain) (fun _ _ _ _ => singleBody?_escaped_iff) h

/-- What a raw literal says in Ruby. -/
theorem rubyValue?_rawString_iff {raw value : List Char} (h : scriptValue? raw = some value) :
    rubyValue? (Dialect.ruby.rawString raw) = some value ↔ isRubyAlike raw = true := by
  cases raw with
  | nil => cases h
  | cons q body =>
      rw [scriptValue?] at h
      obtain ⟨hq, hbody⟩ := Option.ite_none_right_eq_some.mp h
      rcases isQuote_iff.mp hq with rfl | rfl
      · exact singleBody?_eq_some_iff hbody
      · have htext : Dialect.ruby.rawString ('"' :: body) = '"' :: escapeInterpolation body :=
          escapeInterpolation_cons_of_ne (by decide) body
        rw [htext]
        exact doubleBody?_eq_some_iff hbody

/-- **When a raw literal keeps its value.** A string literal whose raw text is a JavaScript literal
for its value is written as a Ruby literal; this one has no interpolation and says the same value
exactly if every escape of the raw text means the same in Ruby between its quotes. -/
theorem rubyValue?_generate_iff (pos : Option Pos) (value : String) (extra : Value)
    {raw : List Char} (hr : rawText? extra = .ok (some raw))
    (hv : scriptValue? raw = some value.toList) :
    ∃ text, (Value.node pos (.stringLiteral (.str value) extra)).generate .ruby = .ok text ∧
      (rubyValue? text = some value.toList ↔ isRubyAlike raw = true) := by
  refine ⟨Dialect.ruby.rawString raw, ?_, rubyValue?_rawString_iff hv⟩
  rw [generate_expression .ruby rfl, expressionText, constructText, Dialect.stringText, hr]
  rfl

/-- A literal with its raw text. -/
def Value.rawLiteral (value raw : String) : Value :=
  .node none (.stringLiteral (.str value) (.record [("raw", .str raw)]))

/-- Escaped backslashes, quotes, a line feed and a number sign before an ordinary character keep
their meaning in double quotes, also where a bare number sign gets a backslash. -/
theorem rubyValue?_generate_doubled_backslash :
    scriptValue? "\"\\\\#\x7bx\x7d\\n\\\"\\# \\'\"".toList =
        some "\\#\x7bx\x7d\n\"# '".toList ∧
      ∃ text, (Value.rawLiteral "\\#\x7bx\x7d\n\"# '"
          "\"\\\\#\x7bx\x7d\\n\\\"\\# \\'\"").generate .ruby = .ok text ∧
        rubyValue? text = some "\\#\x7bx\x7d\n\"# '".toList := by
  have hv : scriptValue? "\"\\\\#\x7bx\x7d\\n\\\"\\# \\'\"".toList =
      some "\\#\x7bx\x7d\n\"# '".toList := by decide
  obtain ⟨text, htext, hiff⟩ := rubyValue?_generate_iff none "\\#\x7bx\x7d\n\"# '"
    (.record [("raw", .str "\"\\\\#\x7bx\x7d\\n\\\"\\# \\'\"")]) rfl hv
  exact ⟨hv, text, htext, hiff.mpr (by decide)⟩

/-- An escaped number sign before a brace gets a second backslash and is an interpolation then, and
an escaped line feed in single quotes is a backslash and a letter. -/
theorem rubyValue?_generate_other_meaning :
    scriptValue? "\"\\#\x7bx\x7d\"".toList = some "#\x7bx\x7d".toList ∧
      (Value.rawLiteral "#\x7bx\x7d" "\"\\#\x7bx\x7d\"").generate .ruby =
        .ok "\"\\\\#\x7bx\x7d\"".toList ∧
      rubyValue? "\"\\\\#\x7bx\x7d\"".toList = none ∧
      scriptValue? "'a\\nb'".toList = some "a\nb".toList ∧
      (Value.rawLiteral "a\nb" "'a\\nb'").generate .ruby = .ok "'a\\nb'".toList ∧
      rubyValue? "'a\\nb'".toList = some "a\\nb".toList :=
  ⟨by decide, rfl, by decide, by decide, rfl, by decide⟩

end EstreeEmitter
