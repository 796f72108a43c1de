import EstreeEmitter.Pattern.Alternatives
import EstreeEmitter.Pattern.Check
import EstreeEmitter.Pattern.Lead
import EstreeEmitter.Text.CharName
import EstreeEmitter.Text.Identifier

set_option autoImplicit false

/-! # Reading a pattern

A pattern is read token by token; a token is a character, or a backslash with the character behind
it. Case is ignored and lines are told apart from the start; flags in the pattern can change this.

Parts of the notation: literal characters, `.`, sets in brackets, escapes, `^ $ \A \Z \b \B`,
alternatives, groups (numbered, named, without number, atomic, conditional), repetitions with their
lazy and possessive forms, references to groups, looking ahead and behind, comments and flags. -/

namespace EstreeEmitter

namespace Pattern

/-! ## Tokens -/

/-- A character, or a backslash and a character, with its place in the pattern. A backslash at the
end of the pattern stands alone. -/
structure Token where
  text : List Char
  place : Nat

/-- The tokens of a pattern. -/
def tokens : Nat → List Char → List Token
  | _, [] => []
  | place, [c] => [⟨[c], place⟩]
  | place, c :: d :: cs =>
    if c == '\\' then ⟨[c, d], place⟩ :: tokens (place + 2) cs
    else ⟨[c], place⟩ :: tokens (place + 1) (d :: cs)

/-- Flags that are in force. -/
structure Flags where
  ignoreCase : Bool
  multiline : Bool
  dotAll : Bool
  verbose : Bool
  ascii : Bool
  unicode : Bool
  noBacktracking : Bool

/-- The flags that every correction has. -/
def Flags.initial : Flags := ⟨true, true, false, false, false, false, false⟩

/-- The flags with one of them set, by its letter. -/
def Flags.set (f : Flags) (letter : Char) (value : Bool) : Flags :=
  if letter == 'i' then { f with ignoreCase := value }
  else if letter == 'm' then { f with multiline := value }
  else if letter == 's' then { f with dotAll := value }
  else if letter == 'x' then { f with verbose := value }
  else if letter == 'a' then { f with ascii := value }
  else if letter == 'u' then { f with unicode := value }
  else if letter == 't' then { f with noBacktracking := value }
  else f

/-- The comparison of letters under the flags. -/
def Flags.folding (f : Flags) : Folding :=
  if f.ignoreCase then if f.ascii then .ascii else .simple else .exact

/-- What the reader keeps: the tokens ahead, the length of the pattern, the flags in force, and what
is known of the groups so far. -/
structure Progress where
  ahead : List Token
  length : Nat
  flags : Flags
  /-- The number of groups opened. -/
  opened : Nat
  /-- The widths of the groups closed. -/
  closed : List (Nat × Width)
  names : List (List Char × Nat)
  /-- Inside a look behind: the first group number that is not to be referred to. -/
  behindLimit : Option Nat
  /-- Groups that a condition refers to by number, with the place of the number. -/
  conditions : List (Nat × Nat)

/-- A reading step. -/
abbrev Reading := StateT Progress (Except Error)

namespace Reading

/-- The place of the next token. -/
def place : Reading Nat := do
  let s ← get
  return (s.ahead.head?.map Token.place).getD s.length

/-- Stops with a problem a number of characters before the present place. -/
def fail {α : Type} (p : Problem) (back : Nat) : Reading α := do
  throw (.problem p (some ((← place) - back)))

/-- The next token, without passing it. -/
def peek : Reading (Option (List Char)) := do
  return ((← get).ahead.head?.map Token.text)

/-- A backslash at the end of the pattern cannot be passed to. -/
def checkNext : Reading Unit := do
  let s ← get
  if s.ahead.head?.map Token.text == some ['\\'] then
    throw (.problem .danglingEscape (some (s.length - 1)))

/-- Passes the next token. -/
def pass : Reading Unit := do
  modify fun s => { s with ahead := s.ahead.tail }
  checkNext

/-- Takes the next token. -/
def take : Reading (Option (List Char)) := do
  let t ← peek
  pass
  return t

/-- Passes the next token if it is the given character. -/
def accept (c : Char) : Reading Bool := do
  if (← peek) == some [c] then
    pass
    return true
  else return false

/-- Takes up to `n` characters of a class. -/
def takeWhile (isIn : Char → Bool) : Nat → Reading (List Char)
  | 0 => return []
  | n + 1 => do
    match ← peek with
    | some [c] =>
      if isIn c then
        pass
        return c :: (← takeWhile isIn n)
      else return []
    | _ => return []

/-- The name before a closing character; `what` tells what is missing. Every turn passes a token. -/
def nameUntil (closing : Char) (what : String) : Nat → List Char → Reading (List Char)
  | 0, name => return name
  | fuel + 1, name => do
    match ← take with
    | none =>
      if name.isEmpty then fail (.missingName what) 0
      else fail (.unterminatedName closing) name.length
    | some t =>
      if t == [closing] then
        if name.isEmpty then fail (.missingName what) 1 else return name
      else nameUntil closing what fuel (name ++ t)

/-- The name before a closing character. -/
def name (closing : Char) (what : String) : Reading (List Char) := do
  nameUntil closing what ((← get).ahead.length + 1) []

/-- Runs a step with other flags in force and takes the flags back. -/
def withFlags {α : Type} (flags : Flags) (step : Reading α) : Reading α := do
  let outer := (← get).flags
  modify ({ · with flags })
  let a ← step
  modify ({ · with flags := outer })
  return a

end Reading

open Reading

/-! ## Escapes -/

/-- A digit of base eight. -/
def isOctal (c : Char) : Bool := '0' ≤ c && c ≤ '7'

/-- A digit of base sixteen. -/
def isHex (c : Char) : Bool := (Json.hexValue? c).isSome

/-- The number of a row of octal digits. -/
def octalValue (cs : List Char) : Nat := cs.foldl (fun n c => n * 8 + (c.toNat - 0x30)) 0

/-- The control characters and the backslash by their escape letter. -/
def controlEscape? (c : Char) : Option Nat :=
  if c == 'a' then some 0x07
  else if c == 'b' then some 0x08
  else if c == 'f' then some 0x0C
  else if c == 'n' then some 0x0A
  else if c == 'r' then some 0x0D
  else if c == 't' then some 0x09
  else if c == 'v' then some 0x0B
  else if c == '\\' then some 0x5C
  else none

/-- The named class of an escape letter; a capital letter means the complement. -/
def categoryEscape? (c : Char) : Option CharItem :=
  if c == 'd' then some (.category .digit false)
  else if c == 'D' then some (.category .digit true)
  else if c == 's' then some (.category .space false)
  else if c == 'S' then some (.category .space true)
  else if c == 'w' then some (.category .word false)
  else if c == 'W' then some (.category .word true)
  else none

/-- The condition of an escape letter. -/
def anchorEscape? (flags : Flags) (c : Char) : Option Anchor :=
  if c == 'A' then some .textStart
  else if c == 'Z' then some .textEnd
  else if c == 'b' then some (.wordBoundary flags.ascii)
  else if c == 'B' then some (.noWordBoundary flags.ascii)
  else none

/-- The code of an escape with a fixed number of hexadecimal digits. -/
def hexEscape (c : Char) (width : Nat) : Reading Nat := do
  let digits ← takeWhile isHex width
  let text := '\\' :: c :: digits
  if digits.length != width then fail (.incompleteEscape text) text.length
  let n := (Json.hexNumber? digits).getD 0
  if 0x10FFFF < n then fail (.badEscape text) text.length
  return n

/-- A character by its name in braces. -/
def namedCharacter : Reading Nat := do
  if !(← accept '\x7b') then fail .missingBrace 0
  let text ← name '\x7d' "character name"
  match Text.codeOfName? text with
  | some n => return n
  | none => fail (.undefinedCharacter text) (text.length + 4)

/-- The code of an escape that is read alike inside and outside sets; `none` for other letters. -/
def codeEscape? (c : Char) : Reading (Option Nat) := do
  if c == 'x' then return some (← hexEscape c 2)
  else if c == 'u' then return some (← hexEscape c 4)
  else if c == 'U' then return some (← hexEscape c 8)
  else if c == 'N' then return some (← namedCharacter)
  else return none

/-- An escape that stands for the character itself, unless it is an ASCII letter or digit. -/
def selfEscape (c : Char) : Reading Nat := do
  if c.isAlphanum then fail (.badEscape ['\\', c]) 2 else return c.toNat

/-- An escape inside a set. -/
def setEscape (c : Char) : Reading CharItem := do
  match controlEscape? c, categoryEscape? c with
  | some n, _ => return .code n
  | none, some item => return item
  | none, none =>
    match ← codeEscape? c with
    | some n => return .code n
    | none =>
      if isOctal c then
        let digits := c :: (← takeWhile isOctal 2)
        if 0o377 < octalValue digits then fail (.octalRange ('\\' :: digits)) (digits.length + 1)
        return .code (octalValue digits)
      else return .code (← selfEscape c)

/-- A group may be referred to from inside a look behind only if it closed before it. -/
def checkBehind (index : Nat) : Reading Unit := do
  let s ← get
  match s.behindLimit with
  | none => return ()
  | some limit =>
    if (s.closed.lookup index).isNone then fail .openReference 0
    if limit ≤ index then fail .lookbehindReference 0

/-- A reference to a group by its number, written with `written` characters. -/
def reference (index written : Nat) : Reading Pattern := do
  let s ← get
  if index ≤ s.opened then
    if (s.closed.lookup index).isNone then fail .openReference written
    checkBehind index
    return .backref index s.flags.folding
  else fail (.invalidReference index) (written - 1)

/-- A literal character under the flags in force. -/
def literal (n : Nat) : Reading Pattern := do
  let flags := (← get).flags
  return .char false n flags.folding

/-- An escape that starts with a digit other than zero: three octal digits are a character, else one
or two digits are a reference. -/
def digitEscape (c : Char) : Reading Pattern := do
  match ← takeWhile Char.isDigit 1 with
  | [d] =>
    if isOctal c && isOctal d then
      match ← takeWhile isOctal 1 with
      | [e] =>
        let n := octalValue [c, d, e]
        if 0o377 < n then fail (.octalRange ['\\', c, d, e]) 4
        literal n
      | _ => reference (Json.digitsValue [c, d]) 3
    else reference (Json.digitsValue [c, d]) 3
  | _ => reference (Json.digitsValue [c]) 2

/-! ## Items -/

/-- The items of a sequence, as far as a repetition looks at them. -/
inductive Item where
  | plain (p : Pattern)
  | anchor (a : Anchor)
  | repeated (p : Pattern)
  /-- Parts in parentheses that only hold them together. -/
  | together (parts : List Pattern)

/-- The parts that an item adds to a sequence. -/
def Item.parts : Item → List Pattern
  | .plain p => [p]
  | .anchor a => [.anchor a]
  | .repeated p => [p]
  | .together parts => parts

/-- An escape outside a set. -/
def escapeItem (c : Char) : Reading Item := do
  let flags := (← get).flags
  match anchorEscape? flags c, categoryEscape? c, controlEscape? c with
  | some a, _, _ => return .anchor a
  | none, some item, _ => return .plain (.set ⟨false, [item], flags.folding, flags.ascii⟩)
  | none, none, some n => return .plain (← literal n)
  | none, none, none =>
    match ← codeEscape? c with
    | some n => return .plain (← literal n)
    | none =>
      if c == '0' then return .plain (← literal (octalValue (← takeWhile isOctal 2)))
      else if c.isDigit then return .plain (← digitEscape c)
      else return .plain (← literal (← selfEscape c))

/-! ## Sets -/

/-- A member of a set from a token already taken. -/
def setMember (token : List Char) : Reading CharItem :=
  match token with
  | ['\\', c] => setEscape c
  | c :: _ => return .code c.toNat
  | [] => return .code 0

/-- The members of a set that was opened at `start`, up to its closing bracket. A closing bracket as
the first member stands for itself. Every turn passes a token. -/
def setMembers (start : Nat) : Nat → List CharItem → Reading (List CharItem)
  | 0, items => return items
  | fuel + 1, items => do
    match ← take with
    | none => unterminated
    | some token =>
      if token == [']'] && !items.isEmpty then return items
      let item ← setMember token
      if ← accept '-' then
        match ← take with
        | none => unterminated
        | some other =>
          if other == [']'] then return items ++ [item, .code '-'.toNat]
          let last ← setMember other
          match item, last with
          | .code low, .code high =>
            if high < low then badRange token other
            else setMembers start fuel (items ++ [.range low high])
          | _, _ => badRange token other
      else setMembers start fuel (items ++ [item])
where
  /-- The set does not close. -/
  unterminated : Reading (List CharItem) := do
    fail .unterminatedSet ((← place) - start)
  /-- The ends of a range are no characters in order. -/
  badRange (token other : List Char) : Reading (List CharItem) :=
    fail (.badRange token other) (token.length + 1 + other.length)

/-- A set whose opening bracket was just passed. A set of one character is that character. -/
def setItem : Reading Item := do
  let start := (← place) - 1
  let negated ← accept '^'
  let items ← setMembers start ((← get).ahead.length + 1) []
  let flags := (← get).flags
  match items.eraseDups with
  | [.code n] => return .plain (.char negated n flags.folding)
  | items => return .plain (.set ⟨negated, items, flags.folding, flags.ascii⟩)

/-! ## Repetitions -/

/-- The greatest number of repetitions. -/
def repeatLimit : Nat := 4294967295

/-- A number of repetitions from its digits. -/
def repeatNumber (digits : List Char) : Reading Nat := do
  if Text.maxDigits < digits.length then throw .numberTooLong
  let n := Json.digitsValue digits
  if repeatLimit ≤ n then throw .repetitionTooLarge
  return n

/-- The bounds in braces behind a brace just passed at the end of which `here` lies; `none`, with
nothing passed, when the brace is a character. -/
def braceBounds (here : Nat) : Reading (Option (Nat × Option Nat)) := do
  if (← peek) == some ['\x7d'] then return none
  let start ← get
  let low ← takeWhile Char.isDigit start.ahead.length
  let comma ← accept ','
  let high ← if comma then takeWhile Char.isDigit start.ahead.length else pure low
  if !(← accept '\x7d') then
    modify fun _ => start
    return none
  let least ← if low.isEmpty then pure 0 else repeatNumber low
  if high.isEmpty then return some (least, none)
  let most ← repeatNumber high
  if most < least then fail .repeatBounds ((← place) - here)
  return some (least, some most)

/-- The bounds of a repetition by its sign, already passed. -/
def bounds (sign : Char) (here : Nat) : Reading (Option (Nat × Option Nat)) := do
  if sign == '?' then return some (0, some 1)
  else if sign == '*' then return some (0, none)
  else if sign == '+' then return some (1, none)
  else braceBounds here

/-- The repetition of a pattern in the form that the sign behind it asks for. -/
def repetition (low : Nat) (high : Option Nat) (p : Pattern) : Reading Pattern := do
  if ← accept '?' then return .rep .lazy low high p
  else if ← accept '+' then return .rep .possessive low high p
  else return .rep .greedy low high p

/-- The parts so far, the latest first, after a repetition sign. -/
def repeatLast (sign : Char) (items : List Item) : Reading (List Item) := do
  let here ← place
  match ← bounds sign here with
  | none => return .plain (← literal sign.toNat) :: items
  | some (low, high) =>
    match items with
    | [] | .anchor _ :: _ => fail .nothingToRepeat ((← place) - here + 1)
    | .repeated _ :: _ => fail .multipleRepeat ((← place) - here + 1)
    | .plain p :: before => return .repeated (← repetition low high p) :: before
    | .together parts :: before =>
      return .repeated (← repetition low high (ofParts parts)) :: before

/-! ## Flags -/

/-- A letter of a flag. -/
def isFlag (c : Char) : Bool := ['i', 'L', 'm', 's', 'x', 'a', 't', 'u'].contains c

/-- The token is a letter of a flag. -/
def flagLetter? : List Char → Option Char
  | [c] => if isFlag c then some c else none
  | _ => none

/-- A flag that tells which characters count. -/
def isTypeFlag (c : Char) : Bool := c == 'a' || c == 'u' || c == 'L'

/-- The token is a letter. -/
def isLetterToken (token : List Char) : Bool :=
  token.all Text.isLetter

/-- The flags to turn on, from the first letter, already passed; the answer also has the character
that ends them. Every turn passes a token. -/
def flagsOn : Nat → Char → List Char → Reading (List Char × Char)
  | 0, c, letters => return (letters, c)
  | fuel + 1, c, letters => do
    if c == 'L' then fail .localeFlag 0
    let letters := letters ++ [c]
    if isTypeFlag c && letters.any fun d => isTypeFlag d && d != c then fail .incompatibleFlags 0
    match ← take with
    | none => fail .missingFlagEnd 0
    | some token =>
      match flagLetter? token, token with
      | some d, _ => flagsOn fuel d letters
      | none, [d] =>
        if d == ')' || d == '-' || d == ':' then return (letters, d)
        else fail (if isLetterToken token then .unknownFlag else .missingFlagEnd) token.length
      | none, _ => fail (if isLetterToken token then .unknownFlag else .missingFlagEnd) token.length

/-- The flags to turn off, from the first letter, already passed, up to the colon. -/
def flagsOff : Nat → Char → List Char → Reading (List Char)
  | 0, _, letters => return letters
  | fuel + 1, c, letters => do
    if isTypeFlag c then fail .typeFlagOff 0
    let letters := letters ++ [c]
    match ← take with
    | none => fail .missingColon 0
    | some token =>
      match flagLetter? token with
      | some d => flagsOff fuel d letters
      | none =>
        if token == [':'] then return letters
        else fail (if isLetterToken token then .unknownFlag else .missingColon) token.length

/-- What flags in a group do: hold from here on, or inside the group. -/
inductive FlagScope where
  | fromHere (flags : Flags)
  | inside (flags : Flags)

/-- Flags with letters turned on and off. -/
def Flags.changed (f : Flags) (on off : List Char) : Flags :=
  let f := if on.any isTypeFlag then { f with ascii := false, unicode := false } else f
  off.foldl (·.set · false) (on.foldl (·.set · true) f)

/-- The flags of a group, from the first character behind the question mark, already passed. -/
def flagGroup (c : Char) : Reading FlagScope := do
  let s ← get
  let fuel := s.ahead.length + 1
  let (on, last) ← if c == '-' then pure ([], '-') else flagsOn fuel c []
  if last == ')' then return .fromHere (on.foldl (·.set · true) s.flags)
  if on.contains 't' then fail .globalFlagOn 1
  let off ←
    if last == '-' then
      match ← take with
      | none => fail .missingFlag 0
      | some token =>
        match flagLetter? token with
        | some d => flagsOff fuel d []
        | none =>
          fail (if isLetterToken token then .unknownFlag else .missingFlag) token.length
    else pure []
  if off.contains 't' then fail .globalFlagOff 1
  if on.any off.contains then fail .flagOnAndOff 1
  return .inside (s.flags.changed on off)

/-! ## Groups -/

/-- A name of a group is an identifier. -/
def checkName (text : List Char) : Reading Unit := do
  if !Text.isIdentifier text then fail (.badGroupName text) (text.length + 1)

/-- The number of a named group. -/
def groupNamed (text : List Char) : Reading Nat := do
  match (← get).names.lookup text with
  | some index => return index
  | none => fail (.unknownGroupName text) (text.length + 1)

/-- A reference to a group by its name. -/
def namedReference : Reading Pattern := do
  let text ← name ')' "group name"
  checkName text
  let index ← groupNamed text
  let s ← get
  if (s.closed.lookup index).isNone then fail .openReference (text.length + 1)
  checkBehind index
  return .backref index s.flags.folding

/-- Opens a group and gives it the next number. -/
def openGroup (text? : Option (List Char)) : Reading Nat := do
  let s ← get
  let index := s.opened + 1
  modify fun s => { s with opened := index }
  match text? with
  | none => return index
  | some text =>
    match s.names.lookup text with
    | some previous => fail (.redefinedGroupName text index previous) (text.length + 1)
    | none =>
      modify fun s => { s with names := (text, index) :: s.names }
      return index

/-- Closes a group around its pattern. -/
def closeGroup (index : Nat) (p : Pattern) : Reading Pattern := do
  modify fun s => { s with closed := (index, p.width s.closed) :: s.closed }
  return .group index p

/-- Passes the parenthesis that closes one at `start`. -/
def closeParenthesis (start : Nat) : Reading Unit := do
  if !(← accept ')') then fail .missingParenthesis ((← place) - start)

/-- Passes a comment that was opened at `start`. Every turn passes a token. -/
def comment (start : Nat) : Nat → Reading Unit
  | 0 => return ()
  | fuel + 1 => do
    match ← peek with
    | none => fail .unterminatedComment ((← place) - start)
    | some token =>
      pass
      if token == [')'] then return () else comment start fuel

/-- Passes the rest of a line. Every turn passes a token. -/
def lineComment : Nat → Reading Unit
  | 0 => return ()
  | fuel + 1 => do
    match ← take with
    | none => return ()
    | some token => if token == ['\n'] then return () else lineComment fuel

/-- The greatest number of a group. -/
def groupLimit : Nat := 1073741823

/-- The number of the group of a condition. -/
def conditionGroup : Reading Nat := do
  let text ← name ')' "group name"
  if Text.isIdentifier text then groupNamed text
  else
    match Text.integer? text with
    | some (.ofNat index) =>
      if index == 0 then fail .badGroupNumber (text.length + 1)
      if groupLimit ≤ index then fail (.invalidReference index) (text.length + 1)
      let here ← place
      modify fun s =>
        if (s.conditions.lookup index).isSome then s
        else { s with conditions := s.conditions ++ [(index, here - text.length - 1)] }
      return index
    | _ => fail (.badGroupName text) (text.length + 1)

/-- A look behind for a pattern. -/
def behindPattern (negated : Bool) (p : Pattern) : Reading Pattern := do
  return .behind negated (p.width (← get).closed) p

/-- White space that is passed over in verbose patterns. -/
def isVerboseSpace (token : List Char) : Bool :=
  match token with
  | [c] => Text.isAsciiBlank c
  | _ => false

/-- The parts of a sequence from its items, the latest first. -/
def sequence (items : List Item) : List Pattern := items.reverse.flatMap Item.parts

mutual

/-- Alternatives up to a closing parenthesis or the end; `outermost` outside all groups and `first`
for the first of them. Every call of these functions follows a token passed or another of them, so
a multiple of the number of tokens bounds their depth by `fuel`. -/
def branches : Nat → Bool → Bool → Reading (List (List Pattern))
  | 0, _, _ => return []
  | fuel + 1, outermost, first => do
    let b := sequence (← parts fuel (outermost && first) [])
    if ← accept '|' then return b :: (← branches fuel outermost false) else return [b]

/-- The parts that alternatives up to a closing parenthesis or the end amount to. -/
def alternation : Nat → Bool → Reading (List Pattern)
  | 0, _ => return []
  | fuel + 1, outermost => do
    let found ← branches fuel outermost true
    let flags := (← get).flags
    return joinBranches flags.folding flags.ascii found

/-- The items of a sequence, put before those read so far, the latest first. `atStart` tells that
flags for the whole pattern may follow. -/
def parts : Nat → Bool → List Item → Reading (List Item)
  | 0, _, items => return items
  | fuel + 1, atStart, items => do
    match ← peek with
    | none => return items
    | some token =>
      if token == ['|'] || token == [')'] then return items
      pass
      let s ← get
      if s.flags.verbose && isVerboseSpace token then parts fuel atStart items
      else if s.flags.verbose && token == ['#'] then
        lineComment (s.ahead.length + 1)
        parts fuel atStart items
      else
        match token with
        | ['\\', c] => parts fuel atStart ((← escapeItem c) :: items)
        | ['['] => parts fuel atStart ((← setItem) :: items)
        | ['.'] => parts fuel atStart (.plain (.any s.flags.dotAll) :: items)
        | ['^'] =>
          let a : Anchor := if s.flags.multiline then .lineStart else .textStart
          parts fuel atStart (.anchor a :: items)
        | ['$'] =>
          let a : Anchor := if s.flags.multiline then .lineEnd else .lastLineEnd
          parts fuel atStart (.anchor a :: items)
        | ['('] => do
          match ← parenthesis fuel (atStart && items.isEmpty) with
          | some item => parts fuel atStart (item :: items)
          | none => parts fuel atStart items
        | [c] =>
          if c == '*' || c == '+' || c == '?' || c == '\x7b' then
            parts fuel atStart (← repeatLast c items)
          else parts fuel atStart (.plain (← literal c.toNat) :: items)
        | _ => parts fuel atStart items

/-- What a parenthesis just passed opens; `none` for comments and for flags that hold from here
on. -/
def parenthesis : Nat → Bool → Reading (Option Item)
  | 0, _ => return none
  | fuel + 1, flagsAllowed => do
    let start := (← place) - 1
    if !(← accept '?') then return some (← numbered fuel start none)
    match ← take with
    | none => fail .unexpectedEnd 0
    | some token =>
      match token with
      | ['P'] =>
        if ← accept '<' then
          let text ← name '>' "group name"
          checkName text
          return some (← numbered fuel start (some text))
        else if ← accept '=' then return some (.plain (← namedReference))
        else
          match ← take with
          | none => fail .unexpectedEnd 0
          | some other => fail (.unknownExtension ('P' :: other)) (other.length + 2)
      | [':'] => return some (.together (← enclosed fuel start))
      | ['#'] =>
        comment start ((← get).ahead.length + 1)
        return none
      | ['='] => return some (.plain (.ahead false (ofParts (← enclosed fuel start))))
      | ['!'] => return some (.plain (.ahead true (ofParts (← enclosed fuel start))))
      | ['<'] =>
        match ← take with
        | none => fail .unexpectedEnd 0
        | some other =>
          if other != ['='] && other != ['!'] then
            fail (.unknownExtension ('<' :: other)) (other.length + 2)
          let outer := (← get).behindLimit
          modify fun s => { s with behindLimit := some (outer.getD (s.opened + 1)) }
          let inner ← alternation fuel false
          modify ({ · with behindLimit := outer })
          closeParenthesis start
          return some (.plain (← behindPattern (other == ['!']) (ofParts inner)))
      | ['('] =>
        let index ← conditionGroup
        checkBehind index
        let yes := sequence (← parts fuel false [])
        let no ←
          if ← accept '|' then
            let no := sequence (← parts fuel false [])
            if (← peek) == some ['|'] then fail .tooManyBranches 0
            pure no
          else pure []
        closeParenthesis start
        return some (.plain (.ifGroup index (ofParts yes) (ofParts no)))
      | ['>'] => return some (.plain (.atomic (ofParts (← enclosed fuel start))))
      | _ =>
        match flagStart? token with
        | none => fail (.unknownExtension token) (token.length + 1)
        | some c =>
          match ← flagGroup c with
          | .fromHere flags =>
            if !flagsAllowed then fail .lateFlags ((← place) - start)
            modify ({ · with flags })
            return none
          | .inside flags =>
            let inner ← withFlags flags (enclosed fuel start)
            return some (.plain (.scope (ofParts inner)))
where
  /-- The token starts flags. -/
  flagStart? : List Char → Option Char
    | [c] => if isFlag c || c == '-' then some c else none
    | _ => none

/-- The parts up to the parenthesis that closes one at `start`. -/
def enclosed : Nat → Nat → Reading (List Pattern)
  | 0, _ => return []
  | fuel + 1, start => do
    let inner ← alternation fuel false
    closeParenthesis start
    return inner

/-- A group with a number, and perhaps a name, that was opened at `start`. -/
def numbered : Nat → Nat → Option (List Char) → Reading Item
  | 0, _, _ => return .plain .empty
  | fuel + 1, start, text? => do
    let index ← openGroup text?
    let inner ← enclosed fuel start
    return .plain (← closeGroup index (ofParts inner))

end

/-- A pattern with its number of groups. -/
structure Compiled where
  pattern : Pattern
  groups : Nat

/-- Reads the whole pattern. -/
def whole : Reading Compiled := do
  checkNext
  let s ← get
  let p := ofParts (← alternation (8 * (s.ahead.length + 1)) true)
  let s ← get
  if s.flags.ascii && s.flags.unicode then throw .conflictingFlags
  if (← peek).isSome then fail .unbalancedParenthesis 0
  match s.conditions.find? fun r => s.opened < r.1 with
  | some (index, place) => throw (.problem (.invalidReference index) (some place))
  | none =>
    let p ← liftM (p.checked s.flags.noBacktracking)
    return ⟨p.withLead s.flags.ascii, s.opened⟩

/-- Reads a pattern. -/
def parse (cs : List Char) : Except Error Compiled := do
  let start : Progress := {
    ahead := tokens 0 cs, length := cs.length, flags := Flags.initial, opened := 0, closed := [],
    names := [], behindLimit := none, conditions := [] }
  let (compiled, _) ← whole.run start
  return compiled

end Pattern

end EstreeEmitter
