import EstreeEmitter.Text.Blank
import EstreeEmitter.Text.Case
import EstreeEmitter.Text.Digit
import EstreeEmitter.Text.Word

set_option autoImplicit false

/-! # Patterns

The structure of the regular expressions that correction tables use. Flags that change the meaning
of a part (case, lines, ASCII classes) are resolved when the pattern is read, so a pattern has its
meaning in itself. -/

namespace EstreeEmitter

/-- How letter case is compared. -/
inductive Folding where
  | exact
  /-- Ignoring the case of ASCII letters. -/
  | ascii
  /-- Ignoring the case of all letters. -/
  | simple
  deriving DecidableEq, Repr

/-- A class of characters with a name. -/
inductive Category where
  | digit
  | space
  | word
  deriving DecidableEq, Repr

/-- A member of a set of characters. -/
inductive CharItem where
  | code (n : Nat)
  | range (low high : Nat)
  | category (k : Category) (negated : Bool)
  deriving DecidableEq, Repr

/-- A set of characters. -/
structure CharSet where
  negated : Bool
  items : List CharItem
  folding : Folding
  /-- Named classes hold ASCII characters only. -/
  ascii : Bool
  deriving DecidableEq, Repr

/-- A condition on a place in the text. -/
inductive Anchor where
  | textStart
  | textEnd
  /-- The end of the text, or before a line feed that ends it. -/
  | lastLineEnd
  | lineStart
  | lineEnd
  | wordBoundary (ascii : Bool)
  | noWordBoundary (ascii : Bool)
  deriving DecidableEq, Repr

/-- How a repetition chooses the number of its iterations. -/
inductive Greed where
  /-- As many as possible, fewer if the rest of the pattern needs it. -/
  | greedy
  /-- As few as possible, more if the rest of the pattern needs it. -/
  | lazy
  /-- As many as possible and no other number. -/
  | possessive
  deriving DecidableEq, Repr

/-- The least and the greatest number of characters that a pattern can cover. -/
structure Width where
  low : Nat
  high : Nat
  deriving DecidableEq, Repr

/-- A pattern. Groups are numbered from one. -/
inductive Pattern where
  | empty
  /-- One character, or, if `negated`, any other one. -/
  | char (negated : Bool) (n : Nat) (folding : Folding)
  | set (s : CharSet)
  /-- Any character; a line feed only with `lineFeed`. -/
  | any (lineFeed : Bool)
  | anchor (a : Anchor)
  | seq (p q : Pattern)
  | alt (p q : Pattern)
  | group (index : Nat) (p : Pattern)
  /-- A part that was read under flags of its own. -/
  | scope (p : Pattern)
  /-- From `low` to `high` times. -/
  | rep (greed : Greed) (low : Nat) (high : Option Nat) (p : Pattern)
  /-- The text of a group again. -/
  | backref (index : Nat) (folding : Folding)
  /-- The pattern fits here, or, if `negated`, does not. -/
  | ahead (negated : Bool) (p : Pattern)
  /-- The pattern, which has the given width, fits the characters before, or, if `negated`, does
  not. -/
  | behind (negated : Bool) (width : Width) (p : Pattern)
  /-- The pattern in the first way that fits. -/
  | atomic (p : Pattern)
  /-- One pattern if a group has a text, another if not. -/
  | ifGroup (index : Nat) (yes no : Pattern)

/-- Parts in order as one pattern. -/
def Pattern.ofParts : List Pattern → Pattern
  | [] => .empty
  | [p] => p
  | p :: rest => .seq p (ofParts rest)

/-- Branches in order as one pattern. -/
def Pattern.ofBranches : List Pattern → Pattern
  | [] => .empty
  | [p] => p
  | p :: rest => .alt p (ofBranches rest)

/-! ## Characters -/

/-- A character belongs to a named class. -/
def Category.contains (ascii : Bool) (c : Char) : Category → Bool
  | .digit => if ascii then c.isDigit else Text.isDecimal c
  | .space => if ascii then Text.isAsciiBlank c else Text.isBlank c
  | .word => if ascii then Text.isAsciiWord c else Text.isWord c

namespace Folding

/-- The lower case of a code point, as far as case is ignored. -/
def lower : Folding → Nat → Nat
  | .exact, n => n
  | .ascii, n => Text.asciiLowerCode n
  | .simple, n => Text.lowerCode n

/-- The upper case of a code point; the exact comparison has no cases. -/
def upper : Folding → Nat → Nat
  | .exact, n => n
  | _, n => Text.upperCode n

/-- A code point whose case is ignored. -/
def isCased : Folding → Nat → Bool
  | .exact, _ => false
  | .ascii, n => Text.isAsciiCased n
  | .simple, n => Text.isCased n

/-- The two code points are the same letter. -/
def same : Folding → Nat → Nat → Bool
  | .simple, a, b => (Text.lowerClass (Text.lowerCode a)).contains (Text.lowerCode b)
  | f, a, b => f.lower a == f.lower b

/-- The code points that are the same letter as the given one. -/
def variants : Folding → Nat → List Nat
  | .exact, n => [n]
  | .ascii, n => Text.asciiCaseVariants n
  | .simple, n => Text.caseVariants n

/-- The two code points are equal in a repeated text: they have the same lower case. -/
def sameLower (f : Folding) (a b : Nat) : Bool := f.lower a == f.lower b

end Folding

/-- The last code point of the basic plane. Sets ignore case fully only up to here. -/
def basicLimit : Nat := 0xFFFF

/-- A character fits a member of a set. A member beyond the basic plane is compared with the lower
case of the character; the part of a range beyond it, also with the upper case of that. -/
def CharItem.contains (folding : Folding) (ascii : Bool) (c : Char) : CharItem → Bool
  | .code n =>
    if n ≤ basicLimit then folding.same n c.toNat else n == folding.lower c.toNat
  | .range low high =>
    let holds (n : Nat) : Bool := low ≤ n && n ≤ high
    let l := folding.lower c.toNat
    (folding.variants c.toNat).any (fun n => n ≤ basicLimit && holds n) ||
      (basicLimit < high && (holds l || holds (folding.upper l)))
  | .category k negated => k.contains ascii c != negated

/-- A character belongs to a set. -/
def CharSet.contains (s : CharSet) (c : Char) : Bool :=
  s.items.any (·.contains s.folding s.ascii c) != s.negated

/-! ## Widths -/

/-- The greatest lower bound that is told apart. -/
def Width.lowLimit : Nat := 4294967294

/-- The greatest upper bound that is told apart; it also stands for no bound. -/
def Width.highLimit : Nat := 4294967295

/-- A width without what exceeds the limits. -/
def Width.capped (w : Width) : Width := ⟨min w.low lowLimit, min w.high highLimit⟩

/-- The width of a pattern, given the widths of the groups before it. -/
def Pattern.width (groups : List (Nat × Width)) : Pattern → Width
  | .empty | .anchor _ | .ahead .. | .behind .. => ⟨0, 0⟩
  | .char .. | .set _ | .any _ => ⟨1, 1⟩
  | .seq p q =>
    let a := p.width groups
    let b := q.width groups
    Width.capped ⟨a.low + b.low, a.high + b.high⟩
  | .alt p q =>
    let a := p.width groups
    let b := q.width groups
    ⟨min a.low b.low, max a.high b.high⟩
  | .group _ p | .scope p | .atomic p => p.width groups
  | .rep _ low high p =>
    let a := p.width groups
    match high with
    | some n => Width.capped ⟨a.low * low, a.high * n⟩
    | none => Width.capped ⟨a.low * low, if a.high == 0 then 0 else Width.highLimit⟩
  | .backref index _ => (groups.lookup index).getD ⟨0, 0⟩
  | .ifGroup _ yes no =>
    let a := yes.width groups
    let b := no.width groups
    ⟨min a.low b.low, max a.high b.high⟩

end EstreeEmitter
