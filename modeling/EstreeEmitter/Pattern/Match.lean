import EstreeEmitter.Pattern.Basic
import EstreeEmitter.Text.Scan

set_option autoImplicit false

/-! # Matching

A pattern is tried at a place of the text, alternatives from left to right and repetitions as often
(or as rarely) as possible first; the first way in which the rest of the pattern fits as well is
taken. A group keeps the text of its last pass until it is passed again. An iteration that covered
nothing is not followed by another one, once the least number of iterations is reached. -/

namespace EstreeEmitter

namespace Pattern

/-- A place in the text: the characters before it, nearest first, and those after it. -/
structure Cursor where
  place : Nat
  before : List Char
  after : List Char

/-- A pass of a group: the place where it was entered and, once it is left, its text. -/
structure Capture where
  start : Nat
  text? : Option (List Char)

/-- The passes of the groups, the latest first. -/
abbrev Captures := List (Nat × Capture)

/-- The text of the latest pass of a group that was left, with the place where it was entered. -/
def Captures.closed? (captures : Captures) (index : Nat) : Option (Nat × List Char) :=
  captures.findSome? fun (i, c) => if i == index then c.text?.map fun text => (c.start, text)
    else none

/-- A group has a text. A group that is being passed again has one if its latest text reaches to the
place where it was entered. -/
def Captures.isSet (captures : Captures) (index : Nat) : Bool :=
  match captures.lookup index with
  | none => false
  | some ⟨_, some _⟩ => true
  | some ⟨start, none⟩ =>
    (captures.closed? index).any fun (before, text) => start ≤ before + text.length

/-- A place reached, with the texts of the groups. -/
abbrev Reached := Cursor × Captures

/-- What remains to be matched from a place on. -/
abbrev Continuation := Cursor → Captures → Option Reached

/-- The place after the next character. -/
def Cursor.next? (k : Cursor) : Option (Char × Cursor) :=
  match k.after with
  | [] => none
  | c :: cs => some (c, ⟨k.place + 1, c :: k.before, cs⟩)

/-- The place a number of characters back. -/
def Cursor.back? : Nat → Cursor → Option Cursor
  | 0, k => some k
  | n + 1, k =>
    match k.before with
    | [] => none
    | c :: cs => back? n ⟨k.place - 1, cs, c :: k.after⟩

/-- The characters from an earlier place to this one. -/
def Cursor.textSince (k : Cursor) (start : Nat) : List Char :=
  (k.before.take (k.place - start)).reverse

/-- The word property of the characters on both sides of a place. -/
def Cursor.isBoundary (k : Cursor) (ascii : Bool) : Bool :=
  let isWord (c : Char) := Category.word.contains ascii c
  k.before.head?.any isWord != k.after.head?.any isWord

/-- A condition holds at a place. An empty text has neither boundaries nor other places. -/
def Cursor.satisfies (k : Cursor) : Anchor → Bool
  | .textStart => k.before.isEmpty
  | .textEnd => k.after.isEmpty
  | .lastLineEnd => k.after.isEmpty || k.after == ['\n']
  | .lineStart => k.before.head?.all (· == '\n')
  | .lineEnd => k.after.head?.all (· == '\n')
  | .wordBoundary ascii => !(k.before.isEmpty && k.after.isEmpty) && k.isBoundary ascii
  | .noWordBoundary ascii => !(k.before.isEmpty && k.after.isEmpty) && !k.isBoundary ascii

/-- The place behind a given text, compared with a folding. -/
def Cursor.skipText? (folding : Folding) : List Char → Cursor → Option Cursor
  | [], k => some k
  | c :: cs, k =>
    match k.next? with
    | some (d, k') => if folding.sameLower c.toNat d.toNat then skipText? folding cs k' else none
    | none => none

/-- A match step: it goes on with a continuation for each way in which it fits, until one
succeeds. -/
abbrev Step := Cursor → Captures → Continuation → Option Reached

/-- Repeats a step. `count` iterations are done; `last` is the place where the latest optional one
started. Every optional iteration but the first starts further on, so `low` and the number of
characters left bound the iterations by `fuel`. -/
def iterate (body : Step) (lazy : Bool) (low : Nat) (high : Option Nat) :
    Nat → Nat → Option Nat → Step
  | 0, _, _, _, _, _ => none
  | fuel + 1, count, last, k, captures, continue_ =>
    if count < low then
      body k captures fun k' captures' =>
        iterate body lazy low high fuel (count + 1) last k' captures' continue_
    else
      let again : Unit → Option Reached := fun _ =>
        if high.all (count < ·) && last != some k.place then
          body k captures fun k' captures' =>
            iterate body lazy low high fuel (count + 1) (some k.place) k' captures' continue_
        else none
      if lazy then
        match continue_ k captures with
        | some r => some r
        | none => again ()
      else
        match again () with
        | some r => some r
        | none => continue_ k captures

/-- A step in the first way that fits and no other. -/
def once (step : Step) : Step := fun k captures continue_ =>
  match step k captures fun k' captures' => some (k', captures') with
  | some (k', captures') => continue_ k' captures'
  | none => none

/-- Matches a pattern from a place on. -/
def run : Pattern → Step
  | .empty, k, captures, continue_ => continue_ k captures
  | .char negated n folding, k, captures, continue_ =>
    match k.next? with
    | some (c, k') => if folding.same n c.toNat != negated then continue_ k' captures else none
    | none => none
  | .set s, k, captures, continue_ =>
    match k.next? with
    | some (c, k') => if s.contains c then continue_ k' captures else none
    | none => none
  | .any lineFeed, k, captures, continue_ =>
    match k.next? with
    | some (c, k') => if lineFeed || c != '\n' then continue_ k' captures else none
    | none => none
  | .anchor a, k, captures, continue_ => if k.satisfies a then continue_ k captures else none
  | .seq p q, k, captures, continue_ =>
    run p k captures fun k' captures' => run q k' captures' continue_
  | .alt p q, k, captures, continue_ =>
    match run p k captures continue_ with
    | some r => some r
    | none => run q k captures continue_
  | .group index p, k, captures, continue_ =>
    run p k ((index, ⟨k.place, none⟩) :: captures) fun k' captures' =>
      continue_ k' ((index, ⟨k.place, some (k'.textSince k.place)⟩) :: captures')
  | .scope p, k, captures, continue_ => run p k captures continue_
  | .rep greed low high p, k, captures, continue_ =>
    let fuel := low + k.after.length + 2
    match greed with
    | .greedy => iterate (run p) false low high fuel 0 none k captures continue_
    | .lazy => iterate (run p) true low high fuel 0 none k captures continue_
    | .possessive =>
      once (iterate (once (run p)) false low high fuel 0 none) k captures continue_
  | .backref index folding, k, captures, continue_ =>
    match captures.closed? index with
    | some (_, text) =>
      match k.skipText? folding text with
      | some k' => continue_ k' captures
      | none => none
    | none => none
  | .ahead negated p, k, captures, continue_ =>
    match run p k captures (fun k' captures' => some (k', captures')), negated with
    | some (_, captures'), false => continue_ k captures'
    | none, true => continue_ k captures
    | _, _ => none
  | .behind negated width p, k, captures, continue_ =>
    match k.back? width.low with
    | none => if negated then continue_ k captures else none
    | some start =>
      match run p start captures (fun k' captures' => some (k', captures')), negated with
      | some (_, captures'), false => continue_ k captures'
      | none, true => continue_ k captures
      | _, _ => none
  | .atomic p, k, captures, continue_ => once (run p) k captures continue_
  | .ifGroup index yes no, k, captures, continue_ =>
    if captures.isSet index then run yes k captures continue_
    else run no k captures continue_

/-- A match: its text and the texts of its groups. -/
structure Match where
  text : List Char
  captures : Captures

/-- The text of a group; nothing if the group took no part. Group zero is the whole match. -/
def Match.group (m : Match) (index : Nat) : List Char :=
  if index == 0 then m.text else ((m.captures.closed? index).map (·.2)).getD []

/-- The match of a pattern at a place; with `nonEmpty` it must cover a character. -/
def matchAt? (p : Pattern) (nonEmpty : Bool) (k : Cursor) : Option Match :=
  (run p k [] fun k' captures =>
    if nonEmpty && k'.place == k.place then none else some (k', captures)).map
      fun r => ⟨r.1.textSince k.place, r.2⟩

/-- A text cut at the matches of a pattern from left to right. An empty match at a place is followed
by a match of something at the same place, if there is one. `skip` characters belong to a match
already found. -/
def cutMatches (p : Pattern) : Nat → List Char → Nat → List Char → List (Text.Stretch Match)
  | place, before, _, [] =>
    match matchAt? p false ⟨place, before, []⟩ with
    | some m => [.found m]
    | none => []
  | place, before, skip + 1, c :: cs => cutMatches p (place + 1) (c :: before) skip cs
  | place, before, 0, c :: cs =>
    match matchAt? p false ⟨place, before, c :: cs⟩ with
    | none => .keep c :: cutMatches p (place + 1) (c :: before) 0 cs
    | some m =>
      if m.text.isEmpty then
        .found m ::
          match matchAt? p true ⟨place, before, c :: cs⟩ with
          | none => .keep c :: cutMatches p (place + 1) (c :: before) 0 cs
          | some m' => .found m' :: cutMatches p (place + 1) (c :: before) (m'.text.length - 1) cs
      else .found m :: cutMatches p (place + 1) (c :: before) (m.text.length - 1) cs

/-- The stretches of a text with respect to a pattern. -/
def stretches (p : Pattern) (code : List Char) : List (Text.Stretch Match) :=
  cutMatches p 0 [] 0 code

end Pattern

end EstreeEmitter
