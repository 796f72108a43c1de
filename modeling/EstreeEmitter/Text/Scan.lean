set_option autoImplicit false

/-! # Scanning a text from left to right

`cut` divides a text into the pieces that a recogniser finds, leftmost first and without overlap,
and the single characters between them. An edit of the text is then a function on the pieces. -/

namespace EstreeEmitter.Text

/-- The text behind a leading `word`; `none` when the text does not start with it. -/
def after? : List Char → List Char → Option (List Char)
  | [], cs => some cs
  | _ :: _, [] => none
  | w :: ws, c :: cs => if w == c then after? ws cs else none

/-- A stretch of a text: a character between pieces, or a recognised piece. -/
inductive Stretch (α : Type) where
  | keep (c : Char)
  | found (piece : α)

/-- Cuts a text into stretches. `find? before rest` sees the text `rest` from the present place on
and the characters `before` it, nearest first; it answers a piece and the number of characters,
at least one, that the piece covers. `skip` characters belong to a piece already found. -/
def cut {α : Type} (find? : List Char → List Char → Option (α × Nat)) :
    List Char → Nat → List Char → List (Stretch α)
  | _, _, [] => []
  | before, skip + 1, c :: cs => cut find? (c :: before) skip cs
  | before, 0, c :: cs =>
    match find? before (c :: cs) with
    | some (piece, covered) => .found piece :: cut find? (c :: before) (covered - 1) cs
    | none => .keep c :: cut find? (c :: before) 0 cs

/-- The text of stretches, each piece written by `write`. -/
def paste {α : Type} (write : α → List Char) (stretches : List (Stretch α)) : List Char :=
  stretches.flatMap fun
    | .keep c => [c]
    | .found piece => write piece

/-- The recognised pieces in order. -/
def pieces {α : Type} (stretches : List (Stretch α)) : List α :=
  stretches.filterMap fun
    | .keep _ => none
    | .found piece => some piece

/-- The parts of a text between the occurrences of a character. -/
def splitOn (separator : Char) : List Char → List (List Char)
  | [] => [[]]
  | c :: cs =>
    if c == separator then [] :: splitOn separator cs
    else
      match splitOn separator cs with
      | [] => [[c]]
      | part :: parts => (c :: part) :: parts

/-- The lines of a text: what stands between line feeds. -/
def splitLines (cs : List Char) : List (List Char) := splitOn '\n' cs

/-- Texts with a separator between neighbours. -/
def joinWith (separator : List Char) : List (List Char) → List Char
  | [] => []
  | [t] => t
  | t :: ts => t ++ separator ++ joinWith separator ts

/-- Every occurrence of `old`, from left to right and without overlap, replaced by `new`. An empty
`old` occurs before every character and at the end. -/
def replaceAll (old new cs : List Char) : List Char :=
  if old.isEmpty then cs.flatMap (fun c => new ++ [c]) ++ new
  else
    let find? (_ rest : List Char) := (after? old rest).map fun _ => ((), old.length)
    paste (fun _ => new) (cut find? [] 0 cs)

end EstreeEmitter.Text
