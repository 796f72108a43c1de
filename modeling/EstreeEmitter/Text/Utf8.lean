import EstreeEmitter.Json.Printer

set_option autoImplicit false

/-! # Decoding UTF-8

Bytes are decoded strictly: a sequence is one byte below 0x80, or a lead byte with one to three
continuation bytes; sequences that are longer than needed, surrogates and code points beyond the
last one are refused. A fault tells the bytes that cannot be decoded. -/

namespace EstreeEmitter.Text

/-- Why bytes cannot be decoded. -/
inductive Utf8Cause where
  | startByte
  | continuationByte
  | endOfData
  deriving DecidableEq, Repr

/-- Bytes that cannot be decoded: the first of them, its place, and how many there are. -/
structure Utf8Fault where
  cause : Utf8Cause
  byte : UInt8
  place : Nat
  count : Nat
  deriving DecidableEq, Repr

/-- A cause in words. -/
def Utf8Cause.message : Utf8Cause → String
  | .startByte => "invalid start byte"
  | .continuationByte => "invalid continuation byte"
  | .endOfData => "unexpected end of data"

/-- A fault in words. -/
def Utf8Fault.message (f : Utf8Fault) : String :=
  let bytes :=
    if f.count == 1 then
      "byte 0x" ++ String.ofList (hexText 2 f.byte.toNat) ++ s!" in position {f.place}"
    else s!"bytes in position {f.place}-{f.place + f.count - 1}"
  "'utf-8' codec can't decode " ++ bytes ++ ": " ++ f.cause.message

/-- The number of continuation bytes behind a lead byte; `none` for what is no lead byte. -/
def continuationCount? (b : Nat) : Option Nat :=
  if 0xC2 ≤ b && b ≤ 0xDF then some 1
  else if 0xE0 ≤ b && b ≤ 0xEF then some 2
  else if 0xF0 ≤ b && b ≤ 0xF4 then some 3
  else none

/-- A byte may follow the bytes of a sequence that `lead` started; `index` counts from zero. -/
def continues (lead index b : Nat) : Bool :=
  0x80 ≤ b && b ≤ 0xBF &&
    (index != 0 ||
      ((lead != 0xE0 || 0xA0 ≤ b) && (lead != 0xED || b < 0xA0) &&
        (lead != 0xF0 || 0x90 ≤ b) && (lead != 0xF4 || b < 0x90)))

/-- The bytes of a sequence behind its lead byte that may stand there, up to `count` of them. -/
def continuation (lead : Nat) : Nat → Nat → List UInt8 → List Nat
  | 0, _, _ => []
  | _, _, [] => []
  | count + 1, index, b :: bs =>
    if continues lead index b.toNat then b.toNat :: continuation lead count (index + 1) bs else []

/-- The code point of a sequence. -/
def sequenceCode (lead : Nat) (rest : List Nat) : Nat :=
  let head := match rest.length with
    | 1 => lead - 0xC0
    | 2 => lead - 0xE0
    | _ => lead - 0xF0
  rest.foldl (fun n b => n * 0x40 + (b - 0x80)) head

/-- Decodes bytes from a place on. `skip` bytes belong to a sequence already decoded; `out` holds
the characters so far, last first. -/
def decodeFrom (out : List Char) : Nat → Nat → List UInt8 → Except Utf8Fault (List Char)
  | _, _, [] => .ok out.reverse
  | place, skip + 1, _ :: bs => decodeFrom out (place + 1) skip bs
  | place, 0, b :: bs =>
    let lead := b.toNat
    if lead < 0x80 then decodeFrom (Char.ofNat lead :: out) (place + 1) 0 bs
    else
      match continuationCount? lead with
      | none => .error ⟨.startByte, b, place, 1⟩
      | some count =>
        let rest := continuation lead count 0 bs
        if rest.length == count then
          decodeFrom (Char.ofNat (sequenceCode lead rest) :: out) (place + 1) count bs
        else if rest.length == bs.length then .error ⟨.endOfData, b, place, rest.length + 1⟩
        else .error ⟨.continuationByte, b, place, rest.length + 1⟩

/-- Decodes bytes. -/
def decodeUtf8 (bytes : List UInt8) : Except Utf8Fault (List Char) := decodeFrom [] 0 0 bytes

/-- A text with every line end (a carriage return, a line feed, or both) as a line feed. -/
def lineFeeds : List Char → List Char
  | [] => []
  | '\r' :: '\n' :: cs => '\n' :: lineFeeds cs
  | c :: cs => (if c == '\r' then '\n' else c) :: lineFeeds cs

end EstreeEmitter.Text
