import EstreeEmitter.Corrections.Table
import EstreeEmitter.Passes.CallSite
import EstreeEmitter.Passes.Callable
import EstreeEmitter.Passes.Floor
import EstreeEmitter.Passes.Increment
import EstreeEmitter.Passes.Puts

set_option autoImplicit false

/-! # All corrections in order

The table comes first; then floor calls, parameters that are called, the call sites of their
methods, increments, and printed sums. Later passes rely on earlier ones. -/

namespace EstreeEmitter

namespace Passes

/-- The text with method references at the call sites of all registered methods. -/
def passAllReferences (registry : Registry) (code : List Char) : List Char :=
  registry.foldl (fun code entry => passReferences entry.1 entry.2 code) code

/-- The reports on the call sites of all registered methods. -/
def allReferenceNotes : Registry → List Char → List Note
  | [], _ => []
  | (name, index) :: rest, code =>
    referenceNotes name index code ++ allReferenceNotes rest (passReferences name index code)

end Passes

open Passes

/-- The corrected text. -/
def correct (table : Table) (code : List Char) : List Char :=
  let floored := floorCalls (table.apply code)
  let referred := passAllReferences (registerCallable floored []) (markCallable floored)
  stringifyPuts (increments referred)

/-- The reports on the corrections of a text, in order. -/
def correctionNotes (table : Table) (code : List Char) : List Note :=
  let tabled := table.apply code
  let floored := floorCalls tabled
  let marked := markCallable floored
  let registry := registerCallable floored []
  let referred := passAllReferences registry marked
  table.notes code ++ Note.ofCount .floorCalls (floorCount tabled) ++ callableNotes floored ++
    allReferenceNotes registry marked ++ Note.ofCount .increments (incrementCount referred) ++
    Note.ofCount .puts (putsCount (increments referred))

end EstreeEmitter
