import EstreeEmitter.Corrections.Table

set_option autoImplicit false

/-! # The table that comes with the program -/

namespace EstreeEmitter

namespace Table

/-- Patterns and replacements that turn common JavaScript forms into Ruby ones. -/
def rubyEntries : List (String × String) := [
  ("^[ \\t]*@DELETE@\\n?", ""),
  ("console\\.log\\(", "puts("),
  ("!==", "!="),
  ("===", "=="),
  ("\\belse if\\b", "elsif"),
  ("\\bundefined\\b", "nil"),
  ("Math\\.PI\\b", "Math::PI"),
  ("Math\\.random\\(\\)", "rand"),
  ("\\.toString\\(\\)", ".to_s"),
  ("\\bparseInt\\(", "Integer("),
  ("\\bparseFloat\\(", "Float("),
  ("Math\\.abs\\(([^()]*)\\)", "($1).abs"),
  ("Math\\.round\\(([^()]*)\\)", "($1).round"),
  ("Math\\.max\\(([^()]*)\\)", "[$1].max"),
  ("Math\\.min\\(([^()]*)\\)", "[$1].min")]

/-- The entries as members of an object. -/
def rubyMembers : List (String × Json) := rubyEntries.map fun (k, v) => (k, .str v)

/-- The table of entries that are known to be good. -/
def ofGood : Except TableFault Table → Table
  | .ok table => table
  | .error _ => []

/-- The table for Ruby. -/
def ruby : Table := ofGood (ofMembers rubyMembers)

/-- The folder of the tables, as far as a target can lead through it. -/
def shelf : Folder := .ofPaths ["tables"] [] [("ruby.json", [])]

/-- The table for a target, which is the path of a file without its ending. -/
def forTarget (target : String) : Except TableFault Table :=
  if target.toList.contains '\x00' then .error .nullInTarget
  else
    match shelf.read (target ++ ".json") with
    | .ok _ => .ok ruby
    | .error fault => .error (.unknownTarget fault)

end Table

end EstreeEmitter
