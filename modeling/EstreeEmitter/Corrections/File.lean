import EstreeEmitter.Corrections.Table
import EstreeEmitter.Json.Reader
import EstreeEmitter.Text.Utf8

set_option autoImplicit false

/-! # Table files

A table file holds a JSON object of patterns and replacements. -/

namespace EstreeEmitter

namespace Table

/-- The text of a table file. -/
def fileText (path : String) (bytes : List UInt8) : Except TableFault (List Char) :=
  match Text.decodeUtf8 bytes with
  | .ok cs => .ok (Text.lineFeeds cs)
  | .error fault => .error (.notJson path fault.message)

/-- The table in the text of a file. -/
def ofText (path : String) (cs : List Char) : Except TableFault Table :=
  match Json.parse cs with
  | .error e => .error (.notJson path (e.message cs))
  | .ok (.obj members) => ofMembers members
  | .ok _ => .error (.notObject path)

/-- The table in a file, given by what reading it yields. A path with a null character is no name of
a file. -/
def ofFile (path : String) (content : Except ReadFault (List UInt8)) : Except TableFault Table :=
  if path.toList.contains '\x00' then .error (.notJson path "embedded null byte")
  else
    match content with
    | .error fault => .error (.unreadable path (fault.message path))
    | .ok bytes => do ofText path (← fileText path bytes)

end Table

end EstreeEmitter
