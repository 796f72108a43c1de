import EstreeEmitter.Assoc
import EstreeEmitter.Text.Quoted
import EstreeEmitter.Text.Scan

set_option autoImplicit false

/-! # Folders

Files and folders in memory under one root, one of which is the working folder. A path is followed
part by part from the working folder, or from the root if it starts with a slash; `..` steps back,
and stays at the root. -/

namespace EstreeEmitter

/-- Why a file cannot be read, with the number and the wording of the operating system. -/
structure ReadFault where
  number : Nat
  reason : String
  deriving DecidableEq, Repr

namespace ReadFault

/-- There is nothing at the path. -/
def notFound : ReadFault := ⟨2, "No such file or directory"⟩

/-- A part of the path before its end is a file. -/
def notDirectory : ReadFault := ⟨20, "Not a directory"⟩

/-- The path leads to a directory. -/
def isDirectory : ReadFault := ⟨21, "Is a directory"⟩

/-- The path or a part of it is too long. -/
def nameTooLong : ReadFault := ⟨36, "File name too long"⟩

/-- A fault in words. -/
def message (f : ReadFault) (path : String) : String :=
  s!"[Errno {f.number}] {f.reason}: " ++ Text.quotedString path

end ReadFault

/-- The parts of a path from the root. -/
abbrev Route := List String

/-- Files and folders with the working folder. -/
structure Folder where
  home : Route
  folders : List Route
  files : List (Route × List UInt8)
  deriving DecidableEq

namespace Folder

/-- What is at the end of a route. -/
inductive Entry where
  | folder
  | file (bytes : List UInt8)
  deriving DecidableEq

/-- The longest part of a path, in bytes. -/
def maxPart : Nat := 255

/-- The longest path, in bytes. -/
def maxPath : Nat := 4095

/-- The parts of a path, empty ones included. -/
def parts (path : String) : List String :=
  (Text.splitOn '/' path.toList).map String.ofList

/-- What is at the end of a route. -/
def find? (f : Folder) (route : Route) : Option Entry :=
  if route.isEmpty || f.folders.contains route then some .folder
  else (f.files.lookup route).map .file

/-- Follows the parts of a path from a folder at a route. The route that a path leads to need not
exist, but all before its last part must. -/
def follow (f : Folder) (route : Route) : List String → Except ReadFault Route
  | [] => .ok route
  | part :: rest =>
    match f.find? route with
    | none => .error .notFound
    | some (.file _) => .error .notDirectory
    | some .folder =>
      if part == "" || part == "." then follow f route rest
      else if part == ".." then follow f route.dropLast rest
      else if maxPart < part.utf8ByteSize then .error .nameTooLong
      else follow f (route ++ [part]) rest

/-- The route that a path leads to. -/
def route (f : Folder) (path : String) : Except ReadFault Route :=
  if path.isEmpty then .error .notFound
  else if maxPath < path.utf8ByteSize then .error .nameTooLong
  else if path.startsWith "/" then f.follow [] (parts path)
  else f.follow f.home (parts path)

/-- The content of the file at a path. -/
def read (f : Folder) (path : String) : Except ReadFault (List UInt8) :=
  match f.route path with
  | .error fault => .error fault
  | .ok r =>
    match f.find? r with
    | none => .error .notFound
    | some .folder => .error .isDirectory
    | some (.file bytes) => .ok bytes

/-- All routes that lead to a route, itself included. -/
def leading (r : Route) : List Route := (List.range r.length).map fun n => r.take (n + 1)

/-- The working folder `home` with folders and files at paths in it. -/
def ofPaths (home : Route) (folders : List String) (files : List (String × List UInt8)) : Folder :=
  let below (path : String) : Route := home ++ (parts path).filter (· != "")
  { home := home
    folders := leading home ++ folders.flatMap (fun p => leading (below p)) ++
      files.flatMap fun (p, _) => leading (below p).dropLast
    files := files.foldl (fun fs (p, bytes) => Assoc.put (below p) bytes fs) [] }

/-- A fresh working folder with folders and files at paths in it, beside the usual folders of a
system and the empty device. -/
def fresh (folders : List String) (files : List (String × List UInt8)) : Folder :=
  let f := ofPaths ["tmp", "work"] folders files
  { f with
    folders := f.folders ++ ["bin", "dev", "etc", "home", "root", "usr", "var"].map fun s => [s]
    files := f.files ++ [(["dev", "null"], [])] }

/-- The files in the working folder that are new or different since an earlier content, with their
routes from there. -/
def changes (before after : Folder) : List (Route × List UInt8) :=
  (after.files.filter fun (r, bytes) =>
    after.home.isPrefixOf r && before.files.lookup r != some bytes).map
      fun (r, bytes) => (r.drop after.home.length, bytes)

end Folder

end EstreeEmitter
