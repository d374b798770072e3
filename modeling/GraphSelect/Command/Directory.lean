import GraphSelect.Command.Source

/-!
# Working directories

A snapshot of a working directory: its files, by their paths in it. A path is
followed component by component, as a file system does. `.` stays where it is and
`..` goes up. Nothing is known of what lies outside of the directory.

The program itself asks the file system. A directory stands in for it where a run
is repeated on files that are known: `Directory.read` is then what the
`Environment` of the run has for files.
-/

set_option autoImplicit false

namespace GraphSelect

/-- The files of a working directory. -/
structure Directory where
  files : List (List String × ByteArray)

namespace Directory

/-- The components of a path. -/
def components (path : String) : List String :=
  (path.splitOn "/").filter fun component => !component.isEmpty

/-- The directory with files by their paths. -/
def ofFiles (files : List (String × ByteArray)) : Directory :=
  ⟨files.map fun file => (components file.1, file.2)⟩

/-- A place that a path leads to. -/
inductive Place where
  /-- A directory, by its components. -/
  | inner (components : List String)
  /-- A directory outside of the working directory. -/
  | outer
  | file (content : ByteArray)

/-- The greatest number of bytes in a component. -/
def longestName : Nat := 255

/-- The number of bytes that a path must not reach. -/
def pathLimit : Nat := 4096

/-- Goes from a place along a component. -/
def enter (directory : Directory) (place : Place) (component : String) :
    Except ReadFault Place :=
  match place with
  | .file _ => .error .notDirectory
  | .outer =>
    if component = "." ∨ component = ".." then .ok .outer
    else if component.utf8ByteSize > longestName then .error .nameTooLong
    else .error .missing
  | .inner here =>
    if component = "." then .ok place
    else if component = ".." then
      if here.isEmpty then .ok .outer else .ok (.inner here.dropLast)
    else if component.utf8ByteSize > longestName then .error .nameTooLong
    else
      let there := here ++ [component]
      match directory.files.find? fun file => file.1 = there with
      | some file => .ok (.file file.2)
      | none =>
        if directory.files.any fun file => there.isPrefixOf file.1 then .ok (.inner there)
        else .error .missing

/-- The content of the file that a path leads to. -/
def read (directory : Directory) (path : String) : Except ReadFault String := do
  if path.isEmpty then throw .missing
  if path.toList.contains '\x00' then throw .nulInName
  if pathLimit ≤ path.utf8ByteSize then throw .nameTooLong
  let start := if path.startsWith "/" then Place.outer else .inner []
  let place ← (components path).foldlM directory.enter start
  match place with
  | .file content =>
    if path.endsWith "/" then throw .notDirectory
    match String.fromUTF8? content with
    | some text => return text
    | none => throw .notText
  | _ => throw .directory

end Directory

end GraphSelect
