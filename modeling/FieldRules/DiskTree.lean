/-
# Directory trees

A tree is a file or a directory of named trees.  It is built by making directories and writing
files (`Node.makeFolder`, `Node.writeFile`), and read by following a path from the working
directory component by component (`Node.find`).  A path that cannot be built on leaves the tree
as it is, and one that cannot be followed fails with the first fault on its way.
-/
import FieldRules.DiskPath

namespace FieldRules

/-! ## 1. Trees and faults -/

/-- A file with its bytes, or a directory with its entries. -/
inductive Node where
  | file (content : List UInt8)
  | folder (entries : List (List UInt8 × Node))

/-- Why a path cannot be followed or what is there cannot be used. -/
inductive DiskFault where
  | missing | notADirectory | isADirectory | tooLong | notText | nul
deriving DecidableEq

/-- The text of a fault. -/
def DiskFault.message : DiskFault → String
  | missing => "No such file or directory (os error 2)"
  | notADirectory => "Not a directory (os error 20)"
  | isADirectory => "Is a directory (os error 21)"
  | tooLong => "File name too long (os error 36)"
  | notText => "stream did not contain valid UTF-8"
  | nul => "file name contained an unexpected NUL byte"

/-- The most bytes that a name in a directory has. -/
def maxNameBytes : Nat := 255

/-- The most bytes that a path has. -/
def maxPathBytes : Nat := 4095

namespace Node

/-! ## 2. Following a path -/

/-- Follows components from a directory; `above` are the directories it lies in, the nearest
first.  Above the working directory there is nothing to be seen.  A name that is too long is told
only where it is looked up, so after everything that is wrong before it. -/
def follow : List Node → Node → List Component → Except DiskFault Node
  | _, node, [] => .ok node
  | _, .file _, _ :: _ => .error .notADirectory
  | above, .folder entries, step :: rest =>
    match step with
    | .root => follow [] (.folder []) rest
    | .here => follow above (.folder entries) rest
    | .parent =>
      match above with
      | [] => follow [] (.folder []) rest
      | outer :: further => follow further outer rest
    | .name bytes =>
      if maxNameBytes < bytes.length then .error .tooLong
      else
        match entries.lookup bytes with
        | none => .error .missing
        | some inner => follow (.folder entries :: above) inner rest

/-- What stands at a path, seen from the working directory.  The path as a whole is judged before
it is followed. -/
def find (working : Node) (path : DiskPath) : Except DiskFault Node :=
  if path.bytes.contains 0 then .error .nul
  else if path.bytes = [] then .error .missing
  else if maxPathBytes < path.bytes.length then .error .tooLong
  else
    match working.follow [] path.components with
    | .ok (.file content) =>
      if path.bytes.getLast? = some DiskPath.slash then .error .notADirectory
      else .ok (.file content)
    | found => found

/-- The order of the names in a listing: byte by byte. -/
def nameLe (a b : List UInt8) : Bool := a ≤ b

/-- The paths of the entries of a directory, by name. -/
def listing (working : Node) (path : DiskPath) : Except DiskFault (List DiskPath) :=
  match working.find path with
  | .error e => .error e
  | .ok (.file _) => .error .notADirectory
  | .ok (.folder entries) =>
    .ok (((entries.map Prod.fst).mergeSort nameLe).map path.join)

/-- The text of a file. -/
def content (working : Node) (path : DiskPath) : Except DiskFault String :=
  match working.find path with
  | .error e => .error e
  | .ok (.folder _) => .error .isADirectory
  | .ok (.file bytes) =>
    match Utf8.decode? bytes with
    | some text => .ok text
    | none => .error .notText

/-! ## 3. Building a tree -/

/-- The working directory with nothing in it. -/
def empty : Node := .folder []

end Node

/-- The names that are left after a walk over components; `trail` are the names walked so far, the
last first.  A walk that leaves the working directory has none. -/
def Component.names? : List (List UInt8) → List Component → Option (List (List UInt8))
  | trail, [] => some trail.reverse
  | _, .root :: _ => none
  | trail, .here :: rest => names? trail rest
  | [], .parent :: _ => none
  | _ :: trail, .parent :: rest => names? trail rest
  | trail, .name bytes :: rest => names? (bytes :: trail) rest

/-- Whether a directory can have an entry of this name. -/
def isEntryName (bytes : List UInt8) : Bool :=
  bytes.length ≤ maxNameBytes && !bytes.contains 0

namespace Node

/-- Gives a name in a directory to a node: in the place that the name has, else as the last
entry. -/
def enter (name : List UInt8) (node : Node) : List (List UInt8 × Node) → List (List UInt8 × Node)
  | [] => [(name, node)]
  | entry :: rest =>
    if entry.1 = name then (name, node) :: rest else entry :: enter name node rest

/-- Changes what stands at the end of a chain of names, making the directories that lead there.
Nothing can stand below a file. -/
def alter (change : Option Node → Node) : List (List UInt8) → Option Node → Node
  | [], there => change there
  | name :: rest, none => .folder [(name, alter change rest none)]
  | _ :: _, some (.file content) => .file content
  | name :: rest, some (.folder entries) =>
    .folder (enter name (alter change rest (entries.lookup name)) entries)

/-- Changes what stands at a path, if a tree can have anything there. -/
def alterAt (working : Node) (path : DiskPath) (change : Option Node → Node) : Node :=
  match Component.names? [] path.components with
  | none => working
  | some names => if names.all isEntryName then alter change names (some working) else working

/-- Makes a directory, and those that it lies in; what stands there already stays. -/
def makeFolder (working : Node) (path : DiskPath) : Node :=
  working.alterAt path fun there => there.getD empty

/-- Writes a file in place of a file that stands there; a directory stays. -/
def writeFile (working : Node) (path : DiskPath) (content : List UInt8) : Node :=
  working.alterAt path fun there =>
    match there with
    | some (.folder entries) => .folder entries
    | _ => .file content

end Node

end FieldRules
