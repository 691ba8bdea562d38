/-
# Where files come from

A file source lists the paths of a directory and reads the text of a file; both may fail, with
the text of the failure.  It also says which document a text is, if any: `Json.read?` unless some
other reader is given.  There are two: files that are listed and answered one by one, and a
directory tree seen from its working directory.
-/
import FieldRules.DiskTree
import FieldRules.Json.Reader

namespace FieldRules

/-- What a loader asks for: the paths of a directory, the text of a file and the document that a
text is. -/
structure FileSource where
  list : DiskPath → Except String (List DiskPath)
  read : DiskPath → Except String String
  parse : String → Option Json := Json.read?

namespace FileSource

/-! ## 1. Listed files -/

/-- The files of a list, whatever directory is asked for; `failure` is why the list cannot be
had. -/
def ofFiles (files : List (DiskPath × Except String String)) (failure : Option String) :
    FileSource where
  list _ :=
    match failure with
    | some text => .error text
    | none => .ok (files.map Prod.fst)
  read path :=
    match files.find? fun file => file.1.same path with
    | some file => file.2
    | none => .error "No such file or directory (os error 2)"

/-! ## 2. Directory trees -/

/-- The files of a directory tree. -/
def ofTree (working : Node) : FileSource where
  list path := (working.listing path).mapError DiskFault.message
  read path := (working.content path).mapError DiskFault.message

end FileSource

end FieldRules
