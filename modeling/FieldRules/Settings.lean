/-
# Settings

Settings say in which directory the schemas lie, which field identifies a record, contract by
contract or in general, and whether answers are stored.  They are read from a TOML document: a
setting that is not there has its usual value, a setting of the wrong type is a fault, and
everything else in the document is passed over.
-/
import FieldRules.DiskPath
import FieldRules.Store
import FieldRules.Toml.Reader

namespace FieldRules

/-- How contracts are found, identified and answered for. -/
structure Settings where
  schemaDirectory : DiskPath
  idField : String
  storesAnswers : Bool
  idFields : OrderedMap String

/-- Why settings cannot be had. -/
inductive SettingsFault where
  | unreadable (file : DiskPath) (reason : String)
  | malformed
deriving DecidableEq

/-- The text of a fault. -/
def SettingsFault.message : SettingsFault → String
  | unreadable file reason => "IO error reading " ++ file.display ++ ": " ++ reason
  | malformed => "invalid configuration"

namespace Settings

/-- The settings of an empty document. -/
def usual : Settings := ⟨.ofText "data", defaultIdField, true, .empty⟩

/-! ## 1. Reading -/

/-- The name under which a date or time holds its text when a table of texts is asked for. -/
def dateTimeField : String := "$__toml_private_datetime"

/-- A setting that is a text. -/
def text? (usual : String) : Option Toml → Option String
  | none => some usual
  | some (.string value) => some value
  | some _ => none

/-- A setting that is a truth value. -/
def bool? (usual : Bool) : Option Toml → Option Bool
  | none => some usual
  | some (.bool value) => some value
  | some _ => none

/-- The entries of a table of texts. -/
def textEntries? : List (String × Toml) → Option (List (String × String))
  | [] => some []
  | (name, .string value) :: rest => (textEntries? rest).map ((name, value) :: ·)
  | _ :: _ => none

/-- A setting that is a table of texts; a date or time counts as a table of one. -/
def texts? : Option Toml → Option (OrderedMap String)
  | none => some .empty
  | some (.table fields) => (textEntries? fields).map .ofList
  | some (.dateTime text) => some (.ofList [(dateTimeField, text)])
  | some _ => none

/-- The settings that the fields of a document make. -/
def ofFields? (fields : List (String × Toml)) : Option Settings := do
  let directory ← text? "data" (fields.lookup "schema_dir")
  let idField ← text? defaultIdField (fields.lookup "id_field")
  let storesAnswers ← bool? true (fields.lookup "cache")
  let idFields ← texts? (fields.lookup "id_fields")
  return ⟨.ofText directory, idField, storesAnswers, idFields⟩

/-- The settings that a text makes. -/
def ofText (text : String) : Except SettingsFault Settings :=
  match (Toml.read? text).bind ofFields? with
  | some settings => .ok settings
  | none => .error .malformed

/-- The settings of a file, given what reading it gave. -/
def ofFile (file : DiskPath) (content : Except String String) : Except SettingsFault Settings :=
  match content with
  | .error reason => .error (.unreadable file reason)
  | .ok text => ofText text

/-! ## 2. Use -/

/-- The id field of a contract. -/
def idFieldOf (s : Settings) (contract : String) : String :=
  (s.idFields.get? contract).getD s.idField

/-- The kind of store that a registry is opened on. -/
def storeKind (s : Settings) : StoreKind := if s.storesAnswers then .memory else .discarding

/-- Whether the settings are the usual ones; directories are compared by their components. -/
def isUsual (s : Settings) : Bool :=
  s.schemaDirectory.same usual.schemaDirectory && s.idField = usual.idField &&
    s.storesAnswers = usual.storesAnswers && s.idFields.isEmpty

end Settings

end FieldRules
