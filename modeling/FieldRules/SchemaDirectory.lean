/-
# Loading a directory of schemas

Every file of a directory whose extension is `json` is a contract, named by the stem of the
file.  Each file is taken on its own: it becomes a contract and is registered, or it fails, and a
failure stops neither the files before it nor those after.  The answer is the number of
contracts that came in or, when some file failed, every failure in the order of the listing
(`Registry.loadDirectory`).

A file fails for the first of these reasons that there is: it cannot be read, its text is no
document, its stem is no text, or its contract is refused.
-/
import FieldRules.FileSource
import FieldRules.Registry
import FieldRules.Settings

namespace FieldRules

/-! ## 1. Faults -/

/-- Why a file did not become a contract. -/
inductive FileFault where
  | unreadable (path : DiskPath) (reason : String)
  | notJson (path : DiskPath)
  | invalidName (path : DiskPath)
  | refused (path : DiskPath) (fault : ContractFault)
deriving DecidableEq

/-- Why a directory was not loaded, or not all of it. -/
inductive LoadFault where
  | unlisted (directory : DiskPath) (reason : String)
  | files (faults : List FileFault)
  | settings (fault : SettingsFault)
deriving DecidableEq

/-! ## 2. Texts of faults -/

/-- The text of a fault of a contract. -/
def ContractFault.message : ContractFault → String
  | noSchema contract => contract ++ ": no schema defined"
  | malformed contract => "problem parsing JSON Schema for " ++ contract
  | invalidSection contract part => contract ++ ": '" ++ part.name ++ "' has the wrong JSON type"
  | duplicateName contract => "contract '" ++ contract ++ "' already registered"

/-- A fault of a contract in a listing of faults. -/
def ContractFault.listed : ContractFault → String
  | noSchema contract => "NoSchema(" ++ Quoted.text contract ++ ")"
  | malformed contract => "Parse(" ++ Quoted.text contract ++ ")"
  | invalidSection contract part =>
    "InvalidSection \x7b name: " ++ Quoted.text contract ++ ", section: " ++
      Quoted.text part.name ++ " \x7d"
  | duplicateName contract => "DuplicateName(" ++ Quoted.text contract ++ ")"

namespace FileFault

/-- The file that failed. -/
def path : FileFault → DiskPath
  | unreadable path _ => path
  | notJson path => path
  | invalidName path => path
  | refused path _ => path

/-- The text of a fault of a file. -/
def message : FileFault → String
  | unreadable path reason => "IO error reading " ++ path.display ++ ": " ++ reason
  | notJson path => "Parse error in " ++ path.display
  | invalidName path => "Invalid filename: " ++ path.display
  | refused path fault => "Contract error in " ++ path.display ++ ": " ++ fault.message

/-- A fault of a file in a listing of faults. -/
def listed : FileFault → String
  | unreadable path reason =>
    "Io(" ++ Quoted.bytes path.bytes ++ ", " ++ Quoted.text reason ++ ")"
  | notJson path => "Parse(" ++ Quoted.bytes path.bytes ++ ")"
  | invalidName path => "InvalidFileName(" ++ Quoted.bytes path.bytes ++ ")"
  | refused path fault => "Contract(" ++ Quoted.bytes path.bytes ++ ", " ++ fault.listed ++ ")"

end FileFault

/-- The text of a fault of loading. -/
def LoadFault.message : LoadFault → String
  | unlisted directory reason => "IO error reading " ++ directory.display ++ ": " ++ reason
  | files faults =>
    "Multiple errors: [" ++ String.intercalate ", " (faults.map FileFault.listed) ++ "]"
  | settings fault => "Configuration error: " ++ fault.message

/-! ## 3. Loading -/

/-- Whether a file is a schema: its extension is exactly `json`. -/
def DiskPath.isSchema (path : DiskPath) : Bool := path.extension? = some (Utf8.encode "json")

/-- The name of the contract in a file: the text of its stem, unless that is empty.  No stem is
(`DiskPath.contractName?_eq`), so a file without a name is one whose stem is no text. -/
def DiskPath.contractName? (path : DiskPath) : Option String :=
  (path.stem?.bind Utf8.decode?).filter (· ≠ "")

/-- The contract that a file makes. -/
def contractOfFile (source : FileSource) (settings : Settings) (path : DiskPath) :
    Except FileFault Contract :=
  match source.read path with
  | .error reason => .error (.unreadable path reason)
  | .ok text =>
    match source.parse text with
    | none => .error (.notJson path)
    | some document =>
      match path.contractName? with
      | none => .error (.invalidName path)
      | some name =>
        match Contract.ofDocument name document with
        | .error fault => .error (.refused path fault)
        | .ok c => .ok (c.identifiedBy (settings.idFieldOf name))

namespace Registry

/-- Registers the contract that a file makes. -/
def loadFile (r : Registry) (source : FileSource) (settings : Settings) (path : DiskPath) :
    StateM Journal (Except FileFault Registry) := do
  match contractOfFile source settings path with
  | .error fault => return .error fault
  | .ok c =>
    match ← r.register c with
    | .error fault => return .error (.refused path fault)
    | .ok r => return .ok r

/-- Loads the files of a list, one after the other: the registry that comes of it, how many came
in and what failed. -/
def loadFiles (source : FileSource) (settings : Settings) :
    List DiskPath → Registry → StateM Journal (Registry × Nat × List FileFault)
  | [], r => return (r, 0, [])
  | path :: rest, r => do
    match ← r.loadFile source settings path with
    | .error fault =>
      let (r, count, faults) ← loadFiles source settings rest r
      return (r, count, fault :: faults)
    | .ok r =>
      let (r, count, faults) ← loadFiles source settings rest r
      return (r, count + 1, faults)

/-- Loads the schemas of a directory: how many came in, or every failure. -/
def loadDirectory (r : Registry) (directory : DiskPath) (source : FileSource)
    (settings : Settings) : StateM Journal (Except LoadFault Nat × Registry) := do
  match source.list directory with
  | .error reason => return (.error (.unlisted directory reason), r)
  | .ok paths =>
    let (r, count, faults) ← loadFiles source settings (paths.filter DiskPath.isSchema) r
    if faults.isEmpty then return (.ok count, r) else return (.error (.files faults), r)

end Registry

end FieldRules
