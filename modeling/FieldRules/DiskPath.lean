/-
# Paths of files

A path of the file system is a list of bytes.  It falls into components between slashes; empty
ones do not count, nor does a dot unless it is the first.  Two paths are the same when their
components are.  The file name is the last component if that is a name; it is split at its last
dot into stem and extension, and a name whose only dot is its first character has no extension.
-/
import FieldRules.Text.Quoted

namespace FieldRules

/-- A path, as its bytes. -/
structure DiskPath where
  bytes : List UInt8
deriving DecidableEq

/-- A component of a path. -/
inductive Component where
  | root | here | parent
  | name (bytes : List UInt8)
deriving DecidableEq

namespace DiskPath

/-! ## 1. Components -/

/-- The byte between components. -/
def slash : UInt8 := 0x2F

/-- The byte before an extension. -/
def dot : UInt8 := 0x2E

/-- The stretches of bytes between the slashes. -/
def splitSlashes : List UInt8 → List (List UInt8)
  | [] => [[]]
  | b :: rest =>
    if b = slash then [] :: splitSlashes rest
    else
      match splitSlashes rest with
      | [] => [[b]]
      | piece :: pieces => (b :: piece) :: pieces

/-- The component of a stretch that is not the first. -/
def component? (bytes : List UInt8) : Option Component :=
  if bytes = [] ∨ bytes = [dot] then none
  else if bytes = [dot, dot] then some .parent
  else some (.name bytes)

/-- The components of a path. -/
def components (p : DiskPath) : List Component :=
  match splitSlashes p.bytes with
  | [] => []
  | first :: rest =>
    let start :=
      if first = [] then (if rest.isEmpty then [] else [Component.root])
      else if first = [dot] then [.here]
      else (component? first).toList
    start ++ rest.filterMap component?

/-- Whether two paths have the same components. -/
def same (p q : DiskPath) : Bool := p.components = q.components

/-! ## 2. File names -/

/-- The last component, if it is a name. -/
def fileName? (p : DiskPath) : Option (List UInt8) :=
  match p.components.getLast? with
  | some (.name bytes) => some bytes
  | _ => none

/-- What stands before and after the last dot, if there is a dot. -/
def splitLastDot? : List UInt8 → Option (List UInt8 × List UInt8)
  | [] => none
  | b :: rest =>
    match splitLastDot? rest with
    | some (before, after) => some (b :: before, after)
    | none => if b = dot then some ([], rest) else none

/-- The file name without its extension. -/
def stem? (p : DiskPath) : Option (List UInt8) :=
  p.fileName?.map fun name =>
    match splitLastDot? name with
    | some ([], _) => name
    | some (before, _) => before
    | none => name

/-- The extension of the file name. -/
def extension? (p : DiskPath) : Option (List UInt8) :=
  p.fileName?.bind fun name =>
    match splitLastDot? name with
    | some ([], _) => none
    | some (_, after) => some after
    | none => none

theorem ne_nil_of_component? {bytes name : List UInt8}
    (h : component? bytes = some (.name name)) : name ≠ [] := by
  unfold component? at h
  split at h
  · cases h
  · rename_i hnot
    split at h
    · cases h
    · cases h
      exact fun hnil => hnot (.inl hnil)

theorem ne_nil_of_name_mem_components {p : DiskPath} {name : List UInt8}
    (h : Component.name name ∈ p.components) : name ≠ [] := by
  unfold components at h
  split at h
  · cases h
  · rcases List.mem_append.mp h with h | h
    · split at h
      · split at h <;> simp at h
      · split at h
        · simp at h
        · exact ne_nil_of_component? (Option.mem_toList.mp h)
    · obtain ⟨piece, -, hpiece⟩ := List.mem_filterMap.mp h
      exact ne_nil_of_component? hpiece

/-- **A stem is never empty**: a file name has something before its extension. -/
theorem ne_nil_of_stem? {p : DiskPath} {stem : List UInt8} (h : p.stem? = some stem) :
    stem ≠ [] := by
  obtain ⟨name, hname, hstem⟩ := Option.map_eq_some_iff.mp h
  have hne : name ≠ [] := by
    unfold fileName? at hname
    split at hname
    · rename_i bytes hlast
      cases hname
      exact ne_nil_of_name_mem_components (List.mem_of_getLast? hlast)
    · cases hname
  split at hstem
  · exact hstem ▸ hne
  · rename_i hbefore _
    exact fun hnil => hbefore (hstem.trans hnil)
  · exact hstem ▸ hne

/-! ## 3. Texts -/

/-- The path of a text. -/
def ofText (text : String) : DiskPath := ⟨Utf8.encode text⟩

/-- The text that a path is shown as. -/
def display (p : DiskPath) : String := Utf8.display p.bytes

/-- The path of an entry of a directory. -/
def join (directory : DiskPath) (name : List UInt8) : DiskPath :=
  if directory.bytes.getLast? = some slash then ⟨directory.bytes ++ name⟩
  else ⟨directory.bytes ++ slash :: name⟩

end DiskPath

end FieldRules
