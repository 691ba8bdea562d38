/-
# What becomes of the files of a directory

`FileFate` says what becomes of one file: the contract that it brings in, or the reason why it
brings none.  Apart from the file, this hangs on one thing only, which names are taken; and a
name is taken for a file if the registry had it before, or if a file before it has brought in a
contract of that name (`TakenBefore`).  Failures before it do not matter.

A directory is loaded file by file, and every file has its fate (`run_loadFiles`).  What is left at
the end follows from the fates: the contracts that came in are those of the files that brought one
(`Fates.contracts_perm`), under the name of the file and with the id field of the settings
(`Fates.named_and_identified`), and the answer is their number or else all the faults, in the order
of the listing (`loadDirectory_accounts`).

How a text is read does not matter for any of this: the source brings its own reader.
-/
import FieldRules.Proofs.Catalogue.Names
import FieldRules.Proofs.Registry.Actions
import FieldRules.Proofs.OrderedMap.Traversal

namespace FieldRules

/-! ## 1. One file -/

/-- What becomes of a file when some names are taken: the contract that it brings in, or why it
brings in none.  The reasons exclude each other and stand in the order in which they are looked
for. -/
inductive FileFate (source : FileSource) (settings : Settings) (taken : String → Prop)
    (path : DiskPath) : Except FileFault Contract → Prop
  | unreadable {reason : String} : source.read path = .error reason →
      FileFate source settings taken path (.error (.unreadable path reason))
  | notJson {text : String} : source.read path = .ok text → source.parse text = none →
      FileFate source settings taken path (.error (.notJson path))
  | invalidName {text : String} {document : Json} : source.read path = .ok text →
      source.parse text = some document → path.stem?.bind Utf8.decode? = none →
      FileFate source settings taken path (.error (.invalidName path))
  | refused {text : String} {document : Json} {name : String} {fault : ContractFault} :
      source.read path = .ok text → source.parse text = some document →
      path.stem?.bind Utf8.decode? = some name → Contract.ofDocument name document = .error fault →
      FileFate source settings taken path (.error (.refused path fault))
  | duplicate {text : String} {document : Json} {name : String} {c : Contract} :
      source.read path = .ok text → source.parse text = some document →
      path.stem?.bind Utf8.decode? = some name → Contract.ofDocument name document = .ok c →
      taken name →
      FileFate source settings taken path (.error (.refused path (.duplicateName name)))
  | registered {text : String} {document : Json} {name : String} {c : Contract} :
      source.read path = .ok text → source.parse text = some document →
      path.stem?.bind Utf8.decode? = some name → Contract.ofDocument name document = .ok c →
      ¬taken name →
      FileFate source settings taken path
        (.ok ⟨name, c.properties, c.required, (settings.idFields.get? name).getD settings.idField⟩)

/-- **The test for an empty name never fails**, since no stem is empty. -/
theorem DiskPath.contractName?_eq (path : DiskPath) :
    path.contractName? = path.stem?.bind Utf8.decode? := by
  unfold contractName?
  cases hname : path.stem?.bind Utf8.decode? with
  | none => rfl
  | some name =>
    obtain ⟨stem, hstem, hdecode⟩ := Option.bind_eq_some_iff.mp hname
    have hne : name ≠ "" := fun hempty =>
      ne_nil_of_stem? hstem (Utf8.eq_nil_of_decode?_eq_empty (hempty ▸ hdecode))
    rw [Option.filter_some, if_pos (decide_eq_true hne)]

/-- A contract has the name that it was built with. -/
theorem Contract.name_of_ofDocument {name : String} {schema : Json} {c : Contract}
    (h : ofDocument name schema = .ok c) : c.name = name := by
  obtain ⟨-, -, -, -, hname, -⟩ := parts_of_ofDocument h
  exact hname

section

variable {source : FileSource} {settings : Settings} {taken : String → Prop} {path : DiskPath}

/-- **The reasons are looked for in this order**, and whether the name is taken comes last. -/
theorem FileFate.of_contractOfFile (source : FileSource) (settings : Settings)
    (taken : String → Prop) (path : DiskPath) :
    match contractOfFile source settings path with
    | .error fault => FileFate source settings taken path (.error fault)
    | .ok c =>
      (taken c.name →
          FileFate source settings taken path (.error (.refused path (.duplicateName c.name)))) ∧
        (¬taken c.name → FileFate source settings taken path (.ok c)) := by
  unfold contractOfFile
  cases hread : source.read path with
  | error reason => exact .unreadable hread
  | ok text =>
    dsimp only
    cases hjson : source.parse text with
    | none => exact .notJson hread hjson
    | some document =>
      rw [DiskPath.contractName?_eq]
      cases hname : path.stem?.bind Utf8.decode? with
      | none => exact .invalidName hread hjson hname
      | some name =>
        dsimp only
        cases hbuilt : Contract.ofDocument name document with
        | error fault => exact .refused hread hjson hname hbuilt
        | ok built =>
          obtain rfl : built.name = name := Contract.name_of_ofDocument hbuilt
          exact ⟨.duplicate hread hjson hname hbuilt, .registered hread hjson hname hbuilt⟩

/-- A file from which no contract can be built fails for that reason. -/
theorem FileFate.of_error {fault : FileFault}
    (h : contractOfFile source settings path = .error fault) :
    FileFate source settings taken path (.error fault) := by
  have hfate := of_contractOfFile source settings taken path
  rwa [h] at hfate

/-- A file from which a contract can be built brings it in, unless its name is taken. -/
theorem FileFate.of_ok (taken : String → Prop) {c : Contract}
    (h : contractOfFile source settings path = .ok c) :
    (taken c.name →
        FileFate source settings taken path (.error (.refused path (.duplicateName c.name)))) ∧
      (¬taken c.name → FileFate source settings taken path (.ok c)) := by
  have hfate := of_contractOfFile source settings taken path
  rwa [h] at hfate

/-- **A contract that a file brings in** has the text of the stem as its name, which was not taken,
and the id field that the settings have for this name, or else for all. -/
theorem FileFate.of_registered {c : Contract} (h : FileFate source settings taken path (.ok c)) :
    path.stem?.bind Utf8.decode? = some c.name ∧ ¬taken c.name ∧
      c.idField = (settings.idFields.get? c.name).getD settings.idField := by
  cases h with
  | registered _ _ hname _ hnew => exact ⟨hname, hnew, rfl⟩

/-- **A file has one fate**: the description leaves nothing open. -/
theorem FileFate.unique {x y : Except FileFault Contract}
    (h : FileFate source settings taken path x) (h' : FileFate source settings taken path y) :
    x = y := by
  cases h <;> cases h' <;> simp_all

end

/-! ## 2. One file after the other -/

/-- A name is taken for a file: the registry had it, or a file before it has brought it in.  The
fates are those of the files before it. -/
def TakenBefore (r : Registry) (fates : List (Except FileFault Contract)) (name : String) : Prop :=
  r.catalogue.Has name ∨ ∃ c, .ok c ∈ fates ∧ c.name = name

/-- The fates of files that are taken one after the other. -/
structure Fates (source : FileSource) (settings : Settings) (r : Registry)
    (paths : List DiskPath) (fates : List (Except FileFault Contract)) : Prop where
  length_eq : fates.length = paths.length
  fate_at : ∀ i path, paths[i]? = some path → ∃ fate, fates[i]? = some fate ∧
    FileFate source settings (TakenBefore r (fates.take i)) path fate

namespace Registry

/-- The registry that a file leaves. -/
def accept (r : Registry) : Except FileFault Contract → Registry
  | .ok c => { r with catalogue := r.catalogue.insert c }
  | .error _ => r

@[simp] theorem number_accept (r : Registry) (fate : Except FileFault Contract) :
    (r.accept fate).number = r.number := by
  cases fate <;> rfl

/-- The names that are taken after a file are those that were, and the one it has brought in. -/
theorem takenBefore_accept {r : Registry} {fate : Except FileFault Contract}
    {fates : List (Except FileFault Contract)} {name : String} :
    TakenBefore (r.accept fate) fates name ↔ TakenBefore r (fate :: fates) name := by
  unfold TakenBefore
  cases fate with
  | error fault => simp [accept]
  | ok c =>
    rw [accept, Catalogue.has_insert, or_assoc]
    simp [or_and_right, exists_or]

theorem takenBefore_nil {r : Registry} {name : String} :
    TakenBefore r [] name ↔ r.catalogue.Has name := by
  simp [TakenBefore]

/-- **One file**: it has a fate, and the registry is what that leaves. -/
theorem run_loadFile (r : Registry) (source : FileSource) (settings : Settings) (path : DiskPath)
    (j : Journal) : ∃ fate j', FileFate source settings r.catalogue.Has path fate ∧
      (r.loadFile source settings path).run j = (fate.map fun c => r.accept (.ok c), j') := by
  unfold loadFile
  cases hbuilt : contractOfFile source settings path with
  | error fault => exact ⟨.error fault, j, .of_error hbuilt, rfl⟩
  | ok c =>
    obtain ⟨htaken, hnew⟩ := FileFate.of_ok r.catalogue.Has hbuilt
    by_cases hhas : (r.catalogue.find? c.name).isSome
    · have hrun := run_register_of_taken hhas j
      refine ⟨_, j, htaken (Catalogue.has_iff.mpr hhas), ?_⟩
      simp only [StateT.run_bind, hrun]
      rfl
    · have hrun := run_register_of_new hhas j
      refine ⟨.ok c, ((r.register c).run j).2, hnew fun h => hhas (Catalogue.has_iff.mp h), ?_⟩
      simp only [StateT.run_bind, hrun]
      rfl

end Registry

namespace Fates

variable {source : FileSource} {settings : Settings} {r : Registry} {path : DiskPath}
  {paths : List DiskPath} {fate : Except FileFault Contract}
  {fates : List (Except FileFault Contract)}

/-- The first file finds the names of the registry taken, and the others find what it leaves. -/
theorem cons_iff : Fates source settings r (path :: paths) (fate :: fates) ↔
    FileFate source settings r.catalogue.Has path fate ∧
      Fates source settings (r.accept fate) paths fates := by
  -- which names are taken is all that a fate depends on, so these are equations of predicates
  have hfirst : TakenBefore r [] = r.catalogue.Has :=
    funext fun name => propext Registry.takenBefore_nil
  have hnext : ∀ before, TakenBefore (r.accept fate) before = TakenBefore r (fate :: before) :=
    fun before => funext fun name => propext Registry.takenBefore_accept
  constructor
  · intro h
    obtain ⟨found, hfound, hfate⟩ := h.fate_at 0 path rfl
    cases hfound
    rw [List.take_zero, hfirst] at hfate
    refine ⟨hfate, Nat.succ.inj h.length_eq, fun i other hother => ?_⟩
    obtain ⟨found, hfound, hfate'⟩ := h.fate_at (i + 1) other hother
    rw [List.take_succ_cons, ← hnext] at hfate'
    exact ⟨found, hfound, hfate'⟩
  · rintro ⟨hfate, hrest⟩
    refine ⟨congrArg Nat.succ hrest.length_eq, fun i other hother => ?_⟩
    cases i with
    | zero =>
      cases hother
      refine ⟨fate, rfl, ?_⟩
      rw [List.take_zero, hfirst]
      exact hfate
    | succ i =>
      obtain ⟨found, hfound, hfate'⟩ := hrest.fate_at i other hother
      refine ⟨found, hfound, ?_⟩
      rw [List.take_succ_cons, ← hnext]
      exact hfate'

/-- **The contracts at the end** are those that were there and those that files have brought in,
each of them once. -/
theorem contracts_perm (h : Fates source settings r paths fates) :
    (fates.foldl Registry.accept r).catalogue.contracts.Perm
      (r.catalogue.contracts ++ fates.filterMap Except.toOption) := by
  induction fates generalizing r paths with
  | nil => simp
  | cons fate rest ih =>
    cases paths with
    | nil => exact absurd h.length_eq (Nat.succ_ne_zero _)
    | cons path others =>
      obtain ⟨hfate, hrest⟩ := cons_iff.mp h
      rw [List.foldl_cons]
      refine (ih hrest).trans ?_
      cases hfate with
      | @registered _ _ name built _ _ _ hbuilt hnew =>
        -- a contract comes in under a new name only, so none gives way to it
        obtain rfl : built.name = name := Contract.name_of_ofDocument hbuilt
        have hinsert := Catalogue.contracts_insert_of_new
          (c := built.identifiedBy (settings.idFieldOf built.name)) hnew
        exact (hinsert.append_right _).trans List.perm_middle.symm
      | _ => exact .refl _

/-- **A second contract of one name**: the only reason to refuse a contract that can be built is
that its name is taken. -/
theorem duplicate_iff (h : Fates source settings r paths fates) {i : Nat} {c : Contract}
    (hpath : paths[i]? = some path) (hc : contractOfFile source settings path = .ok c) :
    fates[i]? = some (.error (.refused path (.duplicateName c.name))) ↔
      TakenBefore r (fates.take i) c.name := by
  obtain ⟨fate, hat, hfate⟩ := h.fate_at i path hpath
  obtain ⟨htaken, hnew⟩ := FileFate.of_ok (TakenBefore r (fates.take i)) hc
  rw [hat, Option.some.injEq]
  by_cases hname : TakenBefore r (fates.take i) c.name
  · simp [hname, hfate.unique (htaken hname)]
  · simp [hname, hfate.unique (hnew hname)]

/-- **A contract that comes in** is named after its file and has the id field of the settings. -/
theorem named_and_identified (h : Fates source settings r paths fates) {i : Nat} {c : Contract}
    (hpath : paths[i]? = some path) (hc : fates[i]? = some (.ok c)) :
    path.stem?.bind Utf8.decode? = some c.name ∧
      c.idField = (settings.idFields.get? c.name).getD settings.idField := by
  obtain ⟨fate, hat, hfate⟩ := h.fate_at i path hpath
  obtain rfl : fate = .ok c := Option.some.inj (hat.symm.trans hc)
  obtain ⟨hname, -, hidField⟩ := hfate.of_registered
  exact ⟨hname, hidField⟩

/-- **A contract that was not there** has come in with one of the files. -/
theorem exists_file_of_new (h : Fates source settings r paths fates) {final : Registry}
    (hperm : final.catalogue.contracts.Perm
      (r.catalogue.contracts ++ fates.filterMap Except.toOption)) {c : Contract}
    (hthere : c ∈ final.catalogue.contracts) (hnew : c ∉ r.catalogue.contracts) :
    ∃ (i : Nat) (file : DiskPath), paths[i]? = some file ∧ fates[i]? = some (.ok c) := by
  have hcame : c ∈ fates.filterMap Except.toOption :=
    (List.mem_append.mp (hperm.mem_iff.mp hthere)).resolve_left hnew
  obtain ⟨fate, hfate, hc⟩ := List.mem_filterMap.mp hcame
  cases fate with
  | error fault => cases hc
  | ok came =>
    cases hc
    obtain ⟨i, hi, hat⟩ := List.getElem_of_mem hfate
    have hpath : i < paths.length := h.length_eq ▸ hi
    exact ⟨i, paths[i], List.getElem?_eq_getElem hpath, hat ▸ List.getElem?_eq_getElem hi⟩

theorem number_foldl_accept (r : Registry) (fates : List (Except FileFault Contract)) :
    (fates.foldl Registry.accept r).number = r.number := by
  induction fates generalizing r with
  | nil => rfl
  | cons fate rest ih => rw [List.foldl_cons, ih, Registry.number_accept]

end Fates

namespace Registry

/-- **All files**: each has its fate, and registry, number and faults are what the fates leave. -/
theorem run_loadFiles (source : FileSource) (settings : Settings) (paths : List DiskPath)
    (r : Registry) (j : Journal) :
    ∃ fates j', Fates source settings r paths fates ∧
      (loadFiles source settings paths r).run j
        = ((fates.foldl accept r, (fates.filterMap Except.toOption).length,
            fates.filterMap fault?), j') := by
  induction paths generalizing r j with
  | nil => exact ⟨[], j, ⟨rfl, nofun⟩, rfl⟩
  | cons path rest ih =>
    obtain ⟨fate, j₁, hfate, hrun⟩ := r.run_loadFile source settings path j
    obtain ⟨fates, j₂, hfates, hrest⟩ := ih (r.accept fate) j₁
    refine ⟨fate :: fates, j₂, Fates.cons_iff.mpr ⟨hfate, hfates⟩, ?_⟩
    rw [loadFiles, StateT.run_bind, hrun]
    cases fate with
    | error fault =>
      exact congrArg (fun p : (Registry × Nat × List FileFault) × Journal =>
        ((p.1.1, p.1.2.1, fault :: p.1.2.2), p.2)) hrest
    | ok c =>
      exact congrArg (fun p : (Registry × Nat × List FileFault) × Journal =>
        ((p.1.1, p.1.2.1 + 1, p.1.2.2), p.2)) hrest

/-! ## 3. The directory -/

theorem run_loadDirectory {r final : Registry} {directory : DiskPath} {source : FileSource}
    {settings : Settings} {paths : List DiskPath} {count : Nat} {faults : List FileFault}
    {j j' : Journal} (hlist : source.list directory = .ok paths)
    (hrun : (loadFiles source settings (paths.filter DiskPath.isSchema) r).run j
      = ((final, count, faults), j')) :
    (r.loadDirectory directory source settings).run j
      = ((if faults.isEmpty then .ok count else .error (.files faults), final), j') := by
  have hnext : (r.loadDirectory directory source settings).run j
      = (if faults.isEmpty then pure (.ok count, final)
          else pure (.error (.files faults), final) :
          StateM Journal (Except LoadFault Nat × Registry)).run j' := by
    rw [loadDirectory, hlist]
    exact congrArg (fun p : (Registry × Nat × List FileFault) × Journal =>
      (if p.1.2.2.isEmpty then pure (.ok p.1.2.1, p.1.1)
        else pure (.error (.files p.1.2.2), p.1.1) :
        StateM Journal (Except LoadFault Nat × Registry)).run p.2) hrun
  rw [hnext]
  split <;> rfl

/-- **Every file of a directory is accounted for.**  A directory that cannot be listed changes
nothing.  Otherwise every file with the extension `json` has its fate, in the order of the listing.
A contract that can be built is refused only for a name that is taken; one that comes in has the
name of its file and the id field that the settings give this name.  The contracts that files bring
in come to those that were there, and the answer is how many have come in, or all that has failed.
All this is so whatever the source makes of a text (`FileSource.parse`). -/
theorem loadDirectory_accounts (r : Registry) (directory : DiskPath) (source : FileSource)
    (settings : Settings) (j : Journal) :
    (∀ reason, source.list directory = .error reason →
      (r.loadDirectory directory source settings).run j
        = ((.error (.unlisted directory reason), r), j)) ∧
    ∀ paths considered, source.list directory = .ok paths →
      considered = paths.filter (·.extension? = some (Utf8.encode "json")) →
      ∃ fates result final j',
        (r.loadDirectory directory source settings).run j = ((result, final), j') ∧
        Fates source settings r considered fates ∧
        (∀ i path c, considered[i]? = some path → contractOfFile source settings path = .ok c →
          (fates[i]? = some (.error (.refused path (.duplicateName c.name))) ↔
            TakenBefore r (fates.take i) c.name)) ∧
        (∀ (i : Nat) (path : DiskPath) (c : Contract),
          considered[i]? = some path → fates[i]? = some (.ok c) →
          path.stem?.bind Utf8.decode? = some c.name ∧
            c.idField = (settings.idFields.get? c.name).getD settings.idField) ∧
        final.number = r.number ∧
        final.catalogue.contracts.Perm
          (r.catalogue.contracts ++ fates.filterMap Except.toOption) ∧
        ((∀ fault, .error fault ∉ fates) →
          result = .ok (fates.filterMap Except.toOption).length) ∧
        ((∃ fault, .error fault ∈ fates) → result = .error (.files (fates.filterMap fault?))) := by
  refine ⟨fun reason hlist => ?_, fun paths considered hlist hconsidered => ?_⟩
  · rw [loadDirectory, hlist]
    rfl
  · obtain ⟨fates, j', hfates, hrun⟩ := run_loadFiles source settings considered r j
    have hfault : ∀ fault, fault ∈ fates.filterMap fault? ↔ .error fault ∈ fates := by
      simp [fault?_eq_some_iff]
    refine ⟨fates, if (fates.filterMap fault?).isEmpty
        then .ok (fates.filterMap Except.toOption).length
        else .error (.files (fates.filterMap fault?)), fates.foldl accept r, j', ?_, hfates,
      fun i path c => hfates.duplicate_iff, fun i path c => hfates.named_and_identified,
      Fates.number_foldl_accept r fates, hfates.contracts_perm, fun hnone => ?_,
      fun ⟨fault, hsome⟩ => ?_⟩
    · subst hconsidered
      exact run_loadDirectory hlist hrun
    · have hempty : fates.filterMap fault? = [] :=
        List.eq_nil_iff_forall_not_mem.mpr fun fault h => hnone fault ((hfault fault).mp h)
      simp [hempty]
    · have hne : fates.filterMap fault? ≠ [] :=
        List.ne_nil_of_mem ((hfault fault).mpr hsome)
      simp [hne]

/-! ### One directory

Records are identified by `uuid` here, but those of `user` by `user_id`.  Of the files, `notes.txt`
is no schema, `street.json` cannot be read, `draft.json` is not JSON, one name is no text and
`blank.json` has no schema.  `user.json` and `shop.json` come in; the second file named `user.json`
does not, nor does `place.json`, whose name the registry has. -/

def townSettings : Settings := ⟨.ofText "town", "uuid", true, .ofList [("user", "user_id")]⟩

/-- The text of `user.json`. -/
def userText : String :=
  "\x7b\"properties\":\x7b\"email\":\x7b\"type\":\"string\"\x7d\x7d,\"required\":[\"email\"]\x7d"

/-- The text of `shop.json`. -/
def shopText : String := "\x7b\"properties\":\x7b\"rank\":\x7b\"type\":\"integer\"\x7d\x7d\x7d"

def townFiles : FileSource :=
  .ofFiles [(.ofText "town/notes.txt", .ok "to do"), (.ofText "town/street.json", .error "denied"),
    (.ofText "town/draft.json", .ok "\x7b"), (.ofText "town/user.json", .ok userText),
    (⟨Utf8.encode "town/" ++ 0xFF :: Utf8.encode ".json"⟩, .ok shopText),
    (.ofText "town/blank.json", .ok "null"), (.ofText "town/shop.json", .ok shopText),
    (.ofText "town/old/user.json", .ok shopText), (.ofText "town/place.json", .ok userText)] none

def townSchemas : List DiskPath :=
  [.ofText "town/street.json", .ofText "town/draft.json", .ofText "town/user.json",
    ⟨Utf8.encode "town/" ++ 0xFF :: Utf8.encode ".json"⟩, .ofText "town/blank.json",
    .ofText "town/shop.json", .ofText "town/old/user.json", .ofText "town/place.json"]

def townFaults : List FileFault :=
  [.unreadable (.ofText "town/street.json") "denied", .notJson (.ofText "town/draft.json"),
    .invalidName ⟨Utf8.encode "town/" ++ 0xFF :: Utf8.encode ".json"⟩,
    .refused (.ofText "town/blank.json") (.noSchema "blank"),
    .refused (.ofText "town/old/user.json") (.duplicateName "user"),
    .refused (.ofText "town/place.json") (.duplicateName "place")]

/-- The contract of `user.json`, with the id field of its own. -/
def userContract : Contract :=
  ⟨"user", .ofList [("email", .object [("type", .string "string")])], ["email"], "user_id"⟩

/-- The contract of `shop.json`, with the id field of all others. -/
def shopContract : Contract :=
  ⟨"shop", .ofList [("rank", .object [("type", .string "integer")])], [], "uuid"⟩

def placeContract : Contract := ⟨"place", .empty, ["key"], "id"⟩

/-- A registry with a contract `place`. -/
def townRegistry : Registry := ⟨1, Catalogue.empty.insert placeContract⟩

theorem loadDirectory_accounts_townFiles :
    (townRegistry.loadDirectory (.ofText "town") (.ofFiles [] (some "denied")) townSettings).run
        (.start (.new .memory))
      = ((.error (.unlisted (.ofText "town") "denied"), townRegistry), .start (.new .memory)) ∧
    (∃ fates : List (Except FileFault Contract), ∃ final j',
      (townRegistry.loadDirectory (.ofText "town") townFiles townSettings).run
          (.start (.new .memory)) = ((.error (.files townFaults), final), j') ∧
      fates[7]? = some (.error (.refused (.ofText "town/place.json") (.duplicateName "place"))) ∧
      fates.filterMap fault? = townFaults ∧
      placeContract ∈ final.catalogue.contracts ∧
      ∀ c ∈ [userContract, shopContract], c ∈ final.catalogue.contracts ∧
        ∃ (i : Nat) (path : DiskPath), townSchemas[i]? = some path ∧ fates[i]? = some (.ok c) ∧
          path.stem?.bind Utf8.decode? = some c.name ∧
          c.idField = (townSettings.idFields.get? c.name).getD "uuid") ∧
    ∃ fates : List (Except FileFault Contract), ∃ final j',
      (townRegistry.loadDirectory (.ofText "town")
          (.ofFiles [(.ofText "town/user.json", .ok userText)] none) townSettings).run
        (.start (.new .memory)) = ((.ok 1, final), j') ∧
      (fates.filterMap Except.toOption).length = 1 ∧
      final.catalogue.contracts.Perm
        (townRegistry.catalogue.contracts ++ fates.filterMap Except.toOption) := by
  have hplace : placeContract ∈ townRegistry.catalogue.contracts := by decide +kernel
  obtain ⟨hunlisted, -⟩ := loadDirectory_accounts townRegistry (.ofText "town")
    (.ofFiles [] (some "denied")) townSettings (.start (.new .memory))
  obtain ⟨-, hlisted⟩ := loadDirectory_accounts townRegistry (.ofText "town") townFiles
    townSettings (.start (.new .memory))
  obtain ⟨-, hlisted'⟩ := loadDirectory_accounts townRegistry (.ofText "town")
    (.ofFiles [(.ofText "town/user.json", .ok userText)] none) townSettings
    (.start (.new .memory))
  refine ⟨hunlisted _ rfl, ?_, ?_⟩
  · obtain ⟨fates, result, final, j', hrun, hfates, hduplicate, hnamed, -, hperm, -, hfails⟩ :=
      hlisted _ townSchemas rfl (by decide +kernel)
    obtain ⟨hresult, hcame⟩ : result = .error (.files townFaults) ∧
        ∀ c ∈ [userContract, shopContract],
          c ∈ final.catalogue.contracts ∧ c ∉ townRegistry.catalogue.contracts := by
      rw [show result = _ from (congrArg (·.1.1) hrun).symm,
        show final = _ from (congrArg (·.1.2) hrun).symm]
      decide +kernel
    have hsecond := (hduplicate 7 (.ofText "town/place.json")
      ⟨"place", userContract.properties, ["email"], "uuid"⟩ rfl
      (by decide +kernel)).mpr (.inl ⟨_, hplace, rfl⟩)
    have hfaults := hfails ⟨_, List.mem_of_getElem? hsecond⟩
    rw [hresult] at hrun hfaults
    have hall := (LoadFault.files.inj (Except.error.inj hfaults)).symm
    refine ⟨fates, final, j', hrun, hsecond, hall,
      hperm.mem_iff.mpr (List.mem_append_left _ hplace), fun c hc => ?_⟩
    obtain ⟨hthere, hnew⟩ := hcame c hc
    obtain ⟨i, path, hpath, hat⟩ := hfates.exists_file_of_new hperm hthere hnew
    obtain ⟨hname, hidField⟩ := hnamed i path c hpath hat
    exact ⟨hthere, i, path, hpath, hat, hname, hidField⟩
  · obtain ⟨fates, result, final, j', hrun, -, -, -, -, hperm, hgives, hfails⟩ :=
      hlisted' _ _ rfl rfl
    have hresult : result = .ok 1 := by
      rw [show result = _ from (congrArg (·.1.1) hrun).symm]
      decide +kernel
    have hcount := hgives fun fault hfault => by
      rw [hfails ⟨fault, hfault⟩] at hresult
      cases hresult
    rw [hresult] at hrun hcount
    exact ⟨fates, final, j', hrun, (Except.ok.inj hcount).symm, hperm⟩

end Registry

end FieldRules
