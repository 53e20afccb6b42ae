import Conversa.Config.Record
import Conversa.Entry.Instance
import Conversa.Training.LoaderNames

/-!
# Evaluation loaders of a model, by name

A model's validation or test section may list several data sources.  Resolving a stage's loaders
takes the index of the loader whose loss counts (`val_dl_idx`, `test_dl_idx`, zero by default)
and the entry of sources: none sets up one loader from the whole section, a list one loader per
source with its name, one source one loader.  Beside them stand the naming helpers and the check
of a library's version.
-/

namespace Conversa.Callees

open Entry Config

def modelUtilsName (name : String) : String := "nemo.utils.model_utils:" ++ name

/-- What differs between resolving validation and test loaders: the section, the entry holding
the loss index, and the attributes and method of the model involved. -/
structure LoaderStage where
  configKey : String
  /-- The entry of the section holding the index of the loader whose loss counts. -/
  lossIndex : String
  indexAttr : String
  /-- The method that sets up a loader from a section. -/
  setup : String
  /-- The attribute holding the loader set up last, and then all loaders. -/
  loaderAttr : String
  namesAttr : String
deriving Inhabited

def validationLoaders : LoaderStage :=
  ⟨"validation_ds", "val_dl_idx", "_val_dl_idx", "setup_validation_data", "_validation_dl",
    "_validation_names"⟩

def testLoaders : LoaderStage :=
  ⟨"test_ds", "test_dl_idx", "_test_dl_idx", "setup_test_data", "_test_dl", "_test_names"⟩

/-- A section of a configuration read as an attribute: a missing one fails as the configuration
reports it, and a plain mapping has no attributes. -/
def configSection (cfg : Data) (name : String) : Result Data :=
  match tagged? cfg "$cfg" with
  | some (.dict kvs) =>
    match kvs.find? (·.1 == name) with
    | some (_, v) => .ok v
    | none => .error (located "ConfigAttributeError" s!"Missing key {name}" name "dict")
  | _ => .error (noAttribute (plain cfg).kindName name)

def sourceValues (sectionName : String) (part : Data) (key : Data) : Result Data :=
  match key with
  | .list _ => .error (located "KeyValidationError" "Incompatible key type 'ListConfig'" "" "dict")
  | .dict _ => .error (located "KeyValidationError" "Incompatible key type 'DictConfig'" "" "dict")
  | k =>
    match part.get? k.text with
    | some v => .ok v
    | none => .error (located "ConfigKeyError" s!"Missing key {k.text}" s!"{sectionName}.{k.text}" "dict")

def loaderNames (present : String → Bool) (sources : List Data) : Result Data := do
  pure (Data.strs (← sources.mapM fun s => Training.loaderName present s.text))

def resolveLoaders (st : LoaderStage) : Method Data := do
  let part ← configSection (← Method.attr "_cfg") st.configKey
  let (index, part) ← if ← (part.holds (.str st.lossIndex)) then
      pure (part.getD st.lossIndex, part.erase st.lossIndex)
    else pure (.int 0, part)
  Method.setAttr st.indexAttr index
  let tree ← Method.work Work.files
  let present (p : String) : Bool := tree.exists_ p
  match Training.sourceKey present part.entries with
  | none =>
    let _ ← Method.invoke [st.setup] [part]
    pure .null
  | some key =>
    match ← (sourceValues st.configKey part key) with
    | .list sources =>
      let mut loaders := []
      for source in sources do
        let _ ← Method.invoke [st.setup] [part.set key.text source]
        loaders := loaders ++ [← Method.attr st.loaderAttr]
      Method.setAttr st.loaderAttr (.list loaders)
      Method.setAttr st.namesAttr (← loaderNames present sources)
      pure .null
    | source =>
      let _ ← Method.invoke [st.setup] [part]
      Method.setAttr st.namesAttr (← loaderNames present [source])
      pure .null

def resolveValidationCallee : Callee :=
  methodOn "model" "resolve_validation_dataloaders" [] fun _ => resolveLoaders validationLoaders

def resolveTestCallee : Callee :=
  methodOn "model" "resolve_test_dataloaders" [] fun _ => resolveLoaders testLoaders

def datasetKeyCallee : Callee :=
  function "resolve_dataset_name_from_cfg" [req "cfg"] fun vals => do
    let tree ← Work.files
    pure ((Training.sourceKey tree.exists_ (plainArg vals 0).entries).getD .null)

def datasetNameCallee : Callee :=
  function "parse_dataset_as_name" [req "name"] fun vals => do
    let tree ← Work.files
    pure (.str (← Training.loaderName tree.exists_ (plainArg vals 0).text))

/-- `unique_names_check`: repeated names are only warned about. -/
def uniqueNamesCallee : Callee :=
  function "unique_names_check" [req "name_list"] fun vals => do
    match plainArg vals 0 with
    | .null => pure .null
    | names =>
      for n in ← names.elements do
        match n with
        | .list _ => throw (.type "unhashable type: 'list'")
        | .dict _ => throw (.type "unhashable type: 'dict'")
        | _ => pure ()
      pure .null

/-- A version as its release numbers, trailing zeros dropped so that `1.0` and `1` are equal. -/
def releaseNumbers (v : String) : Result (List Nat) := do
  let parts ← (v.splitOn ".").mapM fun p => match p.toNat? with
    | some n => pure n
    | none => throw ⟨"InvalidVersion", s!"Invalid version: {Text.quote v}"⟩
  pure (parts.reverse.dropWhile (· == 0)).reverse

def compareReleases : List Nat → List Nat → Ordering
  | [], [] => .eq
  | [], _ :: _ => .lt
  | _ :: _, [] => .gt
  | a :: as, b :: bs => if a < b then .lt else if b < a then .gt else compareReleases as bs

/-- The comparisons a version check may use, by name. -/
def versionComparison (name : String) (o : Ordering) : Option Bool :=
  match name with
  | "ge" => some (o != .lt)
  | "gt" => some (o == .gt)
  | "le" => some (o != .gt)
  | "lt" => some (o == .lt)
  | "eq" => some (o == .eq)
  | "ne" => some (o != .eq)
  | _ => none

def unversionedModules : List String :=
  ["os", "sys", "math", "io", "time", "itertools", "functools", "collections", "typing", "pathlib",
    "string", "random", "copy", "glob", "shutil", "subprocess", "tempfile", "abc", "enum",
    "dataclasses", "inspect", "operator", "contextlib", "warnings", "threading", "types"]

def toolkitVersion : String := "1.1.0"

/-- The version a library reports when imported: none for a library that is not installed, and
`some none` for one that reports none. -/
def installedVersion (lib : String) : Option (Option String) :=
  if lib == "nemo" || lib.startsWith "nemo." then some (some toolkitVersion)
  else if unversionedModules.contains lib then some none
  else none

def libVersionCallee : Callee :=
  function "check_lib_version" [req "lib_name", req "checked_version", req "operator"] fun vals => do
    let lib := (arg vals 0).text
    let required := (arg vals 1).text
    match installedVersion lib with
    | none =>
      pure (.list [.null,
        .str s!"Lib {lib} has not been installed. Please use pip or conda to install this package."])
    | some none =>
      pure (.list [.bool false, .str (s!"Lib {lib} does not implement __version__ in its init file. " ++
        "Could not check version compatibility.")])
    | some (some found) =>
      let order := compareReleases (← releaseNumbers found) (← releaseNumbers required)
      let opName := ((tagged? (arg vals 2) "$op").map Data.text).getD ""
      match versionComparison opName order with
      | some true => pure (.list [.bool true, .str s!"Lib {lib} version is satisfied !"])
      | some false =>
        pure (.list [.bool false, .str (s!"Lib {lib} version ({found}) is not {opName} than required version {required}.\n" ++
          "Please upgrade the lib using either pip or conda to the latest version.")])
      | none => throw (notCallable (arg vals 2))

def modelUtilsCallees : List (String × Callee) :=
  [("resolve_validation_dataloaders", resolveValidationCallee),
   ("resolve_test_dataloaders", resolveTestCallee),
   ("resolve_dataset_name_from_cfg", datasetKeyCallee),
   ("parse_dataset_as_name", datasetNameCallee), ("unique_names_check", uniqueNamesCallee),
   ("check_lib_version", libVersionCallee)].map fun (n, c) => (modelUtilsName n, c)

end Conversa.Callees
