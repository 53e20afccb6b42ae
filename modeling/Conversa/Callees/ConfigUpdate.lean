import Conversa.Entry.Instance

/-!
# Configurations of models against their classes

`signatureMatch` compares the constructor parameters of a class with those of its record class,
after renaming and ignoring names, and names what only one side has.  `updatedConfig` updates a
model's default configuration: the record class made a configuration, the optional data and
optimiser parts following the update, and the update merged in last.
-/

namespace Conversa.Callees

open Entry Interface

def qualifiedClass (qualified : String) : Option ClassInfo :=
  let parts := qualified.splitOn "."
  match parts.getLast?, loadModule (".".intercalate parts.dropLast) with
  | some name, .ok m => m.classes.lookup name
  | _, _ => none

/-- The class a reference `module:Name` names. -/
def referencedClass (d : Data) : Option ClassInfo :=
  match tagged? d "$ref" with
  | some (.str ref) =>
    match ref.splitOn ":" with
    | [target, name] =>
      match loadTarget target with
      | .ok m => m.classes.lookup name
      | .error _ => none
    | _ => none
  | _ => none

def rootConstructor : Signature :=
  [⟨"self", .positionalOnly, none⟩, ⟨"args", .variadic, none⟩, ⟨"kwargs", .variadicKeywords, none⟩]

/-- The parameters of the first constructor along a class and its bases, depth first. -/
def constructorOf : Nat → ClassInfo → Option Signature
  | 0, _ => none
  | fuel + 1, c =>
    match c.methods.lookup "__init__" with
    | some (.function sig) => some sig
    | _ => c.bases.findSome? fun b => (qualifiedClass b).bind (constructorOf fuel)

/-- A set of names with one renamed, when it holds the old name. -/
def renamed (names : List String) (old new : String) : List String :=
  if names.contains old then (names.erase old ++ [new]).eraseDups else names

def nameSet (names : List String) : Data := .dict [("$set", Data.strs names)]

/-- Whether a class and its record class take the same parameters, after renaming and ignoring
names; when they do not, the names only each of them takes. -/
def signatureMatch (cls record : ClassInfo) (ignored : List String) (renames : List (String × String)) :
    Result Data := do
  let own := ((constructorOf 32 cls).getD rootConstructor).map (·.name)
  if !own.contains "self" then throw (.key (Text.quote "self"))
  let classNames := (own.erase "self").eraseDups
  let recordNames := ((((constructorOf 32 record).getD rootConstructor).drop 1).map (·.name)).erase "_target_"
  let classNames := renames.foldl (fun ns (o, n) => renamed ns o n) classNames
  let recordNames := renames.foldl (fun ns (o, n) => renamed ns o n) recordNames
  let classNames := classNames.filter (!ignored.contains ·)
  let recordNames := recordNames.filter (!ignored.contains ·)
  let onlyClass := classNames.filter (!recordNames.contains ·)
  let onlyRecord := recordNames.filter (!classNames.contains ·)
  if classNames.length != recordNames.length || !onlyClass.isEmpty || !onlyRecord.isEmpty then
    pure (.list [.bool false, nameSet onlyClass, nameSet onlyRecord])
  else pure (.list [.bool true, .null, .null])

def missingMark : String := "???"

/-- The default configuration of a record class: each field at its default, a nested record as
a mapping of its fields, and a field without a default missing. -/
def recordConfig (c : ClassInfo) : Data :=
  let params := c.constructorParams
  .dict ((c.fields.getD []).map fun f =>
    match c.factories.lookup f with
    | some v => (f, configOf v.toData)
    | none =>
      match params.find? (·.name == f) with
      | some p => (f, configOf ((p.default.map Value.toData).getD (.str missingMark)))
      | none => (f, .str missingMark))

/-- A part of a configuration by key, or the failure of reading it: missing, or not there. -/
def configPart (cfg : Data) (objectType key : String) : Result Data :=
  match cfg.entries.lookup key with
  | some (.str s) =>
    if s == missingMark then
      .error ⟨"MissingMandatoryValue", s!"Missing mandatory value: {key}\n    full_key: {key}\n    object_type={objectType}"⟩
    else .ok (.str s)
  | some v => .ok v
  | none => .error ⟨"ConfigAttributeError", s!"Missing key {key}\n    full_key: {key}\n    object_type={objectType}"⟩

/-- One configuration merged into another: mappings key by key, the keys of the first kept in
place and new keys after them; any other value replaced. -/
def mergeConfig : Nat → Data → Data → Data
  | 0, _, update => update
  | fuel + 1, .dict base, .dict update =>
    let kept := base.map fun (k, v) =>
      match update.lookup k with
      | some u => (k, mergeConfig fuel v u)
      | none => (k, v)
    .dict (kept ++ update.filter fun (k, _) => (base.lookup k).isNone)
  | _, _, update => update

def withKey (d : Data) (k : String) (v : Data) : Data :=
  match d with
  | .dict kvs => if (kvs.lookup k).isSome then .dict (kvs.map fun (k', w) => if k' == k then (k', v) else (k', w))
    else .dict (kvs ++ [(k, v)])
  | other => other

/-- A model configuration with an optional part following the update: taken over when only the
update has it, dropped when only the defaults have it and dropping is asked. -/
def followPart (drop : Bool) (update model : Data) (key : String) : Data :=
  let inUpdate := (update.entries.lookup key).isSome
  let inModel := (model.entries.lookup key).isSome
  if inUpdate && !inModel then withKey model key ((update.entries.lookup key).getD .null)
  else if !inUpdate && inModel && drop then model.erase key
  else model

/-- The model configuration of a class updated by a configuration that mirrors it. -/
def updatedConfig (defaults : Data) (objectType : String) (update : Data) (drop : Bool) :
    Result Data := do
  let model ← configPart defaults objectType "model"
  let updateModel ← configPart update "dict" "model"
  let model := ["train_ds", "validation_ds", "test_ds", "optim"].foldl (followPart drop updateModel) model
  let model ← match updateModel.entries.lookup "optim" with
    | some u =>
      let own := (model.entries.lookup "optim").getD .null
      match own with
      | .null => throw (.value "Cannot merge with a None config")
      | _ => pure (withKey model "optim" (mergeConfig 64 u own))
    | none => pure model
  let update := if (updateModel.entries.lookup "target").isSome && (model.entries.lookup "target").isNone then
      withKey update "model" (updateModel.erase "target")
    else update
  pure (mergeConfig 64 (withKey defaults "model" model) update)

def configUpdateCallees : List (String × Callee) :=
  let m := "nemo.utils.config_utils:"
  [(m ++ "assert_dataclass_signature_match", functionOf "assert_dataclass_signature_match"
      [req "cls", req "datacls", opt "ignore_args" .null, opt "remap_args" .null] fun vals => do
      let some cls := referencedClass (arg vals 0)
        | throw (noAttribute (plainArg vals 0).kindName "__init__")
      let some record := referencedClass (arg vals 1)
        | throw (.type s!"{(plainArg vals 1).show} is not a callable object")
      let ignored := (plainArg vals 2).items.map Data.text
      let renames := (plainArg vals 3).entries.map fun (k, v) => (k, v.text)
      (signatureMatch cls record ignored renames)),
   (m ++ "update_model_config", functionOf "update_model_config"
      [req "model_cls", req "update_cfg", opt "drop_missing_subconfigs" (.bool true)] fun vals => do
      let given := arg vals 0
      let (defaults, objectType) ← match referencedClass given, tagged? given "$cfg" with
        | some c, _ =>
          if c.fields.isSome then
            let name := match tagged? given "$ref" with
              | some (.str r) => lastPart ((r.splitOn ":").getLast?.getD r)
              | _ => ""
            pure (recordConfig c, name)
          else throw (.value "\x60model_cfg\x60 must be a dataclass or a structured OmegaConf object")
        | none, some cfg => pure (cfg, "dict")
        | none, none => throw (.value "\x60model_cfg\x60 must be a dataclass or a structured OmegaConf object")
      let update := arg vals 1
      let update := (tagged? update "$cfg").getD (configOf (plain update))
      let merged ← updatedConfig defaults objectType update (plainArg vals 2).truthy
      pure (.dict [("$cfg", merged)]))]

end Conversa.Callees
