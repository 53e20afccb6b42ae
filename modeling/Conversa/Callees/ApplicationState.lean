import Conversa.Entry.Call

/-!
# The application state

One object holds what a training run shares: device and ranks, parallel sizes and groups, the
experiment's directories and names, and the models restored so far, each setting a property over
an underscored field that starts unset.  Reading the restore path gives the last one recorded;
an identifier keeps the number it was first given, and a registration replaces its restore path.
-/

namespace Conversa.Callees

open Entry

def stateSettings : List String :=
  ["device_id", "world_size", "model_parallel_size", "data_parallel_size", "local_rank", "global_rank",
   "model_parallel_rank", "model_parallel_group", "data_parallel_rank", "data_parallel_group", "random_seed",
   "log_dir", "exp_dir", "name", "checkpoint_name", "version", "create_checkpoint_callback",
   "checkpoint_callback_params"]

/-- The settings of the application state that can only be read. -/
def fixedSettings : List String := ["model_config_yaml", "model_weights_ckpt"]

def freshAppState : Data :=
  objectData "AppState" (
    [("_app_cfg", .null)] ++ stateSettings.map (fun s => ("_" ++ s, .null)) ++
    [("_tmpdir_name", .null), ("_model_config_yaml", .str "model_config.yaml"),
     ("_model_weights_ckpt", .str "model_weights.ckpt"), ("_model_restore_path", .null),
     ("_all_model_restore_paths", .list []), ("_model_guid_map", .dict [])])

/-- A setting of the application state read: the last restore path recorded, or the field
behind a property, or an attribute of its own. -/
def readAppState (self : Data) (name : String) : Result Data := do
  if name == "model_restore_path" then
    return ((← attr self "_all_model_restore_paths").items.getLast?).getD .null
  if stateSettings.contains name || fixedSettings.contains name then attr self ("_" ++ name)
  else readPath self name

/-- A setting of the application state set: a restore path is recorded as well, a fixed setting
cannot be set, and any other name becomes an attribute of its own. -/
def setAppState (self : Data) (name : String) (v : Data) : Result Data := do
  if name == "model_restore_path" then
    let paths := (← attr self "_all_model_restore_paths").items
    return setAttr (setAttr self "_model_restore_path" v) "_all_model_restore_paths" (.list (paths ++ [v]))
  if fixedSettings.contains name then
    throw ⟨"AttributeError", s!"property {Text.quote name} of 'AppState' object has no setter"⟩
  pure (setAttr self (if stateSettings.contains name then "_" ++ name else name) v)

/-- The record of a registered model: its identifier, its number and its restore path. -/
def modelRecord (guid : Data) (idx : Nat) (path : Data) : Data :=
  objectData "ModelMetadataRegistry" [("guid", guid), ("gidx", .int idx), ("restoration_path", path)]

/-- A model registered: an identifier seen before keeps its number, a new one takes the count
of those registered. -/
def registerModel (self guid path : Data) : Result Data := do
  let registry := (← attr self "_model_guid_map").entries
  let idx ← match registry.lookup guid.text with
    | some record => do pure (((← attr record "gidx").int?.getD 0).toNat)
    | none => pure registry.length
  pure (setAttr self "_model_guid_map" (.dict ((Data.dict registry).set guid.text (modelRecord guid idx path)).entries))

def modelMetadata (self guid : Data) : Result Data := do
  match (← attr self "_model_guid_map").entries.lookup guid.text with
  | some record => pure record
  | none => throw (.key guid.show)

def appStateStep (step : Step) : Work Data := do
  let self ← Work.this
  match step with
  | .read name => readAppState self name
  | .call "__setattr__" args =>
    let vals ← args.bind "AppState.__setattr__" [req "name", req "value"]
    Work.setThis (← setAppState self (arg vals 0).text (arg vals 1))
    pure .null
  | .call "register_model_guid" args =>
    let vals ← args.bind "AppState.register_model_guid" [req "guid", opt "restoration_path" .null]
    Work.setThis (← registerModel self (arg vals 0) (arg vals 1))
    pure .null
  | .call "reset_model_guid_registry" args =>
    let _ ← args.bind "AppState.reset_model_guid_registry" []
    Work.setThis (setAttr self "_model_guid_map" (.dict []))
    pure .null
  | .call "get_model_metadata_from_guid" args =>
    let vals ← args.bind "AppState.get_model_metadata_from_guid" [req "guid"]
    modelMetadata self (arg vals 0)
  | .call name _ => Work.fail (noAttribute "AppState" name)

def appStateCallees : List (String × Callee) :=
  [("nemo.utils.app_state:AppState", fun r => do
      let _ ← r.args.bind "AppState" []
      pure { value := freshAppState, act := appStateStep })]

end Conversa.Callees
