import Conversa.Schedule.Params
import Conversa.Optim.Params

/-!
# Records by class path

A configuration may name the record it describes by its class path in `_target_`; the record is
then built from the configuration's other entries.  The paths are those of the module that
declares the record, and of the configuration package, which re-exports the toolkit's own
records (not those of the tensor library's schedules).

A failure while building the record is reported with the path of the record's class in front
of the constructor's message.
-/

namespace Conversa.Config

def configPackage : String := "nemo.core.config"

/-- Every record reachable by class path, with whether the configuration package re-exports
it. -/
def targetRecords : List (Record × Bool) :=
  (Schedule.scheduleRecords.map fun (_, r) => (r, true))
    ++ (Schedule.externalScheduleRecords.map fun r => (r, false))
    ++ (Optim.optimizerRecords.map fun (_, r) => (r, true))

def recordAt? (path : String) : Option Record :=
  (targetRecords.find? fun (r, exported) =>
    r.targetPath == path || (exported && configPackage ++ "." ++ r.className == path)).map (·.1)

def steeringKeys : List String := ["_target_", "_recursive_", "_convert_", "_args_"]

/-- Builds the record a configuration names in `_target_` from its other entries: the record
and its fields. -/
def instantiateTarget (cfg : Entries) : Result (Record × Entries) := do
  let path := match cfg.find? (·.1 == "_target_") with
    | some (_, .str p) => p
    | _ => ""
  match recordAt? path with
  | none => throw ⟨"ImportError", s!"Error loading module '{path}'"⟩
  | some r =>
    let kws := cfg.filter fun (k, _) => !steeringKeys.contains k
    match r.instantiate kws with
    | .ok fields => pure (r, fields)
    | .error e => throw ⟨e.kind, s!"Error instantiating '{r.targetPath}' : {e.message}"⟩

end Conversa.Config
