import Conversa.Config.Record
import Conversa.FileSystem.Path

/-!
# Checkpoint settings of an experiment

`completeCheckpointSettings` completes an experiment's checkpoint settings, keeping their order:
a deprecated `filepath` gives the directory and file name and is dropped; the directory
defaults to `checkpoints` under the log directory, the file name to `NAME--{MONITOR:.2f}-{epoch}`,
the prefix to the experiment's name; a deprecated `period` replaces `every_n_val_epochs`.
-/

namespace Conversa.Training

open Config

/-- The value of a setting, which the settings must hold. -/
def setting (entries : Entries) (key : String) : Result Data :=
  match entries.lookup key with
  | some v => .ok v
  | none => .error (located "ConfigAttributeError" s!"Missing key {key}" key "dict")

/-- The settings with one set: a known setting keeps its place, a new one goes last. -/
def putSetting (entries : Entries) (key : String) (v : Data) : Entries :=
  (Data.dict entries |>.set key v).entries

/-- The default file name of checkpoints: the experiment's name, then the pattern of the
monitored quantity and of the epoch. -/
def checkpointFileName (name : String) (monitor : Data) : String :=
  name ++ "-" ++ "-" ++ "\x7b" ++ monitor.text ++ ":.2f\x7d-\x7bepoch\x7d"

/-- The settings of an experiment's checkpoints completed for the log directory `logDir` and the
experiment `name`. -/
def completeCheckpointSettings (logDir name : String) (entries : Entries) :
    Result (Entries) := do
  let mut entries := entries
  if let some file := entries.lookup "filepath" then
    if !file.isNull then
      if (← setting entries "dirpath").isNull then
        entries := putSetting entries "dirpath" (.str (FileSystem.parent file.text))
      if (← setting entries "filename").isNull then
        entries := putSetting entries "filename" (.str (FileSystem.name file.text))
    entries := entries.filter (·.1 != "filepath")
  if (← setting entries "dirpath").isNull then
    entries := putSetting entries "dirpath" (.str (FileSystem.joinDisplay logDir "checkpoints"))
  if (← setting entries "filename").isNull then
    entries := putSetting entries "filename" (.str (checkpointFileName name (← setting entries "monitor")))
  if (← setting entries "prefix").isNull then
    entries := putSetting entries "prefix" (.str name)
  let period ← setting entries "period"
  if !period.isNull then
    entries := putSetting entries "every_n_val_epochs" period
  pure entries

end Conversa.Training
