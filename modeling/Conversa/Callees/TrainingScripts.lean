import Conversa.Config.Compose
import Conversa.Config.YamlWriter
import Conversa.Config.Interpolation
import Conversa.Config.JobDocuments
import Conversa.Entry.CommandLine
import Conversa.Entry.Call

/-!
# The command lines of the training jobs

A job's command line takes overrides and options.  `--cfg job` prints the job's document composed
with the overrides and ends (`--resolve` resolves interpolations first).  Overrides of the
runner's settings (`hydra.…`, a group `a/b=…`) and the runner's section leave the configuration
as it is.  An override that cannot be applied ends with status 1; without `--cfg` the job runs,
which needs the tensor library.
-/

namespace Conversa.Callees

open Entry Config

def jobCommandLine (prog : String) : CommandLine :=
  { prog
    description := some "Hydra"
    arguments := [
      { dest := "overrides", arity := .many, default := .list [] },
      { flags := ["--hydra-help"], dest := "hydra_help", action := .storeTrue, default := .bool false },
      { flags := ["--version"], dest := "version", action := .storeTrue, default := .bool false },
      { flags := ["--cfg", "-c"], dest := "cfg", choices := [.str "job", .str "hydra", .str "all"] },
      { flags := ["--resolve"], dest := "resolve", action := .storeTrue, default := .bool false },
      { flags := ["--package", "-p"], dest := "package" },
      { flags := ["--run", "-r"], dest := "run", action := .storeTrue, default := .bool false },
      { flags := ["--multirun", "-m"], dest := "multirun", action := .storeTrue, default := .bool false },
      { flags := ["--shell-completion", "-sc"], dest := "shell_completion", action := .storeTrue, default := .bool false },
      { flags := ["--config-path", "-cp"], dest := "config_path" },
      { flags := ["--config-name", "-cn"], dest := "config_name" },
      { flags := ["--config-dir", "-cd"], dest := "config_dir" },
      { flags := ["--info", "-i"], dest := "info", arity := .optional,
        choices := ["all", "config", "defaults", "defaults-tree", "plugins", "searchpath"].map Data.str }] }

def runnerOverride (line : String) : Bool :=
  let key := String.ofList ((line.toList.dropWhile fun c => c == '+' || c == '~').takeWhile (· != '='))
  key == "hydra" || key.startsWith "hydra." || key.startsWith "hydra/" || key.contains '/'

/-- The configuration of a job: its document composed with the overrides of its command line,
and resolved when asked.  A failure to compose ends the job with status 1. -/
def jobConfig (document : List String) (overrides : List String) (resolve : Bool) : Work Data := do
  let base ← readYaml ("\n".intercalate document)
  -- the runner's own section of the document configures the runner, not the job
  let base := if base matches .null then .dict [] else base.erase "hydra"
  let composed ← match compose base (overrides.filter (!runnerOverride ·)) with
    | .ok c => pure c
    | .error _ => throw (scriptExit 1)
  if !resolve then return composed
  match resolveAll composed with
  | .ok c => pure c
  | .error _ => throw (scriptExit 1)

def jobCallee (script : String) (document : List String) : Callee := fun r => do
  let prog := ((script.splitOn "/").getLast?).getD script
  let args ← (jobCommandLine prog).run r.argv
  let value := kwarg args
  let cfg ← jobConfig document ((value "overrides").items.map Data.text) (value "resolve").truthy
  match value "cfg" with
  | .str "job" =>
    Work.printLine (String.ofList (writeYaml cfg).toList.dropLast)
    pure (.plain .null)
  | .str _ => throw (.unavailable "hydra")
  | _ => throw .noTorch

def trainingScriptCallees : List (String × Callee) :=
  jobDocuments.map fun (script, document) => (script ++ ":__main__", jobCallee script document)

end Conversa.Callees
