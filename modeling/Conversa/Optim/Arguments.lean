import Conversa.Config.Targets
import Conversa.Config.Upgrade

/-!
# Optimizer arguments from a configuration

`optimizerArguments` turns the `args` section of an optimizer configuration into keyword
arguments: none for no section or a non-mapping; the section is upgraded first (`cls` becomes
`_target_`); `_target_` builds the record it names; `name` resolves a registered record (`auto`:
the optimizer's own) filled with the overrides, checked against its types; any other section is
the arguments as it stands.
-/

namespace Conversa.Optim

def valueAt (kvs : Entries) (k : String) : Option Data :=
  (kvs.find? (·.1 == k)).map (·.2)

/-- The keyword arguments of optimizer `optimizer` from its configuration section. -/
def optimizerArguments (optimizer : String) (cfg : Data) : Result Data := do
  match cfg with
  | .null => pure (.dict [])
  | .dict _ =>
    let upgraded ← Config.upgrade cfg
    let kvs := upgraded.entries
    if (valueAt kvs "_target_").isSome then
      let (_, fields) ← Config.instantiateTarget kvs
      return .dict fields
    match valueAt kvs "name" with
    | none => pure upgraded
    | some nameValue =>
      let rest := kvs.filter (·.1 != "name")
      let paramsName ← match nameValue with
        | .str "auto" => pure (optimizer ++ "_params")
        | .str n => pure n
        | .null => throw (.type "vars() argument must have __dict__ attribute")
        | other => pure other.text
      let overrides := match valueAt rest "params" with
        | some p => p.entries
        | none => rest
      pure (.dict (← optimizerConfig paramsName overrides))
  | _ => pure (.dict [])

end Conversa.Optim
