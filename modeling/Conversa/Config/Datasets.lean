import Conversa.Data.Show
import Conversa.FileSystem.Tree
import Conversa.Failure

/-!
# Naming datasets

`datasetName` makes a prefix from a data file (its stem when the path exists, else the text;
`-` becomes `_`, `manifest` and `dataset` dropped, ending in `_`; an empty prefix fails).
`datasetKey` finds the section key holding the data paths: `ds_item` when set (or the key it
names), else the first key whose value is an existing path or a list of them.
-/

namespace Conversa.Config

open FileSystem

def datasetName (t : Tree) (name : String) : Result String := do
  let base := if t.exists_ name then stem name else name
  let cleaned := ((base.replace "-" "_").replace "manifest" "").replace "dataset" ""
  match cleaned.toList.getLast? with
  | none => throw ⟨"IndexError", "string index out of range"⟩
  | some c => pure (if c == '_' then cleaned else cleaned ++ "_")

def fastPathKey : String := "ds_item"

/-- The key of a data-set section that holds its data path(s); the value itself when the
fast-path key names another key; none when nothing resolves. -/
def datasetKey (t : Tree) (cfg : Entries) : Data :=
  let lookup (k : String) := (cfg.find? (·.1 == k)).map (·.2)
  match lookup fastPathKey with
  | some fast =>
    if !fast.isNull then
      match fast with
      | .str k => match lookup k with
        | some v => v
        | none => .str fastPathKey
      | _ => .str fastPathKey
    else scan
  | none => scan
where
  /-- The first key whose value is an existing path or a list of existing paths. -/
  scan : Data :=
    match cfg.find? (fun (_, v) => match v with
        | .list xs => xs.all fun x => t.exists_ x.text
        | v => t.exists_ v.text) with
    | some (k, _) => .str k
    | none => .null

end Conversa.Config
