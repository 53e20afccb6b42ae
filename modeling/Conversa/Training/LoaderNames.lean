import Conversa.Data.Show
import Conversa.Failure
import Conversa.FileSystem.Path
import Conversa.Text.Slice

/-!
# Naming evaluation loaders

`loaderName` names a loader from its data source: the stem of an existing file or directory, or
the text, dashes as underscores, `manifest` and `dataset` dropped, ending in an underscore.
`sourceKey` finds the entry holding the sources: the one `ds_item` names, `ds_item` itself, or
the first entry whose value is an existing path or a list of them.
-/

namespace Conversa.Training

def fastPathKey : String := "ds_item"

/-- The name of a loader whose data source has the text `source`; `present` says which paths
exist.  An empty name has no last character to look at. -/
def loaderName (present : String → Bool) (source : String) : Result String := do
  let name := if present source then FileSystem.stem source else source
  let name := String.ofList (Text.replaceText "-" "_" name.toList)
  let name := String.ofList (Text.replaceText "manifest" "" name.toList)
  let name := String.ofList (Text.replaceText "dataset" "" name.toList)
  match name.toList.getLast? with
  | none => throw (.index "string index out of range")
  | some '_' => pure name
  | some _ => pure (name ++ "_")

/-- Whether a value is a data source that exists: the text of a value is taken as a path. -/
def isPresentSource (present : String → Bool) (d : Data) : Bool := present d.text

/-- The key of the entry holding the data sources of a dataset section, if one is found.  The
key is a value: the fast-path entry may name an entry whose value is then used as the key. -/
def sourceKey (present : String → Bool) (entries : Entries) : Option Data :=
  match entries.find? (·.1 == fastPathKey) with
  | some (_, fast) =>
    if fast.isNull then search else
    match fast with
    | .str k =>
      match entries.find? (·.1 == k) with
      | some (_, v) => some v
      | none => some (.str fastPathKey)
    | _ => some (.str fastPathKey)
  | none => search
where
  /-- The first entry whose value is an existing path or a list of existing paths. -/
  search : Option Data :=
    (entries.find? fun (_, v) =>
      match v with
      | .list xs => xs.all (isPresentSource present)
      | other => isPresentSource present other).map fun (k, _) => .str k

end Conversa.Training
