import Conversa.Pretrained.Basic
import Conversa.Text.LongTexts

/-!
# The published checkpoints, by model class

For each class of the toolkit that takes part in listing checkpoints: the listing it defines or
inherits and its direct subclasses in order of definition.  `modelClasses` is the table
`catalogue` walks, kept packed among the long texts (`Text.longTexts`): a block a class, its
name, listing and subclasses on the first line, then a checkpoint a line, fields tab-separated.
-/

namespace Conversa.Pretrained

/-- A checkpoint of the registry, fetched by its own name at a version, whose description points
to the registry's page for it. -/
def Checkpoint.ngc (name version : String) : Checkpoint :=
  { name, description := "For details about this model, please visit https://ngc.nvidia.com/catalog/models/nvidia:nemo:" ++ name,
    location := "https://api.ngc.nvidia.com/v2/models/nvidia/nemo/" ++ name ++ "/versions/" ++ version ++ "/files/" ++ name ++ ".nemo" }

/-- A checkpoint from its fields: the name and version of one of the registry's, or a name, a
description and a location, then whether the asking class loads it and its aliases. -/
def readCheckpoint : List String → Checkpoint
  | [name, version] => Checkpoint.ngc name version
  | name :: description :: location :: rest =>
    { name, description, location, ofAskingClass := rest.head? == some "1",
      aliases := (rest.drop 1).head?.map (·.splitOn " ") }
  | _ => default

/-- A way of listing by its name, a fixed list taking the checkpoints given. -/
def readListing : String → List Checkpoint → Listing
  | "absent", _ => .absent
  | "gathered", _ => .gathered
  | "union", _ => .union
  | _, entries => .fixed entries

def readClass (block : String) : ModelClass :=
  match block.splitOn "\n" with
  | header :: lines =>
    match header.splitOn "\t" with
    | [ref, kind, subs] =>
      { ref, listing := readListing kind (lines.map (readCheckpoint ∘ (·.splitOn "\t"))),
        subclasses := if subs.isEmpty then [] else subs.splitOn " " }
    | _ => default
  | [] => default

/-- The model classes that list checkpoints, with their listings and subclasses. -/
def modelClasses : List ModelClass :=
  ((Text.longTexts.getD 1 "").splitOn "\x01").map readClass

end Conversa.Pretrained
