import Conversa.Entry.Instance

/-!
# Catalogues of pretrained checkpoints

A model class lists its checkpoints (name, description, location, loading class, aliases) in one
of four ways (`Listing`): a fixed list, none, its direct subclasses' catalogues in order
(`gathered`), or their union at every depth (`union`: loaderless entries take the listing
subclass, repeated locations dropped, sorted by name).  `listingOf` evaluates a catalogue over a
table of classes; `megatronModels` is a table of its own.
-/

namespace Conversa.Pretrained

open Entry

/-- A published checkpoint. -/
structure Checkpoint where
  name : String
  description : String
  location : String
  /-- Whether the class asked is recorded as the one that loads it. -/
  ofAskingClass : Bool := false
  aliases : Option (List String) := none
deriving Inhabited

/-- How a class lists its checkpoints. -/
inductive Listing where
  | fixed (entries : List Checkpoint)
  | absent
  /-- The catalogues of the direct subclasses, in order. -/
  | gathered
  /-- The union over all subclasses, sorted by name. -/
  | union
deriving Inhabited

/-- A model class: its qualified name `module:Name`, how it lists checkpoints (its own way or
the one it inherits), and its direct subclasses in the order they were defined. -/
structure ModelClass where
  ref : String
  listing : Listing
  subclasses : List String := []
deriving Inhabited

/-- A checkpoint as a catalogue gives it, with the class that loads it once known. -/
structure Listed where
  checkpoint : Checkpoint
  loader : Option String
deriving Inhabited

def Listing.entriesFor (entries : List Checkpoint) (ref : String) : List Listed :=
  entries.map fun e => ⟨e, if e.ofAskingClass then some ref else none⟩

/-- An entry listed by a subclass: without a loader, the subclass loads it. -/
def Listed.claim (sub : String) (l : Listed) : Listed :=
  match l.loader with
  | some _ => l
  | none => { l with loader := some sub }

def firstPerLocation (ls : List Listed) : List Listed :=
  ls.foldl (fun acc l => if acc.any (·.checkpoint.location == l.checkpoint.location) then acc
    else acc ++ [l]) []

def byName (ls : List Listed) : List Listed :=
  ls.mergeSort fun a b => decide (a.checkpoint.name ≤ b.checkpoint.name)

def findClass (table : List ModelClass) (ref : String) : Option ModelClass :=
  table.find? (·.ref == ref)

mutual

/-- The catalogue of a class, `none` when it has none, walking at most `fuel` levels of
subclasses. -/
def listingOf (table : List ModelClass) : Nat → String → Option (List Listed)
  | 0, _ => none
  | fuel + 1, ref =>
    match findClass table ref with
    | none => none
    | some c =>
      match c.listing with
      | .absent => none
      | .fixed entries => some (Listing.entriesFor entries ref)
      | .gathered => some (c.subclasses.flatMap fun s => (listingOf table fuel s).getD [])
      | .union => some (byName (firstPerLocation (deepOf table fuel c.subclasses)))

/-- The entries of some classes and of their subclasses at every depth, a class's subclasses
before the class, each entry claimed by the class that listed it. -/
def deepOf (table : List ModelClass) : Nat → List String → List Listed
  | 0, _ => []
  | fuel + 1, classes =>
    classes.flatMap fun s =>
      let below := match findClass table s with
        | some c => deepOf table fuel c.subclasses
        | none => []
      below ++ ((listingOf table fuel s).getD []).map (Listed.claim s)

end

/-- The catalogue of a class in a table, walking no deeper than the table is long. -/
def catalogue (table : List ModelClass) (ref : String) : Option (List Listed) :=
  listingOf table (table.length + 1) ref

def Listed.toData (l : Listed) : Data :=
  objectData "PretrainedModelInfo"
    [("pretrained_model_name", .str l.checkpoint.name), ("description", .str l.checkpoint.description),
     ("location", .str l.checkpoint.location),
     ("class_", match l.loader with
       | some r => referenceShown r
       | none => .null),
     ("aliases", match l.checkpoint.aliases with
       | some names => Data.strs names
       | none => .null)]

/-- The calls a class in a table answers from its catalogue: `list_available_models()` gives
the catalogue, or nothing when it has none, and `get_available_model_names()` the names in it.
`ref` is the class's qualified name and `method` the method called. -/
def catalogueCallee (table : List ModelClass) (ref method : String) : Option Callee :=
  match findClass table ref, method with
  | some _, "list_available_models" =>
    some (function (ref ++ ".list_available_models") [] fun _ =>
      pure (match catalogue table ref with
        | some ls => .list (ls.map Listed.toData)
        | none => .null))
  | some _, "get_available_model_names" =>
    some (function (ref ++ ".get_available_model_names") [] fun _ =>
      pure (Data.strs (((catalogue table ref).getD []).map (·.checkpoint.name))))
  | _, _ => none

/-- A pretrained Megatron language model. -/
structure LanguageModel where
  name : String
  architecture : Option (Entries)
  lowerCased : Bool
  /-- The name of the tokenizer it reads text with. -/
  tokenizer : String

def megatron345m : Entries :=
  [("hidden_size", .int 1024), ("num_attention_heads", .int 16), ("num_layers", .int 24),
   ("max_position_embeddings", .int 512)]

/-- The pretrained Megatron language models, in the order they are listed. -/
def megatronModels : List LanguageModel :=
  [⟨"megatron-bert-345m-uncased", some megatron345m, true, "bert-large-uncased"⟩,
   ⟨"megatron-bert-345m-cased", some megatron345m, false, "bert-large-cased"⟩,
   ⟨"megatron-bert-uncased", none, true, "bert-large-uncased"⟩,
   ⟨"megatron-bert-cased", none, false, "bert-large-cased"⟩,
   ⟨"biomegatron-bert-345m-uncased", some megatron345m, true, "bert-large-uncased"⟩,
   ⟨"biomegatron-bert-345m-cased", some megatron345m, false, "bert-large-cased"⟩]

/-- The Megatron model of a name; any other value is refused with the list of names. -/
def megatronModel (name : Data) : Result LanguageModel :=
  let found := match name with
    | .str n => megatronModels.find? fun (m : LanguageModel) => m.name == n
    | _ => none
  match found with
  | some m => .ok m
  | none =>
    let names := (Data.strs (megatronModels.map LanguageModel.name)).show
    .error (.value s!"For Megatron-LM models, choose from the following list: {names}")

/-- The rank of a process within its model-parallel group: its local rank modulo the group's
size, never negative for a positive size. -/
def modelParallelRank (localRank size : Data) : Result Data :=
  match localRank, size with
  | .int _, .int 0 => .error ⟨"ZeroDivisionError", "integer modulo by zero"⟩
  | .int r, .int s => .ok (.int (Int.fmod r s))
  | a, b => .error (.type s!"unsupported operand type(s) for %: '{a.kindName}' and '{b.kindName}'")

def megatronCallees : List (String × Callee) :=
  let target := "nemo.collections.nlp.modules.common.megatron.megatron_utils:"
  let byModel (name : String) (answer : LanguageModel → Data) : String × Callee :=
    (target ++ name, function name [req "pretrained_model_name"] fun vals => do
      pure (answer (← megatronModel (arg vals 0))))
  [(target ++ "get_megatron_lm_models_list", function "get_megatron_lm_models_list" [] fun _ =>
      pure (Data.strs (megatronModels.map LanguageModel.name))),
   byModel "get_megatron_config" fun m => (m.architecture.map Data.dict).getD .null,
   byModel "is_lower_cased_megatron" fun m => .bool m.lowerCased,
   byModel "get_megatron_tokenizer" fun m => .str m.tokenizer,
   (target ++ "compute_model_parallel_rank",
    function "compute_model_parallel_rank" [req "local_rank", req "model_parallel_size"] fun vals =>
      (modelParallelRank (arg vals 0) (arg vals 1)))]

end Conversa.Pretrained
