import Conversa.Service.Calls
import Conversa.Service.NeuralTypes

/-!
# Objects made from configurations

Making an object from a configuration (`from_config_dict`, `from_config_file`) resolves its
interpolations and brings it to the current layout (`Config.upgrade`); a `_target_` class is made
from the other entries, any other configuration makes the host class, which keeps what it saw.
`to_config_dict` and `to_config_file` give the kept configuration resolved.
`serialization {steps, files?}` answers each step on the object made last.
-/

namespace Conversa.Service

open Entry

/-- What an object keeps as its configuration. -/
inductive HeldConfig where
  /-- A configuration object: a mapping or a sequence. -/
  | config (d : Data)
  | plain (d : Data)

/-- An object made from a configuration. -/
structure ConfiguredObject where
  cls : String
  /-- Its attributes other than its configuration. -/
  attrs : Entries
  held : Option HeldConfig

def hostClass : String := "driver_hosts.CfgHost"

def resolvedView (d : Data) : Data :=
  match Config.resolveAll d with
  | .ok r => r
  | .error _ => d

def ConfiguredObject.shown (o : ConfiguredObject) : Data :=
  let (cfg, isStruct) := match o.held with
    | some (.config d) => (resolvedView d, if d matches .dict _ then Data.bool true else .null)
    | some (.plain d) => (d, .null)
    | none => (.null, .null)
  .dict [("attrs", .dict o.attrs), ("cfg", cfg), ("cfg_struct", isStruct), ("class", .str o.cls)]

/-- The host class made from a configuration: it refuses one that asks it to fail, and keeps
what it saw. -/
def hostOf (cfg : Data) : Result ConfiguredObject :=
  match cfg with
  | .dict kvs =>
    match kvs.lookup "fail" with
    | some why => .error (.value ("host refused: " ++ why.text))
    | none => .ok ⟨hostClass, [("seen", resolvedView cfg)], none⟩
  | other => .ok ⟨hostClass, [("seen", other)], none⟩

def splitPath (path : String) : String × String :=
  let parts := path.splitOn "."
  (".".intercalate parts.dropLast, (parts.getLast?).getD "")

/-- The failure of finding what a dotted path names: the longest leading part that is a module is
loaded, and the parts after it must name what it holds or modules below it. -/
def locateFailure (path : String) : Failure :=
  let parts := (path.splitOn ".").filter (!·.isEmpty)
  let loaded := (List.range parts.length).reverse.find? fun n =>
    n > 0 && (Interface.loadModule (".".intercalate (parts.take n)) matches .ok _)
  match loaded with
  | none => ⟨"ImportError", s!"Error loading module {Text.quote path}"⟩
  | some n =>
    let rec walk (name : String) (held : Interface.Module) : List String → Failure
      | [] => .noTorch
      | part :: rest =>
        let next := name ++ "." ++ part
        if held.classes.any (·.1 == part) || held.functions.any (·.1 == part) then .noTorch
        else match Interface.loadModule next with
          | .ok m => walk next m rest
          | .error e => ⟨"ImportError", s!"Encountered error: \x60{e.message}\x60 when loading module {Text.quote path}"⟩
    let name := ".".intercalate (parts.take n)
    match Interface.loadModule name with
    | .ok m => walk name m (parts.drop n)
    | .error e => e

/-- The element of neural types a path names, if it names one. -/
def elementAt? (path : String) : Option NeuralType.Element :=
  let (module, name) := splitPath path
  if module == "nemo.core.neural_types.elements" then NeuralType.Element.ofName? name else none

/-- The object a class named by a path makes from arguments, by the class's constructor. -/
def instantiate (path : String) (args : List Data) (kwargs : Entries) : Work ConfiguredObject := do
  let wrap (f : Failure) : Failure := ⟨f.kind, s!"Error instantiating {Text.quote path} : {f.message}"⟩
  let (module, name) := splitPath path
  if let some element := elementAt? path then
    match element, args, kwargs with
    | .audioSignal, [], [] => return ⟨path, [("_params", .dict [("freq", .null)])], none⟩
    | .audioSignal, [f], [] | .audioSignal, [], [("freq", f)] => return ⟨path, [("_params", .dict [("freq", f)])], none⟩
    | .audioSignal, _, (k, _) :: _ =>
      throw (wrap (.type s!"AudioSignal.__init__() got an unexpected keyword argument {Text.quote k}"))
    | .audioSignal, _, _ =>
      let given := args.length + 1
      throw (wrap (.type s!"AudioSignal.__init__() takes from 1 to 2 positional arguments but {given} were given"))
    | _, [], [] => return ⟨path, [], none⟩
    | _, _, _ => throw (wrap (.type s!"{name}() takes no arguments"))
  let key := module ++ ":" ++ name
  let some callee := ((callees.lookup key).orElse fun _ => recordCallee module name)
    | throw (locateFailure path)
  let reply ← tryCatch (callee { args := ⟨args, kwargs⟩ }) fun f => throw (wrap f)
  pure ⟨path, attrsOf reply.value, none⟩

/-- An object made from a configuration given as a configuration object or as plain data. -/
def fromConfig (config : Data) (asConfig : Bool) : Work ConfiguredObject := do
  let config ← if asConfig && config matches .dict _ then (Config.resolveAll config) else pure config
  let upgraded ← match config with
    | .dict _ => Config.upgrade config
    | .list _ => pure config
    | .null => throw ⟨"AttributeError", "'NoneType' object has no attribute '_set_flag'"⟩
    | other => throw (.type s!"argument of type {Text.quote other.kindName} is not iterable")
  let made ← match upgraded with
    | .dict kvs =>
      match kvs.lookup "_target_" with
      | some target =>
        let kwargs := kvs.filter fun (k, _) => !Config.steeringKeys.contains k
        instantiate target.text ((kvs.lookup "_args_").getD (.list [])).items kwargs
      | none => hostOf upgraded
    | other => hostOf other
  pure { made with held := made.held.orElse fun _ => some (.config upgraded) }

/-- The configuration an object keeps, in the current layout, for writing: refused when it
keeps none, or keeps a value no configuration can be made of. -/
def currentLayout (held : Option HeldConfig) : Result Data :=
  match held with
  | none => .error ⟨"NotImplementedError", ""⟩
  | some (.config d) | some (.plain d) =>
    match d with
    | .dict _ => Config.upgrade d
    | .list _ => .ok d
    | other => .error (noAttribute other.kindName "_set_flag")

def configStep (current : Option ConfiguredObject) (step : Data) : Work (Option ConfiguredObject × Data) := do
  let name := (step.getD "m").text
  let asConfig := ((step.get? "dictconfig").map Data.truthy).getD true
  let needObject : Work ConfiguredObject := match current with
    | some o => pure o
    | none => throw (.type s!"Serialization.{name}() missing 1 required positional argument: 'self'")
  match name with
  | "from_config_dict" =>
    let o ← fromConfig (step.getD "config") asConfig
    pure (some o, o.shown)
  | "from_config_file" =>
    let path := (step.getD "path").text
    let absolute := if path.startsWith "/" then path else workingDirectory ++ "/" ++ path
    let text ← tryCatch (Work.readFile path) fun _ => throw (Work.noSuchFile absolute)
    let doc ← Config.readYamlFile absolute text
    let o ← fromConfig doc true
    pure (some o, o.shown)
  | "to_config_dict" =>
    let o ← needObject
    match o.held with
    | some (.config (.dict kvs)) =>
      let cfg ← Work.lift (Config.resolveAll (.dict kvs) >>= Config.upgrade)
      pure (some { o with held := some (.config cfg) }, cfg)
    | _ => throw ⟨"NotImplementedError",
        "to_config_dict() can currently only return object._cfg but current object does not have it."⟩
  | "to_config_file" =>
    let o ← needObject
    let cfg ← currentLayout o.held
    let path := (step.getD "path").text
    Work.writeFile path ""
    Work.writeFile path (Config.writeYaml (← Config.resolveAll cfg))
    pure (some { o with held := some (.config cfg) }, .null)
  | "set_cfg" =>
    let o ← needObject
    let cfg := step.getD "config"
    let held := if asConfig && (cfg matches .dict _ || cfg matches .list _) then HeldConfig.config cfg else .plain cfg
    pure (some { o with held := some held }, .null)
  | "save_to" | "restore_from" => throw ⟨"NotImplementedError", ""⟩
  | other =>
    let cls := match current with
      | some o => (splitPath o.cls).2
      | none => "CfgHost"
    throw (noAttribute cls other)

/-- `serialization {steps, files?}` → `{steps}` and the files written. -/
def serializationRequest (req : Data) : Result Data := do
  let tree := callTree req
  let run : Work (List Data) := do
    let (_, entries) ← (req.getD "steps").items.foldlM (fun (acc : Option ConfiguredObject × List Data) step => do
      let (current, entries) := acc
      tryCatch (do
        let (next, v) ← configStep current step
        pure (next, entries ++ [Data.dict [("ok", v)]]))
        fun f => pure (current, entries ++ [failureData f])) (none, [])
    pure entries
  match run.run { tree } with
  | .ok entries w => pure (.dict ([("steps", .list entries)] ++ effectFields tree w))
  | .error f w => pure (.dict ([("error", .str f.kind), ("message", .str f.message)] ++ effectFields tree w))

end Conversa.Service
