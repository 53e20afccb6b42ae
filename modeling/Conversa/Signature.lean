import Conversa.Failure

/-!
# Parameter lists and keyword binding

A `Signature` lists the parameters an entry point declares, and `Signature.bind` matches keywords
against it as every call does: in order, refusing the first that names no parameter (unless extra
keywords are collected) or one already given, then reporting the required parameters still unset
together.  The failures are `TypeError`s naming the entry point.
-/

namespace Conversa.Keywords

/-- How an argument may be passed to a parameter. -/
inductive ParamKind where
  | positional
  | keywordOnly
deriving DecidableEq, Repr

/-- A declared parameter. -/
structure Param where
  name : String
  kind : ParamKind
  /-- Whether a call must give it (it has no default). -/
  required : Bool
deriving Repr

def Param.req (n : String) : Param := ⟨n, .positional, true⟩

def Param.opt (n : String) : Param := ⟨n, .positional, false⟩

def Param.kwReq (n : String) : Param := ⟨n, .keywordOnly, true⟩

def Param.kwOpt (n : String) : Param := ⟨n, .keywordOnly, false⟩

/-- The parameter list of an entry point. -/
structure Signature where
  /-- The qualified name failures show, such as `Schedule.__init__`. -/
  name : String
  params : List Param
  /-- Whether keywords that name no parameter are collected instead of refused. -/
  collectsExtra : Bool
deriving Repr

/-- Arguments matched to a signature: the parameters given, and the collected extra keywords,
each in the order they were passed. -/
structure Bound (α : Type) where
  /-- The value of each parameter that was given. -/
  given : List (String × α)
  /-- The keywords that name no parameter, when the signature collects them. -/
  extra : List (String × α)

/-- The value given for a parameter, if it was given. -/
def Bound.get? {α : Type} (b : Bound α) (n : String) : Option α :=
  (b.given.find? (·.1 == n)).map (·.2)

/-- The value given for a parameter, or its default. -/
def Bound.getD {α : Type} (b : Bound α) (n : String) (dflt : α) : α :=
  (b.get? n).getD dflt

/-- Quoted names joined as a sentence lists them: `'a'`, `'a' and 'b'`, `'a', 'b', and 'c'`. -/
def quotedList (names : List String) : String :=
  let q := names.map fun n => "'" ++ n ++ "'"
  match q with
  | [] => ""
  | [a] => a
  | [a, b] => a ++ " and " ++ b
  | _ => ", ".intercalate q.dropLast ++ ", and " ++ q.getLast!

/-- The failure for required parameters of one kind that a call left unset. -/
def missingFailure (fn : String) (kind : ParamKind) (names : List String) : Failure :=
  let kindWord := match kind with
    | .positional => "positional"
    | .keywordOnly => "keyword-only"
  let plural := if names.length == 1 then "" else "s"
  .type s!"{fn}() missing {names.length} required {kindWord} argument{plural}: {quotedList names}"

namespace Signature

/-- Takes the keywords in order into the parameters given and the extras. -/
def takeKeywords {α : Type} (sig : Signature) (filled : Nat) :
    Bound α → List (String × α) → Result (Bound α)
  | acc, [] => .ok acc
  | acc, (k, v) :: rest =>
    match sig.params.findIdx? (·.name == k) with
    | some i =>
      if i < filled || acc.given.any (·.1 == k) then
        .error (.type s!"{sig.name}() got multiple values for argument '{k}'")
      else takeKeywords sig filled ⟨acc.given ++ [(k, v)], acc.extra⟩ rest
    | none =>
      if sig.collectsExtra then takeKeywords sig filled ⟨acc.given, acc.extra ++ [(k, v)]⟩ rest
      else .error (.type s!"{sig.name}() got an unexpected keyword argument '{k}'")

/-- The required parameters of a kind that are still unset after `filled` positional arguments
and the given keywords. -/
def unset {α : Type} (sig : Signature) (filled : Nat) (b : Bound α) (kind : ParamKind) : List String :=
  ((sig.params.zipIdx).filter fun (p, i) =>
    p.kind == kind && p.required && i ≥ filled && !(b.given.any (·.1 == p.name))).map (·.1.name)

/-- Matches a call with `filled` leading positional arguments and the keywords `kws` against the
signature. -/
def bind {α : Type} (sig : Signature) (filled : Nat) (kws : List (String × α)) :
    Result (Bound α) := do
  let b ← sig.takeKeywords filled ⟨[], []⟩ kws
  let missingPos := sig.unset filled b .positional
  if !missingPos.isEmpty then throw (missingFailure sig.name .positional missingPos)
  let missingKw := sig.unset filled b .keywordOnly
  if !missingKw.isEmpty then throw (missingFailure sig.name .keywordOnly missingKw)
  pure b

end Signature

end Conversa.Keywords
