/-!
# Failures

An operation of the toolkit that cannot complete reports a `Failure`: the name of the kind of
failure and a message.  The names are the ones the toolkit's callers already dispatch on
(`ValueError`, `TypeError`, `KeyError`, …), and the messages are fixed texts, so two failures
that read the same are the same failure.

Domains with a richer error type (arithmetic, for one) convert to `Failure` at their boundary.
-/

namespace Conversa

/-- A failed operation: the kind of failure and its message. -/
structure Failure where
  kind : String
  message : String
deriving Repr, Inhabited, DecidableEq

namespace Failure

/-- A value of the right type but an unacceptable content. -/
def value (msg : String) : Failure := ⟨"ValueError", msg⟩

def type (msg : String) : Failure := ⟨"TypeError", msg⟩

/-- A failed internal check, with its message (often empty). -/
def assertion (msg : String) : Failure := ⟨"AssertionError", msg⟩

/-- A missing key; the message is the key as it is written in a listing, quoted. -/
def key (msg : String) : Failure := ⟨"KeyError", msg⟩

def index (msg : String) : Failure := ⟨"IndexError", msg⟩

def listIndex : Failure := index "list index out of range"

/-- An optional library or service the operation needs is not there. -/
def unavailable (msg : String) : Failure := ⟨"DependencyUnavailable", msg⟩

def noTorch : Failure := unavailable "torch"

/-- A computation that never ends: nothing answers it. -/
def endless : Failure := ⟨"Endless", ""⟩

/-- A value where a path is expected, named by its kind. -/
def notPath (kind : String) : Failure := type s!"expected str, bytes or os.PathLike object, not {kind}"

def unpack (expected got : Nat) : Failure :=
  if got < expected then value s!"not enough values to unpack (expected {expected}, got {got})"
  else value s!"too many values to unpack (expected {expected})"

end Failure

/-- The outcome of an operation that may fail. -/
abbrev Result := Except Failure

end Conversa
