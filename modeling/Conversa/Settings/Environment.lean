import Conversa.Failure
import Conversa.Data.Json
import Conversa.Numeric.Reading
import Conversa.Numeric.Decimal
import Conversa.Calendar.Timestamp

/-!
# Settings from the environment

A setting is read from an environment variable and converted (`Conversion`): an unset variable
gives the default, or fails without one; a value that does not convert fails naming the
variable, its text and the conversion.  Truth values are false exactly for `false`, `0`, `no`,
`n`, `f`, `none` in any case; numbers read as literals; dates as `Calendar.Timestamp`; lists by
a separator; structured values as JSON.
-/

namespace Conversa.Settings

/-- A converted setting. -/
inductive Setting where
  | data (d : Data)
  | decimal (d : Numeric.DecimalNumber)
  | date (t : Calendar.Timestamp)
  | timestamp (t : Calendar.Timestamp)
deriving Inhabited

/-- How a setting's text is converted. -/
inductive Conversion where
  | text
  | bool
  | int
  | float
  | decimal
  | date
  | datetime
  /-- A list of texts, split at the separator. -/
  | list (separator : String)
  | json
deriving Repr, Inhabited

namespace Conversion

def name : Conversion → String
  | .text => "<lambda>"
  | .bool => "_bool"
  | .int => "_int"
  | .float => "_float"
  | .decimal => "_decimal"
  | .date => "_date"
  | .datetime => "_datetime"
  | .list _ => "<lambda>"
  | .json => "_dict"

def falseWords : List String := ["false", "0", "no", "n", "f", "none"]

/-- The setting a text converts to, if it converts. -/
def apply : Conversion → String → Option Setting
  | .text, s => some (.data (.str s))
  | .bool, s => some (.data (.bool (!falseWords.contains (Text.lower s))))
  | .int, s => (Numeric.readInt? s).map (.data ∘ .int)
  | .float, s => (Numeric.readFloat? s).map (.data ∘ .float)
  | .decimal, s => (Numeric.DecimalNumber.read? s).map .decimal
  | .date, s => (Calendar.Timestamp.read? s).map .date
  | .datetime, s => (Calendar.Timestamp.read? s).map .timestamp
  | .list sep, s => if sep.isEmpty then none else some (.data (.list ((s.splitOn sep).map .str)))
  | .json, s => (Json.loads? s).map .data

end Conversion

/-- Reads a setting: the variable's text converted, or the default when it is not set; at most
one default may be given. -/
def readSetting (lookup : String → Option String) (key : String) (conv : Conversion)
    (defaults : List Data) : Result Setting := do
  if defaults.length > 1 then throw (.assertion "Too many args supplied.")
  match lookup key with
  | none =>
    match defaults with
    | d :: _ => pure (.data d)
    | [] => throw ⟨"RequiredSettingMissingError", s!"Required env var '{key}' is missing."⟩
  | some v =>
    match conv.apply v with
    | some r => pure r
    | none => throw ⟨"CoercionError", s!"Unable to coerce '{key}={v}' using {conv.name}."⟩

end Conversa.Settings
