import Conversa.Text.PercentFormat
import Conversa.Entry.Instance

/-!
# Formatting log records

A formatter writes a log record as a line from a template filled with its attributes: the
message (`msg` filled from `args`, or `Bad message …` when that fails), `asctime` in universal
time, the level's colour marks, and an attached exception after it, every further line indented
by four blanks.  Bytes are read as UTF-8.  A logger without an underlying logger writes nothing,
keeping only the messages it was told to log once.
-/

namespace Conversa.Callees

open Entry

/-- The template a formatter class fills when it is given none. -/
def formatterTemplate (cls : String) : String :=
  let level := "%(levelname)1.1s %(asctime)s %(module)s:%(lineno)d"
  match cls with
  | "BaseNeMoFormatter" => "%(color)s[NeMo " ++ level ++ "]%(end_color)s %(message)s"
  | "DebugNeMoFormatter" => "%(color)s[NeMo " ++ level ++ " rank:%(rank)s]%(end_color)s %(message)s"
  | _ => "%(color)s[" ++ level ++ "]%(end_color)s %(message)s"

/-- The date template a formatter writes `asctime` with when it is given none. -/
def defaultDateTemplate : String := "%Y-%m-%d %H:%M:%S"

/-- The name of a value's class as a failure reports it: `<class 'int'>`. -/
def classShown (d : Data) : String :=
  let name := match d with
    | .dict [("$tuple", _)] => "tuple"
    | .dict [("$set", _)] => "set"
    | _ => (className? d).getD d.kindName
  "<class " ++ Text.quote name ++ ">"

/-- A value as text: text and the absent value as they are, bytes read as UTF-8, or shown as
bytes when they are not UTF-8; anything else is refused. -/
def unicodeText (d : Data) : Result Data :=
  match d with
  | .str _ | .null => .ok d
  | _ =>
    match Text.bytesOf? d with
    | some bs => .ok (.str ((String.fromUTF8? (ByteArray.mk bs.toArray)).getD (Text.bytesSource bs)))
    | none => .error (.type ("Expected bytes, unicode, or None; got " ++ classShown d))

/-- A failure as it is shown in source form: `TypeError('message')`.  A missing key's message
already shows the key in source form. -/
def failureSource (f : Failure) : String :=
  if f.kind == "KeyError" then f.kind ++ "(" ++ f.message ++ ")"
  else f.kind ++ "(" ++ Text.quote f.message ++ ")"

/-- The message of a record: its `msg` as text, filled from its `args` when they are not empty. -/
def recordMessage (record : Data) : Result String := do
  let msg := Text.plainText (← attr record "msg")
  let args ← attr record "args"
  if !args.truthy then return msg
  Text.fillTemplate msg (Text.FillValues.ofData args)

/-- The date of a day counted from the first of January 1970: its year, its month and its day
of the month, by whole cycles of 400 years that start on the first of March. -/
def civilDate (days : Int) : Int × Nat × Nat :=
  let z := days + 719468
  let era := Int.fdiv z 146097
  let dayOfEra := z - era * 146097
  let yearOfEra := Int.fdiv (dayOfEra - Int.fdiv dayOfEra 1460 + Int.fdiv dayOfEra 36524 - Int.fdiv dayOfEra 146096) 365
  let dayOfYear := dayOfEra - (365 * yearOfEra + Int.fdiv yearOfEra 4 - Int.fdiv yearOfEra 100)
  let shifted := Int.fdiv (5 * dayOfYear + 2) 153
  let day := dayOfYear - Int.fdiv (153 * shifted + 2) 5 + 1
  let month := if shifted < 10 then shifted + 3 else shifted - 9
  (if month ≤ 2 then yearOfEra + era * 400 + 1 else yearOfEra + era * 400, month.toNat, day.toNat)

def leapYear (y : Int) : Bool := (y % 4 == 0 && y % 100 != 0) || y % 400 == 0

def dayOfYear (y : Int) (m d : Nat) : Nat :=
  let before := [31, if leapYear y then 29 else 28, 31, 30, 31, 30, 31, 31, 30, 31, 30, 31]
  (before.take (m - 1)).foldl (· + ·) 0 + d

def zeroPadded (width : Nat) (n : Nat) : String :=
  let s := toString n
  String.ofList (List.replicate (width - s.length) '0') ++ s

def weekdayNames : List String := ["Monday", "Tuesday", "Wednesday", "Thursday", "Friday", "Saturday", "Sunday"]

def monthNames : List String :=
  ["January", "February", "March", "April", "May", "June", "July", "August", "September", "October",
    "November", "December"]

/-- A moment, in whole seconds from the start of 1970 in universal time, written by a date
template: `%Y`, `%m`, `%d`, `%H`, `%M`, `%S` and the other common directives are replaced by
the parts of the moment, `%%` by a percent sign, and anything else is kept. -/
def dateText (template : String) (seconds : Int) : String :=
  let days := Int.fdiv seconds 86400
  let inDay := (seconds - days * 86400).toNat
  let (y, m, d) := civilDate days
  let weekday := (Int.fmod (days + 3) 7).toNat
  let hour := inDay / 3600
  let directive (c : Char) : Option String :=
    match c with
    | 'Y' => some (toString y)
    | 'y' => some (zeroPadded 2 (Int.fmod y 100).toNat)
    | 'm' => some (zeroPadded 2 m)
    | 'd' => some (zeroPadded 2 d)
    | 'H' => some (zeroPadded 2 hour)
    | 'I' => some (zeroPadded 2 (if hour % 12 == 0 then 12 else hour % 12))
    | 'M' => some (zeroPadded 2 (inDay / 60 % 60))
    | 'S' => some (zeroPadded 2 (inDay % 60))
    | 'p' => some (if hour < 12 then "AM" else "PM")
    | 'j' => some (zeroPadded 3 (dayOfYear y m d))
    | 'A' => some (weekdayNames.getD weekday "")
    | 'a' => some (String.ofList ((weekdayNames.getD weekday "").toList.take 3))
    | 'B' => some (monthNames.getD (m - 1) "")
    | 'b' => some (String.ofList ((monthNames.getD (m - 1) "").toList.take 3))
    | 'w' => some (toString ((weekday + 1) % 7))
    | '%' => some "%"
    | _ => none
  let rec go : List Char → String
    | '%' :: c :: rest =>
      match directive c with
      | some s => s ++ go rest
      | none => "%" ++ String.singleton c ++ go rest
    | c :: rest => String.singleton c ++ go rest
    | [] => ""
  go template.toList

/-- The creation time of a record in whole seconds, rounded down. -/
def createdSeconds (created : Data) : Result Int :=
  match created with
  | .int n => .ok n
  | .float x => .ok (Numeric.truncToInt x.floor)
  | .bool b => .ok (if b then 1 else 0)
  | other => .error (.type s!"'{other.kindName}' object cannot be interpreted as an integer")

/-- The last line of the account of an exception: its class and its message, or its class alone
when the message is empty. -/
def exceptionLine (value : Data) : String :=
  match value with
  | .dict (("$new", .str ref) :: rest) =>
    let name := ((ref.splitOn ":").getLast?.getD ref |>.splitOn ".").getLast?.getD ref
    let message := match rest.lookup "args" with
      | some (.list [x]) => Text.plainText x
      | some (.list []) | none => ""
      | some (.list xs) => Text.sourceText (.dict [("$tuple", .list xs)])
      | some other => Text.plainText other
    if message.isEmpty then name else name ++ ": " ++ message
  | .null => "NoneType: None"
  | other => (className? other).getD other.kindName

/-- The account of an exception attached to a record as `(class, value, traceback)`. -/
def exceptionText (info : Data) : String :=
  match info with
  | .dict [("$tuple", .list (_ :: value :: _))] => exceptionLine value
  | .list (_ :: value :: _) => exceptionLine value
  | other => exceptionLine other

def trimEnd (s : String) : String :=
  String.ofList (s.toList.reverse.dropWhile (fun c => c == ' ' || c == '\n' || c == '\t' || c == '\r')).reverse

def formatRecord (formatter record : Data) : Result String := do
  let attrs := attrsOf record
  let message := match recordMessage record >>= fun m => unicodeText (.str m) with
    | .ok m => Text.plainText m
    | .error f => "Bad message (" ++ failureSource f ++ "): " ++ Text.sourceText (.dict attrs)
  let dateTemplate := (attrsOf formatter).lookup "datefmt" |>.getD .null
  let dateTemplate := match dateTemplate with
    | .str s => s
    | _ => "%a %b %d %H:%M:%S %Y"
  let asctime := dateText dateTemplate (← createdSeconds (← attr record "created"))
  let colors := (← attr formatter "_colors").entries
  let levelKey := Text.plainText (← attr record "levelno")
  let (color, endColor) ← match colors.lookup levelKey with
    | some c => do pure (c, ← attr formatter "_normal")
    | none => pure (.str "", .str "")
  let filled := [("message", Data.str message), ("asctime", .str asctime), ("color", color), ("end_color", endColor)]
  let entries := filled.foldl (fun (acc : Entries) (k, v) => (Data.dict acc |>.set k v).entries) attrs
  let template ← attr formatter "_fmt"
  let formatted ← Text.fillTemplate (Text.plainText template) (.mapping (.dict entries) entries)
  let excInfo := (attrs.lookup "exc_info").getD .null
  let excText := (attrs.lookup "exc_text").getD .null
  let excText := if excInfo.truthy && !excText.truthy then .str (exceptionText excInfo) else excText
  let formatted ←
    if excText.truthy then do
      let lines ← ((Text.plainText excText).splitOn "\n").mapM fun ln => unicodeText (.str ln)
      pure ("\n".intercalate (trimEnd formatted :: lines.map Text.plainText))
    else pure formatted
  pure (formatted.replace "\n" "\n    ")

/-- A formatter of a class: its template, its date template, and no colours, since the terminal
is not asked to show them. -/
def formatterCallee (cls : String) : Callee := fun r => do
  let vals ← (Arguments.bind r.args.intake
    s!"{cls}.__init__" [opt "color" (.bool true), opt "fmt" .null, opt "datefmt" .null, opt "colors" .null])
  let fmt := match arg vals 1 with
    | .null => .str (formatterTemplate cls)
    | f => f
  let datefmt := match arg vals 2 with
    | .null => .str defaultDateTemplate
    | f => f
  let style := objectData "PercentStyle" [("_fmt", .str "%(message)s"), ("_defaults", .null)]
  let self := objectData cls [("_style", style), ("_fmt", fmt), ("datefmt", datefmt), ("_colors", .dict []), ("_normal", .str "")]
  Work.setThis self
  pure { value := self }

def handlersUnset : Failure := ⟨"RuntimeError", "Impossible to set handlers if the Logger is not predefined"⟩

/-- Whether a mode asks for a message to be logged once. -/
def onceMode (mode : Data) : Bool :=
  match mode with
  | .int n => n == 1
  | .bool b => b
  | .float x => x == 1
  | _ => false

/-- The part of a message after its prefix of twelve characters, which tells messages apart
whatever their time. -/
def messageBody (msg : Data) : Result Data :=
  match msg with
  | .str s => .ok (.str (String.ofList (s.toList.drop 12)))
  | .list xs => .ok (.list (xs.drop 12))
  | other => .error (Data.notSubscriptable other)

/-- Whether a message was logged once before; a message to be logged once is remembered. -/
def loggedOnce (msg mode : Data) : Method Data := do
  if !onceMode mode then return .bool false
  let body ← messageBody msg
  let items := match ← Method.attr "once_logged" with
    | .dict [("$set", .list xs)] => xs
    | other => other.items
  if items.any (Data.same body) then return .bool true
  Method.setAttr "once_logged" (.dict [("$set", .list (items ++ [body]))])
  pure (.bool false)

/-- A method of the logger that takes any arguments after the logger and, without an underlying
logger, does nothing. -/
def loggerCall (name : String) (body : Data → List Data → Work Data) : Callee := fun r => do
  let args := intakeItems r.args.positional
  let some self := args.head?
    | throw (.type s!"Logger.{name}() missing 1 required positional argument: 'self'")
  Work.setThis self
  let v ← body self args.tail
  pure { value := shown v, shownArgs := some (shownItems ((← Work.this) :: args.tail)) }

/-- A method of the logger that needs the underlying logger when there is one. -/
def quietLoggerCall (name : String) (failure : Option Failure) : Callee :=
  loggerCall name fun self _ => do
    match ← (attr self "_logger") with
    | .null =>
      match failure with
      | some f => throw f
      | none => pure .null
    | _ => throw (.unavailable "logging")

def logFormattingCallees : List (String × Callee) :=
  let formatters := ["BaseFormatter", "BaseNeMoFormatter", "DebugNeMoFormatter"].map fun cls =>
    ("nemo.utils.formatters.base:" ++ cls, formatterCallee cls)
  let quiet := ["debug", "info", "warning", "error", "critical", "getEffectiveLevel", "get_verbosity",
    "setLevel", "set_verbosity", "captureWarnings"].map fun name =>
    ("nemo.utils.nemo_logging:Logger." ++ name, quietLoggerCall name none)
  let handlers := ["remove_stream_handlers", "add_stream_handlers", "reset_stream_handler", "add_file_handler",
    "add_err_file_handler"].map fun name =>
    ("nemo.utils.nemo_logging:Logger." ++ name, quietLoggerCall name (some handlersUnset))
  formatters ++ quiet ++ handlers ++ [
    ("nemo.utils.formatters.base:BaseFormatter.format",
      method "BaseFormatter.format" [req "record"] fun vals => do
        ((formatRecord (← Method.this) (arg vals 0)).map Data.str)),
    ("nemo.utils.formatters.utils:to_unicode", functionOf "to_unicode" [req "value"] fun vals =>
      (unicodeText (arg vals 0))),
    ("nemo.utils.formatters.utils:check_color_support", functionOf "check_color_support" [] fun _ => pure .null),
    ("nemo.utils.nemo_logging:Logger._logged_once",
      method "Logger._logged_once" [req "msg", req "mode"] fun vals => loggedOnce (arg vals 0) (arg vals 1))]

end Conversa.Callees
