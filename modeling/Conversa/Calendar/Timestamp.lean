import Conversa.Text.Space

/-!
# Timestamps

A timestamp is a calendar date with a time of day to the microsecond and an optional offset
from UTC.  `Timestamp.read?` reads the common written forms: `YYYY-MM-DD` (or `/`, `.`),
`YYYYMMDD`, `MM/DD/YYYY` (day first when needed) or with the month's name; an optional time
`HH:MM[:SS[.f]]` with `am`/`pm`; an optional offset `Z`, `UTC`, `GMT` or `±HH[:MM]`.  Each part
must be in range.  A timestamp is written `YYYY-MM-DDTHH:MM:SS[.ffffff][+HH:MM]`.
-/

namespace Conversa.Calendar

/-- A date and time of day, with an optional offset from UTC in minutes. -/
structure Timestamp where
  year : Nat
  month : Nat
  day : Nat
  hour : Nat
  minute : Nat
  second : Nat
  micro : Nat
  /-- The offset from UTC in minutes, if known. -/
  offset : Option Int
deriving Repr, Inhabited, DecidableEq

def isLeap (y : Nat) : Bool := (y % 4 == 0 && y % 100 != 0) || y % 400 == 0

def daysIn (y m : Nat) : Nat :=
  match m with
  | 2 => if isLeap y then 29 else 28
  | 4 | 6 | 9 | 11 => 30
  | _ => 31

def monthNames : List String :=
  ["january", "february", "march", "april", "may", "june", "july", "august", "september",
   "october", "november", "december"]

/-- The month a word names: the full name or its first three letters, in any case. -/
def monthOf? (w : String) : Option Nat :=
  let w := w.toLower
  (monthNames.zipIdx.find? fun (n, _) => n == w || (w.length == 3 && n.startsWith w) ||
      (w == "sept" && n == "september")).map (·.2 + 1)

def number? (s : String) : Option Nat :=
  if !s.isEmpty && s.all Char.isDigit then s.toNat? else none

def pad (n width : Nat) : String :=
  let s := toString n
  String.ofList (List.replicate (width - s.length) '0') ++ s

/-- A date from its three numbers, when it is a real date. -/
def date? (y m d : Nat) : Option (Nat × Nat × Nat) :=
  if 1 ≤ m && m ≤ 12 && 1 ≤ d && d ≤ daysIn y m && 1 ≤ y then some (y, m, d) else none

def numericDate? (s : String) : Option (Nat × Nat × Nat) :=
  let parts := (s.splitOn "-").flatMap (·.splitOn "/") |>.flatMap (·.splitOn ".")
  match parts with
  | [a, b, c] => do
    let x ← number? a
    let y ← number? b
    let z ← number? c
    if a.length == 4 then date? x y z
    else if x > 12 then date? z y x
    else date? z x y
  | [a] =>
    if a.length == 8 then do
      let y ← number? (a.take 4).toString
      let m ← number? ((a.drop 4).take 2).toString
      let d ← number? (a.drop 6).toString
      date? y m d
    else none
  | _ => none

def namedDate? (words : List String) : Option (Nat × Nat × Nat) :=
  let words := words.map fun w => if w.endsWith "," then (w.dropEnd 1).toString else w
  match words with
  | [a, b, c] =>
    match monthOf? a, monthOf? b with
    | some m, _ => do date? (← number? c) m (← number? b)
    | _, some m => do date? (← number? c) m (← number? a)
    | _, _ => none
  | _ => none

/-- Reads a time of day `HH:MM[:SS[.f]]`, giving hour, minute, second and microsecond. -/
def time? (s : String) : Option (Nat × Nat × Nat × Nat) :=
  match s.splitOn ":" with
  | [h, m] => do
    let h ← number? h
    let m ← number? m
    if h < 24 && m < 60 then some (h, m, 0, 0) else none
  | [h, m, sec] => do
    let h ← number? h
    let m ← number? m
    let (whole, frac) := match sec.splitOn "." with
      | [w] => (w, "")
      | w :: f :: _ => (w, f)
      | [] => ("", "")
    let sec ← number? whole
    let micro ← if frac.isEmpty then some 0 else
      number? (String.ofList ((frac.toList ++ List.replicate 6 '0').take 6))
    if h < 24 && m < 60 && sec < 60 then some (h, m, sec, micro) else none
  | _ => none

/-- Reads an offset from UTC, in minutes. -/
def offset? (s : String) : Option Int :=
  if s == "Z" || s == "UTC" || s == "GMT" then some 0
  else match s.toList with
    | c :: r =>
      if c != '+' && c != '-' then none else do
        let digits := r.filter (· != ':')
        let (h, m) ← match digits.length with
          | 2 => some (digits, ['0', '0'])
          | 4 => some (digits.take 2, digits.drop 2)
          | _ => none
        let h ← number? (String.ofList h)
        let m ← number? (String.ofList m)
        let v : Int := (h * 60 + m : Nat)
        pure (if c == '-' then -v else v)
    | [] => none

/-- Splits a time word at its offset sign or `Z`, if it has one. -/
def splitOffset (s : String) : String × Option String :=
  let cs := s.toList
  match cs.findIdx? (fun c => c == '+' || c == '-' || c == 'Z') with
  | some i => (String.ofList (cs.take i), some (String.ofList (cs.drop i)))
  | none => (s, none)

namespace Timestamp

def read? (s : String) : Option Timestamp := do
  let words := (Text.words s).flatMap fun w =>
    match w.splitOn "T" with
    | [d, t] => if (d.toList.head?.map Char.isDigit).getD false then [d, t] else [w]
    | _ => [w]
  let (dateWords, timeWords) :=
    match words.findIdx? (fun w => w.contains ':') with
    | some i => (words.take i, words.drop i)
    | none => (words, [])
  let (y, m, d) ← match dateWords with
    | [w] => numericDate? w
    | ws => namedDate? ws
  let (hour, minute, second, micro, offset) ← match timeWords with
    | [] => some (0, 0, 0, 0, none)
    | t :: rest => do
      let (t, inlineOffset) := splitOffset t
      let (h, mi, se, mc) ← time? t
      let (h, rest) := match rest with
        | "am" :: r | "AM" :: r => (if h == 12 then 0 else h, r)
        | "pm" :: r | "PM" :: r => (if h < 12 then h + 12 else h, r)
        | r => (h, r)
      let off ← match inlineOffset, rest with
        | some o, [] => (offset? o).map some
        | none, [o] => (offset? o).map some
        | none, [] => some none
        | _, _ => none
      pure (h, mi, se, mc, off)
  pure ⟨y, m, d, hour, minute, second, micro, offset⟩

def dateText (t : Timestamp) : String := s!"{pad t.year 4}-{pad t.month 2}-{pad t.day 2}"

def text (t : Timestamp) : String :=
  let time := s!"{pad t.hour 2}:{pad t.minute 2}:{pad t.second 2}"
  let micro := if t.micro == 0 then "" else "." ++ pad t.micro 6
  let off := match t.offset with
    | none => ""
    | some o =>
      let a := o.natAbs
      (if o < 0 then "-" else "+") ++ pad (a / 60) 2 ++ ":" ++ pad (a % 60) 2
  t.dateText ++ "T" ++ time ++ micro ++ off

end Timestamp

end Conversa.Calendar
