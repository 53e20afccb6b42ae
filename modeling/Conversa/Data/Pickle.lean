import Conversa.Data.Json
import Conversa.Failure
import Conversa.Text.Bytes

/-!
# Reading pickled objects

A pickle is a program for a stack machine; `unpickle` runs it.  Containers are mutable in a
pickle, so they live on a heap and values refer to them by number; numeric arrays, ordered
mappings and sets are understood, any other constructor makes a plain object.  `pickleFloats`
and `pickleIdLists` write protocol-4 pickles; `npyArray` reads an array file and `zipMember` an
archive member.
-/

namespace Conversa.Pickle

/-- A value on the machine's stack. -/
inductive Item where
  | none
  | bool (b : Bool)
  | int (n : Int)
  | float (x : Float)
  | text (s : String)
  | bytes (bs : List UInt8)
  | tuple (xs : List Item)
  | global (module name : String)
  | ref (id : Nat)
  /-- The mark that containers are built back to. -/
  | mark
deriving Inhabited, Repr

/-- A mutable value. -/
inductive Cell where
  | list (xs : List Item)
  | dict (kvs : List (Item × Item))
  | set (xs : List Item)
  /-- A numeric array: element code (`f8`, `i4`, …), shape and raw little-endian bytes. -/
  | array (code : String) (shape : List Nat) (raw : List UInt8)
  | dtype (code : String)
  /-- An object of a class, with its state once built. -/
  | object (cls : String) (state : Item)
deriving Inhabited, Repr

/-- The state of the machine. -/
structure Machine where
  stack : List Item := []
  memo : List (Nat × Item) := []
  heap : Array Cell := #[]
deriving Inhabited

def malformed (msg : String) : Failure := ⟨"UnpicklingError", msg⟩

def truncated : Failure := malformed "pickle data was truncated"

def littleEndian (bs : List UInt8) : Nat := bs.foldr (fun b acc => acc * 256 + b.toNat) 0

def signedLittleEndian (bs : List UInt8) : Int :=
  let v := littleEndian bs
  if bs.isEmpty then 0
  else if v ≥ Nat.pow 2 (8 * bs.length - 1) then (v : Int) - (Nat.pow 2 (8 * bs.length) : Nat) else v

def bigEndianDouble (bs : List UInt8) : Float := Float.ofBits (littleEndian bs.reverse).toUInt64

def utf8Text (bs : List UInt8) : String := String.ofList (Text.decodeLossy bs)

/-- The character of an opcode as a load key message shows it. -/
def keyText (b : UInt8) : String :=
  if 0x20 ≤ b.toNat ∧ b.toNat < 0x7F then
    if b.toNat == 0x27 then "\"'\"" else "'" ++ String.singleton (Char.ofNat b.toNat) ++ "'"
  else
    let hex := "0123456789abcdef".toList
    let d (n : Nat) : Char := hex.getD n '0'
    "'\\x" ++ String.ofList [d (b.toNat / 16), d (b.toNat % 16)] ++ "'"

namespace Machine

def push (m : Machine) (it : Item) : Machine := { m with stack := it :: m.stack }

def pop (m : Machine) : Result (Item × Machine) :=
  match m.stack with
  | it :: rest => .ok (it, { m with stack := rest })
  | [] => .error (malformed "unpickling stack underflow")

/-- The values above the last mark, in the order they were pushed, and the machine without them
and the mark. -/
def popMark (m : Machine) : Result (List Item × Machine) :=
  let rec go : List Item → List Item → Result (List Item × List Item)
    | [], _ => .error (malformed "could not find MARK")
    | .mark :: rest, acc => .ok (acc, rest)
    | it :: rest, acc => go rest (it :: acc)
  match go m.stack [] with
  | .ok (items, rest) => .ok (items, { m with stack := rest })
  | .error e => .error e

def alloc (m : Machine) (c : Cell) : Machine × Item :=
  ({ m with heap := m.heap.push c }, .ref m.heap.size)

def cell? (m : Machine) (it : Item) : Option Cell :=
  match it with
  | .ref i => m.heap[i]?
  | _ => none

def update (m : Machine) (it : Item) (c : Cell) : Machine :=
  match it with
  | .ref i => { m with heap := m.heap.set! i c }
  | _ => m

def fetch (m : Machine) (k : Nat) : Result Item :=
  match m.memo.find? (·.1 == k) with
  | some (_, it) => .ok it
  | none => .error (malformed s!"Memo value not found at index {k}")

def remember (m : Machine) (k : Nat) : Result Machine :=
  match m.stack with
  | it :: _ => .ok { m with memo := (k, it) :: m.memo.filter (·.1 != k) }
  | [] => .error (malformed "unpickling stack underflow")

end Machine

/-- A key of a mapping, compared as its text. -/
def Item.keyText : Item → String
  | .text s => "s" ++ s
  | .int n => "i" ++ toString n
  | .bool b => "i" ++ (if b then "1" else "0")
  | .none => "n"
  | .float x => "f" ++ toString x
  | .ref i => "r" ++ toString i
  | _ => "?"

/-- Entries added to a mapping: a key already present keeps its place and takes the value. -/
def addEntries (kvs : List (Item × Item)) (more : List (Item × Item)) : List (Item × Item) :=
  more.foldl (fun acc (k, v) =>
    if acc.any (·.1.keyText == k.keyText) then acc.map fun e => if e.1.keyText == k.keyText then (k, v) else e
    else acc ++ [(k, v)]) kvs

def pairs : List Item → List (Item × Item)
  | k :: v :: rest => (k, v) :: pairs rest
  | _ => []

def typeCode (s : String) : String :=
  match s with
  | "float64" | "float" | "d" => "f8"
  | "float32" | "f" => "f4"
  | "int64" | "int" | "l" | "q" => "i8"
  | "int32" | "i" => "i4"
  | "bool" | "?" => "b1"
  | other => other

def construct (m : Machine) (fn : Item) (args : List Item) : Result (Machine × Item) :=
  match fn with
  | .global "_codecs" "encode" =>
    match args with
    | [.text s, _] => .ok (m, .bytes (s.toList.map fun c => c.toNat.toUInt8))
    | [.text s] => .ok (m, .bytes s.toUTF8.toList)
    | _ => .error (malformed "bad arguments to encode")
  | .global "numpy.core.multiarray" "_reconstruct" | .global "numpy._core.multiarray" "_reconstruct" =>
    .ok (m.alloc (.array "f8" [] []))
  | .global "numpy" "dtype" =>
    match args with
    | .text code :: _ => .ok (m.alloc (.dtype (typeCode code)))
    | _ => .ok (m.alloc (.dtype "O"))
  | .global "numpy.core.multiarray" "scalar" | .global "numpy._core.multiarray" "scalar" =>
    match args with
    | [d, .bytes raw] =>
      let code := match m.cell? d with
        | some (.dtype c) => c
        | _ => "f8"
      if code.startsWith "f" then
        if code == "f4" then .ok (m, .float (Float32.ofBits (littleEndian raw).toUInt32).toFloat)
        else .ok (m, .float (Float.ofBits (littleEndian raw).toUInt64))
      else if code.startsWith "u" then .ok (m, .int (littleEndian raw))
      else if code == "b1" then .ok (m, .bool (littleEndian raw != 0))
      else .ok (m, .int (signedLittleEndian raw))
    | _ => .error (malformed "bad arguments to scalar")
  | .global "collections" "OrderedDict" =>
    match args with
    | [] => .ok (m.alloc (.dict []))
    | _ => .ok (m.alloc (.dict []))
  | .global "builtins" "set" | .global "__builtin__" "set" | .global "builtins" "frozenset"
  | .global "__builtin__" "frozenset" =>
    match args with
    | [it] => match m.cell? it with
      | some (.list xs) => .ok (m.alloc (.set xs))
      | _ => .ok (m.alloc (.set []))
    | _ => .ok (m.alloc (.set []))
  | .global "copyreg" "_reconstructor" | .global "copy_reg" "_reconstructor" =>
    match args with
    | .global md nm :: _ => .ok (m.alloc (.object s!"{md}.{nm}" .none))
    | _ => .ok (m.alloc (.object "object" .none))
  | .global md nm => .ok (m.alloc (.object s!"{md}.{nm}" .none))
  | _ => .error (malformed "REDUCE on a value that is not callable")

def build (m : Machine) (obj state : Item) : Machine :=
  match m.cell? obj with
  | some (.array _ _ _) =>
    match state with
    | .tuple [_, .tuple dims, d, _, .bytes raw] =>
      let code := match m.cell? d with
        | some (.dtype c) => c
        | _ => "f8"
      m.update obj (.array code (dims.map fun x => match x with | .int n => n.toNat | _ => 0) raw)
    | _ => m
  | some (.object cls _) => m.update obj (.object cls state)
  | some (.dict kvs) =>
    match m.cell? state with
    | some (.dict more) => m.update obj (.dict (addEntries kvs more))
    | _ => m
  | _ => m

def slice (bs : Array UInt8) (pos n : Nat) : Result (List UInt8) :=
  if pos + n ≤ bs.size then .ok ((bs.extract pos (pos + n)).toList) else .error truncated

/-- A line of the input from a position, without its line feed, and the position after it. -/
def lineAt (bs : Array UInt8) (pos : Nat) : Result (String × Nat) :=
  let rest := (bs.extract pos bs.size).toList
  match rest.findIdx? (· == 10) with
  | some i => .ok (utf8Text (rest.take i), pos + i + 1)
  | none => .error truncated

/-- One opcode run at a position: the machine after it, the next position, and the result when
the opcode ends the pickle. -/
def step (bs : Array UInt8) (m : Machine) (pos : Nat) : Result (Machine × Nat × Option Item) := do
  let some op := bs[pos]?
    | throw (if pos == 0 then ⟨"EOFError", "Ran out of input"⟩ else truncated)
  let at1 := pos + 1
  let sized (width : Nat) : Result (List UInt8 × Nat) := do
    let n := littleEndian (← slice bs at1 width)
    pure (← slice bs (at1 + width) n, at1 + width + n)
  let pushed (it : Item) (next : Nat) : Result (Machine × Nat × Option Item) :=
    .ok (m.push it, next, none)
  match op.toNat with
  | 0x80 => pure (m, pos + 2, none)
  | 0x95 => pure (m, pos + 9, none)
  | 0x2E => let (it, _) ← m.pop; pure (m, at1, some it)
  | 0x7D => let (m, r) := m.alloc (.dict []); pure (m.push r, at1, none)
  | 0x5D => let (m, r) := m.alloc (.list []); pure (m.push r, at1, none)
  | 0x8F => let (m, r) := m.alloc (.set []); pure (m.push r, at1, none)
  | 0x29 => pushed (.tuple []) at1
  | 0x28 => pushed .mark at1
  | 0x71 => pure (← m.remember (littleEndian (← slice bs at1 1)), pos + 2, none)
  | 0x72 => pure (← m.remember (littleEndian (← slice bs at1 4)), pos + 5, none)
  | 0x94 => pure (← m.remember m.memo.length, at1, none)
  | 0x68 => pushed (← m.fetch (littleEndian (← slice bs at1 1))) (pos + 2)
  | 0x6A => pushed (← m.fetch (littleEndian (← slice bs at1 4))) (pos + 5)
  | 0x58 => let (raw, next) ← sized 4; pushed (.text (utf8Text raw)) next
  | 0x8C => let (raw, next) ← sized 1; pushed (.text (utf8Text raw)) next
  | 0x8D => let (raw, next) ← sized 8; pushed (.text (utf8Text raw)) next
  | 0x54 => let (raw, next) ← sized 4; pushed (.text (utf8Text raw)) next
  | 0x55 => let (raw, next) ← sized 1; pushed (.text (utf8Text raw)) next
  | 0x42 => let (raw, next) ← sized 4; pushed (.bytes raw) next
  | 0x43 => let (raw, next) ← sized 1; pushed (.bytes raw) next
  | 0x8E => let (raw, next) ← sized 8; pushed (.bytes raw) next
  | 0x4A => pushed (.int (signedLittleEndian (← slice bs at1 4))) (pos + 5)
  | 0x4B => pushed (.int (littleEndian (← slice bs at1 1))) (pos + 2)
  | 0x4D => pushed (.int (littleEndian (← slice bs at1 2))) (pos + 3)
  | 0x8A => let (raw, next) ← sized 1; pushed (.int (signedLittleEndian raw)) next
  | 0x8B => let (raw, next) ← sized 4; pushed (.int (signedLittleEndian raw)) next
  | 0x4E => pushed .none at1
  | 0x88 => pushed (.bool true) at1
  | 0x89 => pushed (.bool false) at1
  | 0x47 => pushed (.float (bigEndianDouble (← slice bs at1 8))) (pos + 9)
  | 0x74 => let (xs, m) ← m.popMark; pure (m.push (.tuple xs), at1, none)
  | 0x85 => let (a, m) ← m.pop; pure (m.push (.tuple [a]), at1, none)
  | 0x86 =>
    let (b, m) ← m.pop
    let (a, m) ← m.pop
    pure (m.push (.tuple [a, b]), at1, none)
  | 0x87 =>
    let (c, m) ← m.pop
    let (b, m) ← m.pop
    let (a, m) ← m.pop
    pure (m.push (.tuple [a, b, c]), at1, none)
  | 0x6C => let (xs, m) ← m.popMark; let (m, r) := m.alloc (.list xs); pure (m.push r, at1, none)
  | 0x64 => let (xs, m) ← m.popMark; let (m, r) := m.alloc (.dict (addEntries [] (pairs xs))); pure (m.push r, at1, none)
  | 0x61 =>
    let (x, m) ← m.pop
    let (target, _) ← m.pop
    match m.cell? target with
    | some (.list xs) => pure (m.update target (.list (xs ++ [x])), at1, none)
    | _ => pure (m, at1, none)
  | 0x65 =>
    let (xs, m) ← m.popMark
    let (target, _) ← m.pop
    match m.cell? target with
    | some (.list ys) => pure (m.update target (.list (ys ++ xs)), at1, none)
    | _ => pure (m, at1, none)
  | 0x73 =>
    let (v, m) ← m.pop
    let (k, m) ← m.pop
    let (target, _) ← m.pop
    match m.cell? target with
    | some (.dict kvs) => pure (m.update target (.dict (addEntries kvs [(k, v)])), at1, none)
    | _ => pure (m, at1, none)
  | 0x75 =>
    let (xs, m) ← m.popMark
    let (target, _) ← m.pop
    match m.cell? target with
    | some (.dict kvs) => pure (m.update target (.dict (addEntries kvs (pairs xs))), at1, none)
    | _ => pure (m, at1, none)
  | 0x90 =>
    let (xs, m) ← m.popMark
    let (target, _) ← m.pop
    match m.cell? target with
    | some (.set ys) => pure (m.update target (.set (ys ++ xs)), at1, none)
    | _ => pure (m, at1, none)
  | 0x91 => let (xs, m) ← m.popMark; let (m, r) := m.alloc (.set xs); pure (m.push r, at1, none)
  | 0x63 =>
    let (md, p1) ← lineAt bs at1
    let (nm, p2) ← lineAt bs p1
    pushed (.global md nm) p2
  | 0x93 =>
    let (nm, m) ← m.pop
    let (md, m) ← m.pop
    match md, nm with
    | .text a, .text b => pure (m.push (.global a b), at1, none)
    | _, _ => throw (malformed "STACK_GLOBAL requires str")
  | 0x52 =>
    let (args, m) ← m.pop
    let (fn, m) ← m.pop
    let argList := match args with
      | .tuple xs => xs
      | _ => []
    let (m, r) ← construct m fn argList
    pure (m.push r, at1, none)
  | 0x81 =>
    let (_, m) ← m.pop
    let (cls, m) ← m.pop
    let name := match cls with
      | .global md nm => s!"{md}.{nm}"
      | _ => "object"
    let (m, r) := m.alloc (.object name .none)
    pure (m.push r, at1, none)
  | 0x62 =>
    let (state, m) ← m.pop
    let (obj, _) ← m.pop
    pure (build m obj state, at1, none)
  | _ => throw (malformed s!"invalid load key, {keyText op}.")

/-- The machine run from a position until the pickle ends, at most `fuel` opcodes. -/
def run (bs : Array UInt8) : Nat → Machine → Nat → Result (Machine × Item)
  | 0, _, _ => .error truncated
  | fuel + 1, m, pos => do
    let (m, next, result) ← step bs m pos
    match result with
    | some it => pure (m, it)
    | none => run bs fuel m next

def itemSize (code : String) : Nat :=
  match (code.drop 1).toString.toNat? with
  | some n => n
  | none => 8

def typeName (code : String) : String :=
  match code with
  | "f8" => "float64"
  | "f4" => "float32"
  | "f2" => "float16"
  | "b1" => "bool"
  | other =>
    if other.startsWith "i" then s!"int{8 * itemSize other}"
    else if other.startsWith "u" then s!"uint{8 * itemSize other}"
    else other

def elements (code : String) (raw : List UInt8) : List Data :=
  let size := itemSize code
  let count := if size == 0 then 0 else raw.length / size
  (List.range count).map fun i =>
    let bs := (raw.drop (i * size)).take size
    if code == "f8" then Data.float (Float.ofBits (littleEndian bs).toUInt64)
    else if code == "f4" then Data.float (Float32.ofBits (littleEndian bs).toUInt32).toFloat
    else if code == "b1" then Data.bool (littleEndian bs != 0)
    else if code.startsWith "u" then Data.int (littleEndian bs)
    else Data.int (signedLittleEndian bs)

/-- Flat elements grouped by a shape, last dimension innermost. -/
def shaped (shape : List Nat) (xs : List Data) : Data :=
  match shape with
  | [] => xs.headD .null
  | [_] => .list xs
  | _ :: inner =>
    let per := inner.foldl (· * ·) 1
    let rows := if per == 0 then [] else (List.range (xs.length / per)).map fun i => (xs.drop (i * per)).take per
    .list (rows.attach.map fun ⟨r, _⟩ => shaped inner r)

def keyOf : Item → String
  | .text s => s
  | .int n => toString n
  | .bool b => if b then "True" else "False"
  | .none => "None"
  | .float x => toString x
  | _ => "?"

/-- An item as data, references followed at most `fuel` deep. -/
def toData (m : Machine) : Nat → Item → Data
  | 0, _ => .null
  | fuel + 1, it =>
    match it with
    | .none | .mark => .null
    | .bool b => .bool b
    | .int n => .int n
    | .float x => .float x
    | .text s => .str s
    | .bytes bs => .dict [("bytes", .str (Text.hexText bs))]
    | .tuple xs => .list (xs.map (toData m fuel))
    | .global md nm => .dict [("repr", .str s!"<class '{md}.{nm}'>")]
    | .ref _ =>
      match m.cell? it with
      | some (.list xs) => .list (xs.map (toData m fuel))
      | some (.set xs) => .list (xs.map (toData m fuel))
      | some (.dict kvs) => .dict (kvs.map fun (k, v) => (keyOf k, toData m fuel v))
      | some (.array code shape raw) =>
        let elems := shaped shape (elements code raw)
        if code.startsWith "i" || code.startsWith "u" || code == "b1" then elems
        else .dict [("dtype", .str (typeName code)), ("ndarray", elems)]
      | some (.dtype code) => .dict [("repr", .str s!"dtype('{typeName code}')")]
      | some (.object cls state) =>
        let short := ((cls.splitOn ".").getLast?).getD cls
        let attrs := match toData m fuel state with
          | .dict kvs => kvs
          | _ => []
        .dict [("attrs", .dict attrs), ("object", .str short)]
      | none => .null

def doubleBytes (x : Float) : List UInt8 :=
  let bits := x.toBits.toNat
  (List.range 8).reverse.map fun i => (bits / Nat.pow 256 i % 256).toUInt8

def littleEndianBytes (n : Nat) : List UInt8 :=
  (List.range 8).map fun i => (n / Nat.pow 256 i % 256).toUInt8

/-- Items in batches of a thousand, each between a mark and the opcode `op`. -/
def markedBatches (op : UInt8) (items : List (List UInt8)) : List UInt8 :=
  if _h : items.length ≤ 1000 then 0x28 :: items.flatten ++ [op]
  else markedBatches op (items.take 1000) ++ markedBatches op (items.drop 1000)
termination_by items.length
decreasing_by all_goals simp only [List.length_take, List.length_drop]; omega

/-- The opcodes that fill a list already on the stack: nothing for no items, `APPEND` after a
single item, else marked batches closed by `APPENDS`. -/
def appendBatches (items : List (List UInt8)) : List UInt8 :=
  match items with
  | [] => []
  | [x] => x ++ [0x61]
  | xs => markedBatches 0x65 xs

/-- A whole number as the pickler writes it: one byte, two or four little-endian bytes, or its
shortest two's complement bytes after `LONG1`. -/
def intCode (n : Int) : List UInt8 :=
  let bytes (k : Nat) (v : Nat) : List UInt8 := (List.range k).map fun i => (v / Nat.pow 256 i % 256).toUInt8
  if 0 ≤ n ∧ n < 256 then [0x4b, n.toNat.toUInt8]
  else if 0 ≤ n ∧ n < 65536 then 0x4d :: bytes 2 n.toNat
  else if -2147483648 ≤ n ∧ n < 2147483648 then 0x4a :: bytes 4 (n % 4294967296).toNat
  else
    let k := (List.range 64).find? (fun k => -Int.pow 2 (8 * k + 7) ≤ n ∧ n < Int.pow 2 (8 * k + 7)) |>.getD 63
    0x8a :: (k + 1).toUInt8 :: bytes (k + 1) (n % Int.pow 2 (8 * (k + 1))).toNat

/-- A protocol-4 pickle of a body: the protocol mark, one frame when the body takes four bytes or
more, the body and the stop code. -/
def framed (body : List UInt8) : List UInt8 :=
  let body := body ++ [0x2e]
  [0x80, 0x04] ++ (if body.length ≥ 4 then 0x95 :: littleEndianBytes body.length else []) ++ body

def field (bs : Array UInt8) (pos len : Nat) : Nat := littleEndian (bs.extract pos (pos + len)).toList

/-- The bytes of the member of a zip archive stored under a name, walking its local headers. -/
def zipMember (bs : Array UInt8) (name : String) : Option (List UInt8) :=
  go 0 bs.size
where
  /-- Looks at the header at `pos` and the ones after it. -/
  go (pos : Nat) : Nat → Option (List UInt8)
    | 0 => none
    | fuel + 1 =>
      if field bs pos 4 != 0x04034b50 then none
      else
        let size := field bs (pos + 18) 4
        let nameLen := field bs (pos + 26) 2
        let start := pos + 30 + nameLen + field bs (pos + 28) 2
        let here := String.ofList ((bs.extract (pos + 30) (pos + 30 + nameLen)).toList.map fun b => Char.ofNat b.toNat)
        if here == name then some (bs.extract start (start + size)).toList else go (start + size) fuel

/-- The text of a header entry: what follows `key` up to `stop`. -/
def headerEntry (header key : String) (stop : String) : Option String :=
  match header.splitOn key with
  | _ :: rest :: _ => (rest.splitOn stop).head?
  | _ => none

/-- The element code, shape and elements of an array file. -/
def npyArray (bytes : List UInt8) : Result (String × List Nat × List Data) := do
  let bs := bytes.toArray
  if (bs.extract 1 6).toList != "NUMPY".toList.map (·.toNat.toUInt8) then
    throw (.value "Cannot load file containing pickled data when allow_pickle=False")
  let (start, len) := if bs.getD 6 1 == 1 then (10, field bs 8 2) else (12, field bs 8 4)
  let header := String.ofList ((bs.extract start (start + len)).toList.map fun b => Char.ofNat b.toNat)
  let code := ((headerEntry header "'descr': '" "'").getD "").dropWhile fun c => c == '<' || c == '|' || c == '='
  let shape := ((headerEntry header "'shape': (" ")").getD "").splitOn "," |>.filterMap fun t => t.trimAscii.toNat?
  pure (code.toString, shape, elements code.toString (bs.extract (start + len) bs.size).toList)

end Conversa.Pickle

namespace Conversa

/-- The object a pickle holds, as data. -/
def unpickle (bytes : List UInt8) : Result Data := do
  let bs := bytes.toArray
  let (m, it) ← Pickle.run bs (bs.size + 1) {} 0
  pure (Pickle.toData m 64 it)

/-- A list of doubles pickled at protocol 4: the protocol mark, then, in one frame when they
take four bytes or more, an empty list remembered in the memo, its items as `BINFLOAT`s and the
stop code. -/
def pickleFloats (xs : List Float) : List UInt8 :=
  Pickle.framed ([0x5d, 0x94] ++ Pickle.appendBatches (xs.map fun x => 0x47 :: Pickle.doubleBytes x))

/-- A mapping from whole numbers to lists of them pickled at protocol 4: an empty mapping and
each empty list remembered in the memo, a single entry set by `SETITEM` and several in marked
batches closed by `SETITEMS`, a last empty batch after a full one. -/
def pickleIdLists (entries : List (Int × List Int)) : List UInt8 :=
  let items := entries.map fun (k, v) =>
    Pickle.intCode k ++ [0x5d, 0x94] ++ Pickle.appendBatches (v.map Pickle.intCode)
  let setting := match items with
    | [] => []
    | [x] => x ++ [0x73]
    | xs => Pickle.markedBatches 0x75 xs ++ (if xs.length % 1000 == 0 then [0x28, 0x75] else [])
  Pickle.framed ([0x7d, 0x94] ++ setting)

end Conversa
