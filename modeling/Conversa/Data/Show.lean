import Conversa.Data.Value
import Conversa.Numeric.Notation
import Conversa.Text.Unicode

/-!
# Values in messages

Messages show a value the way it would be typed: `None`, `True`, `3`, `0.5`, `'text'`,
`[1, 'a']`, `{'k': 2}`.  `Data.show` is that text; `Data.text` is the same except that a text
value stands for itself, unquoted, which is how a value reads when it is interpolated into a
message.
-/

namespace Conversa

mutual

def Data.show : Data → String
  | .null => "None"
  | .bool b => if b then "True" else "False"
  | .int n => toString n
  | .float x => Numeric.floatText x
  | .str s => Text.quote s
  | .list xs => "[" ++ Data.showItems xs ++ "]"
  | .dict kvs => "\x7b" ++ Data.showEntries kvs ++ "\x7d"

def Data.showItems : List Data → String
  | [] => ""
  | [x] => x.show
  | x :: xs => x.show ++ ", " ++ Data.showItems xs

/-- Entries `key: value` separated by commas. -/
def Data.showEntries : Entries → String
  | [] => ""
  | [(k, v)] => Text.quote k ++ ": " ++ v.show
  | (k, v) :: kvs => Text.quote k ++ ": " ++ v.show ++ ", " ++ Data.showEntries kvs

end

/-- A value as it reads inside a message: a text is itself, anything else as it is typed. -/
def Data.text : Data → String
  | .str s => s
  | d => d.show

end Conversa
