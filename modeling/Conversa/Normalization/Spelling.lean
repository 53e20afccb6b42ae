import Conversa.Normalization.Token

/-!
# Spellings of tokens

A verbalizer reads a group's entries in any order, so a token has one *spelling* for each order
of the entries of each group without the order mark: `key: "value" `, `preserve_order: true `,
` key { ` entries ` } `.  A token with an empty value has none.  The spellings are enumerated
with orders in lexicographic order of positions, the earlier part varying slowest; there are
`n!` orders of `n` entries, so `Spellings` holds their number and the spelling at each index.
-/

namespace Conversa.Normalization

def factorial : Nat → Nat
  | 0 => 1
  | n + 1 => (n + 1) * factorial n

def extractAt {α : Type} (xs : List α) (i : Nat) : Option (α × List α) :=
  xs[i]?.map fun x => (x, xs.eraseIdx i)

/-- The order of `n` elements at index `p` in lexicographic order of positions: the first
element is the one at `p / (n - 1)!`, and the rest are ordered by the remainder. -/
def nthOrder {α : Type} : Nat → List α → Nat → List α
  | 0, _, _ => []
  | n + 1, xs, p =>
    match extractAt xs (p / factorial n) with
    | some (x, rest) => x :: nthOrder n rest (p % factorial n)
    | none => xs

/-- A family of spellings: how many there are, and the spelling at each index below that. -/
structure Spellings where
  count : Nat
  spell : Nat → String

namespace Spellings

def fixed (s : String) : Spellings := ⟨1, fun _ => s⟩

/-- The spellings of parts written one after the other, the first part varying slowest. -/
def concat : List Spellings → Spellings
  | [] => ⟨1, fun _ => ""⟩
  | p :: ps =>
    let rest := concat ps
    ⟨p.count * rest.count, fun i => p.spell (i / rest.count) ++ rest.spell (i % rest.count)⟩

/-- The spellings of entries in every order (or only the given one when `keep`), the orders
varying slowest. -/
def arrange (keep : Bool) (parts : List Spellings) : Spellings :=
  let each := (concat parts).count
  let orders := if keep then 1 else factorial parts.length
  ⟨orders * each, fun i =>
    let order := if keep then parts else nthOrder parts.length parts (i / each)
    (concat order).spell (i % each)⟩

def firsts (s : Spellings) (n : Nat) : List String := (List.range (min n s.count)).map s.spell

end Spellings

mutual

/-- The spellings of the entry `key` with this value; an empty value has none. -/
def Field.spellings (key : String) : Field → Except ReadError Spellings
  | .text s => .ok (.fixed (key ++ ": \"" ++ s ++ "\" "))
  | .empty => .error .malformed
  | .mark => .ok (.fixed (key ++ ": true "))
  | .group es => do
    let s := Spellings.arrange (es.any (·.1 == orderKey)) (← Field.entrySpellings es)
    pure ⟨s.count, fun i => " " ++ key ++ " \x7b " ++ s.spell i ++ " \x7d "⟩

def Field.entrySpellings : List Token → Except ReadError (List Spellings)
  | [] => .ok []
  | (k, v) :: es => do pure ((← v.spellings k) :: (← Field.entrySpellings es))

end

def Token.spellings (ts : List Token) : Except ReadError Spellings := do
  pure (Spellings.concat (← ts.mapM fun (k, v) => v.spellings k))

end Conversa.Normalization
