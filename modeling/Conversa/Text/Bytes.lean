import Conversa.Text.Space

/-!
# Byte texts

Files arrive as bytes.  `hexBytes?` reads bytes written as pairs of hexadecimal digits and
`hexText` writes them so;
`decodeLossy` reads UTF-8 and drops every byte that does not begin a well-formed sequence, the
way a decoder told to ignore errors does; `contentLineStarts` gives the offsets of the lines
that hold more than white space.
-/

namespace Conversa.Text

def hexValue (c : Char) : Option Nat :=
  if '0' ≤ c ∧ c ≤ '9' then some (c.toNat - '0'.toNat)
  else if 'a' ≤ c ∧ c ≤ 'f' then some (c.toNat - 'a'.toNat + 10)
  else if 'A' ≤ c ∧ c ≤ 'F' then some (c.toNat - 'A'.toNat + 10)
  else none

/-- Bytes written as pairs of hexadecimal digits. -/
def hexBytes? : List Char → Option (List UInt8)
  | [] => some []
  | a :: b :: r => do
    let hi ← hexValue a
    let lo ← hexValue b
    pure ((16 * hi + lo).toUInt8 :: (← hexBytes? r))
  | [_] => none

/-- Bytes written as pairs of lower-case hexadecimal digits; `hexBytes?` reads them back. -/
def hexText (bs : List UInt8) : String :=
  let digits := "0123456789abcdef".toList
  String.join (bs.map fun b => String.ofList [digits.getD (b.toNat / 16) '0', digits.getD (b.toNat % 16) '0'])

def isContinuation (b : UInt8) : Bool := 0x80 ≤ b && b ≤ 0xBF

/-- The range the second byte of a sequence must lie in, by its first byte. -/
def secondRange (b : UInt8) : UInt8 × UInt8 :=
  if b == 0xE0 then (0xA0, 0xBF)
  else if b == 0xED then (0x80, 0x9F)
  else if b == 0xF0 then (0x90, 0xBF)
  else if b == 0xF4 then (0x80, 0x8F)
  else (0x80, 0xBF)

def charOfBits (n : Nat) : Char := Char.ofNat n

/-- UTF-8 bytes read as characters, every byte that does not begin a well-formed sequence
dropped. -/
def decodeLossy : List UInt8 → List Char
  | [] => []
  | b :: r =>
    if b < 0x80 then charOfBits b.toNat :: decodeLossy r
    else
      let (lo, hi) := secondRange b
      match hr : r with
      | b1 :: r1 =>
        if !(lo ≤ b1 && b1 ≤ hi) then decodeLossy r
        else if 0xC2 ≤ b && b ≤ 0xDF then
          charOfBits ((b.toNat % 32) * 64 + b1.toNat % 64) :: decodeLossy r1
        else match hr1 : r1 with
          | b2 :: r2 =>
            if !isContinuation b2 then decodeLossy r
            else if 0xE0 ≤ b && b ≤ 0xEF then
              charOfBits ((b.toNat % 16) * 4096 + (b1.toNat % 64) * 64 + b2.toNat % 64) :: decodeLossy r2
            else match hr2 : r2 with
              | b3 :: r3 =>
                if 0xF0 ≤ b && b ≤ 0xF4 && isContinuation b3 then
                  charOfBits ((b.toNat % 8) * 262144 + (b1.toNat % 64) * 4096 + (b2.toNat % 64) * 64
                    + b3.toNat % 64) :: decodeLossy r3
                else decodeLossy r
              | [] => decodeLossy r
          | [] => decodeLossy r
      | [] => decodeLossy r
termination_by bs => bs.length
decreasing_by all_goals (simp_all; try omega)

def blankControls : List UInt8 → List UInt8
  | 0xC2 :: 0x99 :: r => 0x20 :: blankControls r
  | 0xC2 :: 0xA0 :: r => 0x20 :: blankControls r
  | b :: r => b :: blankControls r
  | [] => []

/-- The offsets at which lines ending in a line feed start, for the lines that hold more than
white space once the two-byte controls are blanked; an unterminated last line is not a line. -/
def contentLineStarts (bs : List UInt8) : List Nat :=
  let rec go (start : Nat) (line : List UInt8) : List UInt8 → List Nat
    | [] => []
    | 0x0A :: r =>
      let text := decodeLossy (blankControls line.reverse)
      let rest := go (start + line.length + 1) [] r
      if text.any (!isSpace ·) then start :: rest else rest
    | b :: r => go start (b :: line) r
  go 0 [] bs

end Conversa.Text
