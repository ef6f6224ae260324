import Formula.Text

/-!
# Base 64

Octets are spelled by characters of six bits each, four of them for three octets.
Characters outside the alphabet are passed over. The padding sign closes the last
group once the group has four characters, padding included, and nothing behind that is
read; a padding sign elsewhere is passed over as well. A text whose last group is
neither whole nor closed spells nothing.
-/

namespace Formula.Text.Base64

/-- The six bits of a character. -/
def sextet? (c : Char) : Option Nat :=
  if c.isUpper then some (c.toNat - 65)
  else if c.isLower then some (c.toNat - 71)
  else if c.isDigit then some (c.toNat + 4)
  else if c = '+' then some 62
  else if c = '/' then some 63
  else none

/-- The octets that a whole group of sextets, or the begun one, spells. -/
def octets : List Nat → List UInt8
  | [a, b] => [UInt8.ofNat (a * 4 + b / 16)]
  | [a, b, c] => [UInt8.ofNat (a * 4 + b / 16), UInt8.ofNat (b % 16 * 16 + c / 4)]
  | [a, b, c, d] =>
    [UInt8.ofNat (a * 4 + b / 16), UInt8.ofNat (b % 16 * 16 + c / 4),
      UInt8.ofNat (c % 4 * 64 + d)]
  | _ => []

/-- Reads on with a group that is begun, and with the number of padding signs directly
before. -/
def decodeFrom (group : List Nat) (pads : Nat) : Text → Option (List UInt8)
  | [] => if group.isEmpty then some [] else none
  | c :: rest =>
    if c = '=' then
      if 2 ≤ group.length then
        if 4 ≤ group.length + pads + 1 then some (octets group)
        else decodeFrom group (pads + 1) rest
      else decodeFrom group pads rest
    else
      match sextet? c with
      | none => decodeFrom group pads rest
      | some sextet =>
        let group := group ++ [sextet]
        if group.length = 4 then (decodeFrom [] 0 rest).map (octets group ++ ·)
        else decodeFrom group 0 rest

/-- The octets that a text spells; `none` if its last group is not closed. -/
def decode? (text : Text) : Option (List UInt8) := decodeFrom [] 0 text

end Formula.Text.Base64
