import Formula.Text
import Formula.Text.Printable

/-!
# Quoted text

Messages show a text between quotes, with everything that is not visible written
as an escape. The quotes are single, or double when the text holds a single quote
and no double one. A backslash, the quote in use, tab, line feed and carriage
return have short escapes; any other character that is not printable is written by
its code point in two, four or eight hexadecimal digits, whichever is the least
that holds it.

Two things that are no texts are shown much like one: code points some of which are no
characters, being half of a surrogate pair, and octets.
-/

namespace Formula.Text

/-- The single quote. -/
def singleQuote : Char := Char.ofNat 0x27

/-- The double quote. -/
def doubleQuote : Char := Char.ofNat 0x22

/-- The digits of `n` in base 16, at least `width` of them. -/
def hexDigits (width n : Nat) : Text :=
  let digits := Nat.toDigits 16 n
  List.replicate (width - digits.length) '0' ++ digits

/-- The escape of a character that is not printable. -/
def escapeByCode (c : Char) : Text :=
  if c.toNat < 0x100 then '\\' :: 'x' :: hexDigits 2 c.toNat
  else if c.toNat < 0x10000 then '\\' :: 'u' :: hexDigits 4 c.toNat
  else '\\' :: 'U' :: hexDigits 8 c.toNat

/-- One character of a text that stands between two `quote`s. -/
def escape (quote c : Char) : Text :=
  if c = '\\' ∨ c = quote then ['\\', c]
  else if c = '\t' then ['\\', 't']
  else if c = '\n' then ['\\', 'n']
  else if c = '\r' then ['\\', 'r']
  else if isPrintable c then [c]
  else escapeByCode c

/-- The quote that a text is put between. -/
def quoteFor (text : Text) : Char :=
  if text.contains singleQuote && !text.contains doubleQuote then doubleQuote else singleQuote

/-- A text between quotes. -/
def quoted (text : Text) : Text :=
  let quote := quoteFor text
  quote :: text.flatMap (escape quote) ++ [quote]

/-! ## What is shown like a text -/

/-- The characters among some code points. -/
def charactersOf (codes : List Nat) : Text :=
  codes.filterMap fun n => if n.isValidChar then some (Char.ofNat n) else none

/-- Code points between quotes. One that is no character is written by its number. -/
def quotedCodes (codes : List Nat) : Text :=
  let quote := quoteFor (charactersOf codes)
  let shown (n : Nat) : Text :=
    if n.isValidChar then escape quote (Char.ofNat n) else '\\' :: 'u' :: hexDigits 4 n
  quote :: codes.flatMap shown ++ [quote]

/-- Code points as a text, with three marks of replacement for one that is no character,
one for each octet that it would take. -/
def readable (codes : List Nat) : Text :=
  codes.flatMap fun n =>
    if n.isValidChar then [Char.ofNat n] else List.replicate 3 (Char.ofNat 0xFFFD)

/-- An octet between two `quote`s: a character of ASCII, or its number. -/
def escapeOctet (quote : Char) (octet : UInt8) : Text :=
  if octet < 0x7F then escape quote (Char.ofNat octet.toNat)
  else '\\' :: 'x' :: hexDigits 2 octet.toNat

/-- Octets between quotes, with a letter before them that tells them from a text. -/
def quotedOctets (octets : List UInt8) : Text :=
  let quote := quoteFor (octets.map fun octet => Char.ofNat octet.toNat)
  'b' :: quote :: octets.flatMap (escapeOctet quote) ++ [quote]

end Formula.Text
