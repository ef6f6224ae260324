import Formula.Number.Decimal
import Formula.Text.Lowercase
import Formula.Yaml.Fault

/-!
# Numbers in YAML

Digits may have underscores among them, and a number may be in parts of base 60 with
colons between.

* An integer is decimal, or in base 2, 16 or 8 with the mark `0b`, `0x` or a leading
  zero.
* A double has a point, and then perhaps an exponent with a sign; or it is one of the
  words `.inf` and `.nan`.

These are the spellings by which a plain scalar is a number. A tag makes a number of
other spellings too: spaces around it, a second sign, a double without a point, digits
of other scripts. So the spelling is tested by one function and read by another, which
may find a fault.
-/

namespace Formula.Yaml

/-! ## Digits -/

/-- Takes a sign off. The first part says whether the number is negative. -/
def takeSign : Text → Bool × Text
  | '-' :: rest => (true, rest)
  | '+' :: rest => (false, rest)
  | text => (false, text)

/-- The value of a digit in bases up to 16. -/
def digitValue (c : Char) : Nat :=
  if c.isDigit then c.toNat - 48
  else if c.isUpper then c.toNat - 55
  else c.toNat - 87

/-- Whether a character is a digit of a base up to 16. -/
def isDigitOf (base : Nat) (c : Char) : Bool :=
  (c.isDigit || 'a' ≤ c && c ≤ 'f' || 'A' ≤ c && c ≤ 'F') && digitValue c < base

/-- Whether a character may be among the digits of a base. -/
def isDigitPart (base : Nat) (c : Char) : Bool := c == '_' || isDigitOf base c

/-- The number that digits of a base spell. -/
def valueIn (base : Nat) (digits : Text) : Nat :=
  digits.foldl (fun n c => base * n + digitValue c) 0

/-- Splits a text at its colons. -/
def splitColons : Text → List Text
  | [] => [[]]
  | ':' :: rest => [] :: splitColons rest
  | c :: rest =>
    match splitColons rest with
    | part :: parts => (c :: part) :: parts
    | [] => [[c]]

/-- A text without its underscores. -/
def withoutUnderscores (text : Text) : Text := text.filter (· ≠ '_')

/-- Whether a character is a space around a number. -/
def isPadding (c : Char) : Bool := c == ' ' || 9 ≤ c.toNat && c.toNat ≤ 13

/-- A text without the spaces around it. -/
def trimmed (text : Text) : Text :=
  ((text.dropWhile isPadding).reverse.dropWhile isPadding).reverse

/-- The zeros of the scripts beyond ASCII that have digits. The other nine stand behind
them. -/
def scriptZeros : List Nat :=
  [0x660, 0x6F0, 0x7C0, 0x966, 0x9E6, 0xA66, 0xAE6, 0xB66, 0xBE6, 0xC66, 0xCE6, 0xD66, 0xDE6,
    0xE50, 0xED0, 0xF20, 0x1040, 0x1090, 0x17E0, 0x1810, 0x1946, 0x19D0, 0x1A80, 0x1A90,
    0x1B50, 0x1BB0, 0x1C40, 0x1C50, 0xA620, 0xA8D0, 0xA900, 0xA9D0, 0xA9F0, 0xAA50, 0xABF0,
    0xFF10, 0x104A0, 0x10D30, 0x11066, 0x110F0, 0x11136, 0x111D0, 0x112F0, 0x11450, 0x114D0,
    0x11650, 0x116C0, 0x11730, 0x118E0, 0x11950, 0x11C50, 0x11D50, 0x11DA0, 0x16A60, 0x16AC0,
    0x16B50, 0x1D7CE, 0x1D7D8, 0x1D7E2, 0x1D7EC, 0x1D7F6, 0x1E140, 0x1E2F0, 0x1E950, 0x1FBF0]

/-- Whether a character beyond ASCII is a space. -/
def isWideSpace (c : Char) : Bool :=
  let n := c.toNat
  n = 0x85 || n = 0xA0 || n = 0x1680 || 0x2000 ≤ n && n ≤ 0x200A || n = 0x2028 || n = 0x2029
    || n = 0x202F || n = 0x205F || n = 0x3000

/-- The character of ASCII that a character is read as in a number: a digit as the digit,
a space as a space, and what is neither as what is in no number. -/
def plainChar (c : Char) : Char :=
  let n := c.toNat
  if n < 127 then c
  else if isWideSpace c then ' '
  else
    match scriptZeros.find? fun first => first ≤ n && n < first + 10 with
    | some first => Char.ofNat (48 + (n - first))
    | none => '?'

/-! ## The spellings of plain numbers -/

/-- Whether a text is one or two decimal digits below 60. -/
def isSixtieth : Text → Bool
  | [c] => c.isDigit
  | [c, d] => '0' ≤ c && c ≤ '5' && d.isDigit
  | _ => false

/-- Whether a text is a decimal digit of at least `least`, with digits and
underscores behind it. -/
def isDigits (least : Char) : Text → Bool
  | [] => false
  | c :: rest => c.isDigit && least ≤ c && rest.all (isDigitPart 10)

/-- Whether a text is an integer without a sign. -/
def isNatural : Text → Bool
  | ['0'] => true
  | '0' :: 'b' :: digits => !digits.isEmpty && digits.all (isDigitPart 2)
  | '0' :: 'x' :: digits => !digits.isEmpty && digits.all (isDigitPart 16)
  | '0' :: digits => digits.all (isDigitPart 8)
  | text =>
    match splitColons text with
    | first :: parts => isDigits '1' first && parts.all isSixtieth
    | [] => false

/-- Whether a text is an integer. -/
def isInteger (text : Text) : Bool := isNatural (takeSign text).2

/-- Whether a text is nothing, or an exponent: `e` or `E`, a sign and digits. -/
def isExponent : Text → Bool
  | [] => true
  | mark :: sign :: digits =>
    (mark == 'e' || mark == 'E') && (sign == '+' || sign == '-')
      && !digits.isEmpty && digits.all Char.isDigit
  | _ => false

/-- Whether a text is a number with a point. Digits may be missing before it. -/
def isPointed (text : Text) : Bool :=
  let whole := text.takeWhile (isDigitPart 10)
  match text.drop whole.length with
  | '.' :: rest =>
    let places := rest.takeWhile (isDigitPart 10)
    (isDigits '0' whole || whole.isEmpty && isDigits '0' places)
      && isExponent (rest.drop places.length)
  | _ => false

/-- Whether a text is in parts of base 60, the last of which has a point. -/
def isSexagesimal (text : Text) : Bool :=
  match splitColons text with
  | first :: second :: parts =>
    let later := second :: parts
    let last := later.getLast?.getD []
    let whole := last.takeWhile (· ≠ '.')
    match last.drop whole.length with
    | _ :: places =>
      isDigits '0' first && (later.dropLast ++ [whole]).all isSixtieth
        && places.all (isDigitPart 10)
    | [] => false
  | _ => false

/-- Whether a text is a double. One that begins with a point has no sign, unless it is
infinite. -/
def isFloat (text : Text) : Bool :=
  let body := (takeSign text).2
  if ["inf", "Inf", "INF"].any fun word => body == '.' :: word.toList then true
  else if ["nan", "NaN", "NAN"].any fun word => text == '.' :: word.toList then true
  else if body.head? == some '.' then body.length == text.length && isPointed body
  else isPointed body || isSexagesimal body

/-! ## Integers -/

/-- The letter behind a zero that marks a base. -/
def baseMark? (base : Nat) : Option Char :=
  if base = 2 then some 'b' else if base = 8 then some 'o'
  else if base = 16 then some 'x' else none

/-- Takes the mark of a base off, if there is one. -/
def dropMark (base : Nat) : Text → Text
  | '0' :: c :: rest => if baseMark? base = some c.toLower then rest else '0' :: c :: rest
  | text => text

/-- The integer that a text spells in a base. -/
def integerIn (base : Nat) (text : Text) : Except ValueFault Int :=
  let (negative, body) := takeSign (trimmed (text.map plainChar))
  let body := dropMark base body
  let count := (body.takeWhile (isDigitOf base)).length
  if base = 10 ∧ 4300 < count then .error (.tooManyDigits count)
  else if count = 0 ∨ count < body.length then .error (.notInteger base (Text.quoted text))
  else
    let value : Int := valueIn base body
    .ok (if negative then -value else value)

/-- The integer that a text without a sign spells. -/
def magnitude : Text → Except ValueFault Int
  | [] => .error .emptyNumber
  | '0' :: 'b' :: digits => integerIn 2 digits
  | '0' :: 'x' :: digits => integerIn 16 digits
  | '0' :: rest => integerIn 8 ('0' :: rest)
  | text => do
    let parts ← (splitColons text).mapM (integerIn 10)
    return parts.foldl (fun n part => 60 * n + part) 0

/-- The integer that a text spells. -/
def readInteger (text : Text) : Except ValueFault Int :=
  let (negative, body) := takeSign (withoutUnderscores text)
  (magnitude body).map fun value => if negative then -value else value

/-! ## Doubles -/

/-- The double nearest to a natural number. -/
def wholeValue (n : Nat) : Float := (Number.Decimal.mk n 0).toFloat

/-- The exponent that a text is, `e` before it, or zero for no text. -/
def exponent? : Text → Option Int
  | [] => some 0
  | mark :: rest =>
    let (negative, digits) := takeSign rest
    if mark ≠ 'e' ∨ digits.isEmpty ∨ !digits.all Char.isDigit then none
    else some (if negative then -(valueIn 10 digits : Int) else valueIn 10 digits)

/-- The double that a text of digits with or without a point spells. -/
def decimal? (text : Text) : Option Float :=
  let whole := text.takeWhile Char.isDigit
  let rest := text.drop whole.length
  let places := if rest.head? = some '.' then rest.tail.takeWhile Char.isDigit else []
  let behind := if rest.head? = some '.' then rest.tail.drop places.length else rest
  if whole.isEmpty ∧ places.isEmpty then none
  else
    (exponent? behind).map fun exponent =>
      (Number.Decimal.mk (valueIn 10 (whole ++ places)) (exponent - places.length)).toFloat

/-- The double that a text in lower case spells, spaces around it passed over. -/
def floatIn (text : Text) : Except ValueFault Float :=
  let (negative, body) := takeSign (trimmed (text.map plainChar))
  let value :=
    if body = "inf".toList ∨ body = "infinity".toList then some (1.0 / 0.0)
    else if body = "nan".toList then some (0.0 / 0.0)
    else decimal? body
  match value with
  | none => .error (.notFloat (Text.quoted text))
  | some x => .ok (if negative then -x else x)

/-- The sum of parts of base 60, the last of which is added first. No power of 60 may
go beyond the greatest double. -/
def sixtieths (parts : List Float) : Except ValueFault Float :=
  let rec addFrom (sum : Float) (base : Nat) : List Float → Except ValueFault Float
    | [] => .ok sum
    | part :: later =>
      if (wholeValue base).isInf then .error .tooLarge
      else addFrom (sum + part * wholeValue base) (60 * base) later
  addFrom 0.0 1 parts.reverse

/-- The double that a text without a sign spells. -/
def floatMagnitude (text : Text) : Except ValueFault Float :=
  if text = ".inf".toList then .ok (1.0 / 0.0)
  else if text = ".nan".toList then .ok (0.0 / 0.0)
  else if text.contains ':' then do sixtieths (← (splitColons text).mapM floatIn)
  else floatIn text

/-- The double that a text spells, in either case. -/
def readFloat (text : Text) : Except ValueFault Float :=
  let spelled := Text.lower (withoutUnderscores text)
  if spelled.isEmpty then .error .emptyNumber
  else
    let (negative, body) := takeSign spelled
    (floatMagnitude body).map fun value => if negative then -value else value

end Formula.Yaml
