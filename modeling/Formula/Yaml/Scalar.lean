import Formula.Text.Base64
import Formula.Yaml.Numeral
import Formula.Yaml.Tag
import Formula.Yaml.Timestamp

/-!
# The values of scalars

A scalar between quotes is a text. A plain one is a text too, unless its spelling
makes it something else:

* nothing, a tilde and `null` stand for no value;
* `yes`, `no`, `on`, `off`, `true` and `false` for a truth value, in lower or upper case
  or with a capital;
* numbers and timestamps for themselves;
* `<<` is the key of a merge, and `=` that of the main value of a mapping.

A tag settles the kind of value, whatever the spelling, and then the spelling has to
fit.
-/

namespace Formula.Yaml

/-! ## The kind of a plain scalar -/

/-- A word in lower case, with a capital, and in upper case. -/
def spellings (word : String) : List Text :=
  let lower := word.toList
  [lower, lower.take 1 |>.map Char.toUpper |> (· ++ lower.drop 1), lower.map Char.toUpper]

/-- The spellings of the absent value. -/
def nullWords : List Text := [] :: ['~'] :: spellings "null"

/-- The words for truth values. -/
def booleanWords : List (String × Bool) :=
  [("yes", true), ("no", false), ("true", true), ("false", false), ("on", true), ("off", false)]

/-- A text without a line feed at its end. -/
def withoutFinalBreak (text : Text) : Text :=
  if text.getLast? = some '\n' then text.dropLast else text

/-- The kind of a plain scalar. -/
def Tag.ofPlain (text : Text) : Tag :=
  let line := withoutFinalBreak text
  if booleanWords.any fun (word, _) => (spellings word).contains line then .bool
  else if isFloat line then .float
  else if isInteger line then .int
  else if line = ['<', '<'] then .merge
  else if text.isEmpty || !line.isEmpty && nullWords.contains line then .null
  else if Timestamp.isPlain line then .timestamp
  else if line = ['='] then .value
  else if line = ['!'] ∨ line = ['&'] ∨ line = ['*'] then .unknown
  else .text

/-! ## Values -/

/-- The truth value that a word in any case stands for. -/
def readBoolean (text : Text) : Except ValueFault Bool :=
  match (booleanWords.map fun (word, b) => (word.toList, b)).lookup (Text.lower text) with
  | some b => .ok b
  | none => .error .notBoolean

/-- The date or moment of a timestamp. -/
def readTimestamp (text : Text) : Except ValueFault Scalar :=
  match Timestamp.ofText? (withoutFinalBreak text) with
  | some stamp => stamp.toScalar.mapError .calendar
  | none => .error .notTimestamp

/-- The octets that a text in base 64 spells. -/
def readOctets (text : Text) : Except Fault Scalar :=
  if text.all (·.toNat < 0x80) then
    match Text.Base64.decode? text with
    | some octets => .ok (.octets octets)
    | none => .error .badOctets
  else .error .badOctets

/-- Whether a kind of value is made of other values. -/
def Tag.isCollection : Tag → Bool
  | sequence | mapping | set | orderedMapping | pairs => true
  | _ => false

/-- The scalar of a kind that a text spells. -/
def Tag.scalar (tag : Tag) (spelled : Text) : Except Fault Scalar :=
  match tag with
  | .null => .ok .null
  | .bool => (readBoolean spelled).map .bool |>.mapError .value
  | .int => (readInteger spelled).map .int |>.mapError .value
  | .float => (readFloat spelled).map .float |>.mapError .value
  | .timestamp => (readTimestamp spelled).mapError .value
  | .octets => readOctets spelled
  | .text => .ok (.text spelled)
  | _ => .error .unknownTag

/-- The scalar of a kind that code points spell some of which are no characters. -/
def Tag.scalarOfCodes (tag : Tag) (ns : List Nat) : Except Fault Scalar :=
  match tag with
  | .text => .ok (.codes ns)
  | .int => .error (.value (.notInteger 10 (Text.quotedCodes ns)))
  | .float => .error (.value (.notFloat (Text.quotedCodes ns)))
  | other => other.scalar (Text.readable ns)

end Formula.Yaml
