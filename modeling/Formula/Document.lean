import Formula.Calendar
import Formula.Limits
import Formula.Text.Quoted
import Formula.Number.Shortest

/-!
# Documents

A configuration is given as a document: scalars, lists, and mappings whose keys
are scalars. Keys need not be texts, and the entries of a mapping keep their order.
Sets of scalars and pairs are rarer. No text spells limits, but a document that is made
by a program may hold some, ready for use.

A document is finite. Where a list or a mapping contains itself, a mark stands in its
place. It stands no earlier than a message about the place would show one: a mapping
that contains itself is a mapping wherever a field is looked for.

Two scalars are the same key when they are equal as values, and a truth value is
equal to the number 1 or 0, of either kind. So a mapping never has both `1` and
`true`. A double that is not a number differs from itself as a value, but is one key
all the same: otherwise its entry could never be replaced.
-/

namespace Formula

/-- A value without parts. -/
inductive Scalar where
  | null
  | bool (b : Bool)
  | int (n : Int)
  | float (x : Float)
  | text (t : Text)
  /-- Code points that are no text, for some are half of a surrogate pair. -/
  | codes (ns : List Nat)
  | octets (os : List UInt8)
  | date (d : Date)
  | moment (m : Moment)
  deriving Inhabited

/-- A value made of scalars. -/
inductive Document where
  | scalar (s : Scalar)
  | list (items : List Document)
  | mapping (entries : List (Scalar × Document))
  | set (members : List Scalar)
  | pair (first second : Document)
  /-- A list, or else a mapping, that stands around this place. -/
  | surrounding (isList : Bool)
  /-- Limits, ready for use. -/
  | limits (limits : Limits)
  deriving Inhabited

namespace Scalar

/-- The finite number that a scalar is equal to, as an integer over the units of a
double. -/
def units? : Scalar → Option Int
  | bool b => some (if b then Number.unitsPerOne else 0)
  | int n => some (n * Number.unitsPerOne)
  | float x => if x.isFinite then some (Number.signedUnits x) else none
  | _ => none

/-- Whether two scalars are one key. -/
def same : Scalar → Scalar → Bool
  | null, null => true
  | text s, text t => s == t
  | codes a, codes b => a == b
  | octets a, octets b => a == b
  | date a, date b => a == b
  | moment a, moment b => a.same b
  | float x, float y => x == y || x.isNaN && y.isNaN
  | x, y =>
    match x.units?, y.units? with
    | some m, some n => m == n
    | _, _ => false

/-- The text of a scalar in a message. -/
def render : Scalar → Text
  | null => "None".toList
  | bool true => "True".toList
  | bool false => "False".toList
  | int n => (toString n).toList
  | float x => Number.shortestText x
  | text t => Text.quoted t
  | codes ns => Text.quotedCodes ns
  | octets os => Text.quotedOctets os
  | date d => d.render.toList
  | moment m => m.render.toList

/-- Whether a scalar has a text in a message: an integer of more than 4300 digits has
none. -/
def isShowable : Scalar → Bool
  | int n => (Nat.repr n.natAbs).length ≤ 4300
  | _ => true

end Scalar

namespace Document

/-! ## Entries -/

/-- Gives a key a value: in the place of the entry that has the key, or at the end. -/
def insert (entries : List (Scalar × Document)) (key : Scalar) (value : Document) :
    List (Scalar × Document) :=
  if entries.any (·.1.same key) then
    entries.map fun entry => if entry.1.same key then (entry.1, value) else entry
  else entries ++ [(key, value)]

/-- The value of a name among the entries of a mapping. -/
def field? (entries : List (Scalar × Document)) (name : String) : Option Document :=
  (entries.find? (·.1.same (.text name.toList))).map (·.2)

/-! ## The text of a document in a message -/

/-- Puts texts between brackets, with a comma between any two. -/
def bracketed (left right : Char) (parts : List Text) : Text :=
  left :: Text.commaSeparated parts ++ [right]

/-- Puts texts between braces, with a comma between any two. -/
def braced (parts : List Text) : Text :=
  bracketed (Char.ofNat 0x7B) (Char.ofNat 0x7D) parts

/-- The text of limits in a message. -/
def renderLimits (limits : Limits) : Text :=
  "ParserLimits".toList ++ bracketed '(' ')' (Bound.all.map fun bound =>
    bound.name.toList ++ '=' :: (Scalar.int (limits.cap bound).val).render)

mutual

/-- The text of a document in a message. -/
def render : Document → Text
  | scalar s => s.render
  | list items => bracketed '[' ']' (renderItems items)
  | mapping entries => braced (renderEntries entries)
  | set members => if members.isEmpty then "set()".toList else braced (members.map Scalar.render)
  | pair first second => bracketed '(' ')' [render first, render second]
  | surrounding isList => if isList then "[...]".toList else braced ["...".toList]
  | limits caps => renderLimits caps

/-- The texts of the items of a list. -/
def renderItems : List Document → List Text
  | [] => []
  | item :: items => render item :: renderItems items

/-- The texts of the entries of a mapping. -/
def renderEntries : List (Scalar × Document) → List Text
  | [] => []
  | (key, value) :: entries =>
    (key.render ++ ':' :: ' ' :: render value) :: renderEntries entries

end

mutual

/-- Whether all parts of a document have a text in a message. -/
def isShowable : Document → Bool
  | scalar s => s.isShowable
  | list items => areShowable items
  | mapping entries => areEntriesShowable entries
  | set members => members.all Scalar.isShowable
  | pair first second => isShowable first && isShowable second
  | surrounding _ => true
  | limits caps => Bound.all.all fun bound => (Scalar.int (caps.cap bound).val).isShowable

/-- Whether all items of a list have a text in a message. -/
def areShowable : List Document → Bool
  | [] => true
  | item :: items => isShowable item && areShowable items

/-- Whether all entries of a mapping have a text in a message. -/
def areEntriesShowable : List (Scalar × Document) → Bool
  | [] => true
  | (key, value) :: entries => key.isShowable && isShowable value && areEntriesShowable entries

end

end Document

end Formula
