import Formula.Calendar
import Formula.Text.Quoted

/-!
# Faults of YAML texts

Why a text gives no document. Most faults say that the text is not well formed. The
others are about the value of one scalar: its spelling does not fit its tag, or is
that of no value at all.
-/

namespace Formula.Yaml

/-- Why a scalar has no value. -/
inductive ValueFault where
  /-- A text that is no integer of its base, as it is shown in quotes. -/
  | notInteger (base : Nat) (shown : Text)
  /-- A decimal integer of more than 4300 digits. -/
  | tooManyDigits (count : Nat)
  /-- A text that is no double, as it is shown in quotes. -/
  | notFloat (shown : Text)
  /-- A double whose parts go beyond the greatest one. -/
  | tooLarge
  /-- A number without any character. -/
  | emptyNumber
  | notBoolean
  | notTimestamp
  | calendar (fault : CalendarFault)
  /-- An escape by a code beyond the last code point. -/
  | noCharacter (code : Nat)
  deriving DecidableEq

/-- The text of a fault, if it has one. No more than 200 characters are shown of a text
that is no integer. -/
def ValueFault.message? : ValueFault → Option String
  | notInteger base shown =>
    some s!"invalid literal for int() with base {base}: {String.ofList (shown.take 200)}"
  | tooManyDigits count =>
    some ("Exceeds the limit (4300 digits) for integer string conversion: " ++
      s!"value has {count} digits; use sys.set_int_max_str_digits() to increase the limit")
  | notFloat shown => some s!"could not convert string to float: {String.ofList shown}"
  | calendar fault => some fault.message
  | noCharacter code =>
    if code < 0x80000000 then some "chr() arg not in range(0x110000)" else none
  | _ => none

/-- Why a text is refused. -/
inductive Fault where
  /-- A control character, or another that no text may hold. -/
  | unprintable
  /-- A character with which no token begins, or that may not follow the one begun. -/
  | unexpectedCharacter
  /-- An entry, a key or a value where the line has begun otherwise. -/
  | misplaced
  /-- A line that had to be a key and is none. -/
  | missingColon
  /-- A quoted scalar that is not closed in its document. -/
  | openQuote
  | badEscape
  /-- A token that does not fit the ones before it. -/
  | unexpectedToken
  /-- A directive that contradicts another, or asks for another version. -/
  | badDirective
  /-- A handle of a tag that no directive declares. -/
  | unknownHandle
  /-- An alias without an anchor before it. -/
  | unknownAnchor
  /-- An anchor whose name is taken. -/
  | repeatedAnchor
  /-- A tag that says nothing about values. -/
  | unknownTag
  /-- A node of a kind that its tag does not allow. -/
  | wrongKind
  /-- A text that spells no octets. -/
  | badOctets
  /-- A key that is a list, a mapping or a set. -/
  | collectionKey
  /-- A merge key whose value is not made of mappings. -/
  | badMerge
  | value (fault : ValueFault)
  deriving DecidableEq

end Formula.Yaml
