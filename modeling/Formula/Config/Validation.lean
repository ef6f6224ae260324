import Formula.Config
import Formula.Limits.Validation

/-!
# Configurations from a mapping

A configuration is given as a mapping with two fields, each under one of two
spellings: `caseFold` or `case_fold`, and `expressionLimits` or
`expression_limits`. Where both spellings of a field are present the first counts.

What is declared here are the fields, and how the value of the limits is read before
all else: it may be limits already, or the absent value, or a mapping from names of
bounds to caps. One fault of such a mapping is not like the others: an unknown limit
whose key is not a text leaves no name to report.

The mapping itself is validated by a library of records. It looks for the fields, reads
truth values by rules of its own, refuses keys that no field has, and reports all issues
together. It is a parameter: a `RecordLibrary`.
-/

namespace Formula

/-! ## Limits -/

/-- Why a document gives no limits. -/
inductive LimitsFault where
  | notMapping
  | unknown (names : List Text)
  | cap (fault : CapFault)
  /-- An unknown limit has a key that is not a text. -/
  | unnamed

/-- What a reading raises: an error of the value, which has a text, or another one. -/
inductive Raised where
  | valueError (message : String)
  | typeError

/-- What a fault raises. Names that are not all texts cannot be put in a message. -/
def LimitsFault.raised : LimitsFault → Raised
  | notMapping => .valueError "expressionLimits must be a mapping"
  | unknown names => .valueError
    s!"Unknown expression limits: {String.ofList (Text.commaSeparated names)}"
  | cap fault => .valueError fault.message
  | unnamed => .typeError

/-- Whether a key is the name of a bound. -/
def isBoundName (key : Scalar) : Bool :=
  Bound.all.any fun bound => key.same (.text bound.name.toList)

/-- The texts among some keys; `none` if one is no text. -/
def keyTexts? : List Scalar → Option (List Text)
  | [] => some []
  | .text t :: keys => (keyTexts? keys).map (t :: ·)
  | .codes ns :: keys => (keyTexts? keys).map (Text.readable ns :: ·)
  | _ :: _ => none

/-- The limits that a document gives, if it gives any. -/
def readLimits : Document → Except LimitsFault (Option Limits)
  | .scalar .null => .ok none
  | .limits limits => .ok (some limits)
  | .mapping entries =>
    match keyTexts? ((entries.map (·.1)).filter (!isBoundName ·)) with
    | none => .error .unnamed
    | some [] => ((Limits.ofEntries entries).map some).mapError .cap
    | some names => .error (.unknown (names.mergeSort Text.precedes))
  | _ => .error .notMapping

/-! ## Records -/

/-- A field of a record: its two spellings, and its value where it is not given. -/
structure Field (α : Type) where
  name : String
  otherName : String
  default : α

/-- The spelling of a field that counts, and the value under it. -/
def Field.find? {α : Type} (field : Field α) (entries : List (Scalar × Document)) :
    Option (String × Document) :=
  match Document.field? entries field.name with
  | some value => some (field.name, value)
  | none => (Document.field? entries field.otherName).map fun value => (field.otherName, value)

/-- What is declared of a record: its fields, and how the value of the second is read
before the library looks at it. -/
structure Declaration where
  caseFold : Field Bool
  expressionLimits : Field (Option Limits)
  readLimits : Document → Except Raised (Option Limits)

/-- Where in a document an issue is: under a text, or under a number. -/
inductive Location where
  | name (name : Text)
  | index (n : Int)

/-- What is reported: where it is, its kind in one word, and its text. An issue of the
document as a whole is nowhere. -/
structure Issue where
  location : Option Location
  code : String
  message : String

/-- Why a mapping gives no configuration. -/
inductive ConfigFault where
  /-- A reading raised what is not reported. -/
  | typeError
  | invalid (issues : List Issue)

/-- A library that validates records, as far as configurations depend on it. -/
structure RecordLibrary where
  /-- The truth value that a document is read as, or the kind and the text of the issue. -/
  truth : Document → Except (String × String) Bool
  /-- The issue with a key that no field has. -/
  keyIssue : Scalar → Issue
  /-- The record that the entries of a mapping give. -/
  validate : Declaration → List (Scalar × Document) → Except ConfigFault Config

/-! ## Configurations -/

namespace Config

/-- The declaration of a configuration. -/
def declaration : Declaration where
  caseFold := ⟨"caseFold", "case_fold", true⟩
  expressionLimits := ⟨"expressionLimits", "expression_limits", none⟩
  readLimits := fun value => (Formula.readLimits value).mapError LimitsFault.raised

theorem declaration_readLimits (value : Document) :
    declaration.readLimits value = (Formula.readLimits value).mapError LimitsFault.raised := rfl

/-- The configuration that the entries of a mapping give. -/
def validate (library : RecordLibrary) (entries : List (Scalar × Document)) :
    Except ConfigFault Config :=
  library.validate declaration entries

end Config

end Formula
