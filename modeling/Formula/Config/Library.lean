import Formula.Config.Validation

/-!
# A library of records

A record is validated field by field and key by key, and all issues are reported
together. Of a field only the spelling that counts is looked at; the other one is a key
that no field has.

The rules for truth values and for keys can be any. The usual ones read truth values
generously: 0 and 1 of any kind, and the usual words in either case. A value that could
have been one but is not (another number, another word) is told apart from one that
could not.

What is said of configurations holds of any library that keeps its contract. The one with
the usual rules is the one that is run.
-/

namespace Formula

/-! ## Fields, keys and their issues -/

/-- What is read of a field: a value, which is the default where none is given, or what
is wrong with it and the spelling under which it is. -/
def Field.read {α ε : Type} (field : Field α) (reader : Document → Except ε α)
    (entries : List (Scalar × Document)) : Except (String × ε) α :=
  match field.find? entries with
  | some (spelling, value) => (reader value).mapError fun fault => (spelling, fault)
  | none => .ok field.default

/-- The keys among some entries that are none of some spellings. -/
def otherKeys (spellings : List String) (entries : List (Scalar × Document)) : List Scalar :=
  (entries.map (·.1)).filter fun key => !spellings.any fun name => key.same (.text name.toList)

namespace Declaration

/-- The spellings under which fields have their values. -/
def used (declared : Declaration) (entries : List (Scalar × Document)) : List String :=
  ((declared.caseFold.find? entries).map (·.1)).toList
    ++ ((declared.expressionLimits.find? entries).map (·.1)).toList

/-- The keys that no field has. -/
def unused (declared : Declaration) (entries : List (Scalar × Document)) : List Scalar :=
  otherKeys (declared.used entries) entries

end Declaration

/-- The issue with a truth value, if there is one. -/
def caseFoldIssues : Except (String × String × String) Bool → List Issue
  | .ok _ => []
  | .error (spelling, code, message) => [⟨some (.name spelling.toList), code, message⟩]

/-- The issue with limits, if there is one that is reported. -/
def limitsIssues : Except (String × Raised) (Option Limits) → List Issue
  | .ok _ | .error (_, .typeError) => []
  | .error (spelling, .valueError message) =>
    [⟨some (.name spelling.toList), "value_error", "Value error, " ++ message⟩]

namespace RecordLibrary

/-- All that is to be reported of the entries of a record. -/
def issues (library : RecordLibrary) (declared : Declaration)
    (entries : List (Scalar × Document)) : List Issue :=
  caseFoldIssues (declared.caseFold.read library.truth entries)
    ++ limitsIssues (declared.expressionLimits.read declared.readLimits entries)
    ++ (declared.unused entries).map library.keyIssue

/-- The library with some rules for truth values and for keys. -/
def ofRules (truth : Document → Except (String × String) Bool) (keyIssue : Scalar → Issue) :
    RecordLibrary where
  truth
  keyIssue
  validate := fun declared entries =>
    let caseFold := declared.caseFold.read truth entries
    let limits := declared.expressionLimits.read declared.readLimits entries
    let others := (declared.unused entries).map keyIssue
    match caseFold, limits, others with
    | _, .error (_, .typeError), _ => .error .typeError
    | .ok caseFold, .ok expressionLimits, [] => .ok { caseFold, expressionLimits }
    | _, _, _ => .error (.invalid (caseFoldIssues caseFold ++ limitsIssues limits ++ others))

end RecordLibrary

/-! ## The usual rules -/

/-- What is wrong with a key or a value by the usual rules. -/
inductive Problem where
  /-- The document itself is no mapping. -/
  | notRecord
  | keyNotText
  | unexpectedField
  /-- A value that cannot be a truth value. -/
  | notBoolean
  /-- A number or a text that is no truth value. -/
  | unreadableBoolean
  /-- A text that is none, where a truth value had to be. -/
  | notText

/-- The kind of a problem, in one word. -/
def Problem.code : Problem → String
  | notRecord => "model_type"
  | keyNotText => "invalid_key"
  | unexpectedField => "extra_forbidden"
  | notBoolean => "bool_type"
  | unreadableBoolean => "bool_parsing"
  | notText => "string_unicode"

/-- The text of a problem. -/
def Problem.message : Problem → String
  | notRecord => "Input should be a valid dictionary or instance of ParserConfig"
  | keyNotText => "Keys should be strings"
  | unexpectedField => "Extra inputs are not permitted"
  | notBoolean => "Input should be a valid boolean"
  | unreadableBoolean => "Input should be a valid boolean, unable to interpret input"
  | notText => "Input should be a valid string, unable to parse raw data as a unicode string"

/-- The words that are read as a truth value, in lower case. -/
def booleanWords : List (Text × Bool) :=
  [("true".toList, true), ("t".toList, true), ("yes".toList, true), ("y".toList, true),
    ("on".toList, true), ("1".toList, true), ("false".toList, false), ("f".toList, false),
    ("no".toList, false), ("n".toList, false), ("off".toList, false), ("0".toList, false)]

/-- The least integer of 64 bits. -/
def leastWord : Int := -0x8000000000000000

/-- Whether an integer has 64 bits at most. -/
def isWord (n : Int) : Bool := leastWord ≤ n && n < -leastWord

/-- The truth value that an integer is read as. -/
def readWord (n : Int) : Except Problem Bool :=
  if n = 0 then .ok false else if n = 1 then .ok true
  else if isWord n then .error .unreadableBoolean else .error .notBoolean

/-- The truth value that a text is read as. -/
def readWords (text : Text) : Except Problem Bool :=
  match booleanWords.lookup (text.map Char.toLower) with
  | some b => .ok b
  | none => .error .unreadableBoolean

/-- The truth value that a document is read as. Octets are read as a text of ASCII. -/
def readBoolean : Document → Except Problem Bool
  | .scalar (.bool b) => .ok b
  | .scalar (.int n) => readWord n
  | .scalar (.float x) =>
    match (Scalar.float x).units? with
    | some n =>
      if n % Number.unitsPerOne = 0 then
        let whole := n / Number.unitsPerOne
        if whole = leastWord then .error .notBoolean else readWord whole
      else .error .notBoolean
    | none => .error .notBoolean
  | .scalar (.text t) => readWords t
  | .scalar (.octets os) => readWords (os.map fun octet => Char.ofNat octet.toNat)
  | .scalar (.codes _) => .error .notText
  | _ => .error .notBoolean

/-- The name of a key that is too long to show. -/
def unshowableKey : Text := "<unprintable int object>".toList

/-- Where a key is in a document. A truth value counts as a number here. -/
def Location.ofKey : Scalar → Location
  | .text t => .name t
  | .codes ns => .name (Text.readable ns)
  | .bool b => .index (if b then 1 else 0)
  | .int n =>
    if isWord n then .index n
    else .name (if (Scalar.int n).isShowable then (Scalar.int n).render else unshowableKey)
  | other => .name other.render

/-- The issue with a problem somewhere. -/
def Problem.issue (problem : Problem) (location : Option Location) : Issue :=
  ⟨location, problem.code, problem.message⟩

/-- The issue with a key that no field has. -/
def Issue.ofKey (key : Scalar) : Issue :=
  match key with
  | .text _ => Problem.unexpectedField.issue (some (.ofKey key))
  | _ => Problem.keyNotText.issue (some (.ofKey key))

namespace RecordLibrary

/-- The library with the usual rules. -/
def usual : RecordLibrary :=
  ofRules (fun value => (readBoolean value).mapError fun problem =>
    (problem.code, problem.message)) Issue.ofKey

/-- The configuration that a document gives by the usual rules. -/
def configOf : Document → Except ConfigFault Config
  | .mapping entries => Config.validate usual entries
  | _ => .error (.invalid [Problem.notRecord.issue none])

end RecordLibrary

end Formula
