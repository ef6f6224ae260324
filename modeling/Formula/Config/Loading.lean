import Formula.Config.Validation

/-!
# Loading configurations

A configuration is loaded from a text that spells a document. What reads the document is
a parameter, as the library of records is. The absent value gives the default
configuration, and what is no mapping gives none.
-/

namespace Formula

/-- Why a text gives no configuration. -/
inductive LoadFault (ε : Type) where
  /-- The text is no document. -/
  | unreadable (fault : ε)
  | notMapping
  /-- The document is no configuration. -/
  | config (fault : ConfigFault)

/-- The configuration that a text gives. -/
def Config.load {ε : Type} (read : Text → Except ε Document) (library : RecordLibrary)
    (text : Text) : Except (LoadFault ε) Config := do
  match ← (read text).mapError LoadFault.unreadable with
  | .scalar .null => (validate library []).mapError .config
  | .mapping entries => (validate library entries).mapError .config
  | _ => .error .notMapping

end Formula
