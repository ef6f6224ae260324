import Formula.Limits
import Formula.Text.Lowercase

/-!
# Configurations

A configuration says whether case matters and which limits apply. It is shared by
everything that reads a source.
-/

namespace Formula

/-- How a source is read. -/
structure Config where
  /-- Whether sources and names are folded to lower case first. -/
  caseFold : Bool := true
  /-- The limits, if any are given. -/
  expressionLimits : Option Limits := none
  deriving DecidableEq

namespace Config

/-- The limits that apply. -/
def limits (config : Config) : Limits := config.expressionLimits.getD Limits.default

/-- A text as it is read: in lower case, unless case matters. -/
def fold (config : Config) (text : Text) : Text :=
  if config.caseFold then Text.lower text else text

end Config

end Formula
