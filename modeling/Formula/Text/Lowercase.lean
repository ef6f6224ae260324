import Formula.Text
import Formula.Text.Casing

/-!
# Lower-casing

Names and sources are folded to lower case before they are compared. Folding is
per character, with two exceptions.

* The capital I with a dot above becomes two code points, a small i and a
  combining dot, so folding can lengthen a text.
* A capital sigma becomes the final small sigma at the end of a word and the
  medial one elsewhere. It ends a word when the nearest character before it that
  is not case-ignorable is cased, and the nearest one after it is not.

Only the second exception looks at the neighbours of a character, so `lower`
walks the text with one bit of memory: whether the last character that counts was
cased.
-/

namespace Formula.Text

/-- The lower-case form of a character, apart from its neighbours. -/
def lowerChar (c : Char) : Text :=
  if c.toNat < 128 then [c.toLower]
  else if c.toNat = 0x130 then ['i', Char.ofNat 0x307]
  else
    match lowercaseRuns.find? (·.contains c.toNat) with
    | some run => [Char.ofNat (run.lower c.toNat)]
    | none => [c]

/-- Whether the first character that is not case-ignorable is cased. -/
def beginsCased (text : Text) : Bool :=
  match text.dropWhile isCaseIgnorable with
  | c :: _ => isCased c
  | [] => false

/-- Lower-cases a text that stands after other characters; `afterCased` says
whether the last of those that is not case-ignorable is cased. -/
def lowerAfter (afterCased : Bool) : Text → Text
  | [] => []
  | c :: rest =>
    let folded :=
      if c.toNat = 0x3A3 then
        [Char.ofNat (if afterCased && !beginsCased rest then 0x3C2 else 0x3C3)]
      else lowerChar c
    folded ++ lowerAfter (if isCaseIgnorable c then afterCased else isCased c) rest

/-- The lower-case form of a text. -/
def lower (text : Text) : Text := lowerAfter false text

end Formula.Text
