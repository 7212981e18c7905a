import ValidatorGen.Yaml.Cursor

/-!
# Gaps between the words of a scalar

A scalar may be continued on the next line. A single line break then stands for a space, and of
several the first is dropped; the separators U+2028 and U+2029 are always kept. Blanks around a line
break mean nothing.

## Main definitions

* `Gap` — what stands between two words
* `Gap.text` — what the gap means
-/

namespace ValidatorGen.Yaml

/-- What stands between two words of a scalar. -/
inductive Gap where
  /-- Blanks on one line; there may be none. -/
  | within (blanks : List Char)
  /-- A line break, if it means anything, and the line breaks of the empty lines after it. -/
  | across (first : Option Char) (later : List Char)
deriving DecidableEq

namespace Gap

/-- The gap between two characters of a word. -/
def empty : Gap := .within []

/-- Whether the gap holds a line break. -/
def crosses : Gap → Bool
  | .within _ => false
  | .across _ _ => true

/-- The gap with one more blank. -/
def blank (c : Char) : Gap → Gap
  | .within blanks => .within (blanks ++ [c])
  | .across first later => .across first later

/-- The gap with one more line break. -/
def lineBreak (c : Char) : Gap → Gap
  | .within _ => .across (some c) []
  | .across first later => .across first (later ++ [c])

/-- What the gap means. -/
def text : Gap → List Char
  | .within blanks => blanks
  | .across first later =>
    if first = some '\n' then if later.isEmpty then [' '] else later
    else first.toList ++ later

end Gap

end ValidatorGen.Yaml
