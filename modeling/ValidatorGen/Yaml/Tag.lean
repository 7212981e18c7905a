import ValidatorGen.Text.Hexadecimal
import ValidatorGen.Yaml.Octets
import ValidatorGen.Yaml.Token

/-!
# Reading tags, anchors and directives

## Main definitions

* `Cursor.name` — the name of an anchor
* `Cursor.tag` — the tag that comes next
* `Cursor.directive` — the directive that comes next
-/

namespace ValidatorGen.Yaml

/-- Whether a character may follow the name of an anchor directly. -/
def endsName (c : Char) : Bool := c ∈ ['?', ':', ',', ']', '\x7d', '%', '@', '\x60']

/-- The name after an ampersand or an asterisk, and the cursor after it. -/
def Cursor.name (c : Cursor) (context : Context) : Except Error (List Char × Cursor) :=
  let after := c.advance.skip isNameChar
  let name := c.advance.word isNameChar
  if name.isEmpty ∨ !(blankNext after.rest || after.rest.head?.any endsName) then
    .error (.within .noName after.mark context c.mark)
  else .ok (name, after)

/-- What surrounds the text of a tag. -/
structure TagSetting where
  /-- Whether commas and brackets belong to the tag. -/
  verbatim : Bool
  /-- What is being read. -/
  context : Context
  /-- Where that begins. -/
  start : Mark

/-- Whether a character may stand in a tag. -/
def TagSetting.allows (s : TagSetting) (c : Char) : Bool :=
  isNameChar c ||
    c ∈ [';', '/', '?', ':', '@', '&', '=', '+', '$', '.', '%', '!', '~', '*', '\x27', '(', ')'] ||
    (s.verbatim && c ∈ [',', '[', ']'])

/-- The octet escaped at `m` by a percent sign and two digits, if `due` more octets of a character
are due, and how many are due after it. -/
def TagSetting.octet (s : TagSetting) (due : Nat) (text : List Char) (m : Mark) :
    Except Error (UInt8 × Nat) :=
  let fail (problem : Problem) : Except Error (UInt8 × Nat) :=
    .error (.within problem m s.context s.start)
  match text with
  | '%' :: high :: low :: _ =>
    match Text.hexNumber? [high, low] with
    | none => fail .noTagOctet
    | some n =>
      let octet := UInt8.ofNat n
      match due with
      | 0 => if width octet = 0 then fail .badTagLeading else .ok (octet, width octet - 1)
      | later + 1 => if isTrailing octet then .ok (octet, later) else fail .badTagTrailing
  | _ => fail .noTagOctet

/-- The octets of the text of a tag, after `skip` characters of an escape, when `due` more octets of
a character are due. -/
def tagTextFrom (s : TagSetting) :
    Nat → Nat → List Char → Mark → Except Error (List UInt8 × Cursor)
  | skip + 1, due, c :: rest, m => tagTextFrom s skip due rest (m.after c)
  | 0, 0, c :: rest, m =>
    if c = '%' then do
      let (octet, due) ← s.octet 0 (c :: rest) m
      let (octets, after) ← tagTextFrom s 2 due rest (m.after c)
      return (octet :: octets, after)
    else if s.allows c then do
      let (octets, after) ← tagTextFrom s 0 0 rest (m.after c)
      return (String.utf8EncodeChar c ++ octets, after)
    else .ok ([], ⟨c :: rest, m⟩)
  | 0, due + 1, c :: rest, m => do
    let (octet, due) ← s.octet (due + 1) (c :: rest) m
    let (octets, after) ← tagTextFrom s 2 due rest (m.after c)
    return (octet :: octets, after)
  | 0, due + 1, [], m => do
    let _ ← s.octet (due + 1) [] m
    return ([], ⟨[], m⟩)
  | _, _, [], m => .ok ([], ⟨[], m⟩)

/-- The octets of the text of a tag, which may be empty only if some of the tag came before. Nothing
counts from a zero octet on. -/
def Cursor.tagText (c : Cursor) (s : TagSetting) (begun : Bool) :
    Except Error (List UInt8 × Cursor) := do
  let (octets, after) ← tagTextFrom s 0 0 c.rest c.mark
  if octets.isEmpty && !begun then .error (.within .noTag after.mark s.context s.start)
  else return (octets.takeWhile (· ≠ 0), after)

/-- The handle that comes next: an exclamation mark, and perhaps a name and another one. In a
directive the name must be followed by another exclamation mark. -/
def Cursor.handle (c : Cursor) (inDirective : Bool) (start : Mark) :
    Except Error (List Char × Cursor) :=
  if !c.startsWith '!' then
    .error (.within .noHandle c.mark (if inDirective then .directiveHandle else .tag) start)
  else
    let name := c.advance.word isNameChar
    let after := c.advance.skip isNameChar
    if after.startsWith '!' then .ok ('!' :: name ++ ['!'], after.advance)
    else if inDirective && !name.isEmpty then
      .error (.within .noHandle after.mark .directiveHandleEnd start)
    else .ok ('!' :: name, after)

/-- Whether an exclamation mark stands at both ends. -/
def isClosedHandle (handle : List Char) : Bool :=
  2 ≤ handle.length && handle.getLast? = some '!'

/-- The tag that comes next, and the cursor after it. -/
def Cursor.tag (c : Cursor) (inFlow : Bool) : Except Error (Tag × Cursor) := do
  let start := c.mark
  let (tag, after) ←
    if c.advance.startsWith '<' then do
      let (octets, after) ← c.advance.advance.tagText ⟨true, .tagText, start⟩ false
      if after.startsWith '>' then pure (⟨[], octets⟩, after.advance)
      else .error (.within .unclosedTag after.mark .tag start)
    else do
      let (handle, after) ← c.handle false start
      if isClosedHandle handle then do
        let (octets, after) ← after.tagText ⟨false, .tagText, start⟩ false
        pure (⟨handle, octets⟩, after)
      else do
        let (octets, after) ← after.tagText ⟨false, .tagText, start⟩ true
        let suffix := Text.encode (String.ofList (handle.drop 1)) ++ octets
        pure (if suffix.isEmpty then ⟨[], Text.encode "!"⟩ else ⟨['!'], suffix⟩, after)
  if (inFlow && after.startsWith ',') || blankNext after.rest then return (tag, after)
  else .error (.within .noBlankOrBreak after.mark .tag start)

/-- The number of decimal digits that may be in a version number. -/
def versionDigits : Nat := 9

/-- The number that comes next in a version. -/
def Cursor.versionNumber (c : Cursor) (start : Mark) : Except Error (Nat × Cursor) :=
  let digits := c.word Char.isDigit
  if versionDigits < digits.length then
    .error (.within .longVersion (c.mark.right versionDigits) .versionDirective start)
  else if digits.isEmpty then .error (.within .noVersion c.mark .versionDirective start)
  else .ok (digits.foldl (fun n d => n * 10 + (d.toNat - '0'.toNat)) 0, c.skip Char.isDigit)

/-- The version in a directive. -/
def Cursor.version (c : Cursor) (start : Mark) : Except Error (Token.Kind × Cursor) := do
  let (major, c) ← (c.skip isBlank).versionNumber start
  if c.startsWith '.' then do
    let (minor, c) ← c.advance.versionNumber start
    return (.version major minor, c)
  else .error (.within .noVersionPoint c.mark .versionDirective start)

/-- The handle and its meaning in a directive. -/
def Cursor.handleMeaning (c : Cursor) (start : Mark) : Except Error (Token.Kind × Cursor) := do
  let (handle, c) ← (c.skip isBlank).handle true start
  if !c.rest.head?.any isBlank then .error (.within .noBlank c.mark .tagDirective start)
  else
    let (meaning, c) ← (c.skip isBlank).tagText ⟨true, .directiveTag, start⟩ false
    if blankNext c.rest then return (.handle handle meaning, c)
    else .error (.within .noBlankOrBreak c.mark .tagDirective start)

/-- The directive that comes next, and the cursor at the line after it. -/
def Cursor.directive (c : Cursor) : Except Error (Token × Cursor) := do
  let start := c.mark
  let name := c.advance.word isNameChar
  let after := c.advance.skip isNameChar
  if name.isEmpty then .error (.within .noDirectiveName after.mark .directive start)
  else if !blankNext after.rest then
    .error (.within .badDirectiveName after.mark .directive start)
  else
    let (kind, after) ←
      if name = ['Y', 'A', 'M', 'L'] then after.version start
      else if name = ['T', 'A', 'G'] then after.handleMeaning start
      else .error (.within .unknownDirective after.mark .directive start)
    let token : Token := ⟨kind, start, after.mark⟩
    let after := after.skipMargin
    if breakNext after.rest then return (token, after.advance)
    else .error (.within .trailingText after.mark .directive start)

end ValidatorGen.Yaml
