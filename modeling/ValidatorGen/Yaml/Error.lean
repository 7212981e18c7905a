import ValidatorGen.Yaml.Cursor

/-!
# Errors in YAML text

An error says what is wrong and where. Some errors also say what was being read, and where that
began.

## Main definitions

* `Problem` — what is wrong
* `Context` — what was being read
* `Error` — what is wrong with a text, and where
* `Error.message` — the error in words
-/

namespace ValidatorGen.Yaml

/-- What is wrong with the octets of a text. -/
inductive OctetProblem where
  /-- An octet that begins no character. -/
  | badLeading
  /-- An octet that does not continue the character. -/
  | badTrailing
  /-- The text ends inside a character. -/
  | incomplete
  /-- A character written in more octets than it needs. -/
  | badLength
  /-- A number that is no character. -/
  | noCharacter
  /-- A control character. -/
  | control
deriving DecidableEq

/-- What is wrong with the octets, in words. -/
def OctetProblem.message : OctetProblem → String
  | .badLeading => "invalid leading UTF-8 octet"
  | .badTrailing => "invalid trailing UTF-8 octet"
  | .incomplete => "incomplete UTF-8 octet sequence"
  | .badLength => "invalid length of a UTF-8 sequence"
  | .noCharacter => "invalid Unicode character"
  | .control => "control characters are not allowed"

/-- What is wrong with a text. -/
inductive Problem where
  /-- A key is not followed by its colon. -/
  | noColon
  /-- An item where a line has begun with something else. -/
  | misplacedEntry
  /-- A key where a line has begun with something else. -/
  | misplacedKey
  /-- A value without a key. -/
  | misplacedValue
  /-- A character that begins nothing. -/
  | badStart
  /-- A directive without a name. -/
  | noDirectiveName
  /-- A character that cannot stand in the name of a directive. -/
  | badDirectiveName
  /-- A directive that does not exist. -/
  | unknownDirective
  /-- Something after the end of a line's content. -/
  | trailingText
  /-- A version without a point. -/
  | noVersionPoint
  /-- A version number with too many digits. -/
  | longVersion
  /-- A version number without digits. -/
  | noVersion
  /-- No blank where one should be. -/
  | noBlank
  /-- Neither a blank nor the end of a line where one should be. -/
  | noBlankOrBreak
  /-- An anchor or an alias without a name. -/
  | noName
  /-- A tag handle without its exclamation mark. -/
  | noHandle
  /-- A tag without its text. -/
  | noTag
  /-- A tag in angle brackets that does not end. -/
  | unclosedTag
  /-- An escape in a tag without its digits. -/
  | noTagOctet
  /-- An escaped octet that begins no character. -/
  | badTagLeading
  /-- An escaped octet that does not continue the character. -/
  | badTagTrailing
  /-- An indentation of zero columns. -/
  | zeroIndentation
  /-- A tab among the spaces of an indentation. -/
  | tabInIndentation
  /-- A marker between documents inside a scalar. -/
  | documentMarker
  /-- The text ends inside a scalar. -/
  | unexpectedEnd
  /-- An escape that means nothing. -/
  | unknownEscape
  /-- An escape without its digits. -/
  | noHexDigits
  /-- An escape that stands for no character. -/
  | badEscapeCode
  /-- A colon that is not followed by a blank. -/
  | unexpectedColon
  /-- A tab before the column at which a line may begin. -/
  | tabBeforeText
  /-- No beginning of a document where one should be. -/
  | noDocumentStart
  /-- A second version directive. -/
  | repeatedVersion
  /-- A version that is not understood. -/
  | badVersion
  /-- A second directive for the same tag handle. -/
  | repeatedHandle
  /-- A tag handle without a directive. -/
  | unknownHandle
  /-- No node where one should be. -/
  | noNode
  /-- No hyphen where an item should be. -/
  | noEntry
  /-- No key where one should be. -/
  | noKey
  /-- An item that is not followed by a comma or the end of the sequence. -/
  | noSequenceEnd
  /-- A pair that is not followed by a comma or the end of the mapping. -/
  | noMappingEnd
deriving DecidableEq

/-- What is wrong, in words. -/
def Problem.message : Problem → String
  | .noColon => "could not find expected ':'"
  | .misplacedEntry => "block sequence entries are not allowed in this context"
  | .misplacedKey => "mapping keys are not allowed in this context"
  | .misplacedValue => "mapping values are not allowed in this context"
  | .badStart => "found character that cannot start any token"
  | .noDirectiveName => "could not find expected directive name"
  | .badDirectiveName => "found unexpected non-alphabetical character"
  | .unknownDirective => "found unknown directive name"
  | .trailingText => "did not find expected comment or line break"
  | .noVersionPoint => "did not find expected digit or '.' character"
  | .longVersion => "found extremely long version number"
  | .noVersion => "did not find expected version number"
  | .noBlank => "did not find expected whitespace"
  | .noBlankOrBreak => "did not find expected whitespace or line break"
  | .noName => "did not find expected alphabetic or numeric character"
  | .noHandle => "did not find expected '!'"
  | .noTag => "did not find expected tag URI"
  | .unclosedTag => "did not find the expected '>'"
  | .noTagOctet => "did not find URI escaped octet"
  | .badTagLeading => "found an incorrect leading UTF-8 octet"
  | .badTagTrailing => "found an incorrect trailing UTF-8 octet"
  | .zeroIndentation => "found an indentation indicator equal to 0"
  | .tabInIndentation => "found a tab character where an indentation space is expected"
  | .documentMarker => "found unexpected document indicator"
  | .unexpectedEnd => "found unexpected end of stream"
  | .unknownEscape => "found unknown escape character"
  | .noHexDigits => "did not find expected hexadecimal number"
  | .badEscapeCode => "found invalid Unicode character escape code"
  | .unexpectedColon => "found unexpected ':'"
  | .tabBeforeText => "found a tab character that violates indentation"
  | .noDocumentStart => "did not find expected <document start>"
  | .repeatedVersion => "found duplicate %YAML directive"
  | .badVersion => "found incompatible YAML document"
  | .repeatedHandle => "found duplicate %TAG directive"
  | .unknownHandle => "found undefined tag handle"
  | .noNode => "did not find expected node content"
  | .noEntry => "did not find expected '-' indicator"
  | .noKey => "did not find expected key"
  | .noSequenceEnd => "did not find expected ',' or ']'"
  | .noMappingEnd => "did not find expected ',' or '\x7d'"

/-- How many characters must be seen from the place of a problem on before it is noticed. -/
def Problem.reach : Problem → Nat
  | .documentMarker => 4
  | .noTagOctet | .badTagLeading | .badTagTrailing => 3
  | .unknownEscape | .noHexDigits | .badEscapeCode | .unexpectedColon => 2
  | _ => 1

/-- What was being read when an error was noticed. -/
inductive Context where
  /-- A key on one line. -/
  | simpleKey
  /-- Whatever comes next. -/
  | nextToken
  /-- A directive. -/
  | directive
  /-- The version in a directive. -/
  | versionDirective
  /-- A directive for a tag handle. -/
  | tagDirective
  /-- The handle in a directive for a tag handle. -/
  | directiveHandle
  /-- The end of the handle in a directive for a tag handle. -/
  | directiveHandleEnd
  /-- The text in a directive for a tag handle. -/
  | directiveTag
  /-- A tag. -/
  | tag
  /-- The text of a tag. -/
  | tagText
  /-- An anchor. -/
  | anchor
  /-- A reference to an anchor. -/
  | reference
  /-- A scalar in lines of its own. -/
  | blockScalar
  /-- A scalar between quotes. -/
  | quotedScalar
  /-- An escape in a scalar between quotes. -/
  | quotedEscape
  /-- A scalar without quotes. -/
  | plainScalar
  /-- A node. -/
  | node
  /-- A node laid out in lines. -/
  | blockNode
  /-- A node inside brackets. -/
  | flowNode
  /-- A sequence laid out in lines. -/
  | blockSequence
  /-- A mapping laid out in lines. -/
  | blockMapping
  /-- A sequence in brackets. -/
  | flowSequence
  /-- A mapping in braces. -/
  | flowMapping
deriving DecidableEq

/-- What was being read, in words. -/
def Context.message : Context → String
  | .simpleKey => "while scanning a simple key"
  | .nextToken => "while scanning for the next token"
  | .directive => "while scanning a directive"
  | .versionDirective => "while scanning a %YAML directive"
  | .tagDirective => "while scanning a %TAG directive"
  | .directiveHandle => "while scanning a tag directive"
  | .directiveHandleEnd => "while parsing a tag directive"
  | .directiveTag => "while parsing a %TAG directive"
  | .tag => "while scanning a tag"
  | .tagText => "while parsing a tag"
  | .anchor => "while scanning an anchor"
  | .reference => "while scanning an alias"
  | .blockScalar => "while scanning a block scalar"
  | .quotedScalar => "while scanning a quoted scalar"
  | .quotedEscape => "while parsing a quoted scalar"
  | .plainScalar => "while scanning a plain scalar"
  | .node => "while parsing a node"
  | .blockNode => "while parsing a block node"
  | .flowNode => "while parsing a flow node"
  | .blockSequence => "while parsing a block collection"
  | .blockMapping => "while parsing a block mapping"
  | .flowSequence => "while parsing a flow sequence"
  | .flowMapping => "while parsing a flow mapping"

/-- What is wrong with a text, and where. -/
inductive Error where
  /-- Something is wrong with the octets, after the given number of them. -/
  | octets (problem : OctetProblem) (offset : Nat)
  /-- Something is wrong with the text itself. -/
  | text (problem : Problem) (mark : Mark)
  /-- Something is wrong with the text while something is read that began at `start`. -/
  | within (problem : Problem) (mark : Mark) (context : Context) (start : Mark)
deriving DecidableEq

/-- Where something is, in words; nothing is said of the beginning of a text. -/
def Mark.message (m : Mark) : String :=
  if m = .origin then ""
  else " at line " ++ toString (m.line + 1) ++ " column " ++ toString (m.column + 1)

/-- The error in words. The place where the context began is left out if it is the place of the
error. -/
def Error.message : Error → String
  | .octets problem offset =>
    problem.message ++ (if offset = 0 then "" else " at position " ++ toString offset)
  | .text problem mark => problem.message ++ mark.message
  | .within problem mark context start =>
    problem.message ++ mark.message ++ ", " ++ context.message ++
      (if start = mark then "" else start.message)

end ValidatorGen.Yaml
