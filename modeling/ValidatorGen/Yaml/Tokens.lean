import ValidatorGen.Yaml.Scalar.Block
import ValidatorGen.Yaml.Scalar.Plain
import ValidatorGen.Yaml.Scalar.Quoted
import ValidatorGen.Yaml.Tag

/-!
# The tokens of a YAML text

Whether something is a key is known only from the colon after it. A place before which a key may
have to be announced is remembered as a candidate until the colon comes or can come no more: it must
come on the same line and within 1024 octets. Tokens from the first candidate on are not settled
yet, and they are lost if the text turns out to be wrong.

A text may be cut off by a fault. The fault is met when a character beyond the cut is wanted, and
characters are wanted before they are read: four where a token begins, and some after a token whose
end could not be told otherwise.

## Main definitions

* `Candidate` — a place before which a key may have to be announced
* `Scan` — the state between two tokens
* `Tokens` — the settled tokens of a text, and how the text ends
* `Tokens.ofText` — the tokens of a text
-/

namespace ValidatorGen.Yaml

/-- A place before which a key may have to be announced. -/
structure Candidate where
  /-- The number of tokens before it. -/
  number : Nat
  /-- Whether only a key can stand there. -/
  required : Bool
  /-- The place. -/
  mark : Mark
deriving DecidableEq

/-- The state between two tokens. -/
structure Scan where
  /-- The text that is left. -/
  cursor : Cursor
  /-- The tokens so far, the last one first. -/
  tokens : List Token := []
  /-- The number of tokens so far. -/
  count : Nat := 0
  /-- The candidate inside the innermost brackets. -/
  candidate : Option Candidate := none
  /-- The candidates around each pair of brackets, the innermost first. -/
  outer : List (Option Candidate) := []
  /-- Whether a key without an indicator may begin here. -/
  keyAllowed : Bool := true
  /-- The columns of the collections laid out in lines, the innermost first. -/
  indents : List Nat := []
  /-- Whether the end of the text has been reached. -/
  ended : Bool := false
  /-- What is met instead of the end of the text. -/
  fault : Option Error := none

/-- The greatest number of octets from the beginning of a key without an indicator to its colon. -/
def keyLength : Nat := 1024

/-- Whether no colon can follow any more when `m` has been reached. -/
def Candidate.isStale (k : Candidate) (m : Mark) : Bool :=
  k.mark.line < m.line || k.mark.offset + keyLength < m.offset

/-- What is left of a candidate that a colon cannot follow any more, when `m` has been reached. -/
def Candidate.drop (k : Candidate) (m : Mark) : Except Error (Option Candidate) :=
  if k.required then .error (.within .noColon m .simpleKey k.mark) else .ok none

namespace Scan

/-- Whether brackets are open. -/
def inFlow (s : Scan) : Bool := !s.outer.isEmpty

/-- The column after which text may stand in the innermost collection laid out in lines. -/
def leastColumn (s : Scan) : Nat :=
  match s.indents with
  | [] => 0
  | i :: _ => i + 1

/-- The state without the candidates that a colon cannot follow any more. -/
def dropStale (s : Scan) : Except Error Scan := do
  let check : Option Candidate → Except Error (Option Candidate)
    | some k => if k.isStale s.cursor.mark then k.drop s.cursor.mark else .ok (some k)
    | none => .ok none
  let outer ← (s.outer.reverse.mapM check).map List.reverse
  let candidate ← check s.candidate
  return { s with candidate, outer }

/-- The state without the innermost candidate. -/
def dropCandidate (s : Scan) : Except Error Scan := do
  match s.candidate with
  | some k => let candidate ← k.drop s.cursor.mark; return { s with candidate }
  | none => return s

/-- The state with a candidate here, if a key without an indicator may begin here. -/
def addCandidate (s : Scan) : Except Error Scan := do
  if s.keyAllowed then
    let required := !s.inFlow && s.indents.head? = some s.cursor.mark.column
    let s ← s.dropCandidate
    return { s with candidate := some ⟨s.count, required, s.cursor.mark⟩ }
  else return s

/-- The state with one more token. -/
def add (s : Scan) (t : Token) : Scan := { s with tokens := t :: s.tokens, count := s.count + 1 }

/-- The state after a token that ends where `after` begins. -/
def push (s : Scan) (kind : Token.Kind) (after : Cursor) : Scan :=
  { s.add ⟨kind, s.cursor.mark, after.mark⟩ with cursor := after }

/-- The state after a token of `count` characters. -/
def take (s : Scan) (kind : Token.Kind) (count : Nat) : Scan :=
  s.push kind (count.repeat Cursor.advance s.cursor)

/-- The state inside a collection that is laid out in lines from this column on. Nothing changes if
the column is that of the innermost collection already, or inside brackets. -/
def openBlock (s : Scan) (kind : Token.Kind) : Scan :=
  let column := s.cursor.mark.column
  if !s.inFlow && s.leastColumn ≤ column then
    { s.push kind s.cursor with indents := column :: s.indents }
  else s

/-- The state after the end of the collections whose columns satisfy `p`, up to the first that does
not. Inside brackets none ends. -/
def closeBlocks (s : Scan) (p : Nat → Bool) : Scan :=
  if s.inFlow then s
  else
    let m := s.cursor.mark
    { (s.indents.takeWhile p).foldl (fun s _ => s.add ⟨.blockEnd, m, m⟩) s with
      indents := s.indents.dropWhile p }

/-- The state after the end of the text. It counts as the beginning of a line. -/
def finish (s : Scan) : Except Error Scan := do
  let m := s.cursor.mark
  let s := { s with cursor := ⟨[], if m.column = 0 then m else ⟨m.line + 1, 0, m.offset⟩⟩ }
  let s ← (s.closeBlocks fun _ => true).dropCandidate
  return { s with keyAllowed := false, ended := true }

/-- The state after a directive. -/
def directive (s : Scan) : Except Error Scan := do
  let s ← (s.closeBlocks fun _ => true).dropCandidate
  let (token, cursor) ← s.cursor.directive
  return { s.add token with keyAllowed := false, cursor }

/-- The state after a marker between documents. -/
def documentMarker (s : Scan) (kind : Token.Kind) : Except Error Scan := do
  let s ← (s.closeBlocks fun _ => true).dropCandidate
  return { s.take kind 3 with keyAllowed := false }

/-- The state after an opening bracket or brace. -/
def openFlow (s : Scan) (kind : Token.Kind) : Except Error Scan := do
  let s ← s.addCandidate
  return { s.take kind 1 with
    outer := s.candidate :: s.outer, candidate := none, keyAllowed := true }

/-- The state after a closing bracket or brace, even one that closes nothing. -/
def closeFlow (s : Scan) (kind : Token.Kind) : Except Error Scan := do
  let s ← s.dropCandidate
  return { s.take kind 1 with
    outer := s.outer.tail, candidate := s.outer.headD none, keyAllowed := false }

/-- The state after a comma. -/
def comma (s : Scan) : Except Error Scan := do
  let s ← s.dropCandidate
  return { s.take .comma 1 with keyAllowed := true }

/-- The state after the hyphen before an item. -/
def entry (s : Scan) : Except Error Scan := do
  if !s.inFlow && !s.keyAllowed then .error (.text .misplacedEntry s.cursor.mark)
  else
    let s ← (s.openBlock .blockSequence).dropCandidate
    return { s.take .entry 1 with keyAllowed := true }

/-- The state after the question mark before a key. -/
def key (s : Scan) : Except Error Scan := do
  if !s.inFlow && !s.keyAllowed then .error (.text .misplacedKey s.cursor.mark)
  else
    let s ← (s.openBlock .blockMapping).dropCandidate
    return { s.take .key 1 with keyAllowed := !s.inFlow }

/-- The state with the key of a candidate announced, and the mapping around it if it is new. -/
def announce (s : Scan) (k : Candidate) : Scan :=
  let opens := !s.inFlow && s.leastColumn ≤ k.mark.column
  let before : Scan := { s with tokens := s.tokens.drop (s.count - k.number), count := k.number }
  let before := if opens then before.add ⟨.blockMapping, k.mark, k.mark⟩ else before
  let newer := s.tokens.take (s.count - k.number)
  { newer.reverse.foldl add (before.add ⟨.key, k.mark, k.mark⟩) with
    indents := if opens then k.mark.column :: s.indents else s.indents
    candidate := none }

/-- The state after the colon before a value. -/
def value (s : Scan) : Except Error Scan :=
  match s.candidate with
  | some k => .ok { (s.announce k).take .value 1 with keyAllowed := false }
  | none =>
    if !s.inFlow && !s.keyAllowed then .error (.text .misplacedValue s.cursor.mark)
    else .ok { (s.openBlock .blockMapping).take .value 1 with keyAllowed := !s.inFlow }

/-- The state after a name for a node. -/
def name (s : Scan) (context : Context) (kind : List Char → Token.Kind) : Except Error Scan := do
  let s ← s.addCandidate
  let (name, after) ← s.cursor.name context
  return { s.push (kind name) after with keyAllowed := false }

/-- The state after a tag. -/
def tag (s : Scan) : Except Error Scan := do
  let s ← s.addCandidate
  let (tag, after) ← s.cursor.tag s.inFlow
  return { s.push (.tag tag) after with keyAllowed := false }

/-- The state after a quoted scalar. -/
def quotedScalar (s : Scan) (style : Style)
    (read : Cursor → Except Error (List Char × Cursor)) : Except Error Scan := do
  let s ← s.addCandidate
  let (text, after) ← read s.cursor
  return { s.push (.scalar style text) after with keyAllowed := false }

/-- The state after a block scalar. -/
def blockScalar (s : Scan) (style : Style) : Except Error Scan := do
  let s ← s.dropCandidate
  let (text, after) ← s.cursor.blockScalar (style = .literal) s.indents.head?
  return { s.push (.scalar style text) after with keyAllowed := true }

/-- The state after a plain scalar. A key may follow if it ends before a new line. -/
def plainScalar (s : Scan) : Except Error Scan := do
  let s ← s.addCandidate
  let p ← s.cursor.plain s.inFlow s.leastColumn
  return { s.push (.scalar .plain p.text) p.rest with keyAllowed := p.crossed }

/-- Whether a plain scalar may begin with `c` when `rest` comes after it. -/
def beginsPlain (inFlow : Bool) (c : Char) (rest : List Char) : Bool :=
  !(c ∈ [' ', '\t', '\n', '\u2028', '\u2029', '-', '?', ':', ',', '[', ']', '\x7b', '\x7d', '#',
      '&', '*', '!', '|', '>', '\x27', '"', '%', '@', '\x60']) ||
    (c = '-' && !rest.head?.any isBlank) ||
    (!inFlow && (c = '?' || c = ':') && !blankNext rest)

/-- The state after the token that begins with the next character. -/
def token (s : Scan) : Except Error Scan :=
  let m := s.cursor.mark
  match s.cursor.rest with
  | [] => s.finish
  | c :: rest =>
    if m.column = 0 && c = '%' then s.directive
    else if m.column = 0 && atDocumentStart (c :: rest) then s.documentMarker .documentStart
    else if m.column = 0 && atDocumentEnd (c :: rest) then s.documentMarker .documentEnd
    else if c = '[' then s.openFlow .openSequence
    else if c = '\x7b' then s.openFlow .openMapping
    else if c = ']' then s.closeFlow .closeSequence
    else if c = '\x7d' then s.closeFlow .closeMapping
    else if c = ',' then s.comma
    else if c = '-' && blankNext rest then s.entry
    else if c = '?' && (s.inFlow || blankNext rest) then s.key
    else if c = ':' && (s.inFlow || blankNext rest) then s.value
    else if c = '*' then s.name .reference .reference
    else if c = '&' then s.name .anchor .anchor
    else if c = '!' then s.tag
    else if c = '|' && !s.inFlow then s.blockScalar .literal
    else if c = '>' && !s.inFlow then s.blockScalar .folded
    else if c = '\x27' then s.quotedScalar .single Cursor.singleQuoted
    else if c = '"' then s.quotedScalar .double Cursor.doubleQuoted
    else if beginsPlain s.inFlow c rest then s.plainScalar
    else .error (.within .badStart m .nextToken m)

/-- Whether a key may begin at the next character that is neither blank nor part of a comment, and
the cursor there. A byte order mark at the beginning of a line is passed over. Outside brackets a
tab is not blank where a key may begin. -/
def skipFrom (inFlow : Bool) : Bool → Bool → List Char → Mark → Bool × Cursor
  | keyAllowed, _, [], m => (keyAllowed, ⟨[], m⟩)
  | keyAllowed, inComment, c :: rest, m =>
    if isBreak c then skipFrom inFlow (keyAllowed || !inFlow) false rest (m.after c)
    else if inComment then skipFrom inFlow keyAllowed true rest (m.after c)
    else if c = ' ' || (c = '\t' && (inFlow || !keyAllowed)) ||
        (c = '\ufeff' && m.column = 0) then
      skipFrom inFlow keyAllowed false rest (m.after c)
    else if c = '#' then skipFrom inFlow keyAllowed true rest (m.after c)
    else (keyAllowed, ⟨c :: rest, m⟩)

/-- The state at the beginning of the next token. -/
def skip (s : Scan) : Scan :=
  let (keyAllowed, cursor) := skipFrom s.inFlow s.keyAllowed false s.cursor.rest s.cursor.mark
  { s with keyAllowed, cursor }

/-- Fails if `count` characters are wanted at `c` and the text is cut off before so many. -/
def want (s : Scan) (c : Cursor) (count : Nat) : Except Error Unit :=
  match s.fault with
  | some e => if c.has count then .ok () else .error e
  | none => .ok ()

/-- The number of characters that must be seen before the next token is begun. Between quotes a
marker between documents is looked for at once. -/
def reachBefore (s : Scan) : Nat :=
  if s.cursor.startsWith '"' || s.cursor.startsWith '\x27' then 5 else 4

/-- The number of characters that must be seen after the last token before its end is known. -/
def reachAfter (s : Scan) : Nat :=
  match s.tokens.head?.map Token.kind with
  | some (.scalar .plain _) =>
    if !s.inFlow && s.cursor.mark.column < s.leastColumn then 1
    else if s.cursor.startsWith '#' || atDocumentMarker s.cursor.mark s.cursor.rest then 4
    else 2
  | some (.scalar ..) | some (.anchor _) | some (.reference _) | some (.tag _)
  | some (.version ..) | some (.handle ..) => 1
  | _ => 0

/-- The state after the token that begins with the next character, unless the text is cut off before
the token, or what is wrong with it, can be made out. -/
def tokenWithin (s : Scan) : Except Error Scan :=
  match s.token with
  | .ok t => do
    t.want t.cursor t.reachAfter
    return t
  | .error e => do
    if let .within problem m _ _ := e then
      s.want (goTo m.offset s.cursor.rest s.cursor.mark) problem.reach
    throw e

/-- The state after the next token. -/
def next (s : Scan) : Except Error Scan := do
  let s := s.skip
  s.want s.cursor 1
  let s ← s.dropStale
  s.want s.cursor s.reachBefore
  let s ← (s.closeBlocks fun i => s.cursor.mark.column < i).tokenWithin
  s.dropStale

/-- The tokens before the first candidate. -/
def settled (s : Scan) : List Token :=
  let numbers := (s.candidate :: s.outer).filterMap fun k => k.map Candidate.number
  s.tokens.reverse.take (numbers.foldl min s.count)

end Scan

/-- The settled tokens of a text, and how the text ends. -/
structure Tokens where
  /-- The tokens. -/
  list : List Token
  /-- The place where the text ends, or what is wrong with it after the tokens. -/
  ending : Except Error Mark

/-- The tokens from a state on, in at most `fuel` steps. -/
def tokensFrom : Nat → Scan → Tokens
  | 0, s => ⟨s.settled, .ok s.cursor.mark⟩
  | fuel + 1, s =>
    match s.next with
    | .error e => ⟨s.settled, .error e⟩
    | .ok t => if t.ended then ⟨t.settled, .ok t.cursor.mark⟩ else tokensFrom fuel t

/-- The tokens of a text that is cut off by a fault, if one is given. Every token but those at the
end of the text takes a character. -/
def Tokens.ofText (text : List Char) (fault : Option Error) : Tokens :=
  tokensFrom (text.length + 1) { cursor := ⟨text, .origin⟩, fault }

end ValidatorGen.Yaml
