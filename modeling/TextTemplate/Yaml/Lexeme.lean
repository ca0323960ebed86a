import TextTemplate.Yaml.Plain
import TextTemplate.Yaml.Quoted

/-!
Cutting a document into lexemes. Indentation opens and closes block collections. A scalar or a flow
collection may turn out to be a key when the colon after it is met; for this it has to stand on one line
with the colon and to be at most `keyLength` characters long. Directives, anchors, aliases, tags and block
scalars are refused.
-/

namespace TextTemplate.Yaml

inductive Lexeme where
  | documentStart
  | documentEnd
  | blockList
  | blockMap
  | blockEnd
  | dash
  | key
  | value
  | openList
  | openMap
  | closeList
  | closeMap
  | comma
  | plain (text : List Char)
  | quoted (text : Text)
  deriving DecidableEq, Repr

def keyLength : Nat := 1024

/-- A place where a key may have started, after `position` lexemes. A key is required at the indentation of
a block mapping. -/
structure KeyPlace where
  position : Nat
  required : Bool
  index : Nat
  line : Nat
  column : Nat

/-- A flow collection that is open, with the place of a key that the collection may itself be part of. -/
structure OpenFlow where
  mapping : Bool
  outerKey : Option KeyPlace

/-- The state of the cutting; `lexemes` has the latest one first, `flows` the innermost. -/
structure Scanner where
  cursor : Cursor
  lexemes : List Lexeme
  flows : List OpenFlow
  key : Option KeyPlace
  indent : Int
  outerIndents : List Int
  keyAllowed : Bool

namespace Scanner

def start (chars : List Char) : Scanner :=
  ⟨.start chars, [], [], none, -1, [], true⟩

def inFlow (scanner : Scanner) : Bool :=
  !scanner.flows.isEmpty

def add (scanner : Scanner) (lexeme : Lexeme) : Scanner :=
  { scanner with lexemes := lexeme :: scanner.lexemes }

def forward (scanner : Scanner) (count : Nat) : Scanner :=
  { scanner with cursor := scanner.cursor.drop count }

/-- A key place that can no longer be met by a colon is given up. -/
def freshKey (cursor : Cursor) : Option KeyPlace → Except ReadFault (Option KeyPlace)
  | none => .ok none
  | some place =>
    if place.line = cursor.line && cursor.index - place.index ≤ keyLength then .ok (some place)
    else if place.required then .error .malformed
    else .ok none

def freshFlows (cursor : Cursor) : List OpenFlow → Except ReadFault (List OpenFlow)
  | [] => .ok []
  | flow :: rest => do
    let outerKey ← freshKey cursor flow.outerKey
    let more ← freshFlows cursor rest
    return { flow with outerKey } :: more

def dropStaleKeys (scanner : Scanner) : Except ReadFault Scanner := do
  let key ← freshKey scanner.cursor scanner.key
  let flows ← freshFlows scanner.cursor scanner.flows
  return { scanner with key, flows }

def awaitsColon (scanner : Scanner) : Bool :=
  scanner.key.isSome || scanner.flows.any (·.outerKey.isSome)

def removeKey (scanner : Scanner) : Except ReadFault Scanner :=
  if scanner.key.any (·.required) then .error .malformed else .ok { scanner with key := none }

def saveKey (scanner : Scanner) : Except ReadFault Scanner :=
  if scanner.keyAllowed then do
    let scanner ← scanner.removeKey
    let cursor := scanner.cursor
    let required := !scanner.inFlow && scanner.indent == cursor.column
    return { scanner with
      key := some ⟨scanner.lexemes.length, required, cursor.index, cursor.line, cursor.column⟩ }
  else .ok scanner

def skipBlank (scanner : Scanner) : Scanner :=
  let (count, broken) := blankRun scanner.inFlow false scanner.cursor.chars
  { scanner.forward count with
    keyAllowed := scanner.keyAllowed || (broken && !scanner.inFlow) }

def closeBlocks (column indent : Int) (outerIndents : List Int) (lexemes : List Lexeme) :
    Int × List Int × List Lexeme :=
  if column < indent then
    match outerIndents with
    | [] => (indent, [], lexemes)
    | outer :: rest => closeBlocks column outer rest (.blockEnd :: lexemes)
  else (indent, outerIndents, lexemes)

def unwind (scanner : Scanner) (column : Int) : Scanner :=
  if scanner.inFlow then scanner
  else
    let (indent, outerIndents, lexemes) :=
      closeBlocks column scanner.indent scanner.outerIndents scanner.lexemes
    { scanner with indent, outerIndents, lexemes }

/-- Opens a block collection at `column` by a lexeme that is put after `position` lexemes, unless the one
that is open is indented as deep. -/
def openBlock (scanner : Scanner) (column : Int) (position : Nat) (lexeme : Lexeme) : Scanner :=
  if scanner.indent < column then
    { scanner with
      indent := column
      outerIndents := scanner.indent :: scanner.outerIndents
      lexemes := scanner.lexemes.insertIdx (scanner.lexemes.length - position) lexeme }
  else scanner

def requireKeyAllowed (scanner : Scanner) : Except ReadFault Unit :=
  if scanner.keyAllowed then .ok () else .error .malformed

def documentMarker (scanner : Scanner) (lexeme : Lexeme) : Except ReadFault Scanner := do
  let scanner ← (scanner.unwind (-1)).removeKey
  return ({ scanner with keyAllowed := false }.forward 3).add lexeme

def openFlow (scanner : Scanner) (mapping : Bool) : Except ReadFault Scanner := do
  let scanner ← scanner.saveKey
  let opened := { scanner with
    flows := ⟨mapping, scanner.key⟩ :: scanner.flows
    key := none
    keyAllowed := true }
  return (opened.forward 1).add (if mapping then .openMap else .openList)

def closeFlow (scanner : Scanner) (lexeme : Lexeme) : Except ReadFault Scanner := do
  let scanner ← scanner.removeKey
  match scanner.flows with
  | [] => .error .malformed
  | flow :: flows =>
    return ({ scanner with flows, key := flow.outerKey, keyAllowed := false }.forward 1).add lexeme

def comma (scanner : Scanner) : Except ReadFault Scanner := do
  let scanner ← { scanner with keyAllowed := true }.removeKey
  return (scanner.forward 1).add .comma

def dash (scanner : Scanner) : Except ReadFault Scanner := do
  if !scanner.inFlow then scanner.requireKeyAllowed
  let opened :=
    if scanner.inFlow then scanner
    else scanner.openBlock scanner.cursor.column scanner.lexemes.length .blockList
  let scanner ← { opened with keyAllowed := true }.removeKey
  return (scanner.forward 1).add .dash

def question (scanner : Scanner) : Except ReadFault Scanner := do
  if !scanner.inFlow then scanner.requireKeyAllowed
  let opened :=
    if scanner.inFlow then scanner
    else scanner.openBlock scanner.cursor.column scanner.lexemes.length .blockMap
  let scanner ← { opened with keyAllowed := !scanner.inFlow }.removeKey
  return (scanner.forward 1).add .key

/-- A colon before a value. It makes a key of what was saved as one, and opens a block mapping there. -/
def colon (scanner : Scanner) : Except ReadFault Scanner := do
  match scanner.key with
  | some place =>
    let keyed := { scanner with
      key := none
      keyAllowed := false
      lexemes := scanner.lexemes.insertIdx (scanner.lexemes.length - place.position) .key }
    let opened := if scanner.inFlow then keyed else keyed.openBlock place.column place.position .blockMap
    return (opened.forward 1).add .value
  | none =>
    if !scanner.inFlow then scanner.requireKeyAllowed
    let opened :=
      if scanner.inFlow then scanner
      else scanner.openBlock scanner.cursor.column scanner.lexemes.length .blockMap
    return ({ opened with keyAllowed := !scanner.inFlow }.forward 1).add .value

def quotedText (scanner : Scanner) (mark : Char) (rest : List Char) : Except ReadFault Scanner := do
  let scanner ← scanner.saveKey
  let text ← quotedRest mark rest
  return ({ scanner with keyAllowed := false }.forward (1 + text.length)).add (.quoted text.value)

def plainText (scanner : Scanner) : Except ReadFault Scanner := do
  let scanner ← scanner.saveKey
  let text := Yaml.plainText scanner.inFlow (scanner.indent + 1) scanner.cursor
  return { scanner with cursor := text.after, keyAllowed := text.broken }.add (.plain text.text)

/-- Whether a colon is a mark here. In a flow list it has to end a word, and in a flow mapping it has to if
it follows another colon while an earlier key still awaits its own. -/
def colonIsMark (scanner : Scanner) (awaited : Bool) (rest : List Char) : Bool :=
  match scanner.flows with
  | [] => endsWord rest
  | flow :: _ =>
    if flow.mapping then !(awaited && scanner.lexemes.head? == some .value) || endsWord rest
    else endsWord rest

/-- The state after the lexeme that starts with `c`; `awaited` says that a key awaited its colon before the
blanks in front of it. -/
def lexeme (scanner : Scanner) (awaited : Bool) (c : Char) (rest : List Char) : Except ReadFault Scanner :=
  let lineStart := scanner.cursor.column = 0
  if lineStart && c = '%' then .error .malformed
  else if lineStart && startsMarker (c :: rest) then
    scanner.documentMarker (if c = '-' then .documentStart else .documentEnd)
  else if c = '[' then scanner.openFlow false
  else if c = '{' then scanner.openFlow true
  else if c = ']' then scanner.closeFlow .closeList
  else if c = '}' then scanner.closeFlow .closeMap
  else if c = ',' then scanner.comma
  else if c = '-' && endsWord rest then scanner.dash
  else if c = '?' && (scanner.inFlow || endsWord rest) then scanner.question
  else if c = ':' && scanner.colonIsMark awaited rest then scanner.colon
  else if c = '\'' || c = '"' then scanner.quotedText c rest
  else if startsPlain scanner.inFlow (c :: rest) then scanner.plainText
  else .error .malformed

/-- The lexemes of a whole document; each takes a character at least, so that `fuel` characters are enough
for what is left. -/
def run (fuel : Nat) (scanner : Scanner) : Except ReadFault (List Lexeme) :=
  match fuel with
  | 0 => .error .malformed
  | fuel + 1 => do
    let fresh ← scanner.dropStaleKeys
    let next ← fresh.skipBlank.dropStaleKeys
    let next := next.unwind next.cursor.column
    match next.cursor.chars with
    | [] => do
      let last ← (next.unwind (-1)).removeKey
      return last.lexemes.reverse
    | c :: rest => do run fuel (← next.lexeme fresh.awaitsColon c rest)

end Scanner

def lexemes (chars : List Char) : Except ReadFault (List Lexeme) :=
  (Scanner.start chars).run (chars.length + 1)

end TextTemplate.Yaml
