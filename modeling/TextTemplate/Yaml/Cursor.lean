import TextTemplate.Text.CodePoint

/-!
The rest of a YAML document with the place it starts at, and what separates its words: spaces, tabs, line
breaks and comments. A line break is a newline, a next-line character, or a line or paragraph separator,
but only the newline starts a new line when places are counted.
-/

namespace TextTemplate.Yaml

inductive ReadFault where
  | malformed
  | badKey
  | badScalar (message : String)
  | overflow
  deriving DecidableEq, Repr

def isBreak (c : Char) : Bool :=
  c = '\n' || c = '\x85' || c = '\u2028' || c = '\u2029'

def keptBreak (c : Char) : Char :=
  if c = '\x85' then '\n' else c

def isSpace (c : Char) : Bool := c = ' '

def isSpaceOrTab (c : Char) : Bool := c = ' ' || c = '\t'

def endsWord : List Char → Bool
  | [] => true
  | c :: _ => isSpaceOrTab c || isBreak c

def startsMarker : List Char → Bool
  | '-' :: '-' :: '-' :: rest => endsWord rest
  | '.' :: '.' :: '.' :: rest => endsWord rest
  | _ => false

structure Cursor where
  chars : List Char
  index : Nat
  line : Nat
  column : Nat

namespace Cursor

def start (chars : List Char) : Cursor :=
  ⟨chars, 0, 0, 0⟩

/-- The cursor after `c`. A byte order mark takes no column. -/
def step (cursor : Cursor) (c : Char) (rest : List Char) : Cursor :=
  if c = '\n' then ⟨rest, cursor.index + 1, cursor.line + 1, 0⟩
  else ⟨rest, cursor.index + 1, cursor.line, if c = '\ufeff' then cursor.column else cursor.column + 1⟩

def drop (cursor : Cursor) : Nat → Cursor
  | 0 => cursor
  | count + 1 =>
    match cursor with
    | ⟨[], _, _, _⟩ => cursor
    | ⟨c :: rest, _, _, _⟩ => (cursor.step c rest).drop count

theorem drop_chars (cursor : Cursor) (count : Nat) :
    (cursor.drop count).chars = cursor.chars.drop count := by
  induction count generalizing cursor with
  | zero => rfl
  | succ count ih =>
    obtain ⟨chars, index, line, column⟩ := cursor
    cases chars with
    | nil => rfl
    | cons c rest =>
      simp only [drop, ih, step]
      split <;> rfl

end Cursor

/-- How many characters of blank space and comments come next, and whether a line ends among them. In a flow
collection tabs are blank too. -/
def blankRun (flow comment : Bool) : List Char → Nat × Bool
  | [] => (0, false)
  | c :: rest =>
    if isBreak c then ((blankRun flow false rest).1 + 1, true)
    else if comment || c = ' ' || (flow && c = '\t') then
      ((blankRun flow comment rest).1 + 1, (blankRun flow comment rest).2)
    else if c = '#' then ((blankRun flow true rest).1 + 1, (blankRun flow true rest).2)
    else (0, false)

/-- Line breaks that come next among blanks: what they are kept as, how many characters they and the blanks
take, and whether a marker of documents ends them. -/
structure Breaks where
  kept : List Char
  length : Nat
  atMarker : Bool

def breaks (blank : Char → Bool) : List Char → Breaks
  | [] => ⟨[], 0, false⟩
  | c :: rest =>
    if isBreak c then
      if startsMarker rest then ⟨[keptBreak c], 1, true⟩
      else
        let more := breaks blank rest
        ⟨keptBreak c :: more.kept, more.length + 1, more.atMarker⟩
    else if blank c then
      let more := breaks blank rest
      ⟨more.kept, more.length + 1, more.atMarker⟩
    else ⟨[], 0, false⟩

/-- Folding turns a single newline into a space and leaves out the first of several breaks if it is a
newline. -/
def folded : List Char → List Char
  | '\n' :: [] => [' ']
  | '\n' :: more => more
  | kept => kept

structure Gap where
  text : List Char
  length : Nat
  broken : Bool
  atMarker : Bool

def gap (blank : Char → Bool) (chars : List Char) : Gap :=
  let blanks := chars.takeWhile blank
  let rest := chars.dropWhile blank
  match rest with
  | c :: _ =>
    if isBreak c then
      let lines := breaks blank rest
      ⟨folded lines.kept, blanks.length + lines.length, true, lines.atMarker⟩
    else ⟨blanks, blanks.length, false, false⟩
  | [] => ⟨blanks, blanks.length, false, false⟩

end TextTemplate.Yaml
