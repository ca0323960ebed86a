import TextTemplate.Yaml.Cursor

/-!
Text without quotes. It goes on over line ends as long as its lines are indented deep enough, and ends at a
colon before a blank, at a comment, and in a flow collection at one of its marks.
-/

namespace TextTemplate.Yaml

def isFlowMark (c : Char) : Bool :=
  [',', '[', ']', '{', '}'].contains c

def wordFrom (flow : Bool) : List Char → List Char
  | [] => []
  | c :: rest =>
    if endsWord [c] || (c = ':' && endsWord rest) || (flow && isFlowMark c) then []
    else c :: wordFrom flow rest

/-- The next word, which is none before a comment. -/
def plainWord (flow : Bool) (chars : List Char) : List Char :=
  if chars.head? = some '#' then [] else wordFrom flow chars

theorem ne_nil_of_plainWord {flow : Bool} {chars : List Char} (word : plainWord flow chars ≠ []) :
    chars ≠ [] := by
  rintro rfl
  simp [plainWord, wordFrom] at word

def startsPlain (flow : Bool) : List Char → Bool
  | [] => false
  | c :: rest =>
    if isSpaceOrTab c || isBreak c || ['-', '?', ':', ',', '[', ']', '{', '}', '#', '&', '*', '!', '|', '>',
        '\'', '"', '%', '@', Char.ofNat 0x60].contains c then
      (c = '-' && !endsWord rest) || (c = '?' && !flow && !endsWord rest)
        || (c = ':' && if flow then !(rest.head?.any isSpaceOrTab) else !endsWord rest)
    else true

structure PlainText where
  text : List Char
  after : Cursor
  broken : Bool

/-- The words from the cursor on; lines after the first have to start at `column` or further right, unless
in a flow collection. -/
def plainText (flow : Bool) (column : Int) (cursor : Cursor) : PlainText :=
  let word := plainWord flow cursor.chars
  if plainWord flow cursor.chars = [] then ⟨[], cursor, false⟩
  else
    let space := gap isSpace (cursor.chars.drop word.length)
    let next := cursor.drop (word.length + space.length)
    if space.text.isEmpty || space.atMarker || (!flow && (next.column : Int) < column) then
      ⟨word, next, space.broken⟩
    else
      let more := plainText flow column next
      if more.text.isEmpty then ⟨word, next, space.broken⟩
      else { more with text := word ++ space.text ++ more.text }
termination_by cursor.chars.length
decreasing_by
  rename_i stop _
  have := List.length_pos_iff.mpr (ne_nil_of_plainWord stop)
  have := List.length_pos_iff.mpr stop
  simp only [Cursor.drop_chars, List.length_drop]
  omega

end TextTemplate.Yaml
