import TextTemplate.Yaml.Cursor

/-!
Text in quotes. In single quotes a quote is written twice; in double quotes a backslash starts an escape.
Lines are folded in both.
-/

namespace TextTemplate.Yaml

structure QuotedText where
  value : Text
  length : Nat

def QuotedText.after (value : Text) (length : Nat) (text : QuotedText) : QuotedText :=
  ⟨value ++ text.value, length + text.length⟩

def hexDigit? (c : Char) : Option Nat :=
  if c.isDigit then some (c.toNat - '0'.toNat)
  else if 'a' ≤ c && c ≤ 'f' then some (c.toNat - 'a'.toNat + 10)
  else if 'A' ≤ c && c ≤ 'F' then some (c.toNat - 'A'.toNat + 10)
  else none

def hexNumber? (width value : Nat) (chars : List Char) : Option Nat :=
  match width, chars with
  | 0, _ => some value
  | _ + 1, [] => none
  | width + 1, c :: rest => (hexDigit? c).bind fun digit => hexNumber? width (16 * value + digit) rest

def simpleEscapes : List (Char × Char) :=
  [('0', '\x00'), ('a', '\x07'), ('b', '\x08'), ('t', '\t'), ('\t', '\t'), ('n', '\n'), ('v', '\x0b'),
    ('f', '\x0c'), ('r', '\r'), ('e', '\x1b'), (' ', ' '), ('"', '"'), ('/', '/'), ('\\', '\\'),
    ('N', '\x85'), ('_', '\xa0'), ('L', '\u2028'), ('P', '\u2029')]

def escapeWidths : List (Char × Nat) :=
  [('x', 2), ('u', 4), ('U', 8)]

def spelledPoint (code : Nat) : Except ReadFault CodePoint :=
  match CodePoint.ofCode? code with
  | some point => .ok point
  | none =>
    if code < Nat.pow 2 31 then .error (.badScalar "chr() arg not in range(0x110000)") else .error .overflow

/-- What a backslash and the characters after it stand for; the length does not count the backslash. A
backslash joins lines: it takes away the break that follows it. -/
def escape : List Char → Except ReadFault QuotedText
  | [] => .error .malformed
  | c :: rest =>
    if isBreak c then
      let lines := breaks isSpaceOrTab (c :: rest)
      if lines.atMarker then .error .malformed
      else .ok ⟨Text.ofChars (lines.kept.drop 1), lines.length⟩
    else
      match simpleEscapes.lookup c, escapeWidths.lookup c with
      | some plain, _ => .ok ⟨[.char plain], 1⟩
      | none, some width =>
        match hexNumber? width 0 rest with
        | some code => (spelledPoint code).map fun point => ⟨[point], 1 + width⟩
        | none => .error .malformed
      | none, none => .error .malformed

def quotedRest (mark : Char) : List Char → Except ReadFault QuotedText
  | [] => .error .malformed
  | c :: rest =>
    if c = mark then
      if mark = '\'' && rest.head? = some '\'' then
        (quotedRest mark (rest.drop 1)).map (QuotedText.after [.char '\''] 2)
      else .ok ⟨[], 1⟩
    else if mark = '"' && c = '\\' then
      match escape rest with
      | .error fault => .error fault
      | .ok first =>
        (quotedRest mark (rest.drop first.length)).map (QuotedText.after first.value (1 + first.length))
    else if isSpaceOrTab c || isBreak c then
      let space := gap isSpaceOrTab (c :: rest)
      if space.atMarker then .error .malformed
      else
        (quotedRest mark (rest.drop (space.length - 1))).map
          (QuotedText.after (Text.ofChars space.text) space.length)
    else (quotedRest mark rest).map (QuotedText.after [.char c] 1)
termination_by chars => chars.length
decreasing_by all_goals simp only [List.length_drop, List.length_cons]; omega

end TextTemplate.Yaml
