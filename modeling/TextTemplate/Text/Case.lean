import TextTemplate.Text.Blank
import TextTemplate.Text.CaseTable

/-!
Full case mapping: a character may map to several, and a capital sigma becomes its final form at the end
of a word.
-/

namespace TextTemplate.Text

def CaseRun.covers (run : CaseRun) (code : Nat) : Bool :=
  run.first ≤ code && code ≤ run.last && (code - run.first) % run.step == 0

def mapPoint (runs : List CaseRun) (expansions : List (Nat × List Nat)) (point : CodePoint) : Text :=
  match expansions.lookup point.code with
  | some codes => ofChars (codes.map Char.ofNat)
  | none =>
    match runs.find? fun run => run.covers point.code with
    | some run => ofChars [Char.ofNat (run.target + (point.code - run.first))]
    | none => [point]

def upperPoint : CodePoint → Text :=
  mapPoint upperRuns upperExpansions

def lowerPoint : CodePoint → Text :=
  mapPoint lowerRuns lowerExpansions

def upper (text : Text) : Text :=
  text.flatMap upperPoint

def meetsCased (text : Text) : Bool :=
  match text.dropWhile fun point => inRanges caseIgnorableRanges point.code with
  | [] => false
  | point :: _ => inRanges casedRanges point.code

/-- A sigma is final after a cased code point and before none; `before` lists the nearest one first. -/
def isFinalSigma (before after : Text) : Bool :=
  meetsCased before && !meetsCased after

def lowerAfter (before : Text) : Text → Text
  | [] => []
  | point :: after =>
    if point = .char 'Σ' then
      .char (if isFinalSigma before after then 'ς' else 'σ') :: lowerAfter (point :: before) after
    else
      lowerPoint point ++ lowerAfter (point :: before) after

def lower (text : Text) : Text :=
  lowerAfter [] text

/-- Puts the first code point into upper case and the rest, taken as a text of its own, into lower case. -/
def capitalize : Text → Text
  | [] => []
  | point :: rest => upperPoint point ++ lower rest

end TextTemplate.Text
