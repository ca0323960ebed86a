import TextTemplate.Text.Integer

/-!
Telling options from other arguments. An option is known by its full name or by a beginning that no other
option shares; a value may be attached with an equals sign, and flags of one letter may be written
together. Numbers, texts with a space, a lone dash, and all that follows two dashes are no options.
-/

namespace TextTemplate.CommandLine

inductive OptionName where
  | help
  | version
  | config
  | debug
  | context
  | var
  deriving DecidableEq, Repr

def OptionName.takesValue : OptionName → Bool
  | config | context | var => true
  | _ => false

abbrev OptionTable := List (List Char × OptionName)

/-- With an option stands what is attached to it in the same word, after an equals sign or directly. -/
inductive Word where
  | argument (text : List Char)
  | option (name : OptionName) (spelling : List Char) (attached : Option (List Char))
  | unknown
  | separator
  deriving DecidableEq, Repr

def splitEquals? : List Char → Option (List Char × List Char)
  | [] => none
  | c :: rest =>
    if c = '=' then some ([], rest) else (splitEquals? rest).map fun (name, value) => (c :: name, value)

def isDigit (c : Char) : Bool :=
  (Text.digitValue? c).isSome

def isNegativeNumber (text : List Char) : Bool :=
  match text with
  | '-' :: body =>
    let body := if body.getLast? = some '\n' then body.dropLast else body
    match body.dropWhile isDigit with
    | [] => !body.isEmpty
    | '.' :: fraction => !fraction.isEmpty && fraction.all isDigit
    | _ => false
  | _ => false

/-- The options that an abbreviated spelling may mean, each with its attached value. -/
def candidates (options : OptionTable) (text : List Char) : List Word :=
  match text with
  | '-' :: '-' :: _ =>
    let (start, attached) :=
      match splitEquals? text with
      | some (start, value) => (start, some value)
      | none => (text, none)
    (options.filter fun (spelling, _) => start.isPrefixOf spelling).map fun (spelling, name) =>
      .option name spelling attached
  | _ =>
    options.filterMap fun (spelling, name) =>
      if spelling = text.take 2 then some (.option name spelling (some (text.drop 2)))
      else if text.isPrefixOf spelling then some (.option name spelling none)
      else none

def spelledOut? (options : OptionTable) (text : List Char) : Option Word :=
  match options.lookup text with
  | some name => some (.option name text none)
  | none =>
    match splitEquals? text with
    | some (start, value) =>
      (options.lookup start).map fun name => .option name start (some value)
    | none => none

/-- What an argument is; none if it may mean several options. -/
def classify (options : OptionTable) (text : List Char) : Option Word :=
  match text with
  | '-' :: _ :: _ =>
    match spelledOut? options text with
    | some word => some word
    | none =>
      match candidates options text with
      | [word] => some word
      | [] => some (if isNegativeNumber text || text.contains ' ' then .argument text else .unknown)
      | _ => none
  | _ => some (.argument text)

def wordsOf (options : OptionTable) : List (List Char) → Option (List Word)
  | [] => some []
  | text :: rest =>
    if text = ['-', '-'] then some (.separator :: rest.map .argument)
    else do return (← classify options text) :: (← wordsOf options rest)

def flags? (options : OptionTable) (letters : List Char) : Option (List OptionName) :=
  letters.mapM fun letter => options.lookup ['-', letter]

end TextTemplate.CommandLine
