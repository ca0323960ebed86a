import TextTemplate.CommandLine.Words

/-!
The arguments of the command line: options for all commands, then a command with its own options and
arguments. They are read from left to right; asking for the version ends the reading.
-/

namespace TextTemplate.CommandLine

/-- A variable that was set to nothing is none. -/
inductive Task where
  | render (template : String) (context : Option String) (vars : List (Option String))
  | ast (template : String)
  | tokens (template : String)
  | filters
  deriving DecidableEq, Repr

structure Invocation where
  config : Option String
  debug : Bool
  task : Task
  deriving DecidableEq, Repr

inductive Arguments where
  | run (invocation : Invocation)
  | version
  | help
  | misuse
  deriving DecidableEq, Repr

def helpOptions : OptionTable :=
  [("-h".toList, .help), ("--help".toList, .help)]

def mainOptions : OptionTable :=
  helpOptions ++
    [("-v".toList, .version), ("--version".toList, .version), ("--config".toList, .config),
      ("--debug".toList, .debug)]

def renderOptions : OptionTable :=
  helpOptions ++ [("--context".toList, .context), ("--var".toList, .var)]

structure Setting where
  name : OptionName
  value : Option String
  deriving DecidableEq, Repr

structure Reading where
  settings : List Setting
  taken : Nat

/-- An attached value; two dashes are none. -/
def attachedValue (text : List Char) : Option String :=
  if text = ['-', '-'] then none else some (String.ofList text)

/-- What an option makes of what is attached to it and of the words after it. Letters that are attached to
a flag of one letter are more flags. -/
def settings? (options : OptionTable) (name : OptionName) (spelling : List Char)
    (attached : Option (List Char)) (rest : List Word) : Option Reading :=
  if name.takesValue then
    match attached, rest with
    | some text, _ => some ⟨[⟨name, attachedValue text⟩], 0⟩
    | none, .argument text :: _ => some ⟨[⟨name, some (String.ofList text)⟩], 1⟩
    | none, _ => none
  else
    match attached with
    | none => some ⟨[⟨name, none⟩], 0⟩
    | some letters =>
      if spelling.take 2 = ['-', '-'] || letters.isEmpty then none
      else (flags? options letters).map fun more => ⟨(name :: more).map (⟨·, none⟩), 0⟩

structure CommandWords where
  settings : List Setting
  arguments : List String
  wellFormed : Bool
  help : Bool

/-- Reads the words of a command that takes `wanted` arguments; `skip` words were read already. Two dashes
are passed over only before or directly after the argument that the command takes. -/
def readCommand (options : OptionTable) (wanted skip : Nat) (got : CommandWords) : List Word → CommandWords
  | [] => got
  | word :: rest =>
    match skip with
    | skip + 1 => readCommand options wanted skip got rest
    | 0 =>
      match word with
      | .unknown => readCommand options wanted 0 { got with wellFormed := false } rest
      | .separator =>
        let allowed := got.arguments.length < wanted && !rest.isEmpty
        readCommand options wanted 0 { got with wellFormed := got.wellFormed && allowed } rest
      | .argument text =>
        let skip := if got.arguments.length < wanted && rest.head? = some .separator then 1 else 0
        readCommand options wanted skip
          { got with arguments := got.arguments ++ [String.ofList text] } rest
      | .option name spelling attached =>
        match settings? options name spelling attached rest with
        | none => { got with wellFormed := false }
        | some reading =>
          if reading.settings.any (·.name = .help) then { got with help := true }
          else
            readCommand options wanted reading.taken
              { got with settings := got.settings ++ reading.settings } rest

def lastValue? (settings : List Setting) (name : OptionName) : Option String :=
  (settings.filter (·.name = name)).getLast?.bind Setting.value

def values (settings : List Setting) (name : OptionName) : List (Option String) :=
  (settings.filter (·.name = name)).map Setting.value

structure Command where
  name : List Char
  options : OptionTable
  wanted : Nat
  task : List Setting → List String → Option Task

def onTemplate (task : String → Task) (_ : List Setting) : List String → Option Task
  | [template] => some (task template)
  | _ => none

def commands : List Command :=
  [⟨"render".toList, renderOptions, 1, fun settings arguments =>
      match arguments with
      | [template] => some (.render template (lastValue? settings .context) (values settings .var))
      | _ => none⟩,
    ⟨"ast".toList, helpOptions, 1, onTemplate .ast⟩,
    ⟨"tokens".toList, helpOptions, 1, onTemplate .tokens⟩,
    ⟨"filters".toList, helpOptions, 0, fun _ arguments =>
      if arguments.isEmpty then some .filters else none⟩]

def readTask (settings : List Setting) (wellFormed : Bool) (name : List Char) (rest : List (List Char)) :
    Arguments :=
  match commands.find? fun command => command.name = name with
  | none => .misuse
  | some command =>
    match wordsOf command.options rest with
    | none => .misuse
    | some words =>
      let got := readCommand command.options command.wanted 0 ⟨[], [], true, false⟩ words
      if got.help then .help
      else
        match wellFormed && got.wellFormed, command.task got.settings got.arguments with
        | true, some task =>
          .run ⟨lastValue? settings .config, settings.any (·.name = .debug), task⟩
        | _, _ => .misuse

def readMain (skip : Nat) (settings : List Setting) (wellFormed : Bool) :
    List Word → List (List Char) → Arguments
  | word :: rest, _ :: texts =>
    match skip with
    | skip + 1 => readMain skip settings wellFormed rest texts
    | 0 =>
      match word with
      | .separator => .misuse
      | .unknown => readMain 0 settings false rest texts
      | .argument name => readTask settings wellFormed name texts
      | .option name spelling attached =>
        match settings? mainOptions name spelling attached rest with
        | none => .misuse
        | some reading =>
          match reading.settings.find? fun setting => setting.name = .version || setting.name = .help with
          | some setting => if setting.name = .version then .version else .help
          | none =>
            readMain reading.taken (settings ++ reading.settings) wellFormed rest texts
  | _, _ => .misuse

def readArguments (arguments : List String) : Arguments :=
  let texts := arguments.map String.toList
  match wordsOf mainOptions texts with
  | none => .misuse
  | some words => readMain 0 [] true words texts

end TextTemplate.CommandLine
