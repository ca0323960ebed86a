import TextTemplate.CommandLine.Run

/-!
The program: reads the files that its arguments name, runs the command on them, and prints what it yields.
-/

namespace TextTemplate.CommandLine

def Invocation.files (invocation : Invocation) : List String :=
  let template :=
    match invocation.task with
    | .render template .. => [template]
    | .ast template => [template]
    | .tokens template => [template]
    | .filters => []
  let context :=
    match invocation.task with
    | .render _ context _ => context.toList
    | _ => []
  defaultConfigFile :: invocation.config.toList ++ context
    ++ template.filterMap fun text =>
      match text.toList with
      | '@' :: name => some (String.ofList name)
      | _ => none

def readsInput (invocation : Invocation) : Bool :=
  match invocation.task with
  | .render template .. => template == "-"
  | .ast template => template == "-"
  | .tokens template => template == "-"
  | .filters => false

def lookAt (path : Path) : IO Found := do
  if path.text.toList.contains '\x00' then return .missing
  if path.isTooLong || path.parts.any Path.isNameTooLong then return .nameTooLong
  let place := (← IO.currentDir) / path.text
  if ← place.isDir then return .directory
  else if ← place.pathExists then
    return .file ((← IO.FS.readBinFile place).toList.map (·.toNat))
  else return .missing

partial def readAll (stream : IO.FS.Stream) (read : String) : IO String := do
  let line ← stream.getLine
  if line.isEmpty then return read else readAll stream (read ++ line)

def helpText : String :=
  "usage: tplexpr [-h] [-v] [--config FILE] [--debug] \x7brender,ast,tokens,filters\x7d ...\n"

def crashText : Crash → String
  | .badKey => "a key holds a list or a mapping"
  | .overflow => "a number is too large"
  | .nameTooLong => "a file name is too long"
  | .filter failure => String.ofList (Text.escaped failure.message)

def execute (arguments : List String) : IO UInt32 := do
  let (paths, input) ←
    match readArguments arguments with
    | .run invocation => do
      let input ← if readsInput invocation then readAll (← IO.getStdin) "" else pure ""
      pure (invocation.files.map Path.ofString, input)
    | _ => pure ([], "")
  let found ← paths.mapM fun path => do return (path, ← lookAt path)
  let outcome := run
    ⟨(← IO.currentDir).toString, fun path => (found.lookup path).getD .missing, input,
      ← IO.getEnv Note.cacheVariable, ← IO.getEnv "TPLEXPR_DEBUG"⟩ arguments
  (← IO.getStdout).putStr outcome.output
  (← IO.getStderr).putStr outcome.errors
  match outcome with
  | .help => (← IO.getStdout).putStr helpText
  | .misuse => (← IO.getStderr).putStr helpText
  | .crashed crash => (← IO.getStderr).putStrLn (crashText crash)
  | _ => pure ()
  return outcome.exitCode.toUInt32

end TextTemplate.CommandLine

def main (arguments : List String) : IO UInt32 :=
  TextTemplate.CommandLine.execute arguments
