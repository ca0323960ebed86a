import TextTemplate.Node

/-!
Nodes in the syntax of templates. String literals are written in single quotes, with a backslash before
each single quote and each backslash.
-/

namespace TextTemplate

def printLiteral (value : List Char) : List Char :=
  '\'' :: (value.flatMap fun c => if c = '\\' || c = '\'' then ['\\', c] else [c]) ++ ['\'']

namespace Node

mutual

def chars : Node → List Char
  | text value => value.toList
  | template expression => ['{', '{', ' '] ++ chars expression ++ [' ', '}', '}']
  | var name => name.toList
  | string value => printLiteral value.toList
  | filter name args => name.toList ++ argChars args
  | pipe left name args => chars left ++ [' ', '|', ' '] ++ name.toList ++ argChars args
  | ternary condition whenTrue whenFalse =>
    chars condition ++ [' ', '?', ' '] ++ chars whenTrue ++ [' ', ':', ' '] ++ chars whenFalse
  | or left right => chars left ++ [' ', 'o', 'r', ' '] ++ chars right

def argChars : List Node → List Char
  | [] => []
  | arg :: rest => ' ' :: chars arg ++ argChars rest

end

def print (node : Node) : String :=
  String.ofList node.chars

def printAll (nodes : List Node) : String :=
  String.ofList (nodes.flatMap chars)

end Node

end TextTemplate
