import TextTemplate.Node
import TextTemplate.Text.Json

/-!
Nodes as documents, and back. The type of a node is its first field; reading takes the fields in the order
in which they are written.
-/

namespace TextTemplate.Node

def record (node : Node) (fields : List (String × Json)) : Json :=
  .object (("type", .text node.typeName) :: fields)

mutual

def toJson : Node → Json
  | text value => record (text value) [("value", .text value)]
  | template expression => record (template expression) [("expression", toJson expression)]
  | var name => record (var name) [("name", .text name)]
  | string value => record (string value) [("value", .text value)]
  | filter name args => record (filter name args) [("name", .text name), ("args", .list (toJsons args))]
  | pipe left name args =>
    record (pipe left name args)
      [("left", toJson left),
        ("filter", record (filter name args) [("name", .text name), ("args", .list (toJsons args))])]
  | ternary condition whenTrue whenFalse =>
    record (ternary condition whenTrue whenFalse)
      [("condition", toJson condition), ("true_expr", toJson whenTrue), ("false_expr", toJson whenFalse)]
  | or left right => record (or left right) [("left", toJson left), ("right", toJson right)]

def toJsons : List Node → List Json
  | [] => []
  | node :: rest => toJson node :: toJsons rest

end

mutual

def ofJson? : Json → Option Node
  | .object [("type", .text "TEXT"), ("value", .text value)] => some (text value)
  | .object [("type", .text "TEMPLATE"), ("expression", expression)] =>
    (ofJson? expression).map template
  | .object [("type", .text "VARIABLE"), ("name", .text name)] => some (var name)
  | .object [("type", .text "STRING"), ("value", .text value)] => some (string value)
  | .object [("type", .text "FILTER"), ("name", .text name), ("args", .list args)] =>
    (ofJsons? args).map (filter name)
  | .object [("type", .text "PIPE"), ("left", left),
      ("filter", .object [("type", .text "FILTER"), ("name", .text name), ("args", .list args)])] => do
    return pipe (← ofJson? left) name (← ofJsons? args)
  | .object [("type", .text "TERNARY"), ("condition", condition), ("true_expr", whenTrue),
      ("false_expr", whenFalse)] => do
    return ternary (← ofJson? condition) (← ofJson? whenTrue) (← ofJson? whenFalse)
  | .object [("type", .text "OR"), ("left", left), ("right", right)] => do
    return or (← ofJson? left) (← ofJson? right)
  | _ => none

def ofJsons? : List Json → Option (List Node)
  | [] => some []
  | document :: rest => do return (← ofJson? document) :: (← ofJsons? rest)

end

end TextTemplate.Node
