import TextTemplate.Text.CodePoint

/-!
Mistakes in settings, located by the path of keys that leads to them.
-/

namespace TextTemplate

structure ConfigError where
  path : List Text
  detail : String
  deriving DecidableEq, Repr

def ConfigError.message (error : ConfigError) : Text :=
  match error.path with
  | [] => .ofString error.detail
  | path => [.char '.'].intercalate path ++ .ofString (": " ++ error.detail)

end TextTemplate
