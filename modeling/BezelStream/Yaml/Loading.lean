import BezelStream.Stack
import BezelStream.Yaml.Construction
import BezelStream.Yaml.Lexer

/-! # Loading a document -/

namespace BezelStream.Yaml

/-- The value of the only document of a text; a text without a document is the absence
    of a value. -/
def valueIn (text : String) : Except Flaw Value := do
  match ← Tree.ofTokens? (← tokens text.toList) with
  | none => return .scalar .null
  | some tree =>
    let (graph, root) ← Graph.ofTree tree
    valueOf graph root

/-- The value in a text, if the stack suffices for it. -/
def load (stack : Stack) (text : String) : Except Flaw Value :=
  if stack.loads text then valueIn text else .error (.mismatch .tooDeep)

end BezelStream.Yaml
