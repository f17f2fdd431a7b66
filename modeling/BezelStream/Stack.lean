import BezelStream.Value

/-! # The stack of the interpreter

Documents are loaded by recursion, and values are shown by recursion. How deep that may go is not
said by a document: it depends on the interpreter and on what its stack holds already. So a host
says of each text and each value whether there is stack enough.
-/

namespace BezelStream

/-- What a host has stack enough for. -/
structure Stack where
  /-- Whether the text can be loaded before the stack ends. -/
  loads : String → Bool
  /-- Whether the value can be shown in a message before the stack ends. -/
  shows : Value → Bool

/-- A stack that does not end. -/
def Stack.unbounded : Stack where
  loads _ := true
  shows _ := true

end BezelStream
