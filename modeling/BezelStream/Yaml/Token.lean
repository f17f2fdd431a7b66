import BezelStream.Yaml.Flaw

/-! # Tokens of a document -/

namespace BezelStream.Yaml

/-- What a directive line says. -/
inductive Directive where
  | version (major minor : Nat)
  | tag (handle start : String)
  /-- A directive of another name, without effect. -/
  | other
  deriving Repr, DecidableEq

/-- A token: an indicator, a scalar, or a place where a block begins or ends. -/
inductive Token where
  | directive (d : Directive)
  | documentStart
  | documentEnd
  | blockSequenceStart
  | blockMappingStart
  | blockEnd
  | flowSequenceStart
  | flowSequenceEnd
  | flowMappingStart
  | flowMappingEnd
  | blockEntry
  | flowEntry
  | key
  | value
  | alias (name : String)
  | anchor (name : String)
  /-- A tag for the node that follows; without a handle the suffix is the whole tag. -/
  | tag (handle : Option String) (suffix : String)
  | scalar (text : CodePoints) (plain : Bool)
  /-- A scalar or a directive that cannot be built; nothing behind it is read. -/
  | flawed (flaw : Flaw)
  | streamEnd
  deriving Repr, DecidableEq

end BezelStream.Yaml
