import BezelStream.Value.Conversion

/-! # Why a document cannot be loaded -/

namespace BezelStream.Yaml

/-- What is wrong with a document. -/
inductive Flaw where
  /-- It is not well formed, or it names a tag that has no meaning here. -/
  | malformed
  | duplicateKey (key : Scalar)
  /-- A node does not fit its tag or its place. -/
  | mismatch (reason : Mismatch)
  deriving Repr, DecidableEq

end BezelStream.Yaml
