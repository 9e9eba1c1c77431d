/-!
# Tokens of YAML

The units of a YAML text. Collections are bracketed by tokens of their own, whether they are written in
brackets or by indentation.
-/

namespace ServiceStubs.Yaml

/-- A unit of a YAML text. -/
inductive Token where
  | documentStart
  | documentEnd
  | version (major minor : Nat)
  | tagHandle (handle start : String)
  /-- The beginning of a sequence or mapping that is told by indentation. -/
  | sequenceStart
  | mappingStart
  | blockEnd
  | openSequence
  | closeSequence
  | openMapping
  | closeMapping
  | comma
  | dash
  | key
  | value
  | alias (anchor : String)
  | anchor (name : String)
  | tag (handle suffix : String)
  /-- A value. It is plain if it is written without quotes or a block mark. -/
  | scalar (text : String) (plain : Bool)
deriving DecidableEq, Repr

end ServiceStubs.Yaml
