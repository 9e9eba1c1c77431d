/-!
# Why a service cannot be read or a client cannot be written

`Error` lists the causes, `Error.message` gives each its text. A failure concerns one source file or
one target; the others go on.
-/

namespace ServiceStubs

/-- Constructs of a source file that have no meaning for a client. -/
inductive Unsupported where
  | computedMethodName (className : String)
  | staticMethod (className methodName : String)
  | patternParameter (className methodName : String)
  | computedProperty
  | propertyKey
  | computedField
  | uninitialisedMember (enumName memberName : String)
  | memberValue (enumName memberName : String)
deriving DecidableEq, Repr

/-- What is wrong with an unsupported construct. -/
def Unsupported.message : Unsupported → String
  | .computedMethodName c => "method of `" ++ c ++ "` has a computed name"
  | .staticMethod c m => "static method `" ++ c ++ "." ++ m ++ "` cannot be exposed"
  | .patternParameter c m => "parameters of `" ++ c ++ "." ++ m ++ "` must be plain identifiers"
  | .computedProperty => "unsupported computed property names"
  | .propertyKey => "unsupported property key"
  | .computedField => "unsupported computed class field names"
  | .uninitialisedMember e m => "enum member `" ++ e ++ "." ++ m ++ "` needs an initializer"
  | .memberValue e m => "enum member `" ++ e ++ "." ++ m ++ "` must be a string or number literal"

/-- Why the files of a target cannot be written. -/
inductive RenderFault where
  | pathClaimedTwice (path : String)
  | unexpectedModelFile (path : String)
deriving DecidableEq, Repr

/-- What is wrong with the files of a target. -/
def RenderFault.message : RenderFault → String
  | .pathClaimedTwice path => "two generated files claim `" ++ path ++ "`"
  | .unexpectedModelFile path => "no model files are generated, but `" ++ path ++ "` was planned"

/-- The causes of failure. -/
inductive Error where
  | syntaxError (path : String) (line column : Nat)
  | noExposedClass (path : String)
  | unresolvedType (name path : String)
  | mixedEnum (name : String)
  | unsupportedTarget (language : String)
  | unsupportedSource (path : String)
  | unsupportedSyntax (path : String) (construct : Unsupported)
  | sourceNotFound (path : String)
  | render (target : String) (fault : RenderFault)
deriving DecidableEq, Repr

/-- The text of a failure. A syntax error is told by its position. -/
def Error.message : Error → String
  | .syntaxError path line column => path ++ ":" ++ toString line ++ ":" ++ toString column
  | .noExposedClass path => path ++ ": no exposed class found"
  | .unresolvedType name path => path ++ ": cannot resolve type `" ++ name ++ "`"
  | .mixedEnum name => "enum `" ++ name ++ "` mixes string and numeric values"
  | .unsupportedTarget language => "unsupported target language `" ++ language ++ "`"
  | .unsupportedSource path => path ++ ": unsupported source language"
  | .unsupportedSyntax path construct => path ++ ": " ++ construct.message
  | .sourceNotFound path => path ++ ": source file not found"
  | .render target fault => "rendering " ++ target ++ " failed: " ++ fault.message

end ServiceStubs
