import ServiceStubs.DataType
import ServiceStubs.Service
import ServiceStubs.Text.Letter

/-!
# Identifiers of generated code

Declared names may be reserved words of a target, or no identifiers at all. `safeIdent` makes an
identifier of one name; `safeIdents` makes identifiers of all names of a scope and keeps them apart.
-/

namespace ServiceStubs

/-- The name of a method on the wire. -/
def qualifiedName (className methodName : String) : String :=
  className ++ "." ++ methodName

/-! ## One identifier -/

/-- The characters of a name, with `_` for each that cannot stand in an identifier. -/
def wordChars (name : List Char) : List Char :=
  name.map fun c => if Text.isWordChar c then c else '_'

/-- The name in identifier characters, with `_` in front where it is empty or begins with a digit. -/
def sanitized (name : String) : String :=
  match wordChars name.toList with
  | [] => "_"
  | c :: rest => String.ofList (if c.isDigit then '_' :: c :: rest else c :: rest)

/-- An identifier for `name`; reserved words get a `_` at their end. -/
def safeIdent (reserved : List String) (name : String) : String :=
  if sanitized name ∈ reserved then sanitized name ++ "_" else sanitized name

/-! ## The identifiers of a scope -/

/-- `ident` with as many `_` behind it as it takes, up to `tries`, to stay clear of `used`. -/
def extendUntilFree (used : List String) : Nat → String → String
  | 0, ident => ident
  | tries + 1, ident =>
    if ident ∈ used then extendUntilFree used tries (ident ++ "_") else ident

/-- `ident` with the fewest `_` behind it that keep it clear of `used`. Longer and longer identifiers
are pairwise different, so one more try than there are names in `used` always suffices. -/
def freshIdent (used : List String) (ident : String) : String :=
  extendUntilFree used used.length ident

/-- Identifiers for the pairs of an identifier and the name it was made of. A name that is its own
identifier keeps it; the others stay clear of all taken and reserved ones. -/
def settleIdents (reserved taken : List String) : List (String × String) → List String
  | [] => []
  | (ident, name) :: rest =>
    if ident = name then ident :: settleIdents reserved taken rest
    else
      let free := freshIdent (taken ++ reserved) ident
      free :: settleIdents reserved (free :: taken) rest

/-- Identifiers for the names of one scope, in order. -/
def safeIdents (reserved names : List String) : List String :=
  let pairs := names.map fun name => (safeIdent reserved name, name)
  let kept := (pairs.filter fun p => p.1 == p.2).map (·.1)
  settleIdents reserved kept pairs

/-- Identifiers of a parameter list, in order. -/
def paramIdents (reserved : List String) (params : List Parameter) : List String :=
  safeIdents reserved (params.map (·.name))

/-- The identifier of each field of a record, by declared name. -/
def fieldIdents (reserved : List String) (fields : List Field) : List (String × String) :=
  let names := fields.map (·.name)
  names.zip (safeIdents reserved names)

/-- The identifier that a field has in a table of identifiers; the last entry for a name counts. -/
def identOf (idents : List (String × String)) (f : Field) : String :=
  (idents.reverse.lookup f.name).getD f.name

/-! ## Defaults -/

/-- For each parameter, whether it and all parameters after it may be left out. Only these can have a
default where a target wants required parameters first. -/
def trailingOptional : List Parameter → List Bool
  | [] => []
  | p :: rest => (p.optional && (trailingOptional rest).all id) :: trailingOptional rest

end ServiceStubs
