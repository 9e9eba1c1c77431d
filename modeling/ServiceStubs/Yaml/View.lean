import ServiceStubs.Yaml.Node

/-!
# What a node means to a reader who expects something

A value is a text, however it is written; a plain value can also say that there is none. Each view is
`none` for nodes of the wrong shape.

Main definitions:

* `Node.text?` and `Node.optionalText?` view values;
* `Node.items?` views sequences, `Node.fields?` mappings with known keys;
* `Node.choice?` views values that name one of several alternatives.
-/

namespace ServiceStubs.Yaml.Node

/-- The plain values that say that there is nothing. -/
def nullWords : List String :=
  ["null", "Null", "NULL", "~"]

/-- The tag of a value that says that there is nothing. -/
def nullTag : String := "tag:yaml.org,2002:null"

/-- The text of a value. -/
def text? : Node → Option String
  | .scalar text _ _ => some text
  | _ => none

/-- The text of a value, or `none` where a value says that there is nothing. -/
def optionalText? : Node → Option (Option String)
  | .scalar text false _ => some (some text)
  | .scalar text true none => some (if text = "" ∨ text ∈ nullWords then none else some text)
  | .scalar text true (some tag) =>
    if tag ≠ nullTag then some (some text)
    else if text ∈ nullWords then some none
    else none
  | _ => none

/-- The entries of a sequence. Where nothing is written, there are none. -/
def items? : Node → Option (List Node)
  | .sequence items => some items
  | .scalar "" true _ => some []
  | _ => none

/-- The name of an alternative. A value names it, or a local tag in front of nothing. -/
def choice? : Node → Option String
  | .scalar text plain tag =>
    match tag.map String.toList with
    | some ('!' :: name) =>
      if plain && (text = "" || nullWords.contains text) then some (String.ofList name) else none
    | _ => some text
  | _ => none

/-- Whether a table has a key twice. -/
def hasRepeatedKey (fields : List (String × Node)) : Bool :=
  fields.any fun f => 1 < (fields.map Prod.fst).count f.1

/-- The values under known keys, each of which may occur once. Values under other keys are passed over,
but every key must be a value. -/
def fields? (known : List String) : Node → Option (List (String × Node))
  | .mapping entries => do
    let named ← entries.mapM fun (key, value) => key.text?.map fun text => (text, value)
    let fields := named.filter fun f => known.contains f.1
    if hasRepeatedKey fields then none else some fields
  | .scalar "" true _ => some []
  | _ => none

/-- What a view finds under a key. -/
def required? {α : Type} (view : Node → Option α) (key : String) (fields : List (String × Node)) :
    Option α :=
  (fields.lookup key).bind view

/-- What a view finds under a key, if the key is there, and `default` if it is not. -/
def optional? {α : Type} (view : Node → Option α) (default : α) (key : String)
    (fields : List (String × Node)) : Option α :=
  match fields.lookup key with
  | some value => view value
  | none => some default

/-- What a view finds in the entries of a sequence. -/
def list? {α : Type} (view : Node → Option α) (n : Node) : Option (List α) :=
  n.items?.bind fun items => items.mapM view

end ServiceStubs.Yaml.Node
