import ServiceStubs.Text.Quoted

/-!
# JSON documents

The part of JSON that summaries use, written over several lines: each entry stands on a line of its
own, two spaces further in than what it belongs to.
-/

namespace ServiceStubs

/-- A JSON document. -/
inductive JsonDocument where
  | string (value : String)
  | array (items : List JsonDocument)
  | object (entries : List (String × JsonDocument))

/-- The start of a line at a depth of nesting. -/
def JsonDocument.newline (depth : Nat) : String :=
  "\n" ++ String.ofList (List.replicate (2 * depth) ' ')

mutual

/-- The text of a document that begins at a depth of nesting. -/
def JsonDocument.pretty (depth : Nat) : JsonDocument → String
  | .string value => Text.jsonQuoted value
  | .array [] => "[]"
  | .array items =>
    "[" ++ ",".intercalate (JsonDocument.prettyItems (depth + 1) items) ++ JsonDocument.newline depth ++ "]"
  | .object [] => "\x7b\x7d"
  | .object entries =>
    "\x7b" ++ ",".intercalate (JsonDocument.prettyEntries (depth + 1) entries) ++ JsonDocument.newline depth ++
      "\x7d"

/-- The items of an array, each on its line. -/
def JsonDocument.prettyItems (depth : Nat) : List JsonDocument → List String
  | [] => []
  | item :: rest => (JsonDocument.newline depth ++ item.pretty depth) :: JsonDocument.prettyItems depth rest

/-- The entries of an object, each on its line. -/
def JsonDocument.prettyEntries (depth : Nat) : List (String × JsonDocument) → List String
  | [] => []
  | (key, value) :: rest =>
    (JsonDocument.newline depth ++ Text.jsonQuoted key ++ ": " ++ value.pretty depth) ::
      JsonDocument.prettyEntries depth rest

end

end ServiceStubs
