import ServiceStubs.Source.Grammar.Statements

/-!
# Statements of modules

Imports and exports in all their forms, and plain statements. Names that are imported or exported as
strings count like identifiers.

`Grammar.wholeItem` reads a statement of a module.
-/

namespace ServiceStubs.Source.Grammar

open Parse

variable (g : Grammar)

/-! ## Names and specifiers -/

/-- A name of an export, an identifier or a string. -/
def moduleName : Parse String := do
  match ← lexeme with
  | .string value =>
    advance
    return value
  | _ => anyWord

/-- Whether the current token is the name of an export. -/
def atModuleName : Parse Bool := do
  let found ← lexeme
  return isAnyWord found || found matches .string _

/-- The attributes of an import. -/
def importAttributes : Parse Unit := do
  if (← atWord "with") || ((← atWord "assert") && !(← afterLineBreak)) then
    advance
    expectMark "\x7b"
    let _ ← commaList g.bound "\x7d" g.objectProperty
    return ()

/-- The module that names come from, after `from`. -/
def sourceModule : Parse String := do
  let specifier ← stringValue
  g.importAttributes
  expectEnd
  return specifier

/-- One entry of a list of imported or exported names: the name before `as` and the name after it. The word
`type` in front of an entry says nothing about the names; it can also be a name itself. -/
def namePair : Parse (String × Option String) := do
  let first ← moduleName
  if g.typed && first = "type" && (← atModuleName) then
    -- `type` may be the modifier or a name that is exported, and so may each `as` after it: how many of them
    -- stand in a row tells which is meant.
    if ← skipWord "as" then
      if ← skipWord "as" then
        if ← atModuleName then return ("as", some (← moduleName))
        else return ("type", some "as")
      else if ← atModuleName then return ("type", some (← moduleName))
      else return ("as", none)
    else
      let inner ← moduleName
      if ← skipWord "as" then return (inner, some (← moduleName)) else return (inner, none)
  else if ← skipWord "as" then return (first, some (← moduleName))
  else return (first, none)

/-- An entry of an import list. A name that is a string needs another one. -/
def importEntry : Parse ImportedName := do
  let isString := (← lexeme) matches .string _
  match ← g.namePair with
  | (imported, some localName) => return ⟨localName, imported⟩
  | (imported, none) =>
    if isString then fail
    return ⟨imported, imported⟩

/-- An entry of an export list. -/
def exportEntry : Parse ExportedName := do
  match ← g.namePair with
  | (localName, some exported) => return ⟨localName, exported⟩
  | (localName, none) => return ⟨localName, localName⟩

/-! ## Imports -/

/-- A module or name to which an import gives another name, after the equals sign. -/
def importAliasRest : Parse Item := do
  if (← atWord "require") && isMark "(" (← lexemeAfter) then
    advance
    advance
    let _ ← stringValue
    expectMark ")"
  else
    let _ ← anyWord
    let _ ← g.dottedNames
  expectEnd
  return .other

/-- The names in an import after the first one. -/
def importList : Parse (List ImportedName) := do
  if ← skipMark "*" then
    expectWord "as"
    let _ ← name
    return []
  else
    expectMark "\x7b"
    commaList g.bound "\x7d" g.importEntry

/-- Whether `type` after `import` says that types are imported. Before `from` it is a name, unless another
`from` follows. -/
def atImportedTypes : Parse Bool := do
  let following := (← get).next
  let last := following.next.lexeme
  return g.typed && (← atWord "type") &&
    (isMark "\x7b" following.lexeme || isMark "*" following.lexeme ||
      (isName following.lexeme &&
        (!isWord "from" following.lexeme || isWord "from" last || isMark "=" last || isMark "," last)))

/-- An import, after its keyword. -/
def importRest : Parse Item := do
  -- An import without names runs the module and binds nothing.
  if (← lexeme) matches .string _ then
    let specifier ← g.sourceModule
    return .imports [] specifier
  if ← g.atImportedTypes then advance
  if ← atName then
    let localName ← name
    if ← g.skipTypeMark "=" then g.importAliasRest
    else
      let more ← if ← skipMark "," then g.importList else pure []
      expectWord "from"
      return .imports (⟨localName, "default"⟩ :: more) (← g.sourceModule)
  else
    let names ← g.importList
    expectWord "from"
    return .imports names (← g.sourceModule)

/-! ## Exports -/

/-- A default export, after its keywords. -/
def exportDefaultRest (docs : Option String) : Parse Item := do
  g.decorators
  let here ← get
  let following := here.next
  if g.typed && (← atWord "abstract") && isWord "class" following.lexeme &&
      !following.afterLineBreak then
    advance
  if ← skipWord "class" then
    let className ← g.className?
    return .exportedDefault (.classDefinition className (← g.classRest)) docs here.docs
  else if g.typed && (← atWord "interface") && beginsDeclaration "interface" following then
    advance
    return .exportedDefault (.interface (← g.interfaceRest)) docs here.docs
  else if ← atWord "function" then
    advance
    g.functionAfterKeyword
    return .other
  else if (← atWord "async") && isWord "function" following.lexeme && !following.afterLineBreak then
    advance
    advance
    g.functionAfterKeyword
    return .other
  else
    let value ← g.assignment .plain
    expectEnd
    -- Only a bare name exports a declaration; any other value is no type.
    return match value with
      | .identifier exportedName => .exportedDefaultName exportedName
      | _ => .other

/-- A list of exported names, after its opening brace. -/
def exportListRest : Parse Item := do
  let names ← commaList g.bound "\x7d" g.exportEntry
  if ← skipWord "from" then return .exportedNames names (some (← g.sourceModule))
  else
    expectEnd
    return .exportedNames names none

/-- An export of everything, after its star. A name for all of it exports that name. -/
def exportAllRest : Parse Item := do
  let isNamed ← skipWord "as"
  if isNamed then
    let _ ← moduleName
  expectWord "from"
  let specifier ← g.sourceModule
  return if isNamed then .other else .exportedAll specifier

/-- An export of a default under a name, with a list after it or without. -/
def exportFromRest : Parse Item := do
  let _ ← name
  if ← skipWord "from" then return .exportedNames [] (some (← g.sourceModule))
  expectMark ","
  let names ←
    if ← skipMark "*" then
      expectWord "as"
      let _ ← moduleName
      pure []
    else
      expectMark "\x7b"
      commaList g.bound "\x7d" g.exportEntry
  expectWord "from"
  return .exportedNames names (some (← g.sourceModule))

/-- A declaration after `export`, if one starts here. One of a type that cannot be read is a fault at its
first word, or behind it if that is `type`: a list of names could stand there. -/
def exportedDeclaration? : Parse (Option (Option Definition)) := do
  if g.typed && (← atWordOf declarationWords) then
    match ← attempt do g.typedDeclarationRest (← anyWord) with
    | some found => return some found
    | none =>
      let _ ← skipWord "type"
      fail
  else g.declaration?

/-- An export, after its keyword. -/
def exportRest (docs : Option String) : Parse Item := do
  let following := (← get).next
  if ← skipWord "default" then g.exportDefaultRest docs
  else if ← skipMark "*" then g.exportAllRest
  else if ← skipMark "\x7b" then g.exportListRest
  else if ← g.skipTypeMark "=" then
    let _ ← g.anyExpression
    expectEnd
    return .other
  else if g.typed && (← atWord "as") && isWord "namespace" following.lexeme then
    advance
    advance
    let _ ← name
    expectEnd
    return .other
  else if ← g.skipTypeWord "import" then
    if (← atWord "type") && isName (← lexemeAfter) then advance
    let _ ← name
    expectMark "="
    g.importAliasRest
  else if g.typed && (← atWord "type") && isMark "\x7b" following.lexeme then
    advance
    advance
    g.exportListRest
  else if g.typed && (← atWord "type") && isMark "*" following.lexeme then
    advance
    advance
    g.exportAllRest
  else
    g.decorators
    let here ← get
    match ← g.exportedDeclaration? with
    | some (some found) => return .exported found docs here.docs
    | some none => return .other
    | none => if g.typed then fail else g.exportFromRest

/-! ## Statements -/

/-- A statement of a module. -/
def wholeItem : Parse Item := do
  let docs := (← get).docs
  let following := (← get).next
  -- In front of a parenthesis or a dot `import` begins an expression.
  if (← atWord "import") && !isMark "(" following.lexeme && !isMark "." following.lexeme then
    advance
    g.importRest
  else if ← skipWord "export" then g.exportRest docs
  else if ← atMark "@" then
    g.decorators
    -- The comment of a decorated declaration may stand between its decorators and `export`.
    let exportDocs := (← get).docs
    if ← skipWord "export" then g.exportRest exportDocs
    else
      match ← g.declaration? with
      | some (some found) => return .definition found docs
      | some none => return .other
      | none => fail
  else
    match ← g.statement with
    | some found => return .definition found docs
    | none => return .other

end ServiceStubs.Source.Grammar
