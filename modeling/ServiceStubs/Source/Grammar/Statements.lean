import ServiceStubs.Source.Grammar.Expressions

/-!
# Statements

Statements are read for their extent, except for declarations of types. A word such as `type` or
`interface` begins a declaration only if a name follows on its line.

Main definitions:

* `Grammar.declaration?` reads a declaration, if one starts here;
* `Grammar.wholeStatement` reads a statement.
-/

namespace ServiceStubs.Source.Grammar

open Parse

variable (g : Grammar)

/-! ## Variables -/

/-- One variable with its type and value. -/
def variableDeclarator (place : ExpressionPlace) : Parse Unit := do
  let _ ← g.target
  if g.typed then
    let _ ← skipMark "!"
  let _ ← g.annotation?
  if ← skipMark "=" then
    let _ ← g.assignment place

/-- The variables of a declaration. -/
def variableDeclarators (place : ExpressionPlace) : Parse Unit := do
  let _ ← separatedBy g.bound "," (g.variableDeclarator place)
  return ()

/-- Whether `word` begins a variable declaration, given the token after it, and is not a name. -/
def bindsVariables (word : String) (following : Token) : Bool :=
  match word with
  | "var" | "const" => true
  | "let" => isName following.lexeme || isMark "[" following.lexeme || isMark "\x7b" following.lexeme
  | "using" =>
    isName following.lexeme && !isWord "of" following.lexeme && !following.afterLineBreak
  | _ => false

/-- Reads the words in front of the variables of a declaration, if one starts here. -/
def skipVariableWords : Parse Bool := do
  let here ← get
  let waits := isWord "await" here.lexeme && isWord "using" here.next.lexeme
  let t := if waits then here.next else here
  match t.lexeme with
  | .word word false =>
    if bindsVariables word t.next then
      set t.next
      return true
    else return false
  | _ => return false

/-! ## Declarations -/

/-- A class declaration, after its keyword. -/
def classDeclaration : Parse Definition := do
  match ← g.className? with
  | some className => return .classDefinition className (← g.classRest)
  | none => fail

/-- The statements in braces that a namespace holds. -/
def moduleBlock : Parse Unit := do
  expectMark "\x7b"
  let _ ← untilBrace g.bound g.item
  return ()

/-- A namespace, from its name on. -/
def namespaceRest : Parse Unit := do
  match ← lexeme with
  | .string _ => advance
  | _ =>
    let _ ← name
    let _ ← g.dottedNames
  if ← atMark "\x7b" then g.moduleBlock else expectEnd

/-- Words that begin declarations in a language with types. -/
def declarationWords : List String :=
  ["abstract", "enum", "interface", "module", "namespace", "type"]

/-- A declaration after its first word. The result tells the type that it declares. -/
def typedDeclarationRest (word : String) : Parse (Option Definition) := do
  match word with
  | "abstract" =>
    expectWord "class"
    return some (← g.classDeclaration)
  | "enum" => return some (.enumeration (← g.enumRest))
  | "interface" => return some (.interface (← g.interfaceRest))
  | "type" => return some (.alias (← g.aliasRest))
  | _ =>
    g.namespaceRest
    return none

/-- Whether one of these words begins a declaration, given the token after it, and is not a name. -/
def beginsDeclaration (word : String) (following : Token) : Bool :=
  match word with
  | "abstract" => isWord "class" following.lexeme && !following.afterLineBreak
  | "enum" => true
  | "interface" | "type" => isName following.lexeme && !following.afterLineBreak
  | "module" => isName following.lexeme || (following.lexeme matches .string _)
  | _ => isName following.lexeme

/-- A declaration of a language with types, if one starts here. The result tells the type that it
declares. -/
def typedDeclaration? : Parse (Option (Option Definition)) := do
  let following := (← get).next
  if (← atWord "const") && isWord "enum" following.lexeme then
    advance
    advance
    return some (some (.enumeration (← g.enumRest)))
  else if (← atWord "global") && isMark "\x7b" following.lexeme then
    advance
    g.moduleBlock
    return some none
  else
    match ← lexeme with
    | .word word false =>
      if declarationWords.contains word && beginsDeclaration word following then
        advance
        return some (← g.typedDeclarationRest word)
      else return none
    | _ => return none

/-- A declaration, if one starts here. The result tells the type that it declares. -/
def plainDeclaration? : Parse (Option (Option Definition)) := do
  let typed ← if g.typed then g.typedDeclaration? else pure none
  if let some found := typed then return some found
  let following := (← get).next
  if ← skipWord "class" then return some (some (← g.classDeclaration))
  else if ← skipWord "function" then
    g.functionAfterKeyword
    return some none
  else if (← atWord "async") && isWord "function" following.lexeme && !following.afterLineBreak then
    advance
    advance
    g.functionAfterKeyword
    return some none
  else if ← skipVariableWords then
    g.variableDeclarators .plain
    expectEnd
    return some none
  else return none

/-- Whether `declare` begins a declaration here. -/
def atDeclare : Parse Bool := do
  let following := (← get).next
  return g.typed && (← atWord "declare") && !following.afterLineBreak &&
    ["class", "interface", "enum", "type", "function", "async", "const", "let", "var", "using", "namespace",
      "module", "global", "abstract"].any (isWord · following.lexeme)

/-- A declaration, if one starts here, with `declare` in front of it or without. -/
def declaration? : Parse (Option (Option Definition)) := do
  if ← g.atDeclare then
    advance
    match ← g.plainDeclaration? with
    | some found => return some found
    | none => fail
  else g.plainDeclaration?

/-! ## Control -/

/-- A condition in parentheses. -/
def condition : Parse Unit := do
  expectMark "("
  let _ ← g.anyExpression
  expectMark ")"

/-- What follows the first part of the head of a loop. -/
def loopHeadRest : Parse Unit := do
  if ← skipWordOf ["of", "in"] then
    let _ ← g.anyExpression
  else
    expectMark ";"
    unless ← atMark ";" do
      let _ ← g.anyExpression
    expectMark ";"
    unless ← atMark ")" do
      let _ ← g.anyExpression

/-- A `for` loop, after its keyword. -/
def forRest : Parse Unit := do
  let _ ← skipWord "await"
  expectMark "("
  unless ← atMark ";" do
    if ← skipVariableWords then
      g.variableDeclarators ⟨false, false⟩
    else
      let _ ← g.sequence ⟨false, false⟩
  g.loopHeadRest
  expectMark ")"
  let _ ← g.statement

/-- The statements of a branch, up to the next branch or the end. -/
def branchBody : Parse Unit := do
  let _ ← collect g.bound do
    if (← atWordOf ["case", "default"]) || (← atMark "\x7d") then return none
    else return some (← g.statement)
  return ()

/-- A branch of a `switch` statement. -/
def switchBranch : Parse Unit := do
  if ← skipWord "default" then expectMark ":"
  else
    expectWord "case"
    let _ ← g.anyExpression
    expectMark ":"
  g.branchBody

/-- A `try` statement, after its keyword. -/
def tryRest : Parse Unit := do
  g.block
  let caught ← skipWord "catch"
  if caught then
    if ← skipMark "(" then
      let _ ← g.target
      let _ ← g.annotation?
      expectMark ")"
    g.block
  if ← skipWord "finally" then g.block
  else unless caught do fail

/-- A statement that begins with a reserved word; whether there is one. -/
def controlStatement : Parse Bool := do
  match ← lexeme with
  | .word "if" false =>
    advance
    g.condition
    let _ ← g.statement
    if ← skipWord "else" then
      let _ ← g.statement
    return true
  | .word "for" false =>
    advance
    g.forRest
    return true
  | .word "while" false | .word "with" false =>
    advance
    g.condition
    let _ ← g.statement
    return true
  | .word "do" false =>
    advance
    let _ ← g.statement
    expectWord "while"
    g.condition
    let _ ← skipMark ";"
    return true
  | .word "switch" false =>
    advance
    g.condition
    expectMark "\x7b"
    let _ ← untilMark g.bound "\x7d" g.switchBranch
    return true
  | .word "try" false =>
    advance
    g.tryRest
    return true
  | .word "return" false =>
    advance
    unless ← atEnd do
      let _ ← g.anyExpression
    expectEnd
    return true
  | .word "throw" false =>
    advance
    -- Unlike `return`, the word cannot stand alone, so its line must go on.
    if ← afterLineBreak then fail
    let _ ← g.anyExpression
    expectEnd
    return true
  | .word "break" false | .word "continue" false =>
    advance
    unless ← atEnd do
      let _ ← name
    expectEnd
    return true
  | .word "debugger" false =>
    advance
    expectEnd
    return true
  | _ => return false

/-! ## Statements -/

/-- A statement, with the declaration that it is, if it is one. -/
def wholeStatement : Parse (Option Definition) := do
  if ← atMark "\x7b" then
    g.block
    return none
  if ← skipMark ";" then return none
  if ← atMark "@" then
    g.decorators
    match ← g.declaration? with
    | some found => return found
    | none => fail
  if ← g.controlStatement then return none
  if let some found ← g.declaration? then return found
  -- A label says nothing about the statement behind it.
  if (← atName) && isMark ":" (← lexemeAfter) then
    advance
    advance
    let _ ← g.statement
    return none
  let _ ← g.anyExpression
  expectEnd
  return none

end ServiceStubs.Source.Grammar
