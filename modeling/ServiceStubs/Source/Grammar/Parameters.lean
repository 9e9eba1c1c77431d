import ServiceStubs.Source.Grammar.Basic

/-!
# Parameters, and what is like them

What functions, classes and declarations share: the targets of bindings, parameter lists, type
parameters and arguments, result types, decorators and bodies.
-/

namespace ServiceStubs.Source.Grammar

open Parse

variable (g : Grammar)

/-! ## Lists of expressions and types -/

/-- The arguments of a call, after the opening parenthesis. -/
def callArguments : Parse Unit := do
  let _ ← commaList g.bound ")" do
    let _ ← skipMark "..."
    let _ ← g.assignment .plain
  return ()

/-- The expression in the brackets of a computed name. -/
def computedName : Parse Unit := do
  let _ ← g.assignment .plain
  return ()

/-- Type arguments in angle brackets. -/
def typeArguments : Parse (List TypeExpr) := do
  expectMark "<"
  commaList g.bound ">" g.type

/-- A type parameter: its name is what matters. -/
def typeParameter : Parse String := do
  let _ ← collect g.bound do
    -- These words are modifiers in front of a name, and names in front of anything else.
    if (← atWordOf ["const", "in", "out"]) && isAnyWord (← lexemeAfter) &&
        !(isWord "extends" (← lexemeAfter)) then
      advance
      return some ()
    else return none
  let parameter ← name
  if ← skipWord "extends" then
    let _ ← g.type
  if ← skipMark "=" then
    let _ ← g.type
  return parameter

/-- The names of the type parameters in angle brackets, none if there are no brackets. -/
def typeParameters : Parse (List String) := do
  if ← g.skipTypeMark "<" then commaList g.bound ">" g.typeParameter
  else return []

/-! ## Decorators -/

/-- A decorator, after its sign. -/
def decorator : Parse Unit := do
  if ← skipMark "(" then
    let _ ← g.assignment .plain
    expectMark ")"
  else
    let _ ← name
    let _ ← collect g.bound do
      if ← skipMark "." then return some (← anyWord) else return none
  if g.typed && (← atMark "<") then
    let _ ← g.typeArguments
  if ← skipMark "(" then g.callArguments

/-- The decorators in front of a declaration. Only a language with types has them. -/
def decorators : Parse Unit := do
  let _ ← collect g.bound do
    if ← g.skipTypeMark "@" then return some (← g.decorator) else return none
  return ()

/-! ## Targets of bindings -/

/-- The value that is bound if there is no other. -/
def defaultValue? : Parse (Option Expression) := do
  if ← skipMark "=" then return some (← g.assignment .plain) else return none

/-- A target inside of a pattern. -/
def nestedTarget : Parse Unit := do
  let _ ← g.target
  let _ ← g.defaultValue?
  return ()

/-- An element of a list that is taken apart. -/
def targetElement : Parse Unit := do
  unless ← skipMark "," do
    if ← skipMark "..." then
      let _ ← g.target
    else g.nestedTarget
    unless ← atMark "]" do expectMark ","

/-- A property of an object that is taken apart. -/
def targetProperty : Parse Unit := do
  if ← skipMark "..." then
    let _ ← g.target
  -- Without a colon the name of the property is also what is bound.
  else if (← atName) && !(isMark ":" (← lexemeAfter)) then
    advance
    let _ ← g.defaultValue?
  else
    let _ ← memberName g.computedName
    expectMark ":"
    g.nestedTarget

/-- What a declaration or parameter binds: a name, or none if the value is taken apart. -/
def bindingTarget : Parse (Option String) := do
  if ← skipMark "[" then
    let _ ← untilMark g.bound "]" g.targetElement
    return none
  else if ← skipMark "\x7b" then
    let _ ← commaList g.bound "\x7d" g.targetProperty
    return none
  else return some (← name)

/-! ## Parameters -/

/-- A type after a colon, if there is one. -/
def annotation? : Parse (Option TypeExpr) := do
  if ← g.skipTypeMark ":" then return some (← g.type) else return none

/-- Words in front of a parameter, at most `most` of them, that make it a field. -/
def fieldModifiers (most : Nat) : Parse Unit :=
  match most with
  | 0 => return ()
  | most + 1 => do
    if ← atWordOf ["public", "protected", "private", "readonly", "override"] then
      let following ← lexemeAfter
      if isAnyWord following || isMark "\x7b" following || isMark "[" following then
        advance
        fieldModifiers most

/-- A parameter, with at most `modifiers` words in front of its name, and whether it has a value if the call
gives none. -/
def parameter (modifiers : Nat) : Parse (ParameterSyntax × Bool) := do
  g.decorators
  -- A parameter that takes all further arguments has no single type: it counts as a pattern.
  if ← skipMark "..." then
    let _ ← g.target
    let _ ← g.annotation?
    let _ ← g.defaultValue?
    return (.pattern, false)
  if g.typed then fieldModifiers modifiers
  let bound ←
    if ← g.skipTypeWord "this" then pure (some "this") else g.target
  let optional ← if g.typed then skipMark "?" else pure false
  let type ← g.annotation?
  match bound, ← g.defaultValue? with
  | some parameter, none => return (.plain parameter optional type, false)
  | some parameter, some value => return (.defaulted parameter type value, true)
  | none, value => return (.pattern, value.isSome)

/-- The parameters of a function, in parentheses. -/
def parameters (modifiers : Nat) : Parse (List ParameterSyntax) := do
  expectMark "("
  let found ← commaList g.bound ")" (g.parameter modifiers)
  return found.map (·.1)

/-- The parameters of a signature, in parentheses. Without a function to run, none has a value. -/
def signatureParameters : Parse Unit := do
  expectMark "("
  let found ← commaItems g.bound ")" (g.parameter 1)
  if found.any (·.2) then fail
  expectMark ")"

/-! ## Results and bodies -/

/-- The type of a result. What a function tells about its argument is no type of a value. -/
def resultType : Parse TypeExpr := do
  let following := (← get).next
  let sameLine := !following.afterLineBreak
  if (← atWord "asserts") && sameLine && isAnyWord following.lexeme &&
      !(isWord "is" following.lexeme) then
    advance
    advance
    if (← atWord "is") && !(← afterLineBreak) then
      advance
      let _ ← g.type
    return .other
  else if isAnyWord (← lexeme) && sameLine && isWord "is" following.lexeme then
    advance
    advance
    let _ ← g.type
    return .other
  else g.type

/-- The type of a result after a colon, if there is one. -/
def result? : Parse (Option TypeExpr) := do
  if ← g.skipTypeMark ":" then return some (← g.resultType) else return none

/-- Statements in braces. -/
def block : Parse Unit := do
  expectMark "\x7b"
  let _ ← untilBrace g.bound g.statement
  return ()

/-- The body of a function. A language with types also has functions without one. -/
def functionBody : Parse Unit := do
  if g.typed && !(← atMark "\x7b") then expectEnd else g.block

/-- A function from its type parameters on. -/
def functionRest : Parse Unit := do
  let _ ← g.typeParameters
  let _ ← g.parameters 1
  let _ ← g.result?
  g.functionBody

end ServiceStubs.Source.Grammar
