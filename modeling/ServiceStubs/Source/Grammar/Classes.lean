import ServiceStubs.Number.Decimal
import ServiceStubs.Source.Grammar.Types

/-!
# Classes, interfaces and enums

Declarations that name a type, from the first word after their keyword on.

A word such as `static` or `get` in front of a member is a modifier only if a member follows; otherwise
it is the name of the member. `namesMember` and `precedesMember` tell the cases apart.
-/

namespace ServiceStubs.Source.Grammar

open Parse

variable (g : Grammar)

/-! ## Modifiers -/

/-- Whether a word is the name of a member, given the token after it: a member can go on like this, or end
here. With `atLineBreak`, a line break ends it as well. -/
def namesMember (atLineBreak : Bool) (following : Token) : Bool :=
  (atLineBreak && (following.afterLineBreak || following.lexeme matches .endOfText)) ||
    match following.lexeme with
    | .mark text =>
      text == "(" || text == "=" || text == "\x7d" || text == ";" ||
        (g.typed && (text == "<" || text == "!" || text == ":"))
    | _ => false

/-- Reads a word in front of a member, unless it is the name of the member. -/
def skipModifier (word : String) (atLineBreak : Bool) : Parse Bool := do
  if (← atWord word) && !(g.namesMember atLineBreak (← get).next) then
    advance
    return true
  else return false

/-- Reads one of the words, if a member follows on its line. -/
def modifierOf? (words : List String) : Parse (Option String) := do
  if (← atWordOf words) && precedesMember (← get).next then return some (← anyWord)
  else return none

/-- The modifiers of a member other than those that say who may use it. A block of statements is no
member. -/
def memberModifiers : Parse (List String) :=
  collect g.bound do
    if (← atWord "static") && isMark "\x7b" (← lexemeAfter) then return none
    else modifierOf? ["abstract", "readonly", "override", "static"]

/-! ## Members -/

/-- What is known of a member before its name. -/
structure MemberHead where
  isPrivate : Bool
  isStatic : Bool
  isField : Bool
  /-- The documentation in front of its first word. -/
  docs : Option String

/-- A method from its name on. It is documented before its first word or before its name. -/
def methodRest (head : MemberHead) (kind : MethodKind) (isAsync : Bool) : Parse ClassMember := do
  let nameDocs := (← get).docs
  let name ← memberName g.computedName
  -- The mark of an optional method says nothing about its signature.
  if g.typed then
    let _ ← skipMark "?"
  let typeParameters ← g.typeParameters
  let parameters ← g.parameters 1
  let returns ← g.result?
  g.functionBody
  -- A hidden method can be called by its own class only.
  return match name with
    | .hidden => .other
    | name =>
      .method {
        kind, isAsync, name, typeParameters, parameters, returns
        isPrivate := head.isPrivate
        isStatic := head.isStatic
        docs := head.docs <|> nameDocs }

/-- A constructor from its parameters on. -/
def constructorRest : Parse ClassMember := do
  let _ ← g.typeParameters
  let _ ← g.parameters 3
  let _ ← g.result?
  g.functionBody
  return .other

/-- A field from its name on. Nothing need stand between two fields. -/
def propertyRest (head : MemberHead) : Parse ClassMember := do
  let name ← memberName g.computedName
  let optional ← g.skipTypeMark "?"
  -- The mark that a value will be there later has no meaning for the type.
  if g.typed && !optional then
    let _ ← skipMark "!"
  let type ← g.annotation?
  let _ ← g.defaultValue?
  let _ ← skipMark ";"
  return match name, head.isField with
    | .hidden, _ => .other
    | _, false => .other
    | name, true =>
      .property {
        name, optional, type
        isPrivate := head.isPrivate
        isStatic := head.isStatic }

/-- The token after the name of a member and its question mark. -/
def afterMemberName : Parse Token := do
  let start ← get
  let _ ← memberName g.computedName
  let _ ← g.skipTypeMark "?"
  let found ← get
  set start
  return found

/-- A member from its name on. -/
def namedMember (head : MemberHead) : Parse ClassMember := do
  let key ← lexeme
  let following ← g.afterMemberName
  if isMark "(" following.lexeme || (g.typed && isMark "<" following.lexeme) then
    let constructs := match key with
      | .word name _ => name == "constructor"
      | .string name => name == "constructor"
      | _ => false
    -- A static method can be called `constructor` without being one.
    if constructs && !head.isStatic then
      advance
      g.constructorRest
    else g.methodRest head .method false
  else
    -- A field `get` may end its line, and a generator may follow on the next one.
    let generatorFollows := following.afterLineBreak && isMark "*" following.lexeme
    let computes := (isWord "get" key || isWord "set" key) &&
      !g.namesMember false following && !generatorFollows
    if computes then
      advance
      g.methodRest head (if isWord "get" key then .getter else .setter) false
    else if g.namesMember true following then g.propertyRest head
    else if isWord "async" key && !following.afterLineBreak then
      advance
      let _ ← skipMark "*"
      g.methodRest head .method true
    else
      set following
      fail

/-- A member of a class. Its documentation stands before its first word or before its name. -/
def classMember : Parse ClassMember := do
  let docs := (← get).docs
  if ← skipMark ";" then return .other
  g.decorators
  let declared ← if g.typed then g.skipModifier "declare" true else pure false
  let access ←
    if g.typed then modifierOf? ["public", "protected", "private", "in", "out"] else pure none
  -- The word may stand on either side of the access modifier, but only once.
  if g.typed && !declared then
    let _ ← g.skipModifier "declare" true
  let isStatic ← g.skipModifier "static" false
  let modifiers ← if g.typed then g.memberModifiers else pure []
  let readOnly := modifiers.contains "readonly"
  let isAccessor ← if readOnly then pure false else g.skipModifier "accessor" true
  let isStatic := isStatic || modifiers.contains "static"
  -- What runs when the class is made declares nothing.
  if isStatic && (← atMark "\x7b") then
    g.block
    return .other
  if (← atWord "static") && isMark "\x7b" (← lexemeAfter) then
    advance
    g.block
    return .other
  if g.typed && access.isNone && !modifiers.contains "abstract" && !modifiers.contains "override" &&
      (← atIndexSignature) then
    let _ ← g.indexSignature
    return .other
  let isGenerator ← skipMark "*"
  let head : MemberHead := ⟨access = some "private", isStatic, !isAccessor, docs⟩
  if isGenerator then g.methodRest head .method false else g.namedMember head

/-! ## Classes -/

/-- A base type: its name, if it is a plain one. -/
def baseType : Parse (Option String) := do
  let first ← anyWord
  let qualified ← g.dottedNames
  let _ ← g.typeArgumentsHere
  return if qualified then none else some first

/-- Whether a list of base types ends here. -/
def atBaseTypesEnd : Parse Bool := do
  return (← atMark "\x7b") || (← atWordOf ["extends", "implements"])

/-- Base types with commas between them. A comma may stand after the last one. -/
def baseTypes : Parse (List (Option String)) :=
  collect g.bound do
    if ← atBaseTypesEnd then return none
    else
      let base ← g.baseType
      unless ← atBaseTypesEnd do expectMark ","
      return some base

/-- The class that a class extends. -/
def baseClass : Parse Unit := do
  let _ ← g.value
  if g.typed && (← atMark "<") then
    let _ ← g.typeArguments

/-- What a class extends and implements. More than one base class and clauses that come twice are read
over. -/
def classHeritage : Parse Unit := do
  if ← skipWord "extends" then
    g.baseClass
    if ← g.skipTypeMark "," then
      let _ ← g.baseTypes
  if ← skipWord "extends" then g.baseClass
  if ← g.skipTypeWord "implements" then
    let _ ← g.baseTypes
  if ← g.skipTypeWord "implements" then
    let _ ← g.baseTypes
  if ← g.skipTypeWord "extends" then g.baseClass

/-- A class from its type parameters on. -/
def classRest : Parse ClassSyntax := do
  let typeParameters ← g.typeParameters
  g.classHeritage
  expectMark "\x7b"
  return ⟨typeParameters, ← untilBrace g.bound g.classMember⟩

/-- The name of a class, if it has one. -/
def className? : Parse (Option String) := do
  if (← atName) && !(← atWord "let") && !(g.typed && (← atWord "implements")) then
    return some (← anyWord)
  else return none

/-! ## Interfaces, aliases and enums -/

/-- An interface from its name on. -/
def interfaceRest : Parse InterfaceSyntax := do
  let interfaceName ← name
  let typeParameters ← g.typeParameters
  let bases ←
    if ← skipWord "extends" then g.baseTypes else pure []
  expectMark "\x7b"
  let members ← untilMark g.bound "\x7d" g.typeMember
  return ⟨interfaceName, typeParameters, bases, members⟩

/-- A name for a type, from the name on. -/
def aliasRest : Parse AliasSyntax := do
  let aliasName ← name
  let typeParameters ← g.typeParameters
  expectMark "="
  let type ← g.type
  expectEnd
  return ⟨aliasName, typeParameters, type⟩

/-- The name of a member of an enum. A computed name counts as empty. -/
def enumMemberName : Parse String := do
  match ← lexeme with
  | .string value =>
    advance
    return value
  | .number value =>
    advance
    return value.decimal
  | .mark "[" =>
    advance
    g.computedName
    expectMark "]"
    return ""
  | _ => anyWord

/-- A member of an enum. A token after it that is neither its value nor its end counts as a comma. -/
def enumMember : Parse EnumMember := do
  let memberName ← g.enumMemberName
  if ← skipMark "=" then return ⟨memberName, some (← g.assignment .plain)⟩
  unless (← atMark ",") || (← atMark "\x7d") do
    modify fun t => { t with lexeme := .mark "," }
  return ⟨memberName, none⟩

/-- An enum from its name on. -/
def enumRest : Parse EnumSyntax := do
  let enumName ← name
  expectMark "\x7b"
  return ⟨enumName, ← commaList g.bound "\x7d" g.enumMember⟩

end ServiceStubs.Source.Grammar
