import ServiceStubs.Source.Grammar.Classes

/-!
# Expressions

Expressions are read for their extent. What they compute is kept for constants only: numbers, strings,
truth values and names, with parentheses and a minus sign.

A parenthesis can open an expression or the parameters of a function, and `<` can compare values or open
type arguments. Both readings are tried, the more specific one first.

Main definitions:

* `Grammar.memberValue` reads a value with the calls and member names after it;
* `Grammar.prefixedOperand` reads an operand of an operator;
* `Grammar.wholeAssignment` reads an expression up to a comma.
-/

namespace ServiceStubs.Source.Grammar

open Parse

variable (g : Grammar)

/-- Expressions with commas between them. -/
def sequence (place : ExpressionPlace) : Parse Expression := do
  let parts ← separatedBy g.bound "," (g.assignment place)
  match parts with
  | [single] => return single
  | _ => return .other

/-- An expression that nothing limits. -/
def anyExpression : Parse Expression :=
  g.sequence .plain

/-! ## Functions -/

/-- A function after its keyword: its name, if it has one, and the rest. -/
def functionAfterKeyword : Parse Unit := do
  let _ ← skipMark "*"
  if ← atName then advance
  g.functionRest

/-- The head of an arrow function from its parameters to the arrow; whether it tells the type of the
result. -/
def arrowHead : Parse Bool := do
  let _ ← g.parameters 1
  let result ← g.result?
  if ← afterLineBreak then fail
  expectMark "=>"
  return result.isSome

/-- The head of an arrow function with type parameters. -/
def genericArrowHead : Parse Bool := do
  unless g.typed && (← atMark "<") do fail
  let _ ← g.typeParameters
  g.arrowHead

/-- The body of an arrow function. -/
def arrowBody (place : ExpressionPlace) : Parse Expression := do
  if ← atMark "\x7b" then g.block
  else
    let _ ← g.assignment place
  return .arrow

/-- An arrow function where its head can be read, and otherwise another phrase. Where a colon ends the
expression, a head with a type for the result counts only if that colon follows. -/
def arrowOr (place : ExpressionPlace) (head : Parse Bool) (alternative : Parse Expression) :
    Parse Expression := fun t =>
  match head t with
  | .ok (annotated, after) =>
    -- In `a ? (b) : c => d` the colon may be that of the condition or of a result type. It is that of a result
    -- type only where another colon comes after the function.
    if annotated && place.endsAtColon then
      match g.arrowBody place after with
      | .ok (function, left) =>
        if isMark ":" left.lexeme then .ok (function, left) else alternative t
      | .error _ => alternative t
    else g.arrowBody place after
  | .error one =>
    match alternative t with
    | .ok result => .ok result
    | .error other => .error (further one other)

/-! ## Objects and arrays -/

/-- A method of an object, from its name on. -/
def objectMethod : Parse Unit := do
  let _ ← memberName g.computedName
  g.functionRest

/-- A property of an object that is named by a word, after the word: a value of that name, or a method
whose first word it is. -/
def wordProperty (word : String) : Parse Unit := do
  let _ ← skipMark "?"
  if ← skipMark "=" then
    let _ ← g.assignment .plain
  else unless (← atMark ",") || (← atMark "\x7d") do
    match word with
    | "async" =>
      let _ ← skipMark "*"
      g.objectMethod
    | "get" | "set" => g.objectMethod
    | _ => fail

/-- A property of an object. In a language with types, a name that is no word needs nothing after it. -/
def objectProperty : Parse Unit := do
  if ← skipMark "..." then
    let _ ← g.assignment .plain
  else if ← skipMark "*" then g.objectMethod
  else
    if g.typed then fieldModifiers 1
    let key ← lexeme
    let _ ← memberName g.computedName
    if ← skipMark ":" then
      let _ ← g.assignment .plain
    else if (← atMark "(") || (g.typed && (← atMark "<")) then g.functionRest
    -- A property without a value is a variable of that name, or an accessor.
    else match key with
      | .word word _ => g.wordProperty word
      | _ => unless g.typed && (← atMark "\x7d") do fail

/-- An element of an array. -/
def arrayElement : Parse Unit := do
  unless ← skipMark "," do
    let _ ← skipMark "..."
    let _ ← g.assignment .plain
    unless ← atMark "]" do expectMark ","

/-! ## Values -/

/-- An expression in parentheses, after the opening one. -/
def parenthesizedRest : Parse Expression := do
  let inner ← g.anyExpression
  expectMark ")"
  return .parenthesized inner

/-- A function that begins with `async`, or a value of that name. -/
def asyncValue (place : ExpressionPlace) : Parse Expression := do
  let following := (← get).next
  -- A line break makes a plain variable of the word.
  if following.afterLineBreak then
    advance
    return .identifier "async"
  else if isWord "function" following.lexeme then
    advance
    advance
    g.functionAfterKeyword
    return .other
  else if isName following.lexeme && isMark "=>" following.next.lexeme then
    advance
    advance
    advance
    g.arrowBody place
  else
    advance
    g.arrowOr place (either g.arrowHead g.genericArrowHead) (return .identifier "async")

/-- The value after `new`. -/
def newValue (callee : Parse Unit) : Parse Expression := do
  if ← skipMark "." then
    expectWord "target"
  else
    callee
    if g.typed && (← atMark "<") then
      let _ ← attempt do
        let _ ← g.typeArguments
        unless ← atMark "(" do fail
    if ← skipMark "(" then g.callArguments
  return .other

/-- The value after `import`: a module, or what is known of the current one. -/
def importValue : Parse Expression := do
  if ← skipMark "." then
    let _ ← anyWord
  else
    expectMark "("
    g.callArguments
  return .other

/-- A value without anything after it. -/
def simpleValue (place : ExpressionPlace) (newCallee : Parse Unit) : Parse Expression := do
  match ← lexeme with
  | .string value =>
    advance
    return .string value
  | .number value =>
    advance
    return .number value
  | .bigInteger =>
    advance
    return .other
  | .hiddenName =>
    advance
    -- A hidden name is no value by itself; it can only be asked for in an object.
    unless ← atWord "in" do fail
    return .other
  | .mark "(" => g.arrowOr place g.arrowHead do
    expectMark "("
    g.parenthesizedRest
  | .mark "[" =>
    advance
    let _ ← untilMark g.bound "]" g.arrayElement
    return .other
  | .mark "\x7b" =>
    advance
    let _ ← commaList g.bound "\x7d" g.objectProperty
    return .other
  | .mark "\x60" =>
    g.template g.anyExpression false
    return .other
  | .mark "@" =>
    g.decorators
    expectWord "class"
    let _ ← g.className?
    let _ ← g.classRest
    return .other
  -- A slash where a value stands begins a pattern; the lexeme is only its first mark.
  | .mark "/" | .mark "/=" =>
    match readPattern? ((← get).start.drop 1) with
    | some rest =>
      set (Token.after true rest)
      return .other
    | none => fail
  | .word "function" false =>
    advance
    g.functionAfterKeyword
    return .other
  | .word "class" false =>
    advance
    let _ ← g.className?
    let _ ← g.classRest
    return .other
  | .word "new" false =>
    advance
    g.newValue newCallee
  | .word "import" false =>
    advance
    g.importValue
  | .word "this" false | .word "super" false =>
    advance
    return .other
  | .word "true" false =>
    advance
    return .boolean true
  | .word "false" false =>
    advance
    return .boolean false
  | .word "null" false =>
    advance
    return .null
  | .word "async" false => g.asyncValue place
  | .word word _ =>
    if ← atName then
      advance
      if (← atMark "=>") && !(← afterLineBreak) then
        advance
        g.arrowBody place
      else return .identifier word
    else fail
  | _ => fail

/-! ## Calls and members -/

/-- Whether type arguments can end an expression: what follows them begins no operand. -/
def afterTypeArguments : Parse Bool := do
  let t ← get
  return t.afterLineBreak ||
    match t.lexeme with
    | .endOfText => true
    | .mark text =>
      [")", "]", ":", ";", ",", "?", "\x7d", "=", ".", "?.", "==", "===", "!=", "!==", "&&", "||", "??"].contains
        text
    | .word "as" false | .word "satisfies" false => true
    | _ => false

/-- Type arguments after a value, if they can be read as such. -/
def valueTypeArguments (allowsCall : Bool) : Parse Bool := do
  let found ← attempt do
    let _ ← g.typeArguments
    if (← atMark "(") && allowsCall then return ()
    else if ← atMark "\x60" then return ()
    else unless (← afterTypeArguments) && allowsCall do fail
  return found.isSome

/-- One call, member name or index after a value; whether there is one. -/
def suffix (allowsCall : Bool) : Parse Bool := do
  match ← lexeme with
  | .mark "." =>
    advance
    if (← lexeme) matches .hiddenName then advance
    else
      let _ ← anyWord
    return true
  -- The class after `new` cannot be reached through something that may be missing.
  | .mark "?." =>
    if allowsCall then
      advance
      if ← skipMark "[" then
        let _ ← g.anyExpression
        expectMark "]"
      else if ← skipMark "(" then g.callArguments
      else if g.typed && (← atMark "<") then
        let _ ← g.typeArguments
        expectMark "("
        g.callArguments
      else if (← atMark "\x60") then g.template g.anyExpression true
      else if (← lexeme) matches .hiddenName then advance
      else
        let _ ← anyWord
      return true
    else return false
  | .mark "[" =>
    advance
    let _ ← g.anyExpression
    expectMark "]"
    return true
  | .mark "(" =>
    if allowsCall then
      advance
      g.callArguments
      return true
    else return false
  | .mark "\x60" =>
    g.template g.anyExpression true
    return true
  | .mark "!" =>
    -- On a new line the mark negates the next expression.
    if g.typed && !(← afterLineBreak) then
      advance
      return true
    else return false
  | .mark "<" => if g.typed then g.valueTypeArguments allowsCall else return false
  | _ => return false

/-- The calls, member names and indexes after a value; whether there are any. -/
def suffixes (allowsCall : Bool) : Parse Bool := do
  let found ← collect g.bound do
    if ← g.suffix allowsCall then return some () else return none
  return !found.isEmpty

/-- What `new` constructs: a value with member names but without calls. The first argument bounds the
number of `new` in front of it. -/
def newCallee : Nat → Parse Unit
  | 0 => fail
  | bound + 1 => do
    let _ ← g.simpleValue .plain (newCallee bound)
    let _ ← g.suffixes false
    return ()

/-- A value with the calls and member names after it. -/
def memberValue (place : ExpressionPlace) : Parse Expression := do
  let value ← g.simpleValue place (g.newCallee g.bound)
  if value matches .arrow then return value
  if ← g.suffixes true then return .other else return value

/-! ## Operators -/

/-- An operand with the operators in front of it and after it. -/
def prefixedOperand (place : ExpressionPlace) : Parse Expression := do
  match ← lexeme with
  | .mark "-" =>
    advance
    return .negated (← g.operand place)
  | .mark "+" | .mark "~" | .mark "!" | .mark "++" | .mark "--" | .word "typeof" false
  | .word "void" false | .word "delete" false | .word "await" false =>
    advance
    let _ ← g.operand place
    return .other
  | .mark "<" =>
    unless g.typed do fail
    g.arrowOr place g.genericArrowHead do
      expectMark "<"
      let _ ← g.type
      expectMark ">"
      let _ ← g.operand place
      return .other
  | _ =>
    let value ← g.memberValue place
    -- A function without parentheses ends the operand: nothing can be joined to its body.
    if value matches .arrow then return value
    if ((← atMark "++") || (← atMark "--")) && !(← afterLineBreak) then
      advance
      return .other
    else return value

/-- Operators between two operands, other than those with angle brackets. -/
def binaryOperators : List String :=
  ["===", "!==", "==", "!=", "+", "-", "*", "/", "%", "&", "|", "^", "**", "&&", "||", "??"]

/-- Operators between two operands that begin with an angle bracket, and assignments that do, longer ones
before their beginnings. The flag tells the assignments. -/
def angleOperators : List (String × Bool) :=
  [(">>>=", true), ("<<=", true), (">>=", true), (">>>", false), ("<<", false), (">>", false), ("<=", false),
    (">=", false), ("<", false), (">", false)]

/-- The operator with angle brackets that the current token begins, and the text after it. -/
def angleOperator? : Parse (Option (Bool × List Char)) := do
  let t ← get
  if isMark "<" t.lexeme || isMark ">" t.lexeme then
    return angleOperators.findSome? fun (operator, assigns) =>
      (afterPrefix? operator.toList t.start).map fun rest => (assigns, rest)
  else return none

/-- Reads an operator between two operands, if it is there. -/
def skipOperator (place : ExpressionPlace) : Parse Bool := do
  match ← lexeme with
  | .mark text =>
    if binaryOperators.contains text then
      advance
      return true
    else
      -- A lexeme holds one angle bracket, since it may belong to type arguments: operators are joined here.
      match ← angleOperator? with
      | some (false, rest) =>
        set (Token.after false rest)
        return true
      | _ => return false
  | .word "instanceof" false =>
    advance
    return true
  | .word "in" false =>
    if place.allowsIn then
      advance
      return true
    else return false
  | _ => return false

/-- Reads a type that is given to the value before it, if it is there. -/
def skipTypeGiven : Parse Bool := do
  if g.typed && (← atWordOf ["as", "satisfies"]) && !(← afterLineBreak) then
    advance
    if ← skipWord "const" then return true
    else
      let _ ← g.type
      return true
  else return false

/-- Operands with operators between them. -/
def operation (place : ExpressionPlace) : Parse Expression := do
  let first ← g.operand place
  if first matches .arrow then return first
  let more ← collect g.bound do
    if ← g.skipTypeGiven then return some ()
    else if ← skipOperator place then
      let _ ← g.operand place
      return some ()
    else return none
  return if more.isEmpty then first else .other

/-- A choice between two expressions, or a single one. -/
def conditional (place : ExpressionPlace) : Parse Expression := do
  let condition ← g.operation place
  if condition matches .arrow then return condition
  if ← skipMark "?" then
    let _ ← g.assignment ⟨true, true⟩
    expectMark ":"
    let _ ← g.assignment place
    return .other
  else return condition

/-- Signs of assignments, other than those with angle brackets. -/
def assignmentSigns : List String :=
  ["=", "+=", "-=", "*=", "/=", "%=", "&=", "|=", "^=", "**=", "&&=", "||=", "??="]

/-- Reads the sign of an assignment, if it is there. -/
def skipAssignmentSign : Parse Bool := do
  match ← lexeme with
  | .mark text =>
    if assignmentSigns.contains text then
      advance
      return true
    else
      match ← angleOperator? with
      | some (true, rest) =>
        set (Token.after false rest)
        return true
      | _ => return false
  | _ => return false

/-- The value that a generator hands out, after `yield`. -/
def yieldRest (place : ExpressionPlace) : Parse Expression := do
  let t ← get
  let ends := t.afterLineBreak ||
    match t.lexeme with
    | .endOfText => true
    | .mark text => [")", "]", "\x7d", ",", ";", ":"].contains text
    | .word "in" false | .word "of" false => true
    | _ => false
  unless ends do
    let _ ← skipMark "*"
    let _ ← g.assignment place
  return .other

/-- An expression up to a comma. -/
def wholeAssignment (place : ExpressionPlace) : Parse Expression := do
  if (← atWord "yield") && !(isMark "=>" (← lexemeAfter)) then
    advance
    g.yieldRest place
  else
    let left ← g.conditional place
    if left matches .arrow then return left
    if ← skipAssignmentSign then
      let _ ← g.assignment place
      return .other
    else return left

end ServiceStubs.Source.Grammar
