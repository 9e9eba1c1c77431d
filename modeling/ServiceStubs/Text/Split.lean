/-!
# Cutting and replacing

Cutting a text at a separator and replacing one text by another from left to right.
-/

namespace ServiceStubs.Text

/-- The parts of a text between the separators; there is one more than there are separators. -/
def splitAt (sep : Char) : List Char → List (List Char)
  | [] => [[]]
  | c :: cs =>
    match splitAt sep cs with
    | [] => [[c]]
    | part :: parts => if c = sep then [] :: part :: parts else (c :: part) :: parts

/-- `splitAt` for strings. -/
def splitOn (sep : Char) (s : String) : List String :=
  (splitAt sep s.toList).map String.ofList

/-- The text in which every occurrence of `old` is replaced by `new`, reading from the left; what has
been replaced is not read again. The first `skip` characters are passed over, as the rest of an
occurrence. -/
def replaceFrom (old new : List Char) (skip : Nat) : List Char → List Char
  | [] => []
  | c :: cs =>
    match skip with
    | n + 1 => replaceFrom old new n cs
    | 0 =>
      if !old.isEmpty && old.isPrefixOf (c :: cs) then
        new ++ replaceFrom old new (old.length - 1) cs
      else
        c :: replaceFrom old new 0 cs

/-- The text in which every occurrence of `old` is replaced by `new`. -/
def replaceAll (old new s : String) : String :=
  String.ofList (replaceFrom old.toList new.toList 0 s.toList)

/-- Whether `part` occurs in the text. -/
def occursIn (part : List Char) : List Char → Bool
  | [] => part.isEmpty
  | c :: cs => part.isPrefixOf (c :: cs) || occursIn part cs

/-- Whether a text has another one in it. -/
def contains (s part : String) : Bool :=
  occursIn part.toList s.toList

/-- Whether the text begins with `start`. -/
def startsWith (s start : String) : Bool :=
  start.toList.isPrefixOf s.toList

/-- Whether the text ends with `suffix`. -/
def endsWith (s suffix : String) : Bool :=
  suffix.toList.isSuffixOf s.toList

/-- The text without `suffix` at its end, if it ends so. -/
def stripEnd? (s suffix : String) : Option String :=
  if endsWith s suffix then
    some (String.ofList (s.toList.take (s.toList.length - suffix.toList.length)))
  else
    none

end ServiceStubs.Text
