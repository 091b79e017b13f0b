/-
# Pieces of a text

Cutting a text at a character and looking for one text inside another. All work on the list of
characters, so that each is one structural recursion.
-/

namespace Clearance.Text

/-- The pieces between the occurrences of a separator; there is always at least one. -/
def splitAt (separator : Char) : List Char → List (List Char)
  | [] => [[]]
  | c :: rest =>
    if c = separator then [] :: splitAt separator rest
    else match splitAt separator rest with
      | piece :: pieces => (c :: piece) :: pieces
      | [] => [[c]]

/-- The pieces of a text between the occurrences of a separator. -/
def split (separator : Char) (s : String) : List String :=
  (splitAt separator s.toList).map String.ofList

/-- Whether the second list starts with the first. -/
def startsWith : List Char → List Char → Bool
  | [], _ => true
  | _ :: _, [] => false
  | a :: as, b :: bs => a == b && startsWith as bs

/-- Whether the first list stands somewhere in the second. -/
def occursIn (part : List Char) : List Char → Bool
  | [] => part.isEmpty
  | c :: rest => startsWith part (c :: rest) || occursIn part rest

/-- What stands before and after the first occurrence of a character. -/
def cutAt (mark : Char) : List Char → Option (List Char × List Char)
  | [] => none
  | c :: rest =>
    if c = mark then some ([], rest) else (cutAt mark rest).map fun (a, b) => (c :: a, b)

/-- Texts one after the other with a separator between neighbours. -/
def joined (separator : String) : List String → String
  | [] => ""
  | [s] => s
  | s :: rest => s ++ separator ++ joined separator rest

/-- Put a text into a sorted list, before the first that is greater. -/
def insertSorted (s : String) : List String → List String
  | [] => [s]
  | t :: rest => if s < t then s :: t :: rest else t :: insertSorted s rest

/-- Texts in the order of their code points. -/
def sorted (texts : List String) : List String := texts.foldr insertSorted []

/-- The first line of a text. -/
def firstLine (s : String) : String := String.ofList (s.toList.takeWhile (· != '\n'))

/-- Whether a text is absent or empty. -/
def isMissing (s : Option String) : Bool := s.all (· == "")

/-- Replace every occurrence of a non-empty part; `fuel` bounds the number of steps. -/
def replaceAllFrom (part new : List Char) : (fuel : Nat) → List Char → List Char
  | 0, cs => cs
  | _, [] => []
  | fuel + 1, c :: rest =>
    if startsWith part (c :: rest) then
      new ++ replaceAllFrom part new fuel ((c :: rest).drop part.length)
    else c :: replaceAllFrom part new fuel rest

/-- A text with every occurrence of a part replaced, from left to right. -/
def replaceAll (part new s : String) : String :=
  if part.isEmpty then s
  else String.ofList (replaceAllFrom part.toList new.toList (s.toList.length + 1) s.toList)

end Clearance.Text
