import TableBench.Error
import TableBench.Text.Characters

namespace TableBench

inductive Table.NameProblem where
  | empty
  | length
  | character
  deriving DecidableEq, Repr

namespace Table.NameProblem

def message : NameProblem → String
  | empty => "Table name cannot be empty"
  | length => "Table name must be between 3 and 255 characters"
  | character =>
    "Table name can only contain alphanumeric characters, hyphens, underscores, and periods"

def error (p : NameProblem) : BenchError := .invalidArgument (.text p.message)

end Table.NameProblem

namespace Table

def isNameCharacter (c : Char) : Bool :=
  Text.isAlphanumeric c || c = '-' || c = '_' || c = '.'

def nameProblem? (s : String) : Option NameProblem :=
  if s.isEmpty then some .empty
  else if s.length < 3 || 255 < s.length then some .length
  else if s.toList.all isNameCharacter then none
  else some .character

end Table

end TableBench
