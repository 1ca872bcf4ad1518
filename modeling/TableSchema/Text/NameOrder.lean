/-!
# Sorted names

Names are compared by code point, which is also the order of their UTF-8 bytes.
-/

namespace TableSchema

/-- Puts a name into a sorted list unless it is there. -/
def insertName (name : String) : List String → List String
  | [] => [name]
  | n :: rest =>
    if name < n then name :: n :: rest
    else if name = n then n :: rest
    else n :: insertName name rest

def sortedNames (names : List String) : List String :=
  names.foldr insertName []

end TableSchema
