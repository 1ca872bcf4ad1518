import TableSchema.Text.Property

/-!
# Generated texts

A generated text is made of ASCII letters and digits, one for each draw of a random number.
-/

namespace TableSchema

namespace Secret

def alphabet : List Char :=
  "ABCDEFGHIJKLMNOPQRSTUVWXYZabcdefghijklmnopqrstuvwxyz0123456789".toList

def defaultLength : Nat := 32

def draw (n : Nat) : Char :=
  alphabet.getD (n % alphabet.length) 'A'

def generate (length : Nat) (stream : Nat → Nat) : String :=
  String.ofList ((List.range length).map fun i => draw (stream i))

def isAlphanumeric (s : String) : Bool :=
  s.toList.all fun c => isAsciiLetter c || isAsciiDigit c

end Secret

end TableSchema
