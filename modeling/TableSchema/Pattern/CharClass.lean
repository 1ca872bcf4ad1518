import TableSchema.Text.Blank
import TableSchema.Text.CaseOrbit

/-!
# Character classes

A class is built from ranges and properties by set operations and by closing under case.
-/

namespace TableSchema

inductive Property where
  | blank | digit | word | alphabetic | lowercase | uppercase | cased | caseIgnorable | assigned
  | categories (ks : List Category)
  | runs (s : CodeSet)
deriving DecidableEq, Repr

def Property.holds : Property → Char → Bool
  | .blank, c => isBlank c
  | .digit, c => isDecimalDigit c
  | .word, c => isWordChar c
  | .alphabetic, c => isAlphabetic c
  | .lowercase, c => isLowercase c
  | .uppercase, c => isUppercase c
  | .cased, c => isCased c
  | .caseIgnorable, c => isCaseIgnorable c
  | .assigned, c => Category.isAssigned c
  | .categories ks, c => ks.any (·.contains c)
  | .runs s, c => s.contains c

inductive CharClass where
  | none
  | range (first last : Char)
  | property (p : Property)
  | compl (k : CharClass)
  | union (k l : CharClass)
  | inter (k l : CharClass)
  | diff (k l : CharClass)
  | symmDiff (k l : CharClass)
  /-- Every character equal to one of `k` up to case. -/
  | anyCase (k : CharClass)
  | anyAsciiCase (k : CharClass)
deriving DecidableEq, Repr

namespace CharClass

def contains : CharClass → Char → Bool
  | none, _ => false
  | range first last, c => first ≤ c && c ≤ last
  | property p, c => p.holds c
  | compl k, c => !k.contains c
  | union k l, c => k.contains c || l.contains c
  | inter k l, c => k.contains c && l.contains c
  | diff k l, c => k.contains c && !l.contains c
  | symmDiff k l, c => k.contains c != l.contains c
  | anyCase k, c => (caseOrbit c).any k.contains
  | anyAsciiCase k, c => (asciiOrbit c).any k.contains

def any : CharClass :=
  compl none

def single (c : Char) : CharClass :=
  range c c

def ofChars (cs : List Char) : CharClass :=
  cs.foldr (fun c k => union (single c) k) none

def ofRanges (rs : List (Char × Char)) : CharClass :=
  rs.foldr (fun r k => union (range r.1 r.2) k) none

def ofCategories (ks : List Category) : CharClass :=
  property (.categories ks)

def ofRuns (s : CodeSet) : CharClass :=
  property (.runs s)

/-- The characters of runs written as text. -/
def ofText (s : String) : CharClass :=
  ofRuns (CodeSet.ofText s)

end CharClass

end TableSchema
