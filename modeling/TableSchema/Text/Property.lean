import TableSchema.Text.Category
import TableSchema.Text.PropertyTable

/-!
# Derived properties of characters

Each property adds a few runs to a union of general categories, as of Unicode 16. ASCII is spelt out, so
that facts about ASCII text need no table.
-/

namespace TableSchema

def isAscii (c : Char) : Bool :=
  c.toNat < 128

def isAsciiUpper (c : Char) : Bool :=
  'A' ≤ c && c ≤ 'Z'

def isAsciiLower (c : Char) : Bool :=
  'a' ≤ c && c ≤ 'z'

def isAsciiLetter (c : Char) : Bool :=
  isAsciiUpper c || isAsciiLower c

def isAsciiDigit (c : Char) : Bool :=
  '0' ≤ c && c ≤ '9'

def otherCaseIgnorable : CodeSet := CodeSet.ofLines
    ["b7 387 55f 5f4 2018-2019 2024 2027 fe13 fe52 fe55 ff07 ff0e ff1a"]

def isUppercase (c : Char) : Bool :=
  if isAscii c then isAsciiUpper c else Category.lu.contains c || PropertyTable.otherUppercase.contains c

def isLowercase (c : Char) : Bool :=
  if isAscii c then isAsciiLower c else Category.ll.contains c || PropertyTable.otherLowercase.contains c

def isCased (c : Char) : Bool :=
  isUppercase c || isLowercase c || (!isAscii c && Category.lt.contains c)

/-- Characters that are looked through when the end of a word is sought. -/
def isCaseIgnorable (c : Char) : Bool :=
  if isAscii c then c.toNat == 0x27 || c == '.' || c == ':' || c == '^' || c.toNat == 0x60
  else otherCaseIgnorable.contains c ||
    [Category.mn, .me, .cf, .lm, .sk].any (·.contains c)

def isAlphabetic (c : Char) : Bool :=
  if isAscii c then isAsciiLetter c
  else isUppercase c || isLowercase c || PropertyTable.otherAlphabetic.contains c ||
    [Category.lt, .lm, .lo, .nl].any (·.contains c)

def isDecimalDigit (c : Char) : Bool :=
  if isAscii c then isAsciiDigit c else Category.nd.contains c

def isNumeric (c : Char) : Bool :=
  if isAscii c then isAsciiDigit c else Category.numbers.any (·.contains c)

/-- Letters, marks, decimal digits, connectors such as `_`, and the two joiners. -/
def isWordChar (c : Char) : Bool :=
  if isAscii c then isAsciiLetter c || isAsciiDigit c || c == '_'
  else isAlphabetic c || isDecimalDigit c || c.toNat == 0x200c || c.toNat == 0x200d ||
    Category.pc.contains c || Category.marks.any (·.contains c)

end TableSchema
