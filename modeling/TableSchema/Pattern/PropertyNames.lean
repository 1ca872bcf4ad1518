import TableSchema.Pattern.BreakProperty
import TableSchema.Pattern.Expression
import TableSchema.Text.AgeTable
import TableSchema.Text.ScriptTable

/-!
# Properties by name

Names are compared without case, blanks, hyphens and underscores, and without `is` in front. A plain name
is a property, a general category or a script, in this order.
-/

namespace TableSchema

def lowerAscii (c : Char) : Char :=
  if isAsciiUpper c then Char.ofNat (c.toNat + 32) else c

/-- Lower case without blanks, hyphens, underscores and what is not ASCII. -/
def plainName (cs : List Char) : List Char :=
  (cs.filter fun c => isAscii c && c != ' ' && c != '_' && c != '-').map lowerAscii

/-- The form in which names are compared. Only the very front counts as `is`, and `isc` keeps it. -/
def normalName (s : String) : String :=
  let cs := s.toList
  if (cs.take 2).map lowerAscii = ['i', 's'] then
    let rest := plainName (cs.drop 2)
    if rest = ['c'] then "isc" else String.ofList rest
  else String.ofList (plainName cs)

def classNamed? (classes : List NamedClass) (name : String) : Option CharClass :=
  (classes.find? fun row => name ∈ row.names).map (·.chars)

def generalCategory? (name : String) : Option CharClass :=
  if name = "any" then some .any
  else if name = "assigned" then some (.property .assigned)
  else if name = "ascii" then some (.range '\x00' '\x7f')
  else if name ∈ ["cn", "unassigned"] then some (.compl (.property .assigned))
  else if name ∈ ["c", "other"] then
    some (.union (.compl (.property .assigned)) (.ofCategories [.cc, .cf, .co]))
  else (Category.named.find? fun row => name ∈ row.1).map fun row => .ofCategories row.2

/-! ## Scripts -/

def script? (name : String) : Option Script :=
  scriptTable.find? fun s => name ∈ s.names

def Script.chars (s : Script) : CharClass :=
  .ofRuns (CodeSet.ofLines s.own)

def sharedChars : CharClass :=
  .ofRuns (scriptTable.flatMap fun s => CodeSet.ofLines s.shared)

/-- The characters in use in a script. Common and inherited characters are those that are not known to be
shared by certain scripts only. -/
def Script.charsInUse (s : Script) : CharClass :=
  if "common" ∈ s.names ∨ "inherited" ∈ s.names then .diff s.chars sharedChars
  else .union s.chars (.ofRuns (CodeSet.ofLines s.shared))

/-! ## Ages -/

/-- The versions up to the one with a name, newest first. -/
def versionsUpTo? (name : String) : Option (List Version) :=
  match (versionTable.reverse).dropWhile fun v => name ∉ v.names with
  | [] => none
  | versions => some versions

def age? (name : String) : Option CharClass :=
  (versionsUpTo? name).map fun versions =>
    .ofRuns (versions.flatMap fun v => CodeSet.ofLines v.added)

/-! ## All names -/

def PropertyName.class? : PropertyName → Option CharClass
  | plain name =>
    let name := normalName name
    ((classNamed? binaryProperties name).or (generalCategory? name)).or
      ((script? name).map Script.chars)
  | valued name value =>
    let name := normalName name
    let value := normalName value
    if name ∈ ["generalcategory", "gc"] then generalCategory? value
    else if name ∈ ["script", "sc"] then (script? value).map Script.chars
    else if name ∈ ["scriptextensions", "scx"] then (script? value).map Script.charsInUse
    else if name = "age" then age? value
    else if name ∈ ["graphemeclusterbreak", "gcb"] then classNamed? CharClass.graphemeBreaks value
    else if name ∈ ["wordbreak", "wb"] then classNamed? CharClass.wordBreaks value
    else if name ∈ ["sentencebreak", "sb"] then classNamed? CharClass.sentenceBreaks value
    else none

end TableSchema
