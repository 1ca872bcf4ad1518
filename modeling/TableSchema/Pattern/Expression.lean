import TableSchema.Pattern.Basic

/-!
# Pattern expressions

The structure of a pattern's text, before flags are applied and names are looked up.
-/

namespace TableSchema

inductive PatternFlag where
  | anyCase | multiLine | dotAll | swapGreed | unicode | crlf | verbose
deriving DecidableEq, Repr

abbrev FlagChange := PatternFlag × Bool

/-- The classes of `\d`, `\s` and `\w`. -/
inductive ShortClass where
  | digit | blank | word
deriving DecidableEq, Repr

/-- A character that stands for itself; `asByte` when written as two hexadecimal digits. -/
structure Literal where
  char : Char
  asByte : Bool
deriving DecidableEq, Repr

/-- The classes that can be named between `[:` and `:]`. -/
inductive AsciiClass where
  | alnum | alpha | ascii | blank | cntrl | digit | graph | lower | print | punct | space | upper
  | word | xdigit
deriving DecidableEq, Repr

/-- The name behind `\p`: a property, or a property and its value. -/
inductive PropertyName where
  | plain (name : String)
  | valued (name value : String)
deriving DecidableEq, Repr

inductive SetOp where
  | inter | diff | symmDiff
deriving DecidableEq, Repr

/-- What stands between brackets. -/
inductive SetExpression where
  | empty
  | literal (l : Literal)
  | range (first last : Literal)
  | short (k : ShortClass) (negated : Bool)
  | ascii (k : AsciiClass) (negated : Bool)
  | named (name : PropertyName) (negated : Bool)
  | bracketed (negated : Bool) (e : SetExpression)
  | union (es : List SetExpression)
  | op (o : SetOp) (e f : SetExpression)
deriving Repr, Inhabited

inductive Anchor where
  | lineStart | lineEnd | textStart | textEnd
  | wordEdge | noWordEdge | wordStart | wordEnd | wordStartHalf | wordEndHalf
deriving DecidableEq, Repr

inductive Expression where
  | empty
  | literal (l : Literal)
  | dot
  | anchor (a : Anchor)
  | short (k : ShortClass) (negated : Bool)
  | named (name : PropertyName) (negated : Bool)
  | set (e : SetExpression)
  | flags (changes : List FlagChange)
  | group (name : Option String) (changes : List FlagChange) (e : Expression)
  | times (e : Expression) (least : Nat) (most : Option Nat)
  | seq (es : List Expression)
  | alt (es : List Expression)
deriving Repr, Inhabited

namespace SetExpression

mutual

/-- How deep brackets, unions and operations are nested. -/
def depth : SetExpression → Nat
  | bracketed _ e => e.depth + 1
  | union es => depthOfAll es + 1
  | op _ e f => max e.depth f.depth + 1
  | _ => 0

def depthOfAll : List SetExpression → Nat
  | [] => 0
  | e :: es => max e.depth (depthOfAll es)

end

end SetExpression

namespace Expression

mutual

/-- How deep groups, repetitions, sequences and choices are nested. -/
def depth : Expression → Nat
  | set e => e.depth
  | group _ _ e => e.depth + 1
  | times e _ _ => e.depth + 1
  | seq es => depthOfAll es + 1
  | alt es => depthOfAll es + 1
  | _ => 0

def depthOfAll : List Expression → Nat
  | [] => 0
  | e :: es => max e.depth (depthOfAll es)

end

mutual

def groupNames : Expression → List String
  | group name _ e => name.toList ++ e.groupNames
  | times e _ _ => e.groupNames
  | seq es => groupNamesOfAll es
  | alt es => groupNamesOfAll es
  | _ => []

def groupNamesOfAll : List Expression → List String
  | [] => []
  | e :: es => e.groupNames ++ groupNamesOfAll es

end

/-- Nesting beyond this depth is refused. -/
def maxDepth : Nat := 250

end Expression

end TableSchema
