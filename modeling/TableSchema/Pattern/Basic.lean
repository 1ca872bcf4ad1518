import TableSchema.Pattern.CharClass

/-!
# Patterns

A pattern describes stretches of a text. `Look` describes places of it: what stands before and behind a
place decides whether a look holds there.
-/

namespace TableSchema

inductive Look where
  | textStart | textEnd
  | lineStart | lineEnd
  /-- As `lineStart` and `lineEnd`, with `\r\n`, `\n` and `\r` ending lines. -/
  | crlfStart | crlfEnd
  | wordEdge (inWord : Property)
  | noWordEdge (inWord : Property)
  | wordStart (inWord : Property)
  | wordEnd (inWord : Property)
  | wordStartHalf (inWord : Property)
  | wordEndHalf (inWord : Property)
deriving DecidableEq, Repr

/-- The look holds between `before` and `behind`. -/
def Look.holds (l : Look) (before behind : Option Char) : Bool :=
  match l with
  | textStart => before.isNone
  | textEnd => behind.isNone
  | lineStart => before.isNone || before == some '\n'
  | lineEnd => behind.isNone || behind == some '\n'
  | crlfStart =>
    before.isNone || before == some '\n' || (before == some '\r' && behind != some '\n')
  | crlfEnd =>
    behind.isNone || behind == some '\r' || (behind == some '\n' && before != some '\r')
  | wordEdge w => before.any w.holds != behind.any w.holds
  | noWordEdge w => before.any w.holds == behind.any w.holds
  | wordStart w => !before.any w.holds && behind.any w.holds
  | wordEnd w => before.any w.holds && !behind.any w.holds
  | wordStartHalf w => !before.any w.holds
  | wordEndHalf w => !behind.any w.holds

inductive Pattern where
  | empty
  | char (k : CharClass)
  | look (l : Look)
  | seq (p q : Pattern)
  | alt (p q : Pattern)
  /-- At least `least` and at most `most` times in a row. -/
  | times (p : Pattern) (least : Nat) (most : Option Nat)
deriving DecidableEq, Repr

namespace Pattern

def opt (p : Pattern) : Pattern :=
  times p 0 (some 1)

def star (p : Pattern) : Pattern :=
  times p 0 none

def plus (p : Pattern) : Pattern :=
  times p 1 none

def sequence : List Pattern → Pattern
  | [] => empty
  | [p] => p
  | p :: ps => seq p (sequence ps)

def choice : List Pattern → Pattern
  | [] => empty
  | [p] => p
  | p :: ps => alt p (choice ps)

end Pattern

end TableSchema
