import TableSchema.Json.Document

/-!
# The grammar of JSON text

What JSON text is, as a grammar over characters: nothing is decoded, and no reader is mentioned. A value
holds no blank around itself; the blank around values, names and signs is part of what holds them.
-/

namespace TableSchema

namespace JsonText

def Space (s : List Char) : Prop :=
  ∀ c ∈ s, c = ' ' ∨ c = '\t' ∨ c = '\n' ∨ c = '\r'

/-! ## Numbers -/

def Digit (c : Char) : Prop :=
  '0' ≤ c ∧ c ≤ '9'

instance (c : Char) : Decidable (Digit c) :=
  inferInstanceAs (Decidable (_ ∧ _))

structure Digits (s : List Char) : Prop where
  ne_nil : s ≠ []
  digit : ∀ c ∈ s, Digit c

/-- Only a zero by itself begins with a zero. -/
inductive Whole : List Char → Prop where
  | zero : Whole ['0']
  | digits {c : Char} {s : List Char} : Digit c → c ≠ '0' → (∀ x ∈ s, Digit x) → Whole (c :: s)

inductive Fraction : List Char → Prop where
  | none : Fraction []
  | digits {s : List Char} : Digits s → Fraction ('.' :: s)

inductive Exponent : List Char → Prop where
  | none : Exponent []
  | digits {e : Char} {sign s : List Char} : e = 'e' ∨ e = 'E' → sign = [] ∨ sign = ['+'] ∨ sign = ['-'] →
      Digits s → Exponent (e :: (sign ++ s))

inductive Number : List Char → Prop where
  | mk {minus whole fraction exponent : List Char} : minus = [] ∨ minus = ['-'] → Whole whole →
      Fraction fraction → Exponent exponent → Number (minus ++ (whole ++ (fraction ++ exponent)))

/-! ## Strings -/

def HexDigit (c : Char) : Prop :=
  Digit c ∨ ('a' ≤ c ∧ c ≤ 'f') ∨ ('A' ≤ c ∧ c ≤ 'F')

instance (c : Char) : Decidable (HexDigit c) :=
  inferInstanceAs (Decidable (_ ∨ _))

/-- One character of a string in its written form. Any four digits make a unit. -/
inductive Written : List Char → Prop where
  | plain {c : Char} : ' ' ≤ c → c ≠ '"' → c ≠ '\\' → Written [c]
  | escape {c : Char} : c ∈ ['"', '\\', '/', 'b', 'f', 'n', 'r', 't'] → Written ['\\', c]
  | unit {a b c d : Char} : HexDigit a → HexDigit b → HexDigit c → HexDigit d →
      Written ['\\', 'u', a, b, c, d]

inductive Content : List Char → Prop where
  | nil : Content []
  | cons {c s : List Char} : Written c → Content s → Content (c ++ s)

inductive Quoted : List Char → Prop where
  | mk {s : List Char} : Content s → Quoted ('"' :: (s ++ ['"']))

/-! ## Values -/

mutual

inductive Value : List Char → Prop where
  | null : Value ['n', 'u', 'l', 'l']
  | true : Value ['t', 'r', 'u', 'e']
  | false : Value ['f', 'a', 'l', 's', 'e']
  | number {s : List Char} : Number s → Value s
  | string {s : List Char} : Quoted s → Value s
  | emptyArray {u : List Char} : Space u → Value ('[' :: (u ++ [']']))
  | array {s : List Char} : Items s → Value ('[' :: (s ++ [']']))
  | emptyObject {u : List Char} : Space u → Value ('{' :: (u ++ ['}']))
  | object {s : List Char} : Members s → Value ('{' :: (s ++ ['}']))

inductive Items : List Char → Prop where
  | one {u v w : List Char} : Space u → Value v → Space w → Items (u ++ (v ++ w))
  | cons {u v w s : List Char} : Space u → Value v → Space w → Items s → Items (u ++ (v ++ (w ++ ',' :: s)))

inductive Member : List Char → Prop where
  | mk {u n w x v y : List Char} : Space u → Quoted n → Space w → Space x → Value v → Space y →
      Member (u ++ (n ++ (w ++ ':' :: (x ++ (v ++ y)))))

inductive Members : List Char → Prop where
  | one {m : List Char} : Member m → Members m
  | cons {m s : List Char} : Member m → Members s → Members (m ++ ',' :: s)

end

inductive Text : List Char → Prop where
  | mk {u v w : List Char} : Space u → Value v → Space w → Text (u ++ (v ++ w))

end JsonText

end TableSchema
