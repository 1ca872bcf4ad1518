import TableSchema.Number.Digits
import TableSchema.Pattern.Expression
import TableSchema.Text.Later

/-!
# Reading pattern text

In verbose mode blanks and comments may stand between any two tokens, also inside a class or an escape.
Every reader takes the text that is left and returns what it read with the rest.
-/

namespace TableSchema

/-- Drops blanks and comments when `verbose` is set. -/
def skipVerbose (verbose : Bool) (s : List Char) : List Char :=
  if verbose then go false s else s
where
  go : Bool → List Char → List Char
    | _, [] => []
    | true, c :: s => go (c != '\n') s
    | false, c :: s =>
      if isBlank c then go false s
      else if c = '#' then go true s
      else c :: s

/-- What stands behind a hyphen in a class, to tell a range from a plain hyphen. -/
def peekVerbose (verbose : Bool) (s : List Char) : Option Char :=
  if verbose then
    match s.dropWhile isBlank with
    | '#' :: r => (r.dropWhile isBlank).head?
    | r => r.head?
  else s.head?

/-! ## Escapes -/

/-- A single item outside of classes, which a class may hold too unless it is an anchor. -/
inductive PatternItem where
  | literal (l : Literal)
  | short (k : ShortClass) (negated : Bool)
  | named (name : PropertyName) (negated : Bool)
  | anchor (a : Anchor)

/-- Characters that an escape makes plain: ASCII, save letters, digits and angle brackets. -/
def isEscapable (c : Char) : Bool :=
  isAscii c && !isAsciiLetter c && !isAsciiDigit c && c != '<' && c != '>'

/-- The character with this code, unless it is a surrogate or beyond the last one. -/
def charOfCode? (n : Nat) : Option Char :=
  if h : n.isValidChar then some (Char.ofNatAux n h) else none

def hexValue (ds : List Nat) : Nat :=
  ds.foldl (fun n d => 16 * n + d) 0

def fixedHex? (verbose : Bool) : Nat → List Char → Option (List Nat × List Char)
  | 0, s => some ([], s)
  | n + 1, c :: s => do
    let d ← hexDigit? c
    let (ds, s) ← fixedHex? verbose n (skipVerbose verbose s)
    return (d :: ds, s)
  | _ + 1, [] => none

/-- Hexadecimal digits up to a closing brace; `fuel` bounds the length. -/
def bracedHex? (verbose : Bool) : Nat → List Char → Option (List Nat × List Char)
  | 0, _ => none
  | fuel + 1, s =>
    match skipVerbose verbose s with
    | [] => none
    | '}' :: s => some ([], skipVerbose verbose s)
    | c :: s => do
      let d ← hexDigit? c
      let (ds, s) ← bracedHex? verbose fuel s
      return (d :: ds, s)

/-- The code behind `\x`, `\u` or `\U`: `width` digits, or any number of them in braces. -/
def hexEscape? (verbose : Bool) (width : Nat) (s : List Char) : Option (Literal × List Char) :=
  match skipVerbose verbose s with
  | '{' :: s => do
    let (ds, s) ← bracedHex? verbose (s.length + 1) s
    let c ← charOfCode? (hexValue ds)
    if ds = [] then none else return (⟨c, false⟩, s)
  | s => do
    let (ds, s) ← fixedHex? verbose width s
    let c ← charOfCode? (hexValue ds)
    return (⟨c, width = 2⟩, s)

/-- The text up to a closing brace; `fuel` bounds the length. -/
def braced? (verbose : Bool) : Nat → List Char → Option (List Char × List Char)
  | 0, _ => none
  | fuel + 1, s =>
    match skipVerbose verbose s with
    | [] => none
    | '}' :: s => some ([], s)
    | c :: s => (braced? verbose fuel s).map fun (cs, s) => (c :: cs, s)

def splitAt? (mark : List Char) : List Char → Option (List Char × List Char)
  | [] => none
  | c :: s =>
    if mark.isPrefixOf (c :: s) then some ([], (c :: s).drop mark.length)
    else (splitAt? mark s).map fun (front, rest) => (c :: front, rest)

/-- A property name with the sign of its `!=`. -/
def propertyName (cs : List Char) : PropertyName × Bool :=
  let valued (p : List Char × List Char) := .valued (String.ofList p.1) (String.ofList p.2)
  match splitAt? ['!', '='] cs with
  | some p => (valued p, true)
  | none =>
    match (splitAt? [':'] cs).or (splitAt? ['='] cs) with
    | some p => (valued p, false)
    | none => (.plain (String.ofList cs), false)

def propertyEscape? (verbose negated : Bool) (s : List Char) : Option (PatternItem × List Char) :=
  match skipVerbose verbose s with
  | [] => none
  | '\\' :: _ => none
  | '{' :: s => do
    let (cs, s) ← braced? verbose (s.length + 1) s
    let (name, unequal) := propertyName cs
    return (.named name (negated != unequal), s)
  | c :: s => some (.named (.plain c.toString) negated, skipVerbose verbose s)

/-- The letters and hyphens of a word edge in braces, with the text from the first other character. -/
def edgeName (verbose : Bool) : Nat → List Char → List Char × List Char
  | 0, s => ([], s)
  | fuel + 1, s =>
    match s with
    | [] => ([], [])
    | c :: r =>
      if isAsciiLetter c || c == '-' then
        let (cs, rest) := edgeName verbose fuel (skipVerbose verbose r)
        (c :: cs, rest)
      else ([], s)

/-- What `\b` stands for. Braces with a letter or hyphen name a kind of edge; others count repetitions and
are left alone. -/
def edgeEscape? (verbose : Bool) (s : List Char) : Option (Anchor × List Char) :=
  match s with
  | '{' :: r =>
    match edgeName verbose (r.length + 1) (skipVerbose verbose r), skipVerbose verbose r with
    | _, [] => none
    | ([], _), _ => some (.wordEdge, s)
    | (cs, '}' :: rest), _ =>
      match String.ofList cs with
      | "start" => some (.wordStart, rest)
      | "end" => some (.wordEnd, rest)
      | "start-half" => some (.wordStartHalf, rest)
      | "end-half" => some (.wordEndHalf, rest)
      | _ => none
    | _, _ => none
  | s => some (.wordEdge, s)

/-- What stands behind a backslash. -/
def escaped? (verbose : Bool) : List Char → Option (PatternItem × List Char)
  | [] => none
  | c :: s =>
    let plain (d : Char) := some (PatternItem.literal ⟨d, false⟩, s)
    let width (n : Nat) := (hexEscape? verbose n s).map fun (l, s) => (PatternItem.literal l, s)
    match c with
    | 'x' => width 2
    | 'u' => width 4
    | 'U' => width 8
    | 'p' => propertyEscape? verbose false s
    | 'P' => propertyEscape? verbose true s
    | 'd' => some (.short .digit false, s)
    | 'D' => some (.short .digit true, s)
    | 's' => some (.short .blank false, s)
    | 'S' => some (.short .blank true, s)
    | 'w' => some (.short .word false, s)
    | 'W' => some (.short .word true, s)
    | 'a' => plain '\x07'
    | 'f' => plain '\x0c'
    | 't' => plain '\t'
    | 'n' => plain '\n'
    | 'r' => plain '\r'
    | 'v' => plain '\x0b'
    | 'A' => some (.anchor .textStart, s)
    | 'z' => some (.anchor .textEnd, s)
    | 'b' => (edgeEscape? verbose s).map fun (a, s) => (.anchor a, s)
    | 'B' => some (.anchor .noWordEdge, s)
    | '<' => some (.anchor .wordStart, s)
    | '>' => some (.anchor .wordEnd, s)
    | c => if isEscapable c then plain c else none

/-! ## Classes -/

def asciiClassNamed? : String → Option AsciiClass
  | "alnum" => some .alnum
  | "alpha" => some .alpha
  | "ascii" => some .ascii
  | "blank" => some .blank
  | "cntrl" => some .cntrl
  | "digit" => some .digit
  | "graph" => some .graph
  | "lower" => some .lower
  | "print" => some .print
  | "punct" => some .punct
  | "space" => some .space
  | "upper" => some .upper
  | "word" => some .word
  | "xdigit" => some .xdigit
  | _ => none

/-- A named class, behind its opening bracket: `:alpha:]` or `:^alpha:]`. -/
def asciiClass? : List Char → Option (SetExpression × List Char)
  | ':' :: s =>
    let (negated, s) := match s with
      | '^' :: s => (true, s)
      | s => (false, s)
    match s.dropWhile (· != ':') with
    | ':' :: ']' :: rest =>
      (asciiClassNamed? (String.ofList (s.takeWhile (· != ':')))).map fun k =>
        (.ascii k negated, rest)
    | _ => none
  | _ => none

/-- One item of a class, or an end of a range. -/
def setItem? (verbose : Bool) : List Char → Option (PatternItem × List Char)
  | [] => none
  | '\\' :: s => escaped? verbose s
  | c :: s => some (.literal ⟨c, false⟩, s)

def PatternItem.toSet? : PatternItem → Option SetExpression
  | literal l => some (.literal l)
  | short k negated => some (.short k negated)
  | named name negated => some (.named name negated)
  | anchor _ => none

def PatternItem.literal? : PatternItem → Option Literal
  | literal l => some l
  | _ => none

/-- An item of a class or a range. A hyphen in front of a bracket or of another hyphen makes no range. -/
def setRange? (verbose : Bool) (s : List Char) : Option (SetExpression × List Char) := do
  let (item, s) ← setItem? verbose s
  match skipVerbose verbose s with
  | [] => none
  | '-' :: r =>
    let next := peekVerbose verbose r
    if next = some ']' ∨ next = some '-' then return (← item.toSet?, '-' :: r)
    else
      let (other, s) ← setItem? verbose (skipVerbose verbose r)
      let first ← item.literal?
      let last ← other.literal?
      if first.char ≤ last.char then return (.range first last, s) else none
  | s => return (← item.toSet?, s)

/-- The hyphens at the front of a class, which stand for themselves. -/
def leadingHyphens (verbose : Bool) : Nat → List Char → List SetExpression × List Char
  | 0, s => ([], s)
  | fuel + 1, s =>
    match s with
    | '-' :: r =>
      let (items, rest) := leadingHyphens verbose fuel (skipVerbose verbose r)
      (.literal ⟨'-', false⟩ :: items, rest)
    | s => ([], s)

/-- The front of a class, behind its bracket: negation, hyphens, and a closing bracket that stands for
itself when it comes first. -/
def setFront (verbose : Bool) (s : List Char) : Bool × List SetExpression × List Char :=
  let (negated, s) := match skipVerbose verbose s with
    | '^' :: s => (true, skipVerbose verbose s)
    | s => (false, s)
  match leadingHyphens verbose s.length s with
  | ([], ']' :: rest) => (negated, [.literal ⟨']', false⟩], skipVerbose verbose rest)
  | (items, rest) => (negated, items, rest)

/-- One set of the items, last one first, joined with the operation that waits for its right side. -/
def closeUnion (pending : Option (SetOp × SetExpression)) (items : List SetExpression) :
    SetExpression :=
  let e := match items with
    | [] => SetExpression.empty
    | [e] => e
    | es => .union es.reverse
  match pending with
  | some (o, left) => .op o left e
  | none => e

/-- The inside of a class up to its closing bracket. -/
def setBody? (verbose : Bool) : Nat → Option (SetOp × SetExpression) → List SetExpression →
    List Char → Option (SetExpression × List Char)
  | 0, _, _, _ => none
  | fuel + 1, pending, items, s =>
    match skipVerbose verbose s with
    | [] => none
    | ']' :: s => some (closeUnion pending items, s)
    | '[' :: s =>
      match asciiClass? s with
      | some (e, s) => setBody? verbose fuel pending (e :: items) s
      | none => do
        let (negated, front, s) := setFront verbose s
        let (e, s) ← setBody? verbose fuel none front.reverse s
        setBody? verbose fuel pending (.bracketed negated e :: items) s
    | '&' :: '&' :: s => setBody? verbose fuel (some (.inter, closeUnion pending items)) [] s
    | '-' :: '-' :: s => setBody? verbose fuel (some (.diff, closeUnion pending items)) [] s
    | '~' :: '~' :: s => setBody? verbose fuel (some (.symmDiff, closeUnion pending items)) [] s
    | s => do
      let (e, s) ← setRange? verbose s
      setBody? verbose fuel pending (e :: items) s

def set? (verbose : Bool) (s : List Char) : Option (SetExpression × List Char) := do
  let (negated, front, s) := setFront verbose s
  let (e, s) ← setBody? verbose (s.length + 1) none front.reverse s
  return (.bracketed negated e, s)

/-! ## Groups -/

def flag? : Char → Option PatternFlag
  | 'i' => some .anyCase
  | 'm' => some .multiLine
  | 's' => some .dotAll
  | 'U' => some .swapGreed
  | 'u' => some .unicode
  | 'R' => some .crlf
  | 'x' => some .verbose
  | _ => none

/-- Flags up to the bracket or colon that ends them. No flag may come twice, and a hyphen, which turns
flags off, has to have one behind it. -/
def flags? (on : Bool) (seen : List PatternFlag) :
    List Char → Option (List FlagChange × Char × List Char)
  | [] => none
  | c :: s =>
    if c = ':' ∨ c = ')' then some ([], c, s)
    else if c = '-' then
      match s with
      | ':' :: _ => none
      | ')' :: _ => none
      | s => if on then flags? false seen s else none
    else do
      let f ← flag? c
      if f ∈ seen then none
      else
        let (changes, stop, s) ← flags? on (f :: seen) s
        return ((f, on) :: changes, stop, s)

def isNameStart (c : Char) : Bool :=
  c == '_' || Later.isAlphabetic c

def isNameChar (c : Char) : Bool :=
  c == '_' || c == '.' || c == '[' || c == ']' ||
    Later.isAlphabetic c || Later.isNumeric c

def groupName? (s : List Char) : Option (String × List Char) :=
  match s.takeWhile (· != '>'), s.dropWhile (· != '>') with
  | c :: cs, '>' :: rest =>
    if isNameStart c ∧ cs.all isNameChar then some (String.ofList (c :: cs), rest) else none
  | _, _ => none

/-- What an opening parenthesis begins. -/
inductive GroupFront where
  | flags (changes : List FlagChange)
  | group (name : Option String) (changes : List FlagChange)

def groupFront? (verbose : Bool) (s : List Char) : Option (GroupFront × List Char) :=
  match skipVerbose verbose s with
  | '?' :: '=' :: _ => none
  | '?' :: '!' :: _ => none
  | '?' :: '<' :: '=' :: _ => none
  | '?' :: '<' :: '!' :: _ => none
  | '?' :: 'P' :: '<' :: s => (groupName? s).map fun (name, s) => (.group (some name) [], s)
  | '?' :: '<' :: s => (groupName? s).map fun (name, s) => (.group (some name) [], s)
  | '?' :: s =>
    match flags? true [] s with
    | some ([], ')', _) => none
    | some (changes, ')', s) => some (.flags changes, s)
    | some (changes, _, s) => some (.group none changes, s)
    | none => none
  | s => some (.group none [], s)

def changed (f : PatternFlag) (old : Bool) (changes : List FlagChange) : Bool :=
  changes.foldl (fun b c => if c.1 = f then c.2 else b) old

/-! ## Repetitions -/

/-- A number of 32 bits, with blanks around it. -/
def count? (verbose : Bool) (s : List Char) : Option Nat × List Char :=
  let (digits, rest) := go (s.length + 1) (s.dropWhile isBlank)
  let rest := dropBlanks (rest.length + 1) rest
  let n := spelled digits
  (if digits = [] ∨ Nat.pow 2 32 ≤ n then none else some n, rest)
where
  go : Nat → List Char → List Nat × List Char
    | 0, s => ([], s)
    | fuel + 1, s =>
      match s with
      | [] => ([], [])
      | c :: r =>
        if isAsciiDigit c then
          let (ds, rest) := go fuel (skipVerbose verbose r)
          (digitValue c :: ds, rest)
        else ([], s)
  dropBlanks : Nat → List Char → List Char
    | 0, s => s
    | fuel + 1, s =>
      match s with
      | [] => []
      | c :: r => if isBlank c then dropBlanks fuel (skipVerbose verbose r) else s

/-- The bounds of a counted repetition, behind its opening brace. -/
def bounds? (verbose : Bool) (s : List Char) : Option ((Nat × Option Nat) × List Char) :=
  match count? verbose (skipVerbose verbose s) with
  | (least, ',' :: s) =>
    match skipVerbose verbose s with
    | '}' :: s => least.map fun n => ((n, none), s)
    | s =>
      match least, count? verbose s with
      | some n, (some m, '}' :: s) => if n ≤ m then some ((n, some m), s) else none
      | _, _ => none
  | (some n, '}' :: s) => some ((n, some n), s)
  | _ => none

/-- Drops the mark that asks for as few repetitions as possible, which changes no match. -/
def dropLazy : List Char → List Char
  | '?' :: s => s
  | s => s

/-- Repeats the last item; there has to be one, and flags are none. -/
def repeatLast? (least : Nat) (most : Option Nat) : List Expression → Option (List Expression)
  | [] => none
  | .flags _ :: _ => none
  | e :: items => some (.times e least most :: items)

/-! ## Expressions -/

/-- A sequence of items, last one first. -/
def closeSequence : List Expression → Expression
  | [] => .empty
  | [e] => e
  | es => .seq es.reverse

/-- A choice of sequences, last one first. -/
def closeChoice : List Expression → Expression
  | [] => .empty
  | [e] => e
  | es => .alt es.reverse

def PatternItem.toExpression : PatternItem → Expression
  | literal l => .literal l
  | short k negated => .short k negated
  | named name negated => .named name negated
  | anchor a => .anchor a

/-- An expression up to the end or to a closing parenthesis. `done` holds the finished alternatives and
`items` the current one, the last first. -/
def expression? : Nat → Bool → List Expression → List Expression → List Char →
    Option (Expression × List Char)
  | 0, _, _, _, _ => none
  | fuel + 1, verbose, done, items, s =>
    let item (e : Expression) (s : List Char) := expression? fuel verbose done (e :: items) s
    let repeated (least : Nat) (most : Option Nat) (s : List Char) := do
      expression? fuel verbose done (← repeatLast? least most items) s
    match skipVerbose verbose s with
    | [] => some (closeChoice (closeSequence items :: done), [])
    | ')' :: s => some (closeChoice (closeSequence items :: done), ')' :: s)
    | '|' :: s => expression? fuel verbose (closeSequence items :: done) [] s
    | '(' :: s => do
      match ← groupFront? verbose s with
      | (.flags changes, s) =>
        expression? fuel (changed .verbose verbose changes) done (.flags changes :: items) s
      | (.group name changes, s) =>
        match ← expression? fuel (changed .verbose verbose changes) [] [] s with
        | (e, ')' :: s) => item (.group name changes e) s
        | _ => none
    | '[' :: s => do
      let (e, s) ← set? verbose s
      item (.set e) s
    | '?' :: s => repeated 0 (some 1) (dropLazy s)
    | '*' :: s => repeated 0 none (dropLazy s)
    | '+' :: s => repeated 1 none (dropLazy s)
    | '{' :: s => do
      let ((least, most), s) ← bounds? verbose s
      repeated least most (dropLazy (skipVerbose verbose s))
    | '\\' :: s => do
      let (p, s) ← escaped? verbose s
      item p.toExpression s
    | '.' :: s => item .dot s
    | '^' :: s => item (.anchor .lineStart) s
    | '$' :: s => item (.anchor .lineEnd) s
    | c :: s => item (.literal ⟨c, false⟩) s

def Expression.read? (s : List Char) : Option Expression :=
  match expression? (s.length + 1) false [] [] s with
  | some (e, []) =>
    if e.groupNames.Nodup ∧ e.depth ≤ maxDepth then some e else none
  | _ => none

end TableSchema
