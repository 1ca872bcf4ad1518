import TableSchema.Pattern.PropertyNames
import TableSchema.Pattern.Reading
import TableSchema.Pattern.Size

/-!
# The pattern that a text describes

Flags hold from where they are set to the end of the group. Closing a class under case comes before its
negation, and both sides of a set operation are closed before it. Without the unicode flag a pattern
speaks of bytes, and whatever could match a byte beyond ASCII is refused. So is a pattern that is too large.
-/

namespace TableSchema

structure PatternFlags where
  anyCase : Bool := false
  multiLine : Bool := false
  dotAll : Bool := false
  unicode : Bool := true
  crlf : Bool := false

namespace PatternFlags

def update (f : PatternFlags) (changes : List FlagChange) : PatternFlags :=
  { anyCase := changed .anyCase f.anyCase changes
    multiLine := changed .multiLine f.multiLine changes
    dotAll := changed .dotAll f.dotAll changes
    unicode := changed .unicode f.unicode changes
    crlf := changed .crlf f.crlf changes }

def close (f : PatternFlags) (k : CharClass) : CharClass :=
  if f.anyCase then (if f.unicode then .anyCase k else .anyAsciiCase k) else k

/-- The complement of a class, if asked for. It would hold bytes beyond ASCII, so there is none of bytes. -/
def negate? (f : PatternFlags) (negated : Bool) (k : CharClass) : Option CharClass :=
  if !negated then some k
  else if f.unicode then some (.compl k)
  else none

/-! ## Classes -/

def asciiWord : CharClass :=
  .ofRanges [('0', '9'), ('A', 'Z'), ('_', '_'), ('a', 'z')]

def asciiBlank : CharClass :=
  .ofChars ['\t', '\n', '\x0b', '\x0c', '\r', ' ']

def shortClass (f : PatternFlags) : ShortClass → CharClass
  | .digit => if f.unicode then .property .digit else .range '0' '9'
  | .blank => if f.unicode then .property .blank else asciiBlank
  | .word => if f.unicode then .property .word else asciiWord

def asciiClass : AsciiClass → CharClass
  | .alnum => .ofRanges [('0', '9'), ('A', 'Z'), ('a', 'z')]
  | .alpha => .ofRanges [('A', 'Z'), ('a', 'z')]
  | .ascii => .range '\x00' '\x7f'
  | .blank => .ofChars ['\t', ' ']
  | .cntrl => .ofRanges [('\x00', '\x1f'), ('\x7f', '\x7f')]
  | .digit => .range '0' '9'
  | .graph => .range '!' '~'
  | .lower => .range 'a' 'z'
  | .print => .range ' ' '~'
  | .punct => .ofRanges [('!', '/'), (':', '@'), ('[', Char.ofNat 0x60), ('\x7b', '~')]
  | .space => asciiBlank
  | .upper => .range 'A' 'Z'
  | .word => asciiWord
  | .xdigit => .ofRanges [('0', '9'), ('A', 'F'), ('a', 'f')]

def namedClass? (f : PatternFlags) (name : PropertyName) (negated : Bool) : Option CharClass :=
  if f.unicode then name.class?.bind fun k => f.negate? negated (f.close k) else none

/-- A character of a class; a class of bytes has ASCII only. -/
def setChar? (f : PatternFlags) (l : Literal) : Option Char :=
  if f.unicode ∨ isAscii l.char then some l.char else none

mutual

def setClass? (f : PatternFlags) : SetExpression → Option CharClass
  | .empty => some .none
  | .literal l => (f.setChar? l).map .single
  | .range first last => do return .range (← f.setChar? first) (← f.setChar? last)
  | .short k negated => f.negate? negated (f.shortClass k)
  | .ascii k negated => f.negate? negated (f.close (asciiClass k))
  | .named name negated => f.namedClass? name negated
  | .bracketed negated e => do
    let k ← setClass? f e
    f.negate? negated (f.close k)
  | .union es => unionClass? f es
  | .op o e g => do
    let k ← setClass? f e
    let l ← setClass? f g
    return match o with
      | .inter => .inter (f.close k) (f.close l)
      | .diff => .diff (f.close k) (f.close l)
      | .symmDiff => .symmDiff (f.close k) (f.close l)

def unionClass? (f : PatternFlags) : List SetExpression → Option CharClass
  | [] => some .none
  | e :: es => do return .union (← setClass? f e) (← unionClass? f es)

end

/-! ## Single items -/

def literal? (f : PatternFlags) (l : Literal) : Option Pattern :=
  if !f.unicode && l.asByte && !isAscii l.char then none
  else some (.char (f.close (.single l.char)))

def dot? (f : PatternFlags) : Option Pattern :=
  if !f.unicode then none
  else if f.dotAll then some (.char .any)
  else some (.char (.compl (.ofChars (if f.crlf then ['\r', '\n'] else ['\n']))))

def edgeWord (f : PatternFlags) : Property :=
  if f.unicode then .word else .runs (CodeSet.ofText "30-39 41-5a 5f 61-7a")

def look (f : PatternFlags) : Anchor → Look
  | .lineStart => if f.multiLine then (if f.crlf then .crlfStart else .lineStart) else .textStart
  | .lineEnd => if f.multiLine then (if f.crlf then .crlfEnd else .lineEnd) else .textEnd
  | .textStart => .textStart
  | .textEnd => .textEnd
  | .wordEdge => .wordEdge f.edgeWord
  | .noWordEdge => .noWordEdge f.edgeWord
  | .wordStart => .wordStart f.edgeWord
  | .wordEnd => .wordEnd f.edgeWord
  | .wordStartHalf => .wordStartHalf f.edgeWord
  | .wordEndHalf => .wordEndHalf f.edgeWord

end PatternFlags

/-! ## Expressions -/

mutual

/-- The pattern of an expression, and the flags that hold behind it. -/
def Expression.pattern? (f : PatternFlags) : Expression → Option (Pattern × PatternFlags)
  | .empty => some (.empty, f)
  | .literal l => (f.literal? l).map fun p => (p, f)
  | .dot => f.dot?.map fun p => (p, f)
  | .anchor a => some (.look (f.look a), f)
  | .short k negated => (f.negate? negated (f.shortClass k)).map fun k => (.char k, f)
  | .named name negated => (f.namedClass? name negated).map fun k => (.char k, f)
  | .set e => (f.setClass? e).map fun k => (.char k, f)
  | .flags changes => some (.empty, f.update changes)
  | .group _ changes e => (e.pattern? (f.update changes)).map fun (p, _) => (p, f)
  | .times e least most => (e.pattern? f).map fun (p, g) => (.times p least most, g)
  | .seq es => (patterns? f es).map fun (ps, g) => (.sequence ps, g)
  | .alt es => (patterns? f es).map fun (ps, g) => (.choice ps, g)

/-- The patterns of several expressions, each with the flags that the one before it left. -/
def patterns? (f : PatternFlags) : List Expression → Option (List Pattern × PatternFlags)
  | [] => some ([], f)
  | e :: es => do
    let (p, f) ← e.pattern? f
    let (ps, f) ← patterns? f es
    return (p :: ps, f)

end

/-- The pattern that a text describes, if it describes one that is not too large. -/
def Pattern.read? (s : String) : Option Pattern := do
  let e ← Expression.read? s.toList
  let (p, _) ← e.pattern? {}
  if p.size ≤ maxSize then return p else none

example : (Pattern.read? "(?:a{100}){100}").isSome = true ∧ Pattern.read? "(?:a{1000}){1000}" = none := by
  decide +kernel

end TableSchema
