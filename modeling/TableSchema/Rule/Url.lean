import TableSchema.Pattern.Matching
import TableSchema.Rule.Domains

/-!
# URLs

A URL is a host with a dotted name. A scheme and a user may stand in front of it, a number such as `:8080`
and a tail behind it. Letters are letters `a` to `z` up to case, which takes in U+017F and U+212A.
-/

namespace TableSchema

namespace Url

def letter : CharClass :=
  .anyCase (.range 'a' 'z')

def letterOrDigit : CharClass :=
  .anyCase (.ofRanges [('a', 'z'), ('0', '9')])

def labelChar : CharClass :=
  .anyCase (.ofRanges [('a', 'z'), ('0', '9'), ('-', '-')])

def schemeChar : CharClass :=
  .anyCase (.ofRanges [('a', 'z'), ('0', '9'), ('+', '+'), ('.', '.'), ('-', '-')])

def userChar : CharClass :=
  .compl (.union (.property .blank) (.ofChars ['/', '@']))

def text (s : List Char) : Pattern :=
  .sequence (s.map fun c => .char (.single c))

/-- `https://` and the like. -/
def scheme : Pattern :=
  .sequence [.char letter, .star (.char schemeChar), text [':', '/', '/']]

def user : Pattern :=
  .sequence [.plus (.char userChar), text ['@']]

/-- One label of a host; hyphens are inside only. -/
def label : Pattern :=
  .sequence [
    .char letterOrDigit,
    .opt (.sequence [.star (.char labelChar), .char letterOrDigit])]

def host : Pattern :=
  .sequence [.plus (.sequence [label, text ['.']]), .times (.char letter) 2 none]

def portNumber : Pattern :=
  .sequence [text [':'], .times (.char (.property .digit)) 1 (some 5)]

/-- Path, query or fragment. -/
def tail : Pattern :=
  .sequence [
    .char (.ofChars ['/', '?', '#']), .star (.char (.compl (.property .blank)))]

def format : Pattern :=
  .sequence [
    .look .textStart, .opt scheme, .opt user, host, .opt portNumber, .opt tail, .look .textEnd]

def isUrl (s : List Char) : Bool :=
  format.foundIn s

/-- What stands behind the first `://`. -/
def afterScheme? : List Char → Option (List Char)
  | [] => none
  | ':' :: '/' :: '/' :: s => some s
  | _ :: s => afterScheme? s

def withoutScheme (s : List Char) : List Char :=
  (afterScheme? s).getD s

def endsAuthority (c : Char) : Bool :=
  c == '/' || c == '?' || c == '#'

/-- The host in lower case, without `www.` if `strip` is set. -/
def hostOf (strip : Bool) (s : List Char) : List Char :=
  let authority := (withoutScheme s).takeWhile (!endsAuthority ·)
  let hostPort := (authority.reverse.takeWhile (· != '@')).reverse
  dropWww strip (lowercase (hostPort.takeWhile (· != ':')))

end Url

end TableSchema
