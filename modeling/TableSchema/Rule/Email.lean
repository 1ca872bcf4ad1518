import TableSchema.Pattern.Matching
import TableSchema.Text.Lowercase

/-!
# Email addresses

An address is a local part, one `@` and a domain with a point inside, all without blanks.
-/

namespace TableSchema

namespace Email

/-- No blank and no `@`. -/
def partChar : CharClass :=
  .compl (.union (.property .blank) (.single '@'))

def format : Pattern :=
  .sequence [
    .look .textStart, .plus (.char partChar), .char (.single '@'), .plus (.char partChar),
    .char (.single '.'), .plus (.char partChar), .look .textEnd]

def isAddress (s : List Char) : Bool :=
  format.foundIn s

/-- What stands behind the last `@`, in lower case. -/
def domain (s : List Char) : List Char :=
  lowercase (s.reverse.takeWhile (· != '@')).reverse

end Email

end TableSchema
