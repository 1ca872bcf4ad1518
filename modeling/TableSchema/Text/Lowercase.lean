import TableSchema.Text.CaseTable
import TableSchema.Text.Later

/-!
# Lower case

Every character is mapped on its own, save two. A capital sigma at the end of a word becomes a final
sigma, and U+0130 becomes `i` with a dot above.
-/

namespace TableSchema

/-- The lower-case form of a character that has one of a single character. -/
def lowerChar (c : Char) : Char :=
  if isAsciiUpper c then Char.ofNat (c.toNat + 32)
  else if isAscii c then c
  else (lowercaseTable.get? c).getD c

/-- The first character that is not looked through is cased. -/
def startsCased (s : List Char) : Bool :=
  match s.dropWhile Later.isCaseIgnorable with
  | c :: _ => Later.isCased c
  | [] => false

/-- Lower case of `s` when `before` stands in front of it, last character first. -/
def lowercaseAfter (before : List Char) : List Char → List Char
  | [] => []
  | c :: s =>
    let lower :=
      if c.toNat = 0x3a3 then
        [Char.ofNat (if startsCased before && !startsCased s then 0x3c2 else 0x3c3)]
      else if c.toNat = 0x130 then ['i', Char.ofNat 0x307]
      else [lowerChar c]
    lower ++ lowercaseAfter (c :: before) s

def lowercase (s : List Char) : List Char :=
  lowercaseAfter [] s

end TableSchema
