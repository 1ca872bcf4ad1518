import TableSchema.Text.CaseTable
import TableSchema.Text.Property

/-!
# Characters equal up to case

Two characters are equal up to case when simple case folding sends them to the same character. ASCII is
spelt out, so that the table is asked about other characters only.
-/

namespace TableSchema

def foldChar (c : Char) : Char :=
  if isAsciiUpper c then Char.ofNat (c.toNat + 32)
  else if isAscii c then c
  else (foldingTable.get? c).getD c

/-- The characters beyond ASCII that fold to an ASCII one: the long s and the Kelvin sign. -/
def foldedToAscii (d : Char) : List Char :=
  if d = 's' then [Char.ofNat 0x17f] else if d = 'k' then [Char.ofNat 0x212a] else []

/-- All characters with the folding of `c`, `c` among them. -/
def caseOrbit (c : Char) : List Char :=
  let d := foldChar c
  let upper := if isAsciiLower d then [Char.ofNat (d.toNat - 32)] else []
  d :: upper ++ if isAscii d then foldedToAscii d else foldingTable.sources d

/-- The ASCII letters equal to `c` up to case, and `c` itself. -/
def asciiOrbit (c : Char) : List Char :=
  if isAsciiUpper c then [c, Char.ofNat (c.toNat + 32)]
  else if isAsciiLower c then [c, Char.ofNat (c.toNat - 32)]
  else [c]

end TableSchema
