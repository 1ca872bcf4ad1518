import TableSchema.Text.Property

/-!
# Characters of the later standard

Classes of patterns are those of Unicode 16. The names of groups and the case of texts follow Unicode 17,
which adds characters to these properties and takes U+0295 out of the cased letters.
-/

namespace TableSchema.Later

def addedAlphabetic : CodeSet := CodeSet.ofLines
    ["88f c5c cdc a7ce-a7cf a7d2 a7d4 a7f1 10940-10959 10ec5-10ec7 10efa-10efb 11b60-11b67",
    "11db0-11ddb 16ea0-16eb8 16ebb-16ed3 16ff2-16ff6 187f8-187ff 18d09-18d1e 18d80-18df2",
    "1e6c0-1e6de 1e6e0-1e6f5 1e6fe-1e6ff 2b73a-2b73f 2cea2-2cead 323b0-33479"]

def addedNumeric : CodeSet := CodeSet.ofLines
    ["11de0-11de9 16ff4-16ff6"]

def addedCased : CodeSet := CodeSet.ofLines
    ["a7ce-a7cf a7d2 a7d4 a7f1 16ea0-16eb8 16ebb-16ed3"]

def addedCaseIgnorable : CodeSet := CodeSet.ofLines
    ["1acf-1add 1ae0-1aeb a7f1 10ec5 10efa-10efb 11b60 11b62-11b64 11b66 11dd9 16ff2-16ff3 1e6e3",
    "1e6e6 1e6ee-1e6ef 1e6f5 1e6ff"]

def isAlphabetic (c : Char) : Bool :=
  TableSchema.isAlphabetic c || (!isAscii c && addedAlphabetic.contains c)

def isNumeric (c : Char) : Bool :=
  TableSchema.isNumeric c || (!isAscii c && addedNumeric.contains c)

def isCased (c : Char) : Bool :=
  (TableSchema.isCased c && c.toNat != 0x295) || (!isAscii c && addedCased.contains c)

def isCaseIgnorable (c : Char) : Bool :=
  TableSchema.isCaseIgnorable c || (!isAscii c && addedCaseIgnorable.contains c)

end TableSchema.Later
