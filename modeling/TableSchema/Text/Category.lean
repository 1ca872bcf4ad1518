import TableSchema.Text.CategoryTable

/-!
# General categories

A character has at most one general category. The names are those of the standard, short and long, in
lower case and without blanks, hyphens and underscores.
-/

namespace TableSchema

inductive Category where
  | lu | ll | lt | lm | lo | mn | mc | me | nd | nl | no | pc | pd | ps | pe | pi | pf
  | po | sm | sc | sk | so | zs | zl | zp | cc | cf | co
deriving DecidableEq, Repr

namespace Category

def runs : Category → CodeSet
  | lu => Table.lu
  | ll => Table.ll
  | lt => Table.lt
  | lm => Table.lm
  | lo => Table.lo
  | mn => Table.mn
  | mc => Table.mc
  | me => Table.me
  | nd => Table.nd
  | nl => Table.nl
  | no => Table.no
  | pc => Table.pc
  | pd => Table.pd
  | ps => Table.ps
  | pe => Table.pe
  | pi => Table.pi
  | pf => Table.pf
  | po => Table.po
  | sm => Table.sm
  | sc => Table.sc
  | sk => Table.sk
  | so => Table.so
  | zs => Table.zs
  | zl => Table.zl
  | zp => Table.zp
  | cc => Table.cc
  | cf => Table.cf
  | co => Table.co

def contains (k : Category) (c : Char) : Bool :=
  k.runs.contains c

def letters : List Category := [.lu, .ll, .lt, .lm, .lo]

def marks : List Category := [.mn, .mc, .me]

def numbers : List Category := [.nd, .nl, .no]

def punctuation : List Category := [.pc, .pd, .ps, .pe, .pi, .pf, .po]

def symbols : List Category := [.sm, .sc, .sk, .so]

def separators : List Category := [.zs, .zl, .zp]

def all : List Category := [.lu, .ll, .lt, .lm, .lo, .mn, .mc, .me, .nd, .nl, .no, .pc, .pd, .ps,
  .pe, .pi, .pf, .po, .sm, .sc, .sk, .so, .zs, .zl, .zp, .cc, .cf, .co]

/-- The categories that a name stands for, with `c` and `other` and `cn` left to the caller. -/
def named : List (List String × List Category) := [
  (["l", "letter"], letters),
  (["m", "mark", "combiningmark"], marks),
  (["n", "number"], numbers),
  (["p", "punctuation", "punct"], punctuation),
  (["s", "symbol"], symbols),
  (["z", "separator"], separators),
  (["lc", "casedletter"], [.lu, .ll, .lt]),
  (["lu", "uppercaseletter"], [.lu]),
  (["ll", "lowercaseletter"], [.ll]),
  (["lt", "titlecaseletter"], [.lt]),
  (["lm", "modifierletter"], [.lm]),
  (["lo", "otherletter"], [.lo]),
  (["mn", "nonspacingmark"], [.mn]),
  (["mc", "spacingmark"], [.mc]),
  (["me", "enclosingmark"], [.me]),
  (["nd", "decimalnumber", "digit"], [.nd]),
  (["nl", "letternumber"], [.nl]),
  (["no", "othernumber"], [.no]),
  (["pc", "connectorpunctuation"], [.pc]),
  (["pd", "dashpunctuation"], [.pd]),
  (["ps", "openpunctuation"], [.ps]),
  (["pe", "closepunctuation"], [.pe]),
  (["pi", "initialpunctuation"], [.pi]),
  (["pf", "finalpunctuation"], [.pf]),
  (["po", "otherpunctuation"], [.po]),
  (["sm", "mathsymbol"], [.sm]),
  (["sc", "currencysymbol"], [.sc]),
  (["sk", "modifiersymbol"], [.sk]),
  (["so", "othersymbol"], [.so]),
  (["zs", "spaceseparator"], [.zs]),
  (["zl", "lineseparator"], [.zl]),
  (["zp", "paragraphseparator"], [.zp]),
  (["cc", "control", "cntrl"], [.cc]),
  (["cf", "format"], [.cf]),
  (["co", "privateuse"], [.co])]

def isAssigned (c : Char) : Bool :=
  all.any (·.contains c)

end Category

end TableSchema
