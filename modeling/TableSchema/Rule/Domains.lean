import TableSchema.Specs.Basic
import TableSchema.Text.Blank
import TableSchema.Text.Lowercase

/-!
# Domain lists

Domains are compared in normal form: without blanks at the ends, in lower case and, where asked for,
without `www.` in front.
-/

namespace TableSchema

def wwwDot : List Char :=
  ['w', 'w', 'w', '.']

/-- Drops one `www.` from the front if `strip` is set. -/
def dropWww (strip : Bool) (s : List Char) : List Char :=
  if strip && wwwDot.isPrefixOf s then s.drop 4 else s

def normalDomain (strip : Bool) (domain : String) : String :=
  String.ofList (dropWww strip (lowercase (trim domain.toList)))

namespace DomainSpecs

/-- The same lists with every domain in normal form. -/
def normal (strip : Bool) (s : DomainSpecs) : DomainSpecs :=
  { s with
    allowedDomains := s.allowedDomains.map (normalDomain strip)
    exceptDomains := s.exceptDomains.map (normalDomain strip) }

def hasLists (s : DomainSpecs) : Bool :=
  !s.allowedDomains.isEmpty || !s.exceptDomains.isEmpty

/-- Listed as allowed, if any domain is, and not excepted. -/
def permits (s : DomainSpecs) (domain : String) : Bool :=
  (s.allowedDomains.isEmpty || s.allowedDomains.contains domain) && !s.exceptDomains.contains domain

end DomainSpecs

end TableSchema
