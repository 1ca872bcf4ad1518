/-!
# Field types
-/

namespace TableSchema

/-- What the values of a table column are. -/
inductive FieldType where
  | boolean | string | number | date
  | email | json | select | url
  | relation
deriving DecidableEq, Repr

namespace FieldType

def all : List FieldType :=
  [boolean, string, number, date, email, json, select, url, relation]

def tag : FieldType → String
  | boolean => "boolean"
  | string => "string"
  | number => "number"
  | date => "date"
  | email => "email"
  | json => "json"
  | select => "select"
  | url => "url"
  | relation => "relation"

def title : FieldType → String
  | boolean => "Да/Нет"
  | string => "Текст"
  | number => "Число"
  | date => "Дата"
  | email => "Email"
  | json => "JSON"
  | select => "Список"
  | url => "URL"
  | relation => "Связанные записи"

def ofTag? (tag : String) : Option FieldType :=
  all.find? (·.tag == tag)

theorem ofTag?_tag (t : FieldType) : ofTag? t.tag = some t := by
  cases t <;> decide

end FieldType

end TableSchema
