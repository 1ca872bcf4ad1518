import TableSchema.Shape

/-!
# Errors of schemas
-/

namespace TableSchema

inductive Malformed where
  | descriptorNotObject (found : Json.Kind)
  | descriptorMember (name : String)
  | fieldNotObject (found : Json.Kind)
  | fieldId
  | fieldOrder
  | fieldIsAuto (found : Json.Kind)
  | fieldItem
  | fieldsNotArray (found : Json.Kind)
deriving DecidableEq, Repr

def Malformed.message : Malformed → String
  | descriptorNotObject found => "descriptor must be an object, got " ++ found.name
  | descriptorMember name => "descriptor '" ++ name ++ "' must be a string"
  | fieldNotObject found => "wrapped field must be an object, got " ++ found.name
  | fieldId => "wrapped field 'id' must be a string"
  | fieldOrder => "wrapped field 'order' must be an integer"
  | fieldIsAuto found => "wrapped field 'isAuto' must be a bool, got " ++ found.name
  | fieldItem => "wrapped field 'item' is missing"
  | fieldsNotArray found => "fields must be an array, got " ++ found.name

inductive SchemaError where
  | badSpecs (type : FieldType) (violations : List Violation)
  | unknownType (tag : String)
  | malformed (cause : Malformed)
  | typeMismatch (expected actual : FieldType)
  | unknownId (id : String)
deriving DecidableEq, Repr

namespace SchemaError

def code : SchemaError → String
  | badSpecs _ _ => "FIELD_SPEC_SHAPE"
  | unknownType _ => "FIELD_UNSUPPORTED_TYPE"
  | malformed _ => "FIELD_MALFORMED"
  | typeMismatch _ _ => "FIELD_SPEC_KIND_MISMATCH"
  | unknownId _ => "FIELD_UNKNOWN_ID"

def status : SchemaError → Nat
  | unknownId _ => 404
  | _ => 400

def message : SchemaError → String
  | badSpecs type violations =>
    "Invalid settings for " ++ type.tag ++ " field: " ++ "; ".intercalate (violations.map (·.text))
  | unknownType tag => "Unsupported config type: " ++ tag
  | malformed cause => "Malformed field: " ++ cause.message
  | typeMismatch expected actual =>
    "Specs of type " ++ actual.tag ++ " cannot replace specs of type " ++ expected.tag
  | unknownId id => "Field not found: " ++ id

end SchemaError

def FieldType.ofTag (tag : String) : Except SchemaError FieldType :=
  match ofTag? tag with
  | some t => .ok t
  | none => .error (.unknownType tag)

end TableSchema
