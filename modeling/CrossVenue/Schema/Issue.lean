import CrossVenue.Json.Value

/-!
# Issues of untrusted values

An issue says which rule a value breaks and where: by the field names and list positions that lead to
the value.
-/

set_option autoImplicit false

namespace CrossVenue

/-- A step from a value into one of its parts. -/
inductive Place
  | field (name : Text)
  | item (index : Nat)
deriving DecidableEq, Repr

/-- The text with every half replaced by three replacement characters. -/
def replaceHalves (t : Text) : Text :=
  ⟨t.toList.flatMap fun p =>
    match p with
    | .char c => [.char c]
    | .half _ => [.char '\ufffd', .char '\ufffd', .char '\ufffd']⟩

/-- A step as a JSON value; the three bytes of a half are shown as three replacement characters. -/
def Place.toJson : Place → Json
  | field name => .str (replaceHalves name)
  | item index => .int index

/-- The rule that a value breaks. -/
inductive Rule
  | missing
  | stringType
  | stringUnicode
  | intType
  | intParsing
  | intParsingSize
  | intFromFloat
  | finiteNumber
  | boolType
  | boolParsing
  | bytesType
  | listType
  | dictType
  | enumeration
  | modelType
  | modelAttributesType
  | greaterThanEqual
  | lessThanEqual
  | lessThan
  | valueError
  | jsonInvalid
deriving DecidableEq, Repr

/-- The name under which a broken rule is reported. -/
def Rule.name : Rule → String
  | missing => "missing"
  | stringType => "string_type"
  | stringUnicode => "string_unicode"
  | intType => "int_type"
  | intParsing => "int_parsing"
  | intParsingSize => "int_parsing_size"
  | intFromFloat => "int_from_float"
  | finiteNumber => "finite_number"
  | boolType => "bool_type"
  | boolParsing => "bool_parsing"
  | bytesType => "bytes_type"
  | listType => "list_type"
  | dictType => "dict_type"
  | enumeration => "enum"
  | modelType => "model_type"
  | modelAttributesType => "model_attributes_type"
  | greaterThanEqual => "greater_than_equal"
  | lessThanEqual => "less_than_equal"
  | lessThan => "less_than"
  | valueError => "value_error"
  | jsonInvalid => "json_invalid"

/-- A broken rule and the path to the value that breaks it. -/
structure Issue where
  rule : Rule
  path : List Place
deriving DecidableEq, Repr

/-- The issue seen from the value that holds the part at `place`. -/
def Issue.under (place : Place) (i : Issue) : Issue := { i with path := place :: i.path }

/-- The issue as a pair of the rule's name and the path. -/
def Issue.toJson (i : Issue) : Json := .arr [.str i.rule.name, .arr (i.path.map Place.toJson)]

end CrossVenue
