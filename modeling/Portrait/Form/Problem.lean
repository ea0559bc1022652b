/-!
# What is wrong with a value that was sent

* `Problem` — the ways in which a value is not what is asked for.
* `Complaint` — a problem and the place of the value.
-/

namespace Portrait

/-- Why a value is refused. -/
inductive Problem where
  | missing
  | notText
  | badText
  | tooShort
  | tooLong (limit : Nat)
  | blankName
  | notFile
  | notForm (name : String)
  | notFields
  | badJson
  | notWhole
  | unreadableWhole
  | longWhole
  | fractional
  | notFinite
  | notSwitch
  | unreadableSwitch
  | noMatch (pattern : String)
  | notList
  deriving DecidableEq, Repr

namespace Problem

/-- The short name of a problem. -/
def kind : Problem → String
  | missing => "missing"
  | notText => "string_type"
  | badText => "string_unicode"
  | tooShort => "string_too_short"
  | tooLong _ => "string_too_long"
  | blankName => "value_error"
  | notFile => "value_error"
  | notForm _ => "model_type"
  | notFields => "model_attributes_type"
  | badJson => "json_invalid"
  | notWhole => "int_type"
  | unreadableWhole => "int_parsing"
  | longWhole => "int_parsing_size"
  | fractional => "int_from_float"
  | notFinite => "finite_number"
  | notSwitch => "bool_type"
  | unreadableSwitch => "bool_parsing"
  | noMatch _ => "string_pattern_mismatch"
  | notList => "list_type"

/-- A problem in words. -/
def message : Problem → String
  | missing => "Field required"
  | notText => "Input should be a valid string"
  | badText => "Input should be a valid string, unable to parse raw data as a unicode string"
  | tooShort => "String should have at least 1 character"
  | tooLong limit => "String should have at most " ++ toString limit ++ " characters"
  | blankName => "Value error, Name must not be blank"
  | notFile => "Value error, Expected UploadFile, received: <class 'str'>"
  | notForm name => "Input should be a valid dictionary or instance of " ++ name
  | notFields => "Input should be a valid dictionary or object to extract fields from"
  | badJson => "JSON decode error"
  | notWhole => "Input should be a valid integer"
  | unreadableWhole => "Input should be a valid integer, unable to parse string as an integer"
  | longWhole => "Unable to parse input string as an integer, exceeded maximum size"
  | fractional => "Input should be a valid integer, got a number with a fractional part"
  | notFinite => "Input should be a finite number"
  | notSwitch => "Input should be a valid boolean"
  | unreadableSwitch => "Input should be a valid boolean, unable to interpret input"
  | noMatch pattern => "String should match pattern '" ++ pattern ++ "'"
  | notList => "Input should be a valid list"

end Problem

/-- A step from a value to one inside it. -/
inductive Step where
  | name (s : String)
  | index (n : Nat)
  deriving DecidableEq, Repr

/-- A problem and the place of the value. -/
structure Complaint where
  place : List Step
  problem : Problem
  deriving DecidableEq, Repr

/-- The complaint seen from further out. -/
def Complaint.within (c : Complaint) (s : Step) : Complaint := { c with place := s :: c.place }

end Portrait
