import Portrait.Text.CodePoints
import Portrait.Text.Decimal

/-!
# Values of the JavaScript object notation

* `Json` — values. Numbers with a fraction or an exponent are kept as written, numbers that are not
  finite are allowed, and so are halves of surrogate pairs in texts.
* `Json.get?` — a member of an object.
* `Json.ofString`, `Json.ofMembers` — texts and objects.
-/

namespace Portrait

/-- A value. The members of an object are in the order in which they were written. -/
inductive Json where
  | null
  | bool (b : Bool)
  | whole (n : Int)
  | decimal (d : Decimal)
  | nan
  | infinity (negative : Bool)
  | text (s : CodePoints)
  | array (items : List Json)
  | object (members : List (CodePoints × Json))
  deriving Inhabited

namespace Json

/-- The value of the last member with a name; none if there is none or the value is no object. -/
def get? (j : Json) (name : CodePoints) : Option Json :=
  match j with
  | object members => (members.reverse.find? fun m => m.1 == name).map Prod.snd
  | _ => none

/-- A text without halves of surrogate pairs. -/
def ofString (s : String) : Json := text (CodePoints.ofString s)

/-- An object with these members. -/
def ofMembers (members : List (String × Json)) : Json :=
  object (members.map fun m => (CodePoints.ofString m.1, m.2))

def isNull : Json → Bool
  | null => true
  | _ => false

/-- Is the value other than nothing: null, false, zero, an empty text, array or object? -/
def isSomething : Json → Bool
  | null => false
  | bool b => b
  | whole n => n != 0
  | decimal d => d.mantissa != 0
  | nan => true
  | infinity _ => true
  | text s => !s.isEmpty
  | array items => !items.isEmpty
  | object members => !members.isEmpty

end Json

end Portrait
