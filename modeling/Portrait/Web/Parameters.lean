import Portrait.Text.CodePoints

/-!
# Header values with parameters

A header value may be followed by parameters, each after a semicolon; what is in quotes is not looked
at for semicolons.

* `Parameters.parse` — the value and its parameters.
-/

namespace Portrait.Web

/-- A header value and its parameters, whose names are in lower case. -/
structure Parameters where
  value : String
  parameters : List (String × String) := []
  deriving DecidableEq, Repr

namespace Parameters

/-- The parts between semicolons that are outside of quotes. A quote after a backslash does not
count. -/
def split (quoted : Bool) (previous : Char) (part : List Char) : List Char → List (List Char)
  | [] => [part.reverse]
  | c :: rest =>
    if c = ';' ∧ !quoted then part.reverse :: split false c [] rest
    else split (if c = '"' ∧ previous ≠ '\\' then !quoted else quoted) c (c :: part) rest

/-- The text in quotes with the backslashes before quotes and backslashes removed. -/
def unescapeQuoted : List Char → List Char
  | '\\' :: '\\' :: rest => '\\' :: unescapeQuoted rest
  | '\\' :: '"' :: rest => '"' :: unescapeQuoted rest
  | c :: rest => c :: unescapeQuoted rest
  | [] => []

/-- The value of a parameter without the quotes around it. -/
def unquote (cs : List Char) : List Char :=
  match cs with
  | '"' :: rest => if rest.getLast? = some '"' then unescapeQuoted rest.dropLast else cs
  | _ => cs

/-- A text without blanks at its ends. -/
def stripped (cs : List Char) : List Char := Text.trim (fun c => Text.isBlank c.toNat) cs

/-- The name and the value of a parameter. -/
def parameter (part : List Char) : String × String :=
  let name := part.takeWhile (· ≠ '=')
  let value := (part.drop name.length).drop 1
  (String.ofList ((stripped name).map Char.toLower), String.ofList (unquote (stripped value)))

/-- A header value with its parameters. -/
def parse (header : String) : Parameters :=
  match split false ' ' [] header.toList with
  | [] => ⟨"", []⟩
  | value :: parts => ⟨String.ofList (stripped value), parts.map parameter⟩

/-- The last parameter with a name. -/
def get? (p : Parameters) (name : String) : Option String :=
  (p.parameters.reverse.find? fun q => q.1 == name).map Prod.snd

end Parameters

end Portrait.Web
