import Portrait.Text.CodePoints

/-!
# Files of settings

A file of settings has one name and value per line. Values may be in quotes, may run over several
lines within them, and may refer to other names.

* `Dotenv.bindings` — the names and values in a text, in order; a line that cannot be understood is
  passed over.
* `Dotenv.resolve` — the values of the names, with references replaced.
-/

namespace Portrait.Settings.Dotenv

/-- A name, and its value if there is one. -/
abbrev Binding : Type := String × Option String

/-- Does the character end a line? -/
def isLineEnd (c : Char) : Bool := c = '\n' || c = '\r'

def isBlank (c : Char) : Bool := Text.isBlank c.toNat

/-- Is the character a blank within a line? -/
def isInlineBlank (c : Char) : Bool := isBlank c && !isLineEnd c

/-- The text with every line ended by a single character. -/
def unifyLineEnds : List Char → List Char
  | [] => []
  | '\r' :: '\n' :: rest => '\n' :: unifyLineEnds rest
  | '\r' :: rest => '\n' :: unifyLineEnds rest
  | c :: rest => c :: unifyLineEnds rest

/-- What is left of a text after a word for export and the blanks after it. -/
def skipExport (cs : List Char) : List Char :=
  let word := "export".toList
  let after := cs.drop word.length
  if word.isPrefixOf cs && (after.head?.any isInlineBlank) then after.dropWhile isInlineBlank else cs

/-- A name, in single quotes or without. A comment stands for no name. -/
def readName (cs : List Char) : Option (Option String × List Char) :=
  match cs with
  | '#' :: _ => some (none, cs)
  | '\'' :: rest =>
    match rest.takeWhile (· ≠ '\''), rest.dropWhile (· ≠ '\'') with
    | [], _ => none
    | _, [] => none
    | name, _ :: rest => some (some (String.ofList name), rest)
  | _ =>
    let isName (c : Char) : Bool := c ≠ '=' && c ≠ '#' && !isBlank c
    match cs.takeWhile isName with
    | [] => none
    | name => some (some (String.ofList name), cs.dropWhile isName)

/-- The places of a quote in a text, each with the character before it. -/
def quotePlaces (quote previous : Char) (place : Nat) : List Char → List (Nat × Char)
  | [] => []
  | c :: rest =>
    if c = quote then (place, previous) :: quotePlaces quote c (place + 1) rest
    else quotePlaces quote c (place + 1) rest

/-- The place of the quote that ends a text: the first one that does not follow a backslash, or else
the last one. -/
def closingPlace? (quote : Char) (cs : List Char) : Option Nat :=
  let places := quotePlaces quote quote 0 cs
  match places.find? fun p => p.2 ≠ '\\' with
  | some p => some p.1
  | none => places.getLast?.map Prod.fst

/-- The character that is escaped by a letter in double quotes. -/
def doubleEscape? (c : Char) : Option Char :=
  match c with
  | '\\' => some '\\'
  | '\'' => some '\''
  | '"' => some '"'
  | 'a' => some '\x07'
  | 'b' => some '\x08'
  | 'f' => some '\x0c'
  | 'n' => some '\n'
  | 'r' => some '\r'
  | 't' => some '\t'
  | 'v' => some '\x0b'
  | _ => none

/-- The character that is escaped in single quotes. -/
def singleEscape? (c : Char) : Option Char :=
  match c with
  | '\\' => some '\\'
  | '\'' => some '\''
  | _ => none

/-- Replaces escapes; a backslash before any other character is kept. -/
def unescape (escape : Char → Option Char) : List Char → List Char
  | [] => []
  | '\\' :: c :: rest =>
    match escape c with
    | some d => d :: unescape escape rest
    | none => '\\' :: unescape escape (c :: rest)
  | c :: rest => c :: unescape escape rest

/-- The text before blanks and a number sign. -/
def dropComment : List Char → List Char
  | [] => []
  | c :: rest =>
    if isBlank c && (rest.dropWhile isBlank).head? = some '#' then []
    else c :: dropComment rest

/-- A value without quotes: the rest of the line, without a comment and blanks at its end. -/
def plainValue (line : List Char) : String :=
  String.ofList ((dropComment line).reverse.dropWhile isBlank).reverse

/-- A value in quotes. -/
def readQuoted (quote : Char) (escape : Char → Option Char) (cs : List Char) :
    Option (String × List Char) :=
  match closingPlace? quote cs with
  | none => none
  | some place => some (String.ofList (unescape escape (cs.take place)), cs.drop (place + 1))

/-- The value at the start of a text. -/
def readValue (cs : List Char) : Option (String × List Char) :=
  match cs with
  | '\'' :: rest => readQuoted '\'' singleEscape? rest
  | '"' :: rest => readQuoted '"' doubleEscape? rest
  | _ => some (plainValue (cs.takeWhile (!isLineEnd ·)), cs.dropWhile (!isLineEnd ·))

/-- What is left of a text after an optional comment and the end of the line; none if there is
anything else in the line. -/
def finishLine (cs : List Char) : Option (List Char) :=
  let cs := cs.dropWhile isInlineBlank
  let cs := if cs.head? = some '#' then cs.dropWhile (!isLineEnd ·) else cs
  match cs with
  | [] => some []
  | c :: rest => if isLineEnd c then some rest else none

/-- What is left of a text after the rest of the line. -/
def skipLine (cs : List Char) : List Char := (cs.dropWhile (!isLineEnd ·)).drop 1

/-- The optional value after a name. -/
def readAssigned (cs : List Char) : Option (Option String × List Char) :=
  match cs with
  | '=' :: rest => (readValue (rest.dropWhile isInlineBlank)).map fun (v, cs) => (some v, cs)
  | _ => some (none, cs)

/-- Reads one binding, or passes over a line from where it cannot be understood. -/
def readBinding (cs : List Char) : Option Binding × List Char :=
  let cs := skipExport (cs.dropWhile isBlank)
  match readName cs with
  | none => (none, skipLine cs)
  | some (name, cs) =>
    let cs := cs.dropWhile isInlineBlank
    match readAssigned cs with
    | none => (none, skipLine cs)
    | some (value, cs) =>
      match finishLine cs with
      | none => (none, skipLine cs)
      | some rest => (name.map fun n => (n, value), rest)

/-- The bindings of a text; `fuel` bounds their number. -/
def readBindings (fuel : Nat) (cs : List Char) : List Binding :=
  match fuel, cs with
  | 0, _ => []
  | _, [] => []
  | fuel + 1, cs =>
    let (binding, rest) := readBinding cs
    match binding with
    | none => readBindings fuel rest
    | some b => b :: readBindings fuel rest

/-- The bindings of a text, in order. -/
def bindings (text : String) : List Binding :=
  let cs := unifyLineEnds text.toList
  readBindings (cs.length + 1) cs

/-- The last value of a name. -/
def lookup (values : List Binding) (name : String) : Option (Option String) :=
  (values.reverse.find? fun b => b.1 == name).map Prod.snd

/-- A reference at the start of a text, without the dollar sign and the opening brace: its name, its
default and what follows it. -/
def readReference (cs : List Char) : Option (String × String × List Char) :=
  let inName (c : Char) : Bool := c ≠ '}' && c ≠ ':'
  let name := String.ofList (cs.takeWhile inName)
  match cs.dropWhile inName with
  | '}' :: rest => some (name, "", rest)
  | ':' :: '-' :: rest =>
    match rest.dropWhile (· ≠ '}') with
    | '}' :: after => some (name, String.ofList (rest.takeWhile (· ≠ '}')), after)
    | _ => none
  | _ => none

/-- The text with its references replaced. A name without value stands for nothing; `fuel` bounds the
length of the text. -/
def expand (values : List Binding) (fuel : Nat) (cs : List Char) : List Char :=
  match fuel, cs with
  | 0, cs => cs
  | _, [] => []
  | fuel + 1, '$' :: '\x7b' :: rest =>
    match readReference rest with
    | none => '$' :: expand values fuel ('\x7b' :: rest)
    | some (name, fallback, after) =>
      let value := ((lookup values name).getD (some fallback)).getD ""
      value.toList ++ expand values fuel after
  | fuel + 1, c :: rest => c :: expand values fuel rest

/-- The bindings with their references replaced, which are looked up among the bindings before them
and then in the environment. -/
def resolveFrom (values : List Binding) : List Binding → List Binding
  | [] => values
  | (name, value) :: rest =>
    let value := value.map fun v => String.ofList (expand values (v.length + 1) v.toList)
    resolveFrom (values ++ [(name, value)]) rest

/-- The values in a file of settings, in the order in which they are given. -/
def resolve (environment : List (String × String)) (text : String) : List Binding :=
  (resolveFrom (environment.map fun b => (b.1, some b.2)) (bindings text)).drop environment.length

end Portrait.Settings.Dotenv
