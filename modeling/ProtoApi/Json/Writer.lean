import ProtoApi.Json.Number

namespace ProtoApi.Json

/-!
# Writing JSON

Every writer puts its text in front of a text that follows, so that the parts of a document are
joined without copying.

* `escapedChar`, `writeString` — a quoted text: the quote, the backslash and the controls are
  escaped;
* `write`, `compact` — a value without blanks;
* `writePretty`, `pretty` — a value on several lines, two blanks for each level.
-/

/-- The last hexadecimal digits of a control character. -/
def controlDigits (c : Char) : List Char :=
  let digits := Nat.toDigits 16 c.toNat
  List.replicate (4 - digits.length) '0' ++ digits

/-- One character of a quoted text. -/
def escapedChar (c : Char) : List Char :=
  if c = '"' then ['\\', '"']
  else if c = '\\' then ['\\', '\\']
  else if c = '\x08' then ['\\', 'b']
  else if c = '\t' then ['\\', 't']
  else if c = '\n' then ['\\', 'n']
  else if c = '\x0c' then ['\\', 'f']
  else if c = '\r' then ['\\', 'r']
  else if c.toNat < 0x20 then '\\' :: 'u' :: controlDigits c
  else [c]

/-- Writes a quoted text. -/
def writeString (s : String) (rest : List Char) : List Char :=
  '"' :: s.toList.foldr (fun c rest => escapedChar c ++ rest) ('"' :: rest)

mutual

/-- Writes a value without blanks. -/
def write : Json → List Char → List Char
  | .null, rest => ['n', 'u', 'l', 'l'] ++ rest
  | .boolean true, rest => ['t', 'r', 'u', 'e'] ++ rest
  | .boolean false, rest => ['f', 'a', 'l', 's', 'e'] ++ rest
  | .number n, rest => n.chars ++ rest
  | .string s, rest => writeString s rest
  | .array [], rest => ['[', ']'] ++ rest
  | .array (v :: items), rest => '[' :: write v (writeItems items (']' :: rest))
  | .object [], rest => ['{', '}'] ++ rest
  | .object ((key, v) :: members), rest =>
    '{' :: writeString key (':' :: write v (writeMembers members ('}' :: rest)))

/-- Writes the items behind the first one. -/
def writeItems : List Json → List Char → List Char
  | [], rest => rest
  | v :: items, rest => ',' :: write v (writeItems items rest)

/-- Writes the members behind the first one. -/
def writeMembers : List (String × Json) → List Char → List Char
  | [], rest => rest
  | (key, v) :: members, rest => ',' :: writeString key (':' :: write v (writeMembers members rest))

end

/-- Begins a line at some level. -/
def newLine (level : Nat) (rest : List Char) : List Char :=
  '\n' :: (List.replicate (2 * level) ' ' ++ rest)

mutual

/-- Writes a value on several lines. -/
def writePretty (level : Nat) : Json → List Char → List Char
  | .null, rest => ['n', 'u', 'l', 'l'] ++ rest
  | .boolean true, rest => ['t', 'r', 'u', 'e'] ++ rest
  | .boolean false, rest => ['f', 'a', 'l', 's', 'e'] ++ rest
  | .number n, rest => n.chars ++ rest
  | .string s, rest => writeString s rest
  | .array [], rest => ['[', ']'] ++ rest
  | .array (v :: items), rest =>
    '[' :: newLine (level + 1) (writePretty (level + 1) v
      (writePrettyItems (level + 1) items (newLine level (']' :: rest))))
  | .object [], rest => ['{', '}'] ++ rest
  | .object ((key, v) :: members), rest =>
    '{' :: newLine (level + 1) (writeString key (':' :: ' ' :: writePretty (level + 1) v
      (writePrettyMembers (level + 1) members (newLine level ('}' :: rest)))))

/-- Writes the items behind the first one, each on a line. -/
def writePrettyItems (level : Nat) : List Json → List Char → List Char
  | [], rest => rest
  | v :: items, rest =>
    ',' :: newLine level (writePretty level v (writePrettyItems level items rest))

/-- Writes the members behind the first one, each on a line. -/
def writePrettyMembers (level : Nat) : List (String × Json) → List Char → List Char
  | [], rest => rest
  | (key, v) :: members, rest =>
    ',' :: newLine level
      (writeString key (':' :: ' ' :: writePretty level v (writePrettyMembers level members rest)))

end

/-- A value as a text without blanks. -/
def compact (v : Json) : String := String.ofList (write v [])

/-- A value as a text on several lines. -/
def pretty (v : Json) : String := String.ofList (writePretty 0 v [])

end ProtoApi.Json
