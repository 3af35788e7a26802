import ProtoApi.Text.Unprinted

namespace ProtoApi.Text

/-!
# Quoted text

How a text is shown inside a message: between double quotes, on one line, with nothing invisible
left in it.

* `quotedChar` — one character: the quote and the backslash are marked by a backslash, the usual
  controls have a letter, any other character that is not printed is given by its code point in
  braces;
* `quoted` — a whole text between its quotes.
-/

/-- One character of a quoted text. -/
def quotedChar (c : Char) : List Char :=
  if c = '"' then ['\\', '"']
  else if c = '\\' then ['\\', '\\']
  else if c = '\n' then ['\\', 'n']
  else if c = '\r' then ['\\', 'r']
  else if c = '\t' then ['\\', 't']
  else if c = '\x00' then ['\\', '0']
  else if isUnprinted c then ['\\', 'u', '{'] ++ Nat.toDigits 16 c.toNat ++ ['}']
  else [c]

/-- A text between double quotes. -/
def quoted (s : String) : String :=
  String.ofList ('"' :: s.toList.flatMap quotedChar ++ ['"'])

end ProtoApi.Text
