import RemoteJobs.Json.Basic
import RemoteJobs.Decimal.Shortest
import RemoteJobs.Text.Utf8

/-!
# JSON as text

`render` writes a value without blanks, members in the order in which they
stand. In a string it writes quotes, backslashes and control characters by
escapes, the short ones where they exist, and everything else as it is.
-/

namespace RemoteJobs.Json

def escapeChar (c : Char) : List Char :=
  if c = '"' then ['\\', '"']
  else if c = '\\' then ['\\', '\\']
  else if c = '\x08' then ['\\', 'b']
  else if c = '\x0c' then ['\\', 'f']
  else if c = '\n' then ['\\', 'n']
  else if c = '\r' then ['\\', 'r']
  else if c = '\t' then ['\\', 't']
  else if c.toNat < 0x20 then
    ['\\', 'u', '0', '0', Bytes.hexDigit (c.toNat / 16), Bytes.hexDigit (c.toNat % 16)]
  else [c]

def renderString (t : String) : List Char :=
  '"' :: t.toList.flatMap escapeChar ++ ['"']

mutual

def render : Json → List Char
  | .null => ['n', 'u', 'l', 'l']
  | .bool true => ['t', 'r', 'u', 'e']
  | .bool false => ['f', 'a', 'l', 's', 'e']
  | .int n => Decimal.intChars n
  | .real x => Decimal.Layout.message.write x
  | .str t => renderString t
  | .arr items => '[' :: renderItems items ++ [']']
  | .obj members => '\x7b' :: renderMembers members ++ ['\x7d']

def renderItems : List Json → List Char
  | [] => []
  | [v] => render v
  | v :: w :: r => render v ++ ',' :: renderItems (w :: r)

def renderMembers : List (String × Json) → List Char
  | [] => []
  | [(k, v)] => renderString k ++ ':' :: render v
  | (k, v) :: e :: r => renderString k ++ ':' :: render v ++ ',' :: renderMembers (e :: r)

end

def text (v : Json) : String := String.ofList (render v)

def bytes (v : Json) : Bytes := Utf8.encodeChars (render v)

end RemoteJobs.Json
