import RemoteJobs.Text.Hidden
import RemoteJobs.Bytes

/-!
# Quoted text

The form of a text in messages: between double quotes, with a backslash
before a quote or a backslash, the short forms of tab, line feed, carriage
return and the null character, and every other hidden character by its code
in braces. A single quote stands as it is.
-/

namespace RemoteJobs.Text

/-- The hexadecimal digits of a number, without leading zeros. -/
def hexDigits (n : Nat) : List Char :=
  if n < 16 then [Bytes.hexDigit n] else hexDigits (n / 16) ++ [Bytes.hexDigit (n % 16)]
termination_by n

def quoteChar (c : Char) : List Char :=
  if c = '"' then ['\\', '"']
  else if c = '\\' then ['\\', '\\']
  else if c = '\n' then ['\\', 'n']
  else if c = '\r' then ['\\', 'r']
  else if c = '\t' then ['\\', 't']
  else if c = '\x00' then ['\\', '0']
  else if isHidden c then ['\\', 'u', '\x7b'] ++ hexDigits c.toNat ++ ['\x7d']
  else [c]

def quote (t : String) : String :=
  String.ofList ('"' :: t.toList.flatMap quoteChar ++ ['"'])

end RemoteJobs.Text
