import WampClient.Text.Decimal
import WampClient.Text.Printable

/-! # Quoted strings

A string between quotation marks as error texts and descriptions show it: quotation marks,
backslashes and the common control characters have an escape of their own, and every other
character that would not show as itself is given by its code point.
-/

namespace WampClient.Text

def escape (c : Char) : List Char :=
  if c = '\x00' then ['\\', '0']
  else if c = '\t' then ['\\', 't']
  else if c = '\r' then ['\\', 'r']
  else if c = '\n' then ['\\', 'n']
  else if c = '"' then ['\\', '"']
  else if c = '\\' then ['\\', '\\']
  else if isPlain c then [c]
  else ['\\', 'u', '\x7b'] ++ Decimal.hexRender c.toNat ++ ['\x7d']

def quoted (s : String) : String :=
  String.ofList ('"' :: (s.toList.flatMap escape ++ ['"']))

end WampClient.Text
