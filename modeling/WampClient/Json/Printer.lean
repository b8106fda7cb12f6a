import WampClient.Json.Value

/-! # Writing JSON values

The text of a value has no blanks. Quotation marks, backslashes and control characters in strings
are escaped and nothing else is.
-/

namespace WampClient.Json

def renderChar (c : Char) : List Char :=
  if c = '"' then ['\\', '"']
  else if c = '\\' then ['\\', '\\']
  else if c = '\x08' then ['\\', 'b']
  else if c = '\x0c' then ['\\', 'f']
  else if c = '\n' then ['\\', 'n']
  else if c = '\r' then ['\\', 'r']
  else if c = '\t' then ['\\', 't']
  else if c.toNat < 0x20 then
    ['\\', 'u', '0', '0', Decimal.hexChar (c.toNat / 16), Decimal.hexChar (c.toNat % 16)]
  else [c]

def renderString (s : String) : List Char :=
  '"' :: (s.toList.flatMap renderChar ++ ['"'])

mutual

def Value.render : Value → List Char
  | .null => ['n', 'u', 'l', 'l']
  | .bool true => ['t', 'r', 'u', 'e']
  | .bool false => ['f', 'a', 'l', 's', 'e']
  | .whole n => Decimal.renderInt n.toInt
  | .double x => x.render
  | .string s => renderString s
  | .list [] => ['[', ']']
  | .list (v :: rest) => '[' :: (v.render ++ renderItems rest)
  | .object [] => ['\x7b', '\x7d']
  | .object ((k, v) :: rest) =>
    '\x7b' :: (renderString k ++ ':' :: (v.render ++ renderFields rest))

/-- The items of a list after the first one, and its closing bracket. -/
def renderItems : List Value → List Char
  | [] => [']']
  | v :: rest => ',' :: (v.render ++ renderItems rest)

def renderFields : List (String × Value) → List Char
  | [] => ['\x7d']
  | (k, v) :: rest => ',' :: (renderString k ++ ':' :: (v.render ++ renderFields rest))

end

def Value.encode (v : Value) : Bytes :=
  Utf8.encode v.render

end WampClient.Json
