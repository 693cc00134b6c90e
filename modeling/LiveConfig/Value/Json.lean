import LiveConfig.Number.Text
import LiveConfig.Value

set_option autoImplicit false

namespace LiveConfig

namespace Json

def hexDigit (n : Nat) : Char :=
  if n < 10 then Char.ofNat (48 + n) else Char.ofNat (87 + n)

/-- A character inside a JSON string. Only the quote, the backslash and control characters are
escaped. -/
def escape (c : Char) : List Char :=
  if c = '"' then ['\\', '"']
  else if c = '\\' then ['\\', '\\']
  else if c.toNat < 32 then
    if c.toNat = 8 then ['\\', 'b']
    else if c.toNat = 9 then ['\\', 't']
    else if c.toNat = 10 then ['\\', 'n']
    else if c.toNat = 12 then ['\\', 'f']
    else if c.toNat = 13 then ['\\', 'r']
    else ['\\', 'u', '0', '0', hexDigit (c.toNat / 16), hexDigit (c.toNat % 16)]
  else [c]

def quote (s : String) : String :=
  String.ofList ('"' :: s.toList.flatMap escape ++ ['"'])

end Json

namespace Value

mutual

/-- JSON on one line, without spaces. -/
def toJson : Value → String
  | .null => "null"
  | .bool b => if b then "true" else "false"
  | .number x => String.ofList (Number.json x)
  | .text s => Json.quote s
  | .array [] => "[]"
  | .array (item :: rest) => "[" ++ item.toJson ++ jsonItems rest ++ "]"
  | .object [] => "\x7b\x7d"
  | .object ((name, value) :: rest) =>
    "\x7b" ++ Json.quote name ++ ":" ++ value.toJson ++ jsonFields rest ++ "\x7d"

def jsonItems : List Value → String
  | [] => ""
  | item :: rest => "," ++ item.toJson ++ jsonItems rest

def jsonFields : List (String × Value) → String
  | [] => ""
  | (name, value) :: rest =>
    "," ++ Json.quote name ++ ":" ++ value.toJson ++ jsonFields rest

end

def indentation (depth : Nat) : String :=
  "\n" ++ String.ofList (List.replicate (2 * depth) ' ')

mutual

/-- JSON with every entry on a line of its own, two spaces to each level. -/
def toIndentedJson (depth : Nat) : Value → String
  | .array (item :: rest) =>
    "[" ++ indentation (depth + 1) ++ item.toIndentedJson (depth + 1)
      ++ indentedItems (depth + 1) rest ++ indentation depth ++ "]"
  | .object ((name, value) :: rest) =>
    "\x7b" ++ indentation (depth + 1) ++ Json.quote name ++ ": " ++ value.toIndentedJson (depth + 1)
      ++ indentedFields (depth + 1) rest ++ indentation depth ++ "\x7d"
  | value => value.toJson

def indentedItems (depth : Nat) : List Value → String
  | [] => ""
  | item :: rest =>
    "," ++ indentation depth ++ item.toIndentedJson depth ++ indentedItems depth rest

def indentedFields (depth : Nat) : List (String × Value) → String
  | [] => ""
  | (name, value) :: rest =>
    "," ++ indentation depth ++ Json.quote name ++ ": " ++ value.toIndentedJson depth
      ++ indentedFields depth rest

end

/-- The text of a value inside other text: a text stands for itself, a container for its JSON. -/
def toText : Value → String
  | .null => "null"
  | .bool b => if b then "true" else "false"
  | .number x => String.ofList (Number.text x)
  | .text s => s
  | .array items => (Value.array items).toJson
  | .object fields => (Value.object fields).toJson

end Value

end LiveConfig
