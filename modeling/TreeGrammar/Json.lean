set_option autoImplicit false

namespace TreeGrammar

inductive Json where
  | null
  | bool (value : Bool)
  | number (value : Nat)
  | string (value : String)
  | array (items : List Json)
  | object (members : List (String × Json))

namespace Json

def controlDigits (c : Char) : List Char :=
  ['0', '0', Nat.digitChar (c.toNat / 16), Nat.digitChar (c.toNat % 16)]

def escape (c : Char) : List Char :=
  if c = '"' then ['\\', '"']
  else if c = '\\' then ['\\', '\\']
  else if c = '\x08' then ['\\', 'b']
  else if c = '\x0c' then ['\\', 'f']
  else if c = '\n' then ['\\', 'n']
  else if c = '\r' then ['\\', 'r']
  else if c = '\t' then ['\\', 't']
  else if c.toNat < 32 then '\\' :: 'u' :: controlDigits c
  else [c]

def quoted (text : String) : String := String.ofList ('"' :: text.toList.flatMap escape ++ ['"'])

mutual
def compact : Json → String
  | .null => "null"
  | .bool value => if value then "true" else "false"
  | .number value => toString value
  | .string value => quoted value
  | .array items => "[" ++ compactItems items ++ "]"
  | .object members => "\x7b" ++ compactMembers members ++ "\x7d"

def compactItems : List Json → String
  | [] => ""
  | [item] => item.compact
  | item :: rest => item.compact ++ "," ++ compactItems rest

def compactMembers : List (String × Json) → String
  | [] => ""
  | [(name, value)] => quoted name ++ ":" ++ value.compact
  | (name, value) :: rest => quoted name ++ ":" ++ value.compact ++ "," ++ compactMembers rest
end

mutual
def indented (margin : String) : Json → String
  | .null => "null"
  | .bool value => if value then "true" else "false"
  | .number value => toString value
  | .string value => quoted value
  | .array [] => "[]"
  | .array items => "[\n" ++ indentedItems (margin ++ "  ") items ++ "\n" ++ margin ++ "]"
  | .object [] => "\x7b\x7d"
  | .object members =>
    "\x7b\n" ++ indentedMembers (margin ++ "  ") members ++ "\n" ++ margin ++ "\x7d"

def indentedItems (margin : String) : List Json → String
  | [] => ""
  | [item] => margin ++ item.indented margin
  | item :: rest => margin ++ item.indented margin ++ ",\n" ++ indentedItems margin rest

def indentedMembers (margin : String) : List (String × Json) → String
  | [] => ""
  | [(name, value)] => margin ++ quoted name ++ ": " ++ value.indented margin
  | (name, value) :: rest =>
    margin ++ quoted name ++ ": " ++ value.indented margin ++ ",\n" ++ indentedMembers margin rest
end

def pretty (value : Json) : String := value.indented ""

end Json

end TreeGrammar
