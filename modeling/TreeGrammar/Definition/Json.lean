import TreeGrammar.Definition.Building
import TreeGrammar.Json
import TreeGrammar.Json.Reading
import TreeGrammar.Binary64.Shortest
import TreeGrammar.Text.Quoted
set_option autoImplicit false

namespace TreeGrammar

def Reference.toJson (reference : Reference) : Json :=
  .object [("name", .string reference.name), ("type", .string reference.multiplicity.word)]

def Statement.toJson (statement : Statement) : Json :=
  .object [("name", .string statement.name),
    ("contents", .array (statement.alternatives.map fun alternative =>
      .array (alternative.map Reference.toJson)))]

def Definition.toJson (definition : Definition) : Json :=
  .object [("statements", .array (definition.toList.map Statement.toJson))]

namespace Json

inductive Mismatch where
  | notJson
  | wrongKind (found expected : String)
  | missingField (name : String)
  | duplicateField (name : String)
  | unknownWord (found : String)
  | tooShort (found : Nat) (expected : String)
  | grammar (error : GrammarError)
deriving DecidableEq

namespace Mismatch

def message? : Mismatch → Option String
  | notJson => none
  | wrongKind found expected => some ("invalid type: " ++ found ++ ", expected " ++ expected)
  | missingField name => some ("missing field `" ++ name ++ "`")
  | duplicateField name => some ("duplicate field `" ++ name ++ "`")
  | unknownWord found =>
    let known := Multiplicity.all.map fun multiplicity => "`" ++ multiplicity.word ++ "`"
    some ("unknown variant `" ++ found ++ "`, expected one of " ++ ", ".intercalate known)
  | tooShort found expected =>
    some ("invalid length " ++ toString found ++ ", expected " ++ expected)
  | grammar error => some error.message

end Mismatch

namespace Reading

-- A value of the wrong kind, or the fault that comes before its kind is known.
def reject {α : Type} (expected : String) (reading : Reading) : Except Mismatch α :=
  match reading with
  | .null => .error (.wrongKind "null" expected)
  | .bool true => .error (.wrongKind "boolean `true`" expected)
  | .bool false => .error (.wrongKind "boolean `false`" expected)
  | .number written =>
    match written.value? with
    | some (.integer value) => .error (.wrongKind ("integer `" ++ toString value ++ "`") expected)
    | some (.floating value) =>
      .error (.wrongKind ("floating point `" ++ value.compactText ++ "`") expected)
    | none => .error .notJson
  | .string (some text) => .error (.wrongKind ("string " ++ Text.quoted text) expected)
  | .string none => .error .notJson
  | .array _ _ => .error (.wrongKind "sequence" expected)
  | .object _ _ => .error (.wrongKind "map" expected)
  | .fault => .error .notJson

def toText (reading : Reading) : Except Mismatch String :=
  match reading with
  | .string (some text) => .ok text
  | _ => reading.reject "a string"

def toItems {α : Type} (item : Reading → Except Mismatch α) (reading : Reading) :
    Except Mismatch (List α) :=
  match reading with
  | .array items closed => do
    let found ← items.mapM item
    if closed then return found else throw .notJson
  | _ => reading.reject "a sequence"

structure Field (α : Type) where
  name : String
  value : Reading → Except Mismatch α

def toName (key : Option String) : Except Mismatch String :=
  match key with
  | some name => .ok name
  | none => .error .notJson

def Field.take {α : Type} (field : Field α) (known : Option α) (value : Reading) :
    Except Mismatch (Option α) :=
  match known with
  | some _ => .error (.duplicateField field.name)
  | none => some <$> field.value value

def Field.require {α : Type} (field : Field α) (known : Option α) : Except Mismatch α :=
  match known with
  | some value => .ok value
  | none => .error (.missingField field.name)

def ignore (value : Reading) : Except Mismatch Unit :=
  if value.sound then .ok () else .error .notJson

def toPairMembers {α β : Type} (first : Field α) (second : Field β) :
    Option α → Option β → List (Option String × Reading) → Except Mismatch (Option α × Option β)
  | a, b, [] => .ok (a, b)
  | a, b, (key, value) :: rest => do
    let name ← toName key
    if name = first.name then
      toPairMembers first second (← first.take a value) b rest
    else if name = second.name then
      toPairMembers first second a (← second.take b value) rest
    else do
      value.ignore
      toPairMembers first second a b rest

def toPair {α β : Type} (record : String) (first : Field α) (second : Field β)
    (reading : Reading) : Except Mismatch (α × β) :=
  let short (found : Nat) (closed : Bool) : Mismatch :=
    if closed then .tooShort found (record ++ " with 2 elements") else .notJson
  match reading with
  | .array [] closed => .error (short 0 closed)
  | .array [a] closed => do
    discard (first.value a)
    throw (short 1 closed)
  | .array (a :: b :: rest) closed => do
    let pair := (← first.value a, ← second.value b)
    if closed && rest.isEmpty then return pair else throw .notJson
  | .object members closed => do
    let (a, b) ← toPairMembers first second none none members
    if closed then return (← first.require a, ← second.require b) else throw .notJson
  | _ => reading.reject record

def toSingleMembers {α : Type} (field : Field α) :
    Option α → List (Option String × Reading) → Except Mismatch (Option α)
  | a, [] => .ok a
  | a, (key, value) :: rest => do
    if (← toName key) = field.name then
      toSingleMembers field (← field.take a value) rest
    else do
      value.ignore
      toSingleMembers field a rest

def toSingle {α : Type} (record : String) (field : Field α) (reading : Reading) :
    Except Mismatch α :=
  match reading with
  | .array [] closed =>
    .error (if closed then .tooShort 0 (record ++ " with 1 element") else .notJson)
  | .array (a :: rest) closed => do
    let value ← field.value a
    if closed && rest.isEmpty then return value else throw .notJson
  | .object members closed => do
    let a ← toSingleMembers field none members
    if closed then field.require a else throw .notJson
  | _ => reading.reject record

def ofMultiplicityWord (found : String) : Except Mismatch Multiplicity :=
  match Multiplicity.ofWord? found with
  | some multiplicity => .ok multiplicity
  | none => .error (.unknownWord found)

-- A multiplicity is its word, or an object whose only member has the word as key and no value.
def toMultiplicity (reading : Reading) : Except Mismatch Multiplicity :=
  match reading with
  | .string (some found) => ofMultiplicityWord found
  | .object ((key, value) :: rest) closed => do
    let multiplicity ← ofMultiplicityWord (← toName key)
    match value with
    | .null => if closed && rest.isEmpty then return multiplicity else throw .notJson
    | _ => value.reject "unit"
  | _ => .error .notJson

def toReference (reading : Reading) : Except Mismatch Reference := do
  let (name, multiplicity) ← reading.toPair "struct Reference" ⟨"name", toText⟩ ⟨"type", toMultiplicity⟩
  return ⟨name, multiplicity⟩

def toStatement (reading : Reading) : Except Mismatch Statement := do
  let (name, alternatives) ← reading.toPair "struct Statement" ⟨"name", toText⟩
    ⟨"contents", toItems (toItems toReference)⟩
  return ⟨name, alternatives⟩

def toStatements (reading : Reading) : Except Mismatch (List Statement) :=
  reading.toSingle "struct DefinitionData" ⟨"statements", toItems toStatement⟩

end Reading

end Json

def Definition.ofJson (text : String) : Except Json.Mismatch Definition := do
  let (reading, ended) := Json.read text.toList
  let statements ← reading.toStatements
  match Definition.ofStatements statements with
  | .error error => throw (.grammar error)
  | .ok definition => if ended then return definition else throw .notJson

end TreeGrammar
