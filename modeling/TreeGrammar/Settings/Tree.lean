import TreeGrammar.Text.Digit
import TreeGrammar.Toml
set_option autoImplicit false

namespace TreeGrammar

inductive SettingTree where
  | null
  | boolean (value : Bool)
  | integer (value : Int)
  | float (value : Binary64)
  | text (value : String)
  | list (items : List SettingTree)
  | table (members : List (String × SettingTree))

namespace SettingTree

mutual
def ofToml : Toml.Value → SettingTree
  | .string found => .text found
  | .integer value => .integer value
  | .float value => .float value
  | .boolean value => .boolean value
  | .moment found => .text found
  | .array items => .list (ofTomlItems items)
  | .table members => .table (ofTomlMembers members)

def ofTomlItems : List Toml.Value → List SettingTree
  | [] => []
  | item :: rest => ofToml item :: ofTomlItems rest

def ofTomlMembers : List (String × Toml.Value) → List (String × SettingTree)
  | [] => []
  | (name, value) :: rest => (name, ofToml value) :: ofTomlMembers rest
end

def members : SettingTree → List (String × SettingTree)
  | .table members => members
  | _ => []

def member? (tree : SettingTree) (name : String) : Option SettingTree := tree.members.lookup name

def items : SettingTree → List SettingTree
  | .list items => items
  | _ => []

def alter (name : String) (change : Option SettingTree → SettingTree) :
    List (String × SettingTree) → List (String × SettingTree)
  | [] => [(name, change none)]
  | (key, value) :: rest =>
    if key = name then (key, change (some value)) :: rest
    else (key, value) :: alter name change rest

mutual
def layOver : SettingTree → Option SettingTree → SettingTree
  | .table upper, below => layMembersOver upper (below.getD (.table []))
  | upper, _ => upper

def layMembersOver : List (String × SettingTree) → SettingTree → SettingTree
  | [], below => below
  | (name, upper) :: rest, below =>
    layMembersOver rest (.table (alter name.toLower (fun old => layOver upper old) below.members))
end

-- Places below zero count from the end. Places that are missing on the way are filled with empty ones.
def alterPlace (place : Int) (change : SettingTree → SettingTree) (items : List SettingTree) :
    List SettingTree :=
  let index := if place < 0 then items.length + place else place
  let before := List.replicate (-index).toNat .null
  let after := List.replicate (index + 1 - items.length).toNat .null
  (before ++ items ++ after).modify index.toNat change

inductive Step where
  | name (name : String)
  | place (index : Int)
deriving DecidableEq

-- What is on the way gives room to tables and lists where it is none. A place of a list is given
-- up altogether for what is laid over it.
def layAt (upper : SettingTree) : List Step → SettingTree → SettingTree
  | [], _ => upper
  | [.name name], below => .table (alter name.toLower (layOver upper) below.members)
  | .name name :: path, below =>
    .table (alter name.toLower (fun old => layAt upper path (old.getD .null)) below.members)
  | .place index :: path, below => .list (alterPlace index (layAt upper path) below.items)

end SettingTree

def isSettingName (c : Char) : Bool := c.isAlphanum || c = '_' || c = ' ' || c = '-'

def settingPlace? (text : List Char) : Option Int := do
  let isBlank (c : Char) : Bool := c = ' ' || c = '\t'
  let trimmed := ((text.dropWhile isBlank).reverse.dropWhile isBlank).reverse
  let (negative, digits) := match trimmed with
    | '-' :: digits => (true, digits)
    | _ => (false, trimmed)
  guard (digits ≠ [] ∧ digits.all Char.isDigit)
  let value := Text.digitsValue digits
  if negative then
    guard (value ≤ Nat.pow 2 63)
    return -value
  else
    guard (value < Nat.pow 2 63)
    return value

def settingSteps? : (steps : Nat) → List Char → Option (List SettingTree.Step)
  | _, [] => some []
  | 0, _ => none
  | steps + 1, '.' :: rest => do
    let name := rest.takeWhile isSettingName
    guard (name ≠ [])
    return .name (String.ofList name) :: (← settingSteps? steps (rest.dropWhile isSettingName))
  | steps + 1, '[' :: rest =>
    match rest.dropWhile (· ≠ ']') with
    | [] => none
    | _ :: after => do
      return .place (← settingPlace? (rest.takeWhile (· ≠ ']'))) :: (← settingSteps? steps after)
  | _, _ => none

def settingPath? (path : String) : Option (List SettingTree.Step) :=
  settingSteps? (path.length + 1) ('.' :: path.toList)

end TreeGrammar
