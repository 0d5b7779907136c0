import TreeGrammar.Binary64.Reading
import TreeGrammar.Binary64.Shortest
import TreeGrammar.Settings
import TreeGrammar.Settings.Tree
import TreeGrammar.Text.Digit
import TreeGrammar.Toml.Document
set_option autoImplicit false

namespace TreeGrammar

inductive SettingsLayer where
  | file (text : String)
  | missingFile (optional : Bool)
  | single (path : String) (value : SettingTree)

inductive SettingsError where
  | badPath
  | unusable
deriving DecidableEq

namespace SettingTree

def ofWord? (text : String) : Option Bool :=
  let word := text.toLower
  if word ∈ ["true", "on", "yes"] then some true
  else if word ∈ ["false", "off", "no"] then some false
  else none

-- What is no number counts as zero.
def wordOfFloat (value : Binary64) : Nat :=
  if value.isNaN || value.negative then 0
  else if value.isInfinite then Nat.pow 2 64 - 1
  else min value.roundedMagnitude (Nat.pow 2 64 - 1)

def toWord? : SettingTree → Option Nat
  | .integer value => if 0 ≤ value ∧ value < Nat.pow 2 64 then some value.toNat else none
  | .boolean value => some value.toNat
  | .float value => some (wordOfFloat value)
  | .text found =>
    match ofWord? found with
    | some value => some value.toNat
    | none => Text.natBelow? (Nat.pow 2 64) found.toList
  | .null | .list _ | .table _ => none

def toFloat? : SettingTree → Option Binary64
  | .integer value => some (.ofInt value)
  | .boolean value => some (if value then .one else .zero)
  | .float value => some value
  | .text found =>
    match ofWord? found with
    | some value => some (if value then .one else .zero)
    | none => Binary64.ofText? found.toList
  | .null | .list _ | .table _ => none

def toText? : SettingTree → Option String
  | .integer value => some (toString value)
  | .boolean value => some (toString value)
  | .float value => some value.plainText
  | .text found => some found
  | .null | .list _ | .table _ => none

def toTexts? : SettingTree → Option (List String)
  | .list items => items.mapM toText?
  | _ => none

def toOptionalWord? : SettingTree → Option (Option Nat)
  | .null => some none
  | value => some <$> value.toWord?

def settingNames : List String :=
  ["seed", "max_depth", "max_size", "leaf_probability", "alias_probability", "no_alias"]

-- A list gives the settings in their order; the last one may be missing.
def named? : SettingTree → Option (List (String × SettingTree))
  | .table members => some members
  | .list items => if 5 ≤ items.length then some (settingNames.zip items) else none
  | _ => none

def toSettings? (tree : SettingTree) : Option Settings := do
  let settings ← (← tree.member? "generation").named?
  return {
    seed := ← ((settings.lookup "seed").getD .null).toOptionalWord?
    maxDepth := ← (← settings.lookup "max_depth").toWord?
    maxSize := ← (← settings.lookup "max_size").toWord?
    leafProbability := ← (← settings.lookup "leaf_probability").toFloat?
    aliasProbability := ← (← settings.lookup "alias_probability").toFloat?
    noAlias := ← ((settings.lookup "no_alias").getD (.list [])).toTexts? }

end SettingTree

def Settings.toTree (settings : Settings) : SettingTree :=
  .table [("generation", .table [
    ("max_depth", .integer settings.maxDepth),
    ("max_size", .integer settings.maxSize),
    ("leaf_probability", .float settings.leafProbability),
    ("alias_probability", .float settings.aliasProbability),
    ("no_alias", .list (settings.noAlias.map .text))])]

namespace SettingsLayer

-- A name at the top may itself be written as a path.
def layMembers : List (String × Toml.Value) → SettingTree → SettingTree
  | [], below => below
  | (name, value) :: rest, below =>
    layMembers rest
      (SettingTree.layAt (.ofToml value) ((settingPath? name).getD [.name name]) below)

def layFiles : List SettingsLayer → SettingTree → Option SettingTree
  | [], below => some below
  | .file text :: rest, below => do layFiles rest (layMembers (← Toml.document? text) below)
  | .missingFile optional :: rest, below => do
    guard optional
    layFiles rest below
  | .single _ _ :: rest, below => layFiles rest below

def gives (path : List SettingTree.Step) : SettingsLayer → Bool
  | .single written _ => settingPath? written = some path
  | _ => false

def laySingles : List SettingsLayer → SettingTree → Option SettingTree
  | [], below => some below
  | .single written value :: rest, below => do
    let path ← settingPath? written
    laySingles rest (if rest.any (gives path) then below else SettingTree.layAt value path below)
  | _ :: rest, below => laySingles rest below

def hasBadPath : SettingsLayer → Bool
  | .single path _ => (settingPath? path).isNone
  | _ => false

end SettingsLayer

def Settings.load (layers : List SettingsLayer) : Except SettingsError Settings :=
  if layers.any SettingsLayer.hasBadPath then .error .badPath
  else
    let settings? := do
      let files ← SettingsLayer.layFiles layers Settings.standard.toTree
      let all ← SettingsLayer.laySingles layers files
      all.toSettings?
    match settings? with
    | some settings => .ok settings
    | none => .error .unusable

end TreeGrammar
