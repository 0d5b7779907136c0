import TreeGrammar.NameMap
import TreeGrammar.Statement
set_option autoImplicit false

namespace TreeGrammar

abbrev Statements := NameMap (List Alternative)

namespace Statements

def references (statements : Statements) : List Reference :=
  statements.entries.flatMap fun entry => entry.2.flatten

def Closed (statements : Statements) : Prop :=
  ∀ reference ∈ statements.references, statements.contains reference.name = true

instance (statements : Statements) : Decidable statements.Closed :=
  inferInstanceAs (Decidable (∀ _ ∈ _, _))

end Statements

structure Definition where
  statements : Statements
  closed : statements.Closed
deriving DecidableEq

namespace Definition

def statement? (definition : Definition) (name : String) : Option Statement :=
  (definition.statements.get? name).map (⟨name, ·⟩)

def contains (definition : Definition) (name : String) : Bool := definition.statements.contains name

def toList (definition : Definition) : List Statement :=
  definition.statements.entries.map fun entry => ⟨entry.1, entry.2⟩

def size (definition : Definition) : Nat := definition.statements.size

def text (definition : Definition) : String :=
  definition.toList.foldr (fun statement rest => statement.text ++ "\n" ++ rest) ""

end Definition

end TreeGrammar
