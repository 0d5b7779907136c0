import TreeGrammar.Definition
set_option autoImplicit false

namespace TreeGrammar

abbrev Tags := List Multiplicity

namespace Tags

def add (multiplicity : Multiplicity) (tags : Tags) : Tags :=
  Multiplicity.all.filter fun other => other = multiplicity || other ∈ tags

def text (tags : Tags) : String := String.ofList (tags.map Multiplicity.tag)

end Tags

-- By referenced name, then by referencing name, the multiplicities of the references.
abbrev Contexts := NameMap (NameMap Tags)

namespace Contexts

def add (contexts : Contexts) (source : String) (reference : Reference) : Contexts :=
  contexts.alter reference.name fun sources =>
    (sources.getD ∅).alter source fun tags => Tags.add reference.multiplicity (tags.getD [])

end Contexts

namespace Definition

def contexts (definition : Definition) : Contexts :=
  definition.toList.foldl
    (fun contexts statement =>
      statement.references.foldl (fun contexts reference => contexts.add statement.name reference)
        contexts)
    ∅

def parentNames (definition : Definition) (name : String) : List String :=
  ((definition.contexts.get? name).getD ∅).names

def roots (definition : Definition) : List Statement :=
  let contexts := definition.contexts
  definition.toList.filter fun statement => !contexts.contains statement.name

end Definition

end TreeGrammar
