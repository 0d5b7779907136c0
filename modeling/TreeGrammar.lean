import TreeGrammar.Main
import TreeGrammar.Proofs.Sprout
import TreeGrammar.Proofs.Strategy.Simulation
import TreeGrammar.Strategy.Scripted
import TreeGrammar.Proofs.Sprout.Places
import TreeGrammar.Proofs.Graph.Extension
import TreeGrammar.Proofs.Sprout.Lawful
import TreeGrammar.Proofs.Strategy.Completed
import TreeGrammar.Proofs.Growth
import TreeGrammar.Proofs.Sprout.Decisions
import TreeGrammar.Proofs.Conformance
import TreeGrammar.Proofs.Preorder
import TreeGrammar.Proofs.Sprout.Targets
import TreeGrammar.Proofs.Aliases
import TreeGrammar.Proofs.Declaration.Reading
import TreeGrammar.Proofs.Definition.Text
import TreeGrammar.Proofs.Definition.Building
import TreeGrammar.Proofs.Definition.RoundTrip
import TreeGrammar.Proofs.Position
import TreeGrammar.Proofs.Token.Layout
import TreeGrammar.Proofs.Declaration.Grammar
import TreeGrammar.Proofs.Declaration.Derivation
import TreeGrammar.Proofs.Declaration.Viable
import TreeGrammar.Proofs.Definition.Contexts
import TreeGrammar.Proofs.Definition.Complete
import TreeGrammar.Proofs.Graph.Links
import TreeGrammar.Proofs.Stage
import TreeGrammar.Proofs.Stage.Ending
import TreeGrammar.Proofs.Stage.Standing
import TreeGrammar.Proofs.Stage.Refusal
import TreeGrammar.Proofs.Stage.Moment
import TreeGrammar.Proofs.Postorder
import TreeGrammar.Proofs.Random.Stream
import TreeGrammar.Proofs.Stage.Careful
import TreeGrammar.Proofs.Strategy.Random
import TreeGrammar.Proofs.Strategy.Lockstep
import TreeGrammar.Proofs.Strategy.Replay
import TreeGrammar.Proofs.Definition.Faults
import TreeGrammar.Proofs.Strategy.Bounds
import TreeGrammar.Proofs.Definition.Stored
import TreeGrammar.Proofs.Definition.Diagnostics
import TreeGrammar.Proofs.Token.Joined
import TreeGrammar.Proofs.Declaration.Joined
import TreeGrammar.Proofs.Graph.Outline
import TreeGrammar.Proofs.Format.NestedJson
import TreeGrammar.Proofs.Format.Treeviz
import TreeGrammar.Proofs.Format.Rendering
import TreeGrammar.Proofs.Histories
import TreeGrammar.Proofs.Definition.Checking
import TreeGrammar.Proofs.Stage.Acyclic
import TreeGrammar.Proofs.Stage.Seedlings
import TreeGrammar.Proofs.Stage.Protocol
import TreeGrammar.Proofs.CommandLine
import TreeGrammar.Proofs.Renaming
import TreeGrammar.Proofs.Renaming.Growth
import TreeGrammar.Proofs.Renaming.Random
import TreeGrammar.Proofs.Growth.Reachable
import TreeGrammar.Proofs.Format.Lines
import TreeGrammar.Proofs.Random.Chance
import TreeGrammar.Proofs.Stage.Creation
import TreeGrammar.Proofs.Strategy.Reuse
import TreeGrammar.Proofs.Stage.Depth
import TreeGrammar.Proofs.Strategy.Sizes
import TreeGrammar.Proofs.Json.Lines
import TreeGrammar.Proofs.Stage.Logging
import TreeGrammar.Proofs.CommandLine.Count
import TreeGrammar.Proofs.Declaration.Relaid
import TreeGrammar.Proofs.Position.LineTable
import TreeGrammar.Proofs.Definition.Identifier
import TreeGrammar.Proofs.Definition.ReferenceToken
import TreeGrammar.Proofs.Position.Offsets
