import ShaderFlow.Code
import ShaderFlow.Compile
import ShaderFlow.Declaration.Basic
import ShaderFlow.Declaration.Codes
import ShaderFlow.Diagnostic
import ShaderFlow.Fault
import ShaderFlow.Flow.Builder
import ShaderFlow.Flow.Fault
import ShaderFlow.Flow.Scope
import ShaderFlow.Graph.Basic
import ShaderFlow.Graph.Listing
import ShaderFlow.Graph.Reachable
import ShaderFlow.IdMap
import ShaderFlow.Instruction
import ShaderFlow.Interface.Basic
import ShaderFlow.Interface.Declare
import ShaderFlow.Interface.Effect
import ShaderFlow.Interface.Fault
import ShaderFlow.Interface.Recorder
import ShaderFlow.Lowering
import ShaderFlow.Opcode.Basic
import ShaderFlow.Opcode.Family
import ShaderFlow.Operand.Basic
import ShaderFlow.Operand.Kind
import ShaderFlow.Operand.Mask
import ShaderFlow.Proofs.Access
import ShaderFlow.Proofs.Alignment
import ShaderFlow.Proofs.BindingTable
import ShaderFlow.Proofs.DeclaredOnce
import ShaderFlow.Proofs.Declaring
import ShaderFlow.Proofs.Edges
import ShaderFlow.Proofs.Frame
import ShaderFlow.Proofs.Grammar
import ShaderFlow.Proofs.History
import ShaderFlow.Proofs.Inlets
import ShaderFlow.Proofs.Intake
import ShaderFlow.Proofs.Interleaving
import ShaderFlow.Proofs.Interpreter
import ShaderFlow.Proofs.Inventory
import ShaderFlow.Proofs.Justification
import ShaderFlow.Proofs.Layout
import ShaderFlow.Proofs.Leftovers
import ShaderFlow.Proofs.Lockstep
import ShaderFlow.Proofs.Lookahead
import ShaderFlow.Proofs.Marking
import ShaderFlow.Proofs.Matching
import ShaderFlow.Proofs.Meaning
import ShaderFlow.Proofs.Nesting
import ShaderFlow.Proofs.NestingLimit
import ShaderFlow.Proofs.Outcome
import ShaderFlow.Proofs.Ownership
import ShaderFlow.Proofs.Provenance
import ShaderFlow.Proofs.Reachability
import ShaderFlow.Proofs.Reading
import ShaderFlow.Proofs.Recording
import ShaderFlow.Proofs.Reducible
import ShaderFlow.Proofs.Refusal
import ShaderFlow.Proofs.Replay
import ShaderFlow.Proofs.Segments
import ShaderFlow.Proofs.Sizes
import ShaderFlow.Proofs.StageDiscipline
import ShaderFlow.Proofs.Step
import ShaderFlow.Proofs.Streams
import ShaderFlow.Proofs.Tally
import ShaderFlow.Proofs.Tracking
import ShaderFlow.Proofs.Translation
import ShaderFlow.Proofs.WellFormed
import ShaderFlow.Quad
import ShaderFlow.Resource.Basic
import ShaderFlow.Resource.Declare
import ShaderFlow.Resource.Fault
import ShaderFlow.Resource.Range
import ShaderFlow.Resource.Table
import ShaderFlow.Resource.Usage
import ShaderFlow.Signature
import ShaderFlow.Stage
import ShaderFlow.Text.CharTable
import ShaderFlow.Text.Dump
import ShaderFlow.Text.GraphemeExtend
import ShaderFlow.Text.Printable
import ShaderFlow.Text.Unassigned
