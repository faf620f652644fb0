import PropertyLowering.Compiler
import PropertyLowering.Framework.Install
import PropertyLowering.Proofs.Assembler.Outcome
import PropertyLowering.Proofs.Code.Layout
import PropertyLowering.Proofs.Code.Pool
import PropertyLowering.Proofs.Assembler.Operation
import PropertyLowering.Proofs.Assembler.Run
import PropertyLowering.Proofs.Assembler.Emits
import PropertyLowering.Proofs.Machine.Basic
import PropertyLowering.Proofs.Machine.Effect
import PropertyLowering.Proofs.Assembler.Leases
import PropertyLowering.Proofs.Assembler.Ledger
import PropertyLowering.Proofs.Assembler.Restored
import PropertyLowering.Proofs.Assembler.Pieces
import PropertyLowering.Proofs.Assignment.Inline
import PropertyLowering.Proofs.Assignment.Values
import PropertyLowering.Proofs.Assignment.Arguments
import PropertyLowering.Proofs.Assignment.Pieces
import PropertyLowering.Proofs.Assignment.Selection
import PropertyLowering.Proofs.Registry.Closing
import PropertyLowering.Proofs.Registry.Run
import PropertyLowering.Proofs.Registry.Undisturbed
import PropertyLowering.Proofs.Registry.Bases
import PropertyLowering.Proofs.Registry.Chain
import PropertyLowering.Proofs.Framework.Progress
import PropertyLowering.Proofs.Framework.Installation
import PropertyLowering.Proofs.Assignment.Repetition
import PropertyLowering.Proofs.Assignment.Overflow
import PropertyLowering.Proofs.Registry.Atomic
import PropertyLowering.Proofs.Reference.Grammar
import PropertyLowering.Proofs.Catalog.Lineage
import PropertyLowering.Proofs.Catalog.Walks
import PropertyLowering.Proofs.Resolution.Descriptor
import PropertyLowering.Proofs.Resolution.Setters
import PropertyLowering.Proofs.Registry.Applications
import PropertyLowering.Proofs.Registry.Instances
import PropertyLowering.Proofs.Registry.Endless
import PropertyLowering.Proofs.Assignment.Checks
import PropertyLowering.Proofs.Registry.Settled
import PropertyLowering.Proofs.Registry.Order
import PropertyLowering.Proofs.Resolution.Inheritance
import PropertyLowering.Proofs.Resolution.Loads
import PropertyLowering.Proofs.Resolution.Members
import PropertyLowering.Proofs.Ident.Components
import PropertyLowering.Proofs.Catalog.Depth
import PropertyLowering.Proofs.Assignment.Overlap
import PropertyLowering.Proofs.Resolution.Classes
import PropertyLowering.Proofs.TypeName.Spelling
import PropertyLowering.Proofs.Code.Containment
