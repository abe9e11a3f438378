import TypeAtlas.Descriptor.Contract
import TypeAtlas.Descriptor.Outline
import TypeAtlas.Descriptor.Visitor
import TypeAtlas.Emit.Generate
import TypeAtlas.Inspect.Browser
import TypeAtlas.Main
import TypeAtlas.Pointer.Align
import TypeAtlas.Pointer.Slice
import TypeAtlas.View
import TypeAtlas.Proofs.Extent
import TypeAtlas.Proofs.Wit.Agreement
import TypeAtlas.Proofs.Bytes
import TypeAtlas.Proofs.Contract
import TypeAtlas.Proofs.View.Fields
import TypeAtlas.Proofs.View.RoundTrip
import TypeAtlas.Proofs.Registry.Publishing
import TypeAtlas.Proofs.Registry.Invariant
import TypeAtlas.Proofs.Registry.Names
import TypeAtlas.Proofs.Registry.Request
import TypeAtlas.Proofs.Registry.Refusal
import TypeAtlas.Proofs.Registry.Stability
import TypeAtlas.Proofs.Registry.Ownership
import TypeAtlas.Proofs.Registry.Lookups
import TypeAtlas.Proofs.Registry.Repetition
import TypeAtlas.Proofs.Wit.Calculation
import TypeAtlas.Proofs.Wit.Completeness
import TypeAtlas.Proofs.Pointer.Access
import TypeAtlas.Proofs.Pointer.Run
import TypeAtlas.Proofs.Registry.Reflection
import TypeAtlas.Proofs.Erasure
import TypeAtlas.Proofs.Source.Visibility
import TypeAtlas.Proofs.Model.Reading
import TypeAtlas.Proofs.Emit.Plan
import TypeAtlas.Proofs.Emit.Visibility
import TypeAtlas.Proofs.Emit.Hiding
import TypeAtlas.Proofs.Emit.Identifiers
import TypeAtlas.Proofs.Emit.Collision
import TypeAtlas.Proofs.Inspect.Browser
import TypeAtlas.Proofs.Model.Regeneration
import TypeAtlas.Proofs.Pointer.Align
import TypeAtlas.Proofs.View.Batch
import TypeAtlas.Proofs.Registry.Vetting
import TypeAtlas.Proofs.View.Containment
import TypeAtlas.Proofs.View.Storing
import TypeAtlas.Proofs.Pointer.Checked
import TypeAtlas.Proofs.Truth
import TypeAtlas.Proofs.View.Loading
import TypeAtlas.Proofs.View.Readers
import TypeAtlas.Proofs.Pointer.Displacement
import TypeAtlas.Proofs.Pointer.Transfer
import TypeAtlas.Proofs.Pointer.Elements
import TypeAtlas.Proofs.Pointer.Comparison
import TypeAtlas.Proofs.Pointer.Field
import TypeAtlas.Proofs.Lookup
import TypeAtlas.Proofs.Wit.Spacing
import TypeAtlas.Proofs.Text.Trim
import TypeAtlas.Proofs.Text.Quoted
import TypeAtlas.Proofs.Attribute.Splitting
import TypeAtlas.Proofs.Attribute.Reading
import TypeAtlas.Proofs.Attribute.Writing
import TypeAtlas.Proofs.Attribute.Joining
import TypeAtlas.Proofs.Wit.Remembering
import TypeAtlas.Proofs.Wit.Coverage
import TypeAtlas.Proofs.Wit.Soundness
import TypeAtlas.Proofs.Wit.Words
import TypeAtlas.Proofs.Wit.Labels
import TypeAtlas.Proofs.Wit.FieldNames
import TypeAtlas.Proofs.Registry.Snapshot
import TypeAtlas.Proofs.Failure.Grouping
import TypeAtlas.Proofs.Failure.Matching
import TypeAtlas.Descriptor.Printer
import TypeAtlas.Proofs.Outline
import TypeAtlas.Proofs.Text.Numeral
import TypeAtlas.Proofs.Emit.Constants
import TypeAtlas.Proofs.Emit.Imports
import TypeAtlas.Proofs.Emit.ImportLines
import TypeAtlas.Proofs.Source.Sight
import TypeAtlas.Proofs.Source.Settling
import TypeAtlas.Proofs.Source.Compiled
import TypeAtlas.Proofs.Source.Reordering
import TypeAtlas.Proofs.Source.Alike
import TypeAtlas.Proofs.Model.FileOrder
