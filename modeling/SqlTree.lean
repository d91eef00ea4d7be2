import SqlTree.Parameters
import SqlTree.Json.Reader
import SqlTree.Tree.Change
import SqlTree.Tree.Comparison
import SqlTree.Tree.Equality
import SqlTree.Tree.Query
import SqlTree.Tree.Snippet
import SqlTree.Wire.Encode
import SqlTree.Sink
import SqlTree.Tree.Write
import SqlTree.Proofs.Trace
import SqlTree.Proofs.Modes
import SqlTree.Proofs.Reading.Token
import SqlTree.Proofs.Reading.Bracket
import SqlTree.Proofs.Reading.Name
import SqlTree.Proofs.Reading.Literal
import SqlTree.Proofs.RawFree
import SqlTree.Proofs.Reading.Rendering
import SqlTree.Proofs.Reading.Clause
import SqlTree.Proofs.Legible
import SqlTree.Proofs.Placeholders
import SqlTree.Proofs.Erasure.Basic
import SqlTree.Proofs.Erasure.Rendering
import SqlTree.Proofs.Grouping
import SqlTree.Proofs.Injection
import SqlTree.Proofs.Logic.Formula
import SqlTree.Proofs.Logic.Reader
import SqlTree.Proofs.Logic.Parts
import SqlTree.Proofs.Logic.Term
import SqlTree.Proofs.Meaning
import SqlTree.Proofs.Misuse.Tree
import SqlTree.Proofs.Misuse.Refusal
import SqlTree.Proofs.Misuse.Report
import SqlTree.Proofs.Operands
import SqlTree.Proofs.Replacement.Basic
import SqlTree.Proofs.Replacement.Writing
import SqlTree.Proofs.Sharing
import SqlTree.Proofs.Shorthand
import SqlTree.Proofs.Steps.Insertion
import SqlTree.Proofs.Steps.Sources
import SqlTree.Proofs.Wire.Number
import SqlTree.Proofs.Replacement.Resolution
import SqlTree.Proofs.Wire.Array
import SqlTree.Proofs.Wire.Format
import SqlTree.Proofs.Reading.Constant
import SqlTree.Proofs.Rows
import SqlTree.Proofs.Steps.Markers
import SqlTree.Proofs.Logic.Run
import SqlTree.Proofs.GroupOperands
import SqlTree.Proofs.Scalars
import SqlTree.Proofs.Supplied.Tree
import SqlTree.Proofs.Supplied.Rendering
import SqlTree.Proofs.Steps.Conditions
import SqlTree.Proofs.Vanishing
import SqlTree.Proofs.Definite.Basic
import SqlTree.Proofs.Definite.Writing
import SqlTree.Proofs.SingleName
import SqlTree.Proofs.Upsert
import SqlTree.Proofs.ColumnMap
import SqlTree.Proofs.Steps.Columns
import SqlTree.Proofs.Steps.Assignments
import SqlTree.Proofs.Reading.Identifier
import SqlTree.Proofs.PathParts
import SqlTree.Proofs.Reading.Path
import SqlTree.Proofs.Reading.Pattern
import SqlTree.Proofs.Wire.Integers
import SqlTree.Proofs.JsonKeys
import SqlTree.Proofs.Flattening
import SqlTree.Proofs.Nesting
import SqlTree.Proofs.Steps.Interleaving
