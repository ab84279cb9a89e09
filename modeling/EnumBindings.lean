import EnumBindings.Artifact
import EnumBindings.Artifact.Go
import EnumBindings.Artifact.Rust
import EnumBindings.Artifact.Scope
import EnumBindings.Command.Argument
import EnumBindings.Command.Execute
import EnumBindings.Command.Invocation
import EnumBindings.Command.Usage
import EnumBindings.Config
import EnumBindings.Console
import EnumBindings.Diagnostic
import EnumBindings.Digest.Sha256
import EnumBindings.Disk
import EnumBindings.Disk.Error
import EnumBindings.Duration
import EnumBindings.EnumType
import EnumBindings.EnumType.Resolve
import EnumBindings.Failure
import EnumBindings.Files
import EnumBindings.Generate
import EnumBindings.GenerateError
import EnumBindings.Json
import EnumBindings.Language
import EnumBindings.Machine
import EnumBindings.Main
import EnumBindings.Name.Identifier
import EnumBindings.Name.Words
import EnumBindings.Number.Binary64
import EnumBindings.Number.Shortest
import EnumBindings.Path
import EnumBindings.Path.Normal
import EnumBindings.Path.Relative
import EnumBindings.Platform
import EnumBindings.Project
import EnumBindings.Representation
import EnumBindings.Store
import EnumBindings.Table.BuiltIn
import EnumBindings.Table.Definition
import EnumBindings.Table.Document
import EnumBindings.Table.Error
import EnumBindings.Terminal
import EnumBindings.Text.CaseTable
import EnumBindings.Text.Casing
import EnumBindings.Text.Lines
import EnumBindings.Text.Painted
import EnumBindings.Text.Quoted
import EnumBindings.Text.ShapeTable
import EnumBindings.Text.Visible
import EnumBindings.Toml.Assign
import EnumBindings.Toml.Blank
import EnumBindings.Toml.Date
import EnumBindings.Toml.Decode
import EnumBindings.Toml.Document
import EnumBindings.Toml.Error
import EnumBindings.Toml.Key
import EnumBindings.Toml.Number
import EnumBindings.Toml.Reader
import EnumBindings.Toml.Text
import EnumBindings.Toml.Value
import EnumBindings.Proofs.Identifier
import EnumBindings.Proofs.Resolution
import EnumBindings.Proofs.Keyed
import EnumBindings.Proofs.RoundTrip
import EnumBindings.Proofs.Source.Numeral
import EnumBindings.Proofs.Source.Token
import EnumBindings.Proofs.Source.Tree
import EnumBindings.Proofs.Go.Behaviour
import EnumBindings.Proofs.Go.Capture
import EnumBindings.Proofs.Go.NameCheck
import EnumBindings.Proofs.Go.Refinement
import EnumBindings.Proofs.Rust.Behaviour
import EnumBindings.Proofs.Rust.NameCheck
import EnumBindings.Proofs.Rust.Refinement
import EnumBindings.Proofs.Rust.Shadow
import EnumBindings.Proofs.Path.Moves
import EnumBindings.Proofs.Path.Components
import EnumBindings.Proofs.Path.Normal
import EnumBindings.Proofs.Path.Destination
import EnumBindings.Proofs.Store.Places
import EnumBindings.Proofs.Store.Requests
import EnumBindings.Proofs.Store.Tree
import EnumBindings.Proofs.Disk.Lawful
import EnumBindings.Proofs.Disk.Along
import EnumBindings.Proofs.Disk.Trial
import EnumBindings.Proofs.Files
import EnumBindings.Proofs.Generate.Settle
import EnumBindings.Proofs.Generate.Prepare
import EnumBindings.Proofs.Generate.Quiet
import EnumBindings.Proofs.Generate.FailedRun
import EnumBindings.Proofs.Generate.CompletedRun
import EnumBindings.Proofs.Generate.RepeatedRun
import EnumBindings.Proofs.TableOrder
import EnumBindings.Proofs.Provenance
import EnumBindings.Proofs.Generate.FreshVerdict
import EnumBindings.Proofs.Generate.AnyDirectory
import EnumBindings.Proofs.Generate.TableKept
import EnumBindings.Proofs.Json
import EnumBindings.Proofs.Command.Record
import EnumBindings.Proofs.Command.Events
import EnumBindings.Proofs.FirstFault
import EnumBindings.Proofs.Segmentation
import EnumBindings.Proofs.ExternalName
import EnumBindings.Proofs.ConstantName
import EnumBindings.Proofs.Go.ConstantBlock
import EnumBindings.Proofs.Numbering
import EnumBindings.Proofs.Subtable
import EnumBindings.Proofs.Generate.DistinctOutputs
import EnumBindings.Proofs.Scope.History
import EnumBindings.Proofs.Disk.Film
import EnumBindings.Proofs.Files.AtomicReplace
import EnumBindings.Proofs.Generate.Comparison
import EnumBindings.Proofs.ByteOrder
import EnumBindings.Proofs.Table.Shape
import EnumBindings.Proofs.Table.Listing
import EnumBindings.Proofs.Table.Loading
import EnumBindings.Proofs.Command.Explanation
import EnumBindings.Proofs.Spacing
import EnumBindings.Proofs.Go.Layout
import EnumBindings.Proofs.Rust.Layout
import EnumBindings.Proofs.Layout
