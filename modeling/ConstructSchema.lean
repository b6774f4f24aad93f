import ConstructSchema.Command.Arguments
import ConstructSchema.Command.Run
import ConstructSchema.Descriptor
import ConstructSchema.Descriptor.Json
import ConstructSchema.Descriptor.Resolve
import ConstructSchema.Failure
import ConstructSchema.Fault
import ConstructSchema.Files.Error
import ConstructSchema.Files.Path
import ConstructSchema.Files.System
import ConstructSchema.Files.Tree
import ConstructSchema.Json.Basic
import ConstructSchema.Json.Print
import ConstructSchema.Json.Text
import ConstructSchema.Main
import ConstructSchema.Naming.Bindings
import ConstructSchema.Naming.Conventions
import ConstructSchema.Naming.Json
import ConstructSchema.Naming.Language
import ConstructSchema.Naming.PackageName
import ConstructSchema.Naming.Yaml
import ConstructSchema.Proofs.Descriptor.Nodes
import ConstructSchema.Proofs.Outcome
import ConstructSchema.Proofs.Schema.Checks
import ConstructSchema.Proofs.Schema.Entries
import ConstructSchema.Proofs.Schema.References
import ConstructSchema.Proofs.Spec.Dangling
import ConstructSchema.Proofs.Spec.Lookups
import ConstructSchema.Proofs.Table
import ConstructSchema.Proofs.Text.ByteOrder
import ConstructSchema.Record
import ConstructSchema.Schema.Assembly
import ConstructSchema.Schema.Entry
import ConstructSchema.Schema.Files
import ConstructSchema.Schema.Json
import ConstructSchema.Spec.Database
import ConstructSchema.Spec.Document
import ConstructSchema.Spec.Handle
import ConstructSchema.Spec.Index
import ConstructSchema.Spec.Json
import ConstructSchema.Table
import ConstructSchema.Text.Cased
import ConstructSchema.Text.LowerTable
import ConstructSchema.Text.Lowercase
import ConstructSchema.Text.Pattern
import ConstructSchema.Text.Quoted
import ConstructSchema.Text.Replace
import ConstructSchema.Text.Unshown
import ConstructSchema.Text.WhiteSpace
import ConstructSchema.ValueType
import ConstructSchema.ValueType.Json
import ConstructSchema.Yaml.Content
import ConstructSchema.Yaml.Cursor
import ConstructSchema.Yaml.Node
import ConstructSchema.Yaml.Scalar
import ConstructSchema.Yaml.Tag
import ConstructSchema.Yaml.Token
import ConstructSchema.Proofs.Schema.Agreement
import ConstructSchema.Proofs.Schema.LiveEdges
import ConstructSchema.Proofs.Schema.Extension
import ConstructSchema.Proofs.Json.Order
import ConstructSchema.Proofs.Spec.RoundTrip
import ConstructSchema.Proofs.Descriptor.RoundTrip
import ConstructSchema.Proofs.Json.Levels
import ConstructSchema.Proofs.Json.Pretty
import ConstructSchema.Proofs.Json.Nesting
import ConstructSchema.Proofs.Schema.RoundTrip
import ConstructSchema.Proofs.Descriptor.Levels
import ConstructSchema.Proofs.Spec.Levels
import ConstructSchema.Proofs.Schema.Levels
import ConstructSchema.Proofs.Text.Replace
import ConstructSchema.Proofs.Schema.NestedClasses
import ConstructSchema.Proofs.Spec.Handle
import ConstructSchema.Proofs.Files.Path
import ConstructSchema.Proofs.Files.Tree
import ConstructSchema.Proofs.Schema.Files
import ConstructSchema.Proofs.Command.Generate
import ConstructSchema.Proofs.Json.Reordered
import ConstructSchema.Proofs.Descriptor.Reordered
import ConstructSchema.Proofs.Spec.Reordered
import ConstructSchema.Proofs.Schema.Canonical
import ConstructSchema.Proofs.Descriptor.Defects
import ConstructSchema.Proofs.Descriptor.Shape
import ConstructSchema.Proofs.Descriptor.Positions
import ConstructSchema.Proofs.Descriptor.Contents
import ConstructSchema.Proofs.Descriptor.Edited
import ConstructSchema.Proofs.Schema.Remarks
import ConstructSchema.Proofs.Schema.Independence
import ConstructSchema.Proofs.Spec.Scan
import ConstructSchema.Proofs.Naming.Boundaries
import ConstructSchema.Proofs.Text.Lowercase
import ConstructSchema.Proofs.Naming.PackageName
import ConstructSchema.Proofs.Naming.Locations
import ConstructSchema.Proofs.Naming.Exceptions
import ConstructSchema.Proofs.ValueType.Display
import ConstructSchema.Proofs.Files.Places
import ConstructSchema.Proofs.Files.Directories
import ConstructSchema.Proofs.Files.Writing
import ConstructSchema.Proofs.Schema.Writing
import ConstructSchema.Proofs.Command.Inspect
import ConstructSchema.Proofs.Text.WhiteSpace
import ConstructSchema.Proofs.Files.Resolve
import ConstructSchema.Proofs.Schema.Output
