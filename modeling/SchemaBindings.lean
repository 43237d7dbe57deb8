import SchemaBindings.Binding
import SchemaBindings.Command.Options
import SchemaBindings.Command.Run
import SchemaBindings.Endpoint
import SchemaBindings.Endpoint.Domain
import SchemaBindings.Endpoint.Parse
import SchemaBindings.Event
import SchemaBindings.Files
import SchemaBindings.Generation
import SchemaBindings.Http
import SchemaBindings.Introspection
import SchemaBindings.Introspection.Query
import SchemaBindings.Json.Node
import SchemaBindings.Json.Number
import SchemaBindings.Json.Scan
import SchemaBindings.Loader
import SchemaBindings.Main
import SchemaBindings.Naming
import SchemaBindings.Program
import SchemaBindings.Proofs.Binding.Declared
import SchemaBindings.Proofs.Binding.Descriptions
import SchemaBindings.Proofs.Binding.Emission
import SchemaBindings.Proofs.Binding.EnumItems
import SchemaBindings.Proofs.Binding.Formatted
import SchemaBindings.Proofs.Binding.Identifiers
import SchemaBindings.Proofs.Binding.Indirection
import SchemaBindings.Proofs.Binding.InputItems
import SchemaBindings.Proofs.Binding.Lexed
import SchemaBindings.Proofs.Binding.MemberReading
import SchemaBindings.Proofs.Binding.Members
import SchemaBindings.Proofs.Binding.Placed
import SchemaBindings.Proofs.Binding.References
import SchemaBindings.Proofs.Binding.Resolving
import SchemaBindings.Proofs.Binding.ScalarItems
import SchemaBindings.Proofs.Collection
import SchemaBindings.Proofs.Command.Accepted
import SchemaBindings.Proofs.Command.Course
import SchemaBindings.Proofs.Command.Orderly
import SchemaBindings.Proofs.Command.Replay
import SchemaBindings.Proofs.Command.Secrecy
import SchemaBindings.Proofs.Command.Supply
import SchemaBindings.Proofs.Effects
import SchemaBindings.Proofs.Fallible
import SchemaBindings.Proofs.Files.Writing
import SchemaBindings.Proofs.Generation.Changes
import SchemaBindings.Proofs.Generation.Closure
import SchemaBindings.Proofs.Generation.Names
import SchemaBindings.Proofs.Generation.Outcome
import SchemaBindings.Proofs.Generation.Routes
import SchemaBindings.Proofs.Generation.Tiers
import SchemaBindings.Proofs.Introspection.Decoding
import SchemaBindings.Proofs.Introspection.Reordering
import SchemaBindings.Proofs.Introspection.Resolution
import SchemaBindings.Proofs.Introspection.Truncation
import SchemaBindings.Proofs.Introspection.Variation
import SchemaBindings.Proofs.Introspection.Writing
import SchemaBindings.Proofs.Json.Agreement
import SchemaBindings.Proofs.Json.Reading
import SchemaBindings.Proofs.Json.Scalars
import SchemaBindings.Proofs.Json.Scanning
import SchemaBindings.Proofs.Json.Tree
import SchemaBindings.Proofs.Json.Variation
import SchemaBindings.Proofs.Json.Writing
import SchemaBindings.Proofs.Loader.History
import SchemaBindings.Proofs.Naming.Casing
import SchemaBindings.Proofs.Naming.Distinct
import SchemaBindings.Proofs.Naming.Fields
import SchemaBindings.Proofs.Naming.Legal
import SchemaBindings.Proofs.Naming.Splitting
import SchemaBindings.Proofs.Naming.Values
import SchemaBindings.Proofs.Naming.Words
import SchemaBindings.Proofs.Redirects
import SchemaBindings.Proofs.Schema.Index
import SchemaBindings.Proofs.Schema.Notation
import SchemaBindings.Proofs.Source.Items
import SchemaBindings.Proofs.Source.Lexing
import SchemaBindings.Proofs.Source.Pieces
import SchemaBindings.Proofs.Source.Reading
import SchemaBindings.Proofs.Text.Lines
import SchemaBindings.Proofs.Text.Literals
import SchemaBindings.Proofs.Twins
import SchemaBindings.Schema
import SchemaBindings.Source.Attribute
import SchemaBindings.Source.Expression
import SchemaBindings.Source.Item
import SchemaBindings.Source.Layout
import SchemaBindings.Source.Member
import SchemaBindings.Source.Pattern
import SchemaBindings.Source.Stream
import SchemaBindings.Source.Token
import SchemaBindings.Source.Types
import SchemaBindings.Text
import SchemaBindings.Text.Tables
