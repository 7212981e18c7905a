import ValidatorGen.Text.Blank
import ValidatorGen.Text.Extending
import ValidatorGen.Text.IdentifierContinue
import ValidatorGen.Text.IdentifierStart
import ValidatorGen.Text.Lowercase
import ValidatorGen.Text.Unprintable
import ValidatorGen.Text.Quoted
import ValidatorGen.Decimal.Shortest
import ValidatorGen.Json.Printer
import ValidatorGen.Ordered
import ValidatorGen.Json.Numeral
import ValidatorGen.Json.Reader
import ValidatorGen.Json.Skip
import ValidatorGen.Schema.Document
import ValidatorGen.Schema.Decode
import ValidatorGen.CompileError
import ValidatorGen.Event
import ValidatorGen.Naming
import ValidatorGen.Schema.Reading
import ValidatorGen.Validator.Module
import ValidatorGen.Digest.Sha256
import ValidatorGen.Schema.Streaming
import ValidatorGen.Config
import ValidatorGen.Report
import ValidatorGen.Text.Hexadecimal
import ValidatorGen.Yaml.Octets
import ValidatorGen.Yaml.Scalar.Plain
import ValidatorGen.Yaml.Scalar.Quoted
import ValidatorGen.Yaml.Scalar.Block
import ValidatorGen.Yaml.Tag
import ValidatorGen.Yaml.Tokens
import ValidatorGen.Yaml.Document
import ValidatorGen.Config.Reading
import ValidatorGen.Config.Writing
import ValidatorGen.Files.Memory
import ValidatorGen.Loading
import ValidatorGen.Artifact
import ValidatorGen.Config.Storage
import ValidatorGen.Command.Run
import ValidatorGen.Main
import ValidatorGen.Proofs.Except
import ValidatorGen.Proofs.Validator.Visits
import ValidatorGen.Proofs.Validator.Naming
import ValidatorGen.Proofs.Json.StringLiteral
import ValidatorGen.Proofs.Schema.Canonical
import ValidatorGen.Proofs.Schema.Fallback
import ValidatorGen.Proofs.Schema.Location
import ValidatorGen.Proofs.Schema.Replacement
import ValidatorGen.Proofs.Schema.RoundTrip
import ValidatorGen.Proofs.Validator.Emission
import ValidatorGen.Proofs.Validator.Erasure
import ValidatorGen.Proofs.Validator.Fallback
import ValidatorGen.Proofs.Validator.Reader
import ValidatorGen.Proofs.Validator.Unambiguous
import ValidatorGen.Proofs.Schema.Blame
import ValidatorGen.Proofs.Json.ReadBack
import ValidatorGen.Proofs.Schema.Written
import ValidatorGen.Proofs.Files.Tree
import ValidatorGen.Proofs.Files.Alteration
import ValidatorGen.Proofs.Event
import ValidatorGen.Proofs.Files.Memory
import ValidatorGen.Proofs.Files.Directories
import ValidatorGen.Proofs.Artifact
import ValidatorGen.Proofs.Loading
import ValidatorGen.Proofs.Command.Compilation
import ValidatorGen.Proofs.Command.Bundling
import ValidatorGen.Proofs.Command.Arguments
import ValidatorGen.Proofs.Command.Runs
import ValidatorGen.Proofs.Command.Selecting
import ValidatorGen.Proofs.Command.Overriding
import ValidatorGen.Proofs.Selection
import ValidatorGen.Proofs.Schema.Relevant
import ValidatorGen.Proofs.Files.View
import ValidatorGen.Proofs.Sources
import ValidatorGen.Proofs.Json.Nesting
import ValidatorGen.Proofs.Schema.Containers
import ValidatorGen.Proofs.Schema.Streaming
import ValidatorGen.Proofs.Schema.TextRoundTrip
import ValidatorGen.Proofs.Schema.FieldSet
import ValidatorGen.Proofs.Schema.Positions
import ValidatorGen.Proofs.Validator.Depth
import ValidatorGen.Proofs.Text.Lossless
import ValidatorGen.Proofs.Files.Names
import ValidatorGen.Proofs.Workers
import ValidatorGen.Proofs.Json.Agreement
import ValidatorGen.Proofs.Directory
import ValidatorGen.Proofs.Validator.Offender
import ValidatorGen.Proofs.Text.Lowercase
import ValidatorGen.Proofs.Validator.UnionMembers
import ValidatorGen.Proofs.Validator.Extent
import ValidatorGen.Proofs.Validator.ObjectLiteral
import ValidatorGen.Proofs.Validator.Properties
import ValidatorGen.Proofs.Validator.Bindings
import ValidatorGen.Proofs.Schema.PreOrder
import ValidatorGen.Proofs.Validator.Reports
import ValidatorGen.Proofs.Json.Passing
import ValidatorGen.Proofs.Schema.Decoders
import ValidatorGen.Proofs.Validator.Optionality
import ValidatorGen.Proofs.Schema.Register
import ValidatorGen.Proofs.Config.Storage
