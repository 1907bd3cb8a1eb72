import TypedSearch.Api.Codec
import TypedSearch.Api.TypeRef
import TypedSearch.Api.Types
import TypedSearch.Catalog.Api
import TypedSearch.Catalog.Dataset
import TypedSearch.Catalog.Document
import TypedSearch.Catalog.Mapping
import TypedSearch.Catalog.Specification
import TypedSearch.Catalog.Surface
import TypedSearch.CommandLine.Arguments
import TypedSearch.CommandLine.Documents
import TypedSearch.CommandLine.Help
import TypedSearch.CommandLine.Run
import TypedSearch.CommandLine.Setting
import TypedSearch.Compile.Filter
import TypedSearch.Compile.Search
import TypedSearch.Computed
import TypedSearch.Config
import TypedSearch.Definitions
import TypedSearch.Digest.Blake3
import TypedSearch.Digest.Fingerprint
import TypedSearch.Handler.Capability
import TypedSearch.Handler.Leaf
import TypedSearch.Handler.Record
import TypedSearch.Handler.Registry
import TypedSearch.Handler.Standard
import TypedSearch.Json.Basic
import TypedSearch.Json.Decode
import TypedSearch.Json.Number
import TypedSearch.Json.Reader
import TypedSearch.Json.Writer
import TypedSearch.Main
import TypedSearch.Number.Binary64
import TypedSearch.Number.Power
import TypedSearch.Number.Shortest
import TypedSearch.Problem
import TypedSearch.Proofs.Api.Acceptance
import TypedSearch.Proofs.Api.Assembly
import TypedSearch.Proofs.Api.Closure
import TypedSearch.Proofs.Api.Codec
import TypedSearch.Proofs.Api.Collision
import TypedSearch.Proofs.Api.Conformance
import TypedSearch.Proofs.Api.Contents
import TypedSearch.Proofs.Api.Distinct
import TypedSearch.Proofs.Api.Generation
import TypedSearch.Proofs.Api.Modularity
import TypedSearch.Proofs.Api.Names
import TypedSearch.Proofs.Api.Origin
import TypedSearch.Proofs.Api.Outline
import TypedSearch.Proofs.Api.Presence
import TypedSearch.Proofs.Api.Text
import TypedSearch.Proofs.Catalog.Absence
import TypedSearch.Proofs.Catalog.Contributions
import TypedSearch.Proofs.Catalog.Dataset
import TypedSearch.Proofs.Catalog.Entries
import TypedSearch.Proofs.Catalog.Mapping
import TypedSearch.Proofs.Catalog.Members
import TypedSearch.Proofs.Catalog.Nulls
import TypedSearch.Proofs.Catalog.Placement
import TypedSearch.Proofs.Catalog.Requests
import TypedSearch.Proofs.Catalog.Shadowing
import TypedSearch.Proofs.Catalog.Sharing
import TypedSearch.Proofs.Catalog.TypeNames
import TypedSearch.Proofs.Catalog.Validation
import TypedSearch.Proofs.CommandLine.Documents
import TypedSearch.Proofs.Compile.Asking
import TypedSearch.Proofs.Compile.Conjunction
import TypedSearch.Proofs.Compile.Extension
import TypedSearch.Proofs.Compile.Interpretation
import TypedSearch.Proofs.Compile.Nesting
import TypedSearch.Proofs.Compile.Nulls
import TypedSearch.Proofs.Compile.Order
import TypedSearch.Proofs.Compile.Refusal
import TypedSearch.Proofs.Compile.Splicing
import TypedSearch.Proofs.Compile.Stored
import TypedSearch.Proofs.Definitions
import TypedSearch.Proofs.Definitions.Reached
import TypedSearch.Proofs.Definitions.Union
import TypedSearch.Proofs.Handler.Acceptance
import TypedSearch.Proofs.Handler.Dispatch
import TypedSearch.Proofs.Handler.FilterClauses
import TypedSearch.Proofs.Handler.KeyOrder
import TypedSearch.Proofs.Handler.Nulls
import TypedSearch.Proofs.Handler.Parts
import TypedSearch.Proofs.Handler.Selection
import TypedSearch.Proofs.Json.Agreement
import TypedSearch.Proofs.Json.Rearrangement
import TypedSearch.Proofs.Json.Value
import TypedSearch.Proofs.Number.Rounding
import TypedSearch.Proofs.Number.Value
import TypedSearch.Proofs.Outcome
import TypedSearch.Proofs.Query.Comparison
import TypedSearch.Proofs.Query.FilterParts
import TypedSearch.Proofs.Query.TermFilter
import TypedSearch.Proofs.Request.Codec
import TypedSearch.Proofs.Request.Decoding
import TypedSearch.Proofs.Request.Nulls
import TypedSearch.Proofs.Request.Tree
import TypedSearch.Proofs.Schema.Codec
import TypedSearch.Proofs.Schema.Induction
import TypedSearch.Proofs.Schema.Leaves
import TypedSearch.Proofs.Schema.Validation
import TypedSearch.Proofs.Search.Addressing
import TypedSearch.Proofs.Search.Affixes
import TypedSearch.Proofs.Search.Answering
import TypedSearch.Proofs.Search.Backtracking
import TypedSearch.Proofs.Search.Calls
import TypedSearch.Proofs.Search.Clauses
import TypedSearch.Proofs.Search.Comparison
import TypedSearch.Proofs.Search.Deployment
import TypedSearch.Proofs.Search.Glob
import TypedSearch.Proofs.Search.History
import TypedSearch.Proofs.Search.Integers
import TypedSearch.Proofs.Search.Nesting
import TypedSearch.Proofs.Search.Place
import TypedSearch.Proofs.Search.Precedence
import TypedSearch.Proofs.Search.Scripts
import TypedSearch.Proofs.Search.Sorting
import TypedSearch.Proofs.Search.StableSort
import TypedSearch.Proofs.Table
import TypedSearch.Proofs.Text.Delimited
import TypedSearch.Proofs.Text.Dotted
import TypedSearch.Proofs.Text.Words
import TypedSearch.Query.Clause
import TypedSearch.Query.Direction
import TypedSearch.Query.TermFilter
import TypedSearch.Request.Arguments
import TypedSearch.Request.FilterNode
import TypedSearch.Schema.Decode
import TypedSearch.Schema.Path
import TypedSearch.Schema.Type
import TypedSearch.Schema.Validate
import TypedSearch.Search.Backend
import TypedSearch.Search.Engine
import TypedSearch.Search.Error
import TypedSearch.Search.Field
import TypedSearch.Search.Glob
import TypedSearch.Search.Matcher
import TypedSearch.Search.Order
import TypedSearch.Search.Sorter
import TypedSearch.Search.Store
import TypedSearch.Table
import TypedSearch.Text.Alphanumeric
import TypedSearch.Text.Joined
import TypedSearch.Text.Lines
import TypedSearch.Text.Lowercase
import TypedSearch.Text.Name
import TypedSearch.Text.Position
import TypedSearch.Text.Shown
import TypedSearch.Text.Space
import TypedSearch.Version
import TypedSearch.Yaml.Block
import TypedSearch.Yaml.Cursor
import TypedSearch.Yaml.Document
import TypedSearch.Yaml.Folding
import TypedSearch.Yaml.Lexer
import TypedSearch.Yaml.Node
import TypedSearch.Yaml.Part
import TypedSearch.Yaml.Plain
import TypedSearch.Yaml.Quoted
import TypedSearch.Yaml.Scalar
import TypedSearch.Yaml.Tag
import TypedSearch.Yaml.Token
import TypedSearch.Yaml.Value
