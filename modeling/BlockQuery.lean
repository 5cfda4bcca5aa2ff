import BlockQuery.Block.Basic
import BlockQuery.Block.Id
import BlockQuery.Block.Kind
import BlockQuery.Calendar.Day
import BlockQuery.Calendar.Relative
import BlockQuery.Category
import BlockQuery.CommandLine.Command
import BlockQuery.CommandLine.Help
import BlockQuery.CommandLine.Run
import BlockQuery.CommandLine.Usage
import BlockQuery.DomainName.Basic
import BlockQuery.DomainName.DirectionTable
import BlockQuery.DomainName.Image
import BlockQuery.DomainName.ImageTable
import BlockQuery.DomainName.JoiningTable
import BlockQuery.DomainName.Label
import BlockQuery.DomainName.Punycode
import BlockQuery.Draft.Basic
import BlockQuery.Draft.Shared
import BlockQuery.Editor
import BlockQuery.Http.Address
import BlockQuery.Http.Clients
import BlockQuery.Http.Exchange
import BlockQuery.Http.Host
import BlockQuery.Intake
import BlockQuery.Json.Fault
import BlockQuery.Json.Node
import BlockQuery.Json.Reader
import BlockQuery.Json.Record
import BlockQuery.Json.Token
import BlockQuery.Json.Value
import BlockQuery.Main
import BlockQuery.Number.Double
import BlockQuery.Number.Numeral
import BlockQuery.Number.Shortest
import BlockQuery.Number.Spelling
import BlockQuery.Proofs.Agreement
import BlockQuery.Proofs.Block.Groups
import BlockQuery.Proofs.Block.Id
import BlockQuery.Proofs.Block.Spelling
import BlockQuery.Proofs.Calendar.Relative
import BlockQuery.Proofs.Calendar.Succession
import BlockQuery.Proofs.CommandLine.Compiling
import BlockQuery.Proofs.Draft.Entry
import BlockQuery.Proofs.Draft.History
import BlockQuery.Proofs.Draft.Ids
import BlockQuery.Proofs.Draft.Replacement
import BlockQuery.Proofs.Draft.Shared
import BlockQuery.Proofs.Draft.Thinning
import BlockQuery.Proofs.Draft.Types
import BlockQuery.Proofs.Draft.Values
import BlockQuery.Proofs.Editor
import BlockQuery.Proofs.Editor.Answers
import BlockQuery.Proofs.Editor.Calls
import BlockQuery.Proofs.Editor.Spelling
import BlockQuery.Proofs.Editor.State
import BlockQuery.Proofs.Intake.Again
import BlockQuery.Proofs.Intake.Days
import BlockQuery.Proofs.Intake.LastOfEach
import BlockQuery.Proofs.Intake.Types
import BlockQuery.Proofs.Interpretation
import BlockQuery.Proofs.Json.Accepted
import BlockQuery.Proofs.Json.Escape
import BlockQuery.Proofs.Json.Given
import BlockQuery.Proofs.Json.Integers
import BlockQuery.Proofs.Json.Members
import BlockQuery.Proofs.Json.Opening
import BlockQuery.Proofs.Json.Pretty
import BlockQuery.Proofs.Json.Records
import BlockQuery.Proofs.Json.Settled
import BlockQuery.Proofs.Json.Tokens
import BlockQuery.Proofs.Json.Tree
import BlockQuery.Proofs.Number.Digits
import BlockQuery.Proofs.Number.Typed
import BlockQuery.Proofs.Number.Whole
import BlockQuery.Proofs.Query.Arrangement
import BlockQuery.Proofs.Query.Content
import BlockQuery.Proofs.Query.Emptiness
import BlockQuery.Proofs.Query.Entries
import BlockQuery.Proofs.Query.Fragment
import BlockQuery.Proofs.Query.Omission
import BlockQuery.Proofs.Query.Opening
import BlockQuery.Proofs.Query.Order
import BlockQuery.Proofs.Query.Spacing
import BlockQuery.Proofs.Query.StableSort
import BlockQuery.Proofs.Query.Value
import BlockQuery.Proofs.Registry.Building
import BlockQuery.Proofs.Registry.Flags
import BlockQuery.Proofs.Registry.Lookup
import BlockQuery.Proofs.Registry.Resolve
import BlockQuery.Proofs.Registry.Search
import BlockQuery.Proofs.Search.Limit
import BlockQuery.Proofs.Search.Link
import BlockQuery.Proofs.Service.Catalog
import BlockQuery.Proofs.Service.Failures
import BlockQuery.Proofs.Service.Searches
import BlockQuery.Proofs.Service.Settings
import BlockQuery.Proofs.Text.Comparison
import BlockQuery.Proofs.Text.LetterCase
import BlockQuery.Proofs.Text.Octets
import BlockQuery.Proofs.Text.Percent
import BlockQuery.Proofs.Text.Spacing
import BlockQuery.Proofs.Text.Words
import BlockQuery.Proofs.Wire.LenientTexts
import BlockQuery.Proofs.Wire.Nulls
import BlockQuery.Proofs.Wire.Proposals
import BlockQuery.Proofs.Wire.Reports
import BlockQuery.Proofs.Wire.RoundTrip
import BlockQuery.Proofs.Wire.Sentiment
import BlockQuery.Proofs.Wire.Shapes
import BlockQuery.Query.Basic
import BlockQuery.Query.Fragment
import BlockQuery.Registry.Basic
import BlockQuery.Registry.Builtin
import BlockQuery.Search.Analysis
import BlockQuery.Search.Limit
import BlockQuery.Search.Link
import BlockQuery.Search.Mode
import BlockQuery.Search.Tweet
import BlockQuery.Service.Catalog
import BlockQuery.Service.Failure
import BlockQuery.Service.Requests
import BlockQuery.Service.Settings
import BlockQuery.Text.Blank
import BlockQuery.Text.CaseTable
import BlockQuery.Text.CharRange
import BlockQuery.Text.Composition
import BlockQuery.Text.CompositionTable
import BlockQuery.Text.Lower
import BlockQuery.Text.MarkTable
import BlockQuery.Text.Octets
import BlockQuery.Text.Percent
import BlockQuery.Text.Quoted
import BlockQuery.Text.Terminal
import BlockQuery.Text.UnseenTable
import BlockQuery.Wire.Blocks
import BlockQuery.Wire.Searches
