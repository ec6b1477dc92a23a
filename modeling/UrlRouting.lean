import UrlRouting.Bindings
import UrlRouting.Bindings.Json
import UrlRouting.CommandLine.Arguments
import UrlRouting.CommandLine.Folder
import UrlRouting.CommandLine.Help
import UrlRouting.CommandLine.Run
import UrlRouting.Constraint.Basic
import UrlRouting.Constraint.Catalog
import UrlRouting.Decimal.Digits
import UrlRouting.Document.Basic
import UrlRouting.Json.Basic
import UrlRouting.Json.Reading
import UrlRouting.Json.Writing
import UrlRouting.LinkIndex.Basic
import UrlRouting.LinkIndex.BitSet
import UrlRouting.Main
import UrlRouting.Proofs.StableSort
import UrlRouting.Proofs.Template.Parameters
import UrlRouting.Proofs.Text.Folding
import UrlRouting.Proofs.Trie.Arena
import UrlRouting.Regex.Basic
import UrlRouting.Regex.CharSet
import UrlRouting.Regex.Error
import UrlRouting.Regex.Reading
import UrlRouting.Regex.Search
import UrlRouting.Request
import UrlRouting.Route.Declaration
import UrlRouting.Route.Entry
import UrlRouting.Route.Error
import UrlRouting.RoutePattern.Basic
import UrlRouting.RoutePattern.Filling
import UrlRouting.RoutePattern.Fitting
import UrlRouting.Router.Basic
import UrlRouting.Router.Draft
import UrlRouting.Router.Linking
import UrlRouting.Router.Routing
import UrlRouting.Session.Basic
import UrlRouting.Session.Script
import UrlRouting.SortedBy
import UrlRouting.Table.Basic
import UrlRouting.Table.Format
import UrlRouting.Telemetry.Event
import UrlRouting.Telemetry.Exposition
import UrlRouting.Telemetry.Filter
import UrlRouting.Telemetry.Metrics
import UrlRouting.Telemetry.Settings
import UrlRouting.Template.Basic
import UrlRouting.Template.Error
import UrlRouting.Template.Lexeme
import UrlRouting.Template.Rank
import UrlRouting.Template.Reading
import UrlRouting.Text.Alphabet
import UrlRouting.Text.Blank
import UrlRouting.Text.Folding
import UrlRouting.Text.Letters
import UrlRouting.Text.LowerCase
import UrlRouting.Text.Numeral
import UrlRouting.Text.Percent
import UrlRouting.Text.Quoted
import UrlRouting.Text.Splitting
import UrlRouting.Text.Unprintable
import UrlRouting.Text.Utf8
import UrlRouting.Trie.Basic
import UrlRouting.Trie.Outline
import UrlRouting.Trie.Walk
import UrlRouting.UrlPath
import UrlRouting.Yaml.Cursor
import UrlRouting.Yaml.Reading
import UrlRouting.Yaml.Scalar
import UrlRouting.Yaml.Token
import UrlRouting.Proofs.Trie.Candidates
import UrlRouting.Proofs.Trie.Matching
import UrlRouting.Proofs.Router.Isolation
import UrlRouting.Proofs.Router.Scan
import UrlRouting.Proofs.Text.Percent
import UrlRouting.Proofs.UrlPath
import UrlRouting.Proofs.Bindings
import UrlRouting.Proofs.RoutePattern.Selection
import UrlRouting.Proofs.RoutePattern.Writing
import UrlRouting.Proofs.RoutePattern.RoundTrip
import UrlRouting.Proofs.Router.Failure
import UrlRouting.Proofs.LinkIndex.BitSet
import UrlRouting.Proofs.LinkIndex.Scan
import UrlRouting.Proofs.Template.Parts
import UrlRouting.Proofs.RoutePattern.SeveralParts
import UrlRouting.Proofs.RoutePattern.Recovery
import UrlRouting.Proofs.Template.Lexemes
import UrlRouting.Proofs.Template.Grammar
import UrlRouting.Proofs.Template.Acceptance
import UrlRouting.Proofs.Template.Rendering
import UrlRouting.Proofs.Template.Rereading
import UrlRouting.Proofs.RoutePattern.Choice
import UrlRouting.Proofs.LinkIndex.Requirements
import UrlRouting.Proofs.Route.Constraints
import UrlRouting.Proofs.RoutePattern.Regeneration
import UrlRouting.Proofs.Route.Agreement
import UrlRouting.Proofs.Router.Selectors
import UrlRouting.Proofs.Trie.Order
import UrlRouting.Proofs.RoutePattern.ByteOffsets
import UrlRouting.Proofs.RoutePattern.Rightmost
import UrlRouting.Proofs.RoutePattern.DueValues
import UrlRouting.Proofs.RoutePattern.Gaps
import UrlRouting.Proofs.RoutePattern.Shares
import UrlRouting.Proofs.Router.Names
import UrlRouting.Proofs.UrlPath.NormalForm
import UrlRouting.Proofs.Trie.Literals
import UrlRouting.Proofs.Bindings.Edits
import UrlRouting.Proofs.Router.Downstream
import UrlRouting.Proofs.Trie.Tree
import UrlRouting.Proofs.Telemetry.Counting
import UrlRouting.Proofs.Router.History
import UrlRouting.Proofs.Session.Accounts
