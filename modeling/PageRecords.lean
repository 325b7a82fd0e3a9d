import PageRecords.Command.Arguments
import PageRecords.Command.Run
import PageRecords.Config
import PageRecords.Decimal.Binary64
import PageRecords.Document.Basic
import PageRecords.Document.Field
import PageRecords.Document.PagePattern
import PageRecords.Document.Read
import PageRecords.Document.Reader
import PageRecords.Document.Redirect
import PageRecords.Document.Rule
import PageRecords.Document.RuleReader
import PageRecords.Document.Writer
import PageRecords.Dom.Change
import PageRecords.Dom.Forest
import PageRecords.Dom.Markup
import PageRecords.Dom.Node
import PageRecords.Dom.Place
import PageRecords.Extract.Block
import PageRecords.Extract.Failure
import PageRecords.Extract.PageTokens
import PageRecords.Extract.Record
import PageRecords.Extract.Replacement
import PageRecords.Extract.Rule
import PageRecords.Files.Basic
import PageRecords.Files.Tree
import PageRecords.Html.Arena
import PageRecords.Html.Builder
import PageRecords.Html.CharReference
import PageRecords.Html.Declaration
import PageRecords.Html.Formatting
import PageRecords.Html.Lexer
import PageRecords.Html.NamedChar
import PageRecords.Html.Page
import PageRecords.Html.Rules.Body
import PageRecords.Html.Rules.Foreign
import PageRecords.Html.Rules.Head
import PageRecords.Html.Rules.Table
import PageRecords.Html.Tags
import PageRecords.Html.Token
import PageRecords.Html.Vocabulary
import PageRecords.Json.Basic
import PageRecords.Json.Printer
import PageRecords.Main
import PageRecords.Proofs.Command.FindAndExtract
import PageRecords.Proofs.Document.BlockSelectors
import PageRecords.Proofs.Document.DerivedPattern
import PageRecords.Proofs.Document.EmptyFields
import PageRecords.Proofs.Document.FaultPaths
import PageRecords.Proofs.Document.LiteralPaths
import PageRecords.Proofs.Document.LongForms
import PageRecords.Proofs.Document.NormalForm
import PageRecords.Proofs.Document.OptionalParts
import PageRecords.Proofs.Document.PatternSite
import PageRecords.Proofs.Document.QueryAndFragment
import PageRecords.Proofs.Document.ReadLaws
import PageRecords.Proofs.Document.RuleGrammar
import PageRecords.Proofs.Document.RuleRoundTrip
import PageRecords.Proofs.Document.RulesAnywhere
import PageRecords.Proofs.Document.SlotsAlike
import PageRecords.Proofs.Document.Spelling
import PageRecords.Proofs.Document.TwoReadings
import PageRecords.Proofs.Dom.AttributeLookup
import PageRecords.Proofs.Dom.Cleaning
import PageRecords.Proofs.Dom.Detaching
import PageRecords.Proofs.Dom.Editing
import PageRecords.Proofs.Dom.Flattening
import PageRecords.Proofs.Dom.Growth
import PageRecords.Proofs.Dom.Identity
import PageRecords.Proofs.Dom.Isolation
import PageRecords.Proofs.Dom.OwnTags
import PageRecords.Proofs.Dom.Places
import PageRecords.Proofs.Dom.Removal
import PageRecords.Proofs.Dom.Shape
import PageRecords.Proofs.Dom.Shows
import PageRecords.Proofs.Dom.Survivors
import PageRecords.Proofs.Extract.Alternation
import PageRecords.Proofs.Extract.BlockFailure
import PageRecords.Proofs.Extract.BlockRun
import PageRecords.Proofs.Extract.DefaultPattern
import PageRecords.Proofs.Extract.LeafValues
import PageRecords.Proofs.Extract.Outcome
import PageRecords.Proofs.Extract.PageKept
import PageRecords.Proofs.Extract.PageTokens
import PageRecords.Proofs.Extract.Placeholders
import PageRecords.Proofs.Extract.PlainValues
import PageRecords.Proofs.Extract.RecordLaws
import PageRecords.Proofs.Extract.RecordRuns
import PageRecords.Proofs.Extract.RemovedInside
import PageRecords.Proofs.Extract.RuleRun
import PageRecords.Proofs.Extract.RuleTree
import PageRecords.Proofs.Extract.RulesCompose
import PageRecords.Proofs.Extract.Run
import PageRecords.Proofs.Extract.Sanitized
import PageRecords.Proofs.Extract.SiblingGroups
import PageRecords.Proofs.Html.BodyText
import PageRecords.Proofs.Html.BuilderAttributes
import PageRecords.Proofs.Html.ElementAttributes
import PageRecords.Proofs.Html.PageAttributes
import PageRecords.Proofs.Html.RuleAttributes
import PageRecords.Proofs.Html.Spelling
import PageRecords.Proofs.Html.TagAttributes
import PageRecords.Proofs.Json.Quoting
import PageRecords.Proofs.Names
import PageRecords.Proofs.Regex.Constructs
import PageRecords.Proofs.Regex.Denotes
import PageRecords.Proofs.Regex.Extension
import PageRecords.Proofs.Regex.Groups
import PageRecords.Proofs.Regex.InContext.Bracket
import PageRecords.Proofs.Regex.InContext.Construct
import PageRecords.Proofs.Regex.InContext.Escape
import PageRecords.Proofs.Regex.InContext.Run
import PageRecords.Proofs.Regex.LongestRun
import PageRecords.Proofs.Regex.Reach
import PageRecords.Proofs.Regex.Reading
import PageRecords.Proofs.Regex.Run
import PageRecords.Proofs.Regex.Words
import PageRecords.Proofs.Registry.Directory
import PageRecords.Proofs.Registry.Laws
import PageRecords.Proofs.Registry.Runs
import PageRecords.Proofs.Selector.Following
import PageRecords.Proofs.Selector.Shape
import PageRecords.Proofs.Unicode.CharSets
import PageRecords.Proofs.Unicode.Utf8Order
import PageRecords.Proofs.Unicode.Utf8RoundTrip
import PageRecords.Proofs.Url.ForcedPairs
import PageRecords.Proofs.Url.FormRoundTrip
import PageRecords.Proofs.Url.Redirects
import PageRecords.Regex.Basic
import PageRecords.Regex.Bracket
import PageRecords.Regex.Escape
import PageRecords.Regex.Flags
import PageRecords.Regex.Match
import PageRecords.Regex.Parser
import PageRecords.Registry.Basic
import PageRecords.Registry.Load
import PageRecords.Selector.Basic
import PageRecords.Selector.Match
import PageRecords.Selector.Parser
import PageRecords.Selector.Positions
import PageRecords.Selector.Token
import PageRecords.Unicode.CaseFolding
import PageRecords.Unicode.Category
import PageRecords.Unicode.CharSet
import PageRecords.Unicode.Class
import PageRecords.Unicode.Code
import PageRecords.Unicode.Composition
import PageRecords.Unicode.NumberText
import PageRecords.Unicode.Property
import PageRecords.Unicode.Script
import PageRecords.Unicode.Utf8
import PageRecords.Url.Basic
import PageRecords.Url.Domain
import PageRecords.Url.Domain.Context
import PageRecords.Url.Domain.Mapping
import PageRecords.Url.Forced
import PageRecords.Url.Form
import PageRecords.Url.Host
import PageRecords.Url.Parser
import PageRecords.Url.Percent
import PageRecords.Url.Punycode
import PageRecords.Yaml.Document
import PageRecords.Yaml.Layout
import PageRecords.Yaml.Node
import PageRecords.Yaml.Plain
import PageRecords.Yaml.Scalar
import PageRecords.Yaml.Source
import PageRecords.Yaml.Token
