import JobBoards.Calendar.Date
import JobBoards.Calendar.Elapsed
import JobBoards.Calendar.Moment
import JobBoards.Calendar.Timestamp
import JobBoards.Catalogue
import JobBoards.Category
import JobBoards.Collect
import JobBoards.Decimal.Binary
import JobBoards.Decimal.Shortest
import JobBoards.Fault
import JobBoards.Fetch
import JobBoards.Filter
import JobBoards.Index
import JobBoards.Key
import JobBoards.Link.Basic
import JobBoards.Link.Host
import JobBoards.Listing.Basic
import JobBoards.Listing.Cards
import JobBoards.Listing.Items
import JobBoards.Listing.Panels
import JobBoards.Listing.Rows
import JobBoards.Main
import JobBoards.Markup.Names
import JobBoards.Markup.Reference
import JobBoards.Markup.Selector
import JobBoards.Markup.Token.Basic
import JobBoards.Markup.Token.Declaration
import JobBoards.Markup.Token.Mention
import JobBoards.Markup.Token.Scan
import JobBoards.Markup.Token.Tag
import JobBoards.Markup.Tree
import JobBoards.Path
import JobBoards.Pay
import JobBoards.Posting
import JobBoards.Posting.Field
import JobBoards.Posting.Sheet
import JobBoards.Program
import JobBoards.Proofs.Batch
import JobBoards.Proofs.Board.Badges
import JobBoards.Proofs.Board.Calls
import JobBoards.Proofs.Board.Dates
import JobBoards.Proofs.Board.Days
import JobBoards.Proofs.Board.Details
import JobBoards.Proofs.Board.Links
import JobBoards.Proofs.Board.Listings
import JobBoards.Proofs.Board.Parts
import JobBoards.Proofs.Board.Pasted
import JobBoards.Proofs.Board.Reading
import JobBoards.Proofs.Board.Stamp
import JobBoards.Proofs.Board.Status
import JobBoards.Proofs.Calendar.Abbreviation
import JobBoards.Proofs.Calendar.Ahead
import JobBoards.Proofs.Calendar.Count
import JobBoards.Proofs.Calendar.Days
import JobBoards.Proofs.Calendar.Elapsed
import JobBoards.Proofs.Calendar.Instant
import JobBoards.Proofs.Calendar.Phrase
import JobBoards.Proofs.Calendar.TextOrder
import JobBoards.Proofs.Clients.Editions
import JobBoards.Proofs.Clients.Fetches
import JobBoards.Proofs.Clients.Service
import JobBoards.Proofs.Collection.Accounts
import JobBoards.Proofs.Collection.Contribution
import JobBoards.Proofs.Collection.Pool
import JobBoards.Proofs.Collection.Schedule
import JobBoards.Proofs.Configured.Collection
import JobBoards.Proofs.Configured.Refusals
import JobBoards.Proofs.Configured.Running
import JobBoards.Proofs.Configured.Settings
import JobBoards.Proofs.Configured.Sites
import JobBoards.Proofs.Dialogue.Lines
import JobBoards.Proofs.Dialogue.Outside
import JobBoards.Proofs.Dialogue.Transcript
import JobBoards.Proofs.Faults
import JobBoards.Proofs.Index.Buckets
import JobBoards.Proofs.Index.Partition
import JobBoards.Proofs.Link.Parts
import JobBoards.Proofs.Markup.Elements
import JobBoards.Proofs.Pay
import JobBoards.Proofs.Posting.Fallback
import JobBoards.Proofs.Posting.Firsts
import JobBoards.Proofs.Posting.Newest
import JobBoards.Proofs.Posting.Sheet
import JobBoards.Proofs.Query.Label
import JobBoards.Proofs.Query.Scan
import JobBoards.Proofs.Repository.Isolation
import JobBoards.Proofs.Repository.Refresh
import JobBoards.Proofs.Repository.Rounds
import JobBoards.Proofs.Repository.Run
import JobBoards.Proofs.Rules.Absent
import JobBoards.Proofs.Rules.Escapes
import JobBoards.Proofs.Rules.Keyword
import JobBoards.Proofs.Rules.Labels
import JobBoards.Proofs.Rules.Override
import JobBoards.Proofs.Rules.Reading
import JobBoards.Proofs.Rules.Remote
import JobBoards.Proofs.Rules.Verbatim
import JobBoards.Proofs.Screen.Columns
import JobBoards.Proofs.Screen.Rendering
import JobBoards.Proofs.Screen.Tags
import JobBoards.Proofs.Screen.Verbatim
import JobBoards.Proofs.Screen.Wrapping
import JobBoards.Proofs.Text.Digits
import JobBoards.Proofs.Text.Letters
import JobBoards.Proofs.Text.Lower
import JobBoards.Proofs.Text.Numeral
import JobBoards.Proofs.Text.Order
import JobBoards.Proofs.Text.Pieces
import JobBoards.Proofs.Text.Quoted
import JobBoards.Proofs.Text.Sigma
import JobBoards.Proofs.Text.Small
import JobBoards.Proofs.Text.Spelling
import JobBoards.Proofs.Yaml.Keys
import JobBoards.Proofs.Yaml.Parsing
import JobBoards.Proofs.Yaml.Refusals
import JobBoards.Proofs.Yaml.Scanning
import JobBoards.Record
import JobBoards.Repository
import JobBoards.Rules
import JobBoards.Rules.File
import JobBoards.Rules.Settled
import JobBoards.Screen.Basic
import JobBoards.Screen.Fit
import JobBoards.Screen.Literal
import JobBoards.Screen.Table
import JobBoards.Session
import JobBoards.Settings
import JobBoards.Shell
import JobBoards.Site
import JobBoards.Snapshot
import JobBoards.Text.Base64
import JobBoards.Text.Basic
import JobBoards.Text.Blank
import JobBoards.Text.Case
import JobBoards.Text.Case.Table
import JobBoards.Text.Digit
import JobBoards.Text.Digit.Table
import JobBoards.Text.Order
import JobBoards.Text.Printable
import JobBoards.Text.Quoted
import JobBoards.Text.Radix
import JobBoards.Text.Width
import JobBoards.Value.Basic
import JobBoards.Value.Shown
import JobBoards.Yaml.Cursor
import JobBoards.Yaml.Form
import JobBoards.Yaml.Node
import JobBoards.Yaml.Scalar
import JobBoards.Yaml.Token.Basic
import JobBoards.Yaml.Token.Property
import JobBoards.Yaml.Token.Scalar
import JobBoards.Yaml.Token.Scan
import JobBoards.Yaml.Value
