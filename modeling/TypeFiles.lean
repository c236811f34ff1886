import TypeFiles.Address
import TypeFiles.Address.Escape
import TypeFiles.Address.HostName
import TypeFiles.Address.HostName.Direction
import TypeFiles.Address.HostName.Joining
import TypeFiles.Address.HostName.Letter
import TypeFiles.Address.HostName.Script
import TypeFiles.Address.Literal
import TypeFiles.Address.Reference
import TypeFiles.Address.Request
import TypeFiles.Assembly
import TypeFiles.Calendar
import TypeFiles.Charset
import TypeFiles.Charset.Dos
import TypeFiles.Charset.EastAsian
import TypeFiles.Charset.Japanese
import TypeFiles.Charset.Korean
import TypeFiles.Charset.Macintosh
import TypeFiles.Charset.Mail
import TypeFiles.Charset.Mainframe
import TypeFiles.Charset.Pairs
import TypeFiles.Charset.Quadruple
import TypeFiles.Charset.Regional
import TypeFiles.Charset.Simplified
import TypeFiles.Charset.Standard
import TypeFiles.Charset.Table
import TypeFiles.Charset.Traditional
import TypeFiles.Charset.Wide
import TypeFiles.Charset.Windows
import TypeFiles.Coercion
import TypeFiles.CommandLine
import TypeFiles.CommandLine.Arguments
import TypeFiles.Console
import TypeFiles.Console.Picture
import TypeFiles.ContentType
import TypeFiles.Decimal.Digits
import TypeFiles.Decimal.Nearest
import TypeFiles.Decimal.Numeral
import TypeFiles.Decimal.Script
import TypeFiles.Decimal.Shortest
import TypeFiles.Declaration
import TypeFiles.Derivation
import TypeFiles.Directory
import TypeFiles.Failure
import TypeFiles.Format
import TypeFiles.Journal
import TypeFiles.Json
import TypeFiles.Json.Token
import TypeFiles.Json.Write
import TypeFiles.Loading
import TypeFiles.Main
import TypeFiles.Name
import TypeFiles.OpenApi
import TypeFiles.OpenApi.Field
import TypeFiles.OpenApi.Object
import TypeFiles.OpenApi.SchemaObject
import TypeFiles.Path
import TypeFiles.Plan
import TypeFiles.Proofs.Assembly.Collision
import TypeFiles.Proofs.Assembly.FileName
import TypeFiles.Proofs.Assembly.Options
import TypeFiles.Proofs.CommandLine.Documents
import TypeFiles.Proofs.CommandLine.Failing
import TypeFiles.Proofs.CommandLine.Options
import TypeFiles.Proofs.Derivation.Accounts
import TypeFiles.Proofs.Derivation.Body
import TypeFiles.Proofs.Derivation.Checks
import TypeFiles.Proofs.Derivation.Components
import TypeFiles.Proofs.Derivation.Correspondence
import TypeFiles.Proofs.Derivation.Locality
import TypeFiles.Proofs.Derivation.Members
import TypeFiles.Proofs.Derivation.Overlooked
import TypeFiles.Proofs.Derivation.References
import TypeFiles.Proofs.Derivation.Usable
import TypeFiles.Proofs.Loading.Failing
import TypeFiles.Proofs.Loading.Formats
import TypeFiles.Proofs.Name.Case
import TypeFiles.Proofs.Name.Member
import TypeFiles.Proofs.Name.Sharing
import TypeFiles.Proofs.Name.Spelling
import TypeFiles.Proofs.Name.Words
import TypeFiles.Proofs.OpenApi.Nulls
import TypeFiles.Proofs.OpenApi.Versions
import TypeFiles.Proofs.Plan.Ambiguity
import TypeFiles.Proofs.Plan.Document
import TypeFiles.Proofs.Plan.Files
import TypeFiles.Proofs.Plan.Locality
import TypeFiles.Proofs.Plan.Sequence
import TypeFiles.Proofs.Reporting
import TypeFiles.Proofs.Reporting.Collector
import TypeFiles.Proofs.Reporting.Log
import TypeFiles.Proofs.Settings.Discovery
import TypeFiles.Proofs.Settings.Normal
import TypeFiles.Proofs.Settings.Precedence
import TypeFiles.Proofs.Settings.Reading
import TypeFiles.Proofs.Splitting.Bare
import TypeFiles.Proofs.Splitting.Erasure
import TypeFiles.Proofs.Splitting.Flattening
import TypeFiles.Proofs.Splitting.Terminals
import TypeFiles.Proofs.Splitting.Units
import TypeFiles.Proofs.Splitting.Visits
import TypeFiles.Proofs.Success
import TypeFiles.Readable
import TypeFiles.Rejection
import TypeFiles.Schema
import TypeFiles.Settings
import TypeFiles.Settings.Discovery
import TypeFiles.Settings.Read
import TypeFiles.Settings.Search
import TypeFiles.Splitting
import TypeFiles.Surroundings
import TypeFiles.Text.Base64
import TypeFiles.Text.Blank
import TypeFiles.Text.CombiningClass
import TypeFiles.Text.Composition
import TypeFiles.Text.Composition.Pair
import TypeFiles.Text.Cut
import TypeFiles.Text.Decomposition
import TypeFiles.Text.Decomposition.Aligned
import TypeFiles.Text.Decomposition.Expanding
import TypeFiles.Text.Identifier
import TypeFiles.Text.LetterCase
import TypeFiles.Text.LetterCase.Words
import TypeFiles.Text.Mark
import TypeFiles.Text.Printable
import TypeFiles.Text.Punycode
import TypeFiles.Text.Quoted
import TypeFiles.Text.Range
import TypeFiles.Text.Utf8
import TypeFiles.Toml
import TypeFiles.Toml.Scalar
import TypeFiles.Toml.Table
import TypeFiles.Toml.Text
import TypeFiles.Value
import TypeFiles.Web
import TypeFiles.Yaml
import TypeFiles.Yaml.Character
import TypeFiles.Yaml.Cursor
import TypeFiles.Yaml.Document
import TypeFiles.Yaml.Form
import TypeFiles.Yaml.Layered
import TypeFiles.Yaml.Meaning
import TypeFiles.Yaml.Node
import TypeFiles.Yaml.Scalar.Block
import TypeFiles.Yaml.Scalar.Plain
import TypeFiles.Yaml.Scalar.Quoted
import TypeFiles.Yaml.Token
import TypeFiles.Yaml.Tokens
