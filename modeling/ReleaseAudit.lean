import ReleaseAudit.Audit
import ReleaseAudit.Audit.Document
import ReleaseAudit.CharSet
import ReleaseAudit.Check
import ReleaseAudit.Check.Battery
import ReleaseAudit.Check.Manifest
import ReleaseAudit.Check.Resolution
import ReleaseAudit.CommandLine
import ReleaseAudit.Conversation
import ReleaseAudit.Decimal.Binary64
import ReleaseAudit.Decimal.Digits
import ReleaseAudit.Decimal.Reader
import ReleaseAudit.Decimal.Shortest
import ReleaseAudit.Email
import ReleaseAudit.Fault
import ReleaseAudit.FileSystem
import ReleaseAudit.Finding
import ReleaseAudit.Git.Cache
import ReleaseAudit.Git.Clone
import ReleaseAudit.Git.Command
import ReleaseAudit.Git.Oracle
import ReleaseAudit.Git.Script
import ReleaseAudit.Host
import ReleaseAudit.Host.International
import ReleaseAudit.Json
import ReleaseAudit.Json.Number
import ReleaseAudit.Json.Printer
import ReleaseAudit.Json.Reader
import ReleaseAudit.Machine
import ReleaseAudit.Main
import ReleaseAudit.Path
import ReleaseAudit.Pattern
import ReleaseAudit.Pattern.Class
import ReleaseAudit.Pattern.Match
import ReleaseAudit.Pattern.Portable
import ReleaseAudit.Pattern.Reader
import ReleaseAudit.Pattern.Search
import ReleaseAudit.Program
import ReleaseAudit.Proofs.Alphabet
import ReleaseAudit.Proofs.BatchReport
import ReleaseAudit.Proofs.Coupling
import ReleaseAudit.Proofs.FailFast
import ReleaseAudit.Proofs.Faithful
import ReleaseAudit.Proofs.Keywords
import ReleaseAudit.Proofs.Loading
import ReleaseAudit.Proofs.Protocol
import ReleaseAudit.Proofs.RcName
import ReleaseAudit.Proofs.Reporting
import ReleaseAudit.Proofs.ShippedSchema
import ReleaseAudit.Proofs.Stamp
import ReleaseAudit.Proofs.Steadiness
import ReleaseAudit.Proofs.Steering
import ReleaseAudit.Proofs.Talk
import ReleaseAudit.Proofs.Truncation
import ReleaseAudit.Proofs.Verdict
import ReleaseAudit.Punycode
import ReleaseAudit.Release
import ReleaseAudit.Release.Shape
import ReleaseAudit.Report
import ReleaseAudit.Repository
import ReleaseAudit.Repository.Dialogue
import ReleaseAudit.Repository.Store
import ReleaseAudit.Schema
import ReleaseAudit.Schema.Breach
import ReleaseAudit.Schema.Content
import ReleaseAudit.Schema.Draft
import ReleaseAudit.Schema.Flaw
import ReleaseAudit.Schema.Form
import ReleaseAudit.Schema.Format
import ReleaseAudit.Schema.Judge
import ReleaseAudit.Schema.Library
import ReleaseAudit.Schema.Reader
import ReleaseAudit.Schema.Registry
import ReleaseAudit.Schema.Same
import ReleaseAudit.Schema.Shipped
import ReleaseAudit.Schema.Standard
import ReleaseAudit.Schema.Validator
import ReleaseAudit.Settings
import ReleaseAudit.Settings.Config
import ReleaseAudit.Status
import ReleaseAudit.Text.Blank
import ReleaseAudit.Text.Infix
import ReleaseAudit.Text.Lines
import ReleaseAudit.Text.Quoted
import ReleaseAudit.Text.Utf8
import ReleaseAudit.Timestamp
import ReleaseAudit.Timestamp.Reader
import ReleaseAudit.Toml
import ReleaseAudit.Toml.Reader
import ReleaseAudit.Toml.Scalar
import ReleaseAudit.Traced
import ReleaseAudit.Unicode.Age
import ReleaseAudit.Unicode.Break
import ReleaseAudit.Unicode.Category
import ReleaseAudit.Unicode.Extension
import ReleaseAudit.Unicode.Folding
import ReleaseAudit.Unicode.Property
import ReleaseAudit.Unicode.Runs
import ReleaseAudit.Unicode.Script
import ReleaseAudit.Unicode.Shaping
import ReleaseAudit.Uri
import ReleaseAudit.Uri.Reader
import ReleaseAudit.Yaml.Cursor
import ReleaseAudit.Yaml.Node
import ReleaseAudit.Yaml.Property
import ReleaseAudit.Yaml.Scalar
import ReleaseAudit.Yaml.Token
import ReleaseAudit.Yaml.Value
import ReleaseAudit.Proofs.Conduct
import ReleaseAudit.Proofs.Output
import ReleaseAudit.Proofs.CachePath
import ReleaseAudit.Proofs.Isolation
import ReleaseAudit.Proofs.CloneArguments
import ReleaseAudit.Proofs.Course
import ReleaseAudit.Proofs.Absence
import ReleaseAudit.Proofs.Layers
import ReleaseAudit.Proofs.Confinement
import ReleaseAudit.Proofs.TagNames
import ReleaseAudit.Proofs.Defects
import ReleaseAudit.Proofs.NameOrder
import ReleaseAudit.Proofs.StampText
import ReleaseAudit.Proofs.Calendar
import ReleaseAudit.Proofs.Branches
import ReleaseAudit.Proofs.Reading
import ReleaseAudit.Proofs.Stages
import ReleaseAudit.Proofs.LastWriter
import ReleaseAudit.Proofs.Precedence
import ReleaseAudit.Proofs.ConfigText
import ReleaseAudit.Proofs.Refusal
import ReleaseAudit.Proofs.Contexts
import ReleaseAudit.Proofs.StatusLines
import ReleaseAudit.Proofs.Subjects
import ReleaseAudit.Proofs.Wording
