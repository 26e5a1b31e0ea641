import ChatBot.Assoc
import ChatBot.Bot
import ChatBot.Channel.Bus
import ChatBot.Channel.Console
import ChatBot.Channel.Manager
import ChatBot.Command.Extraction
import ChatBot.Command.Registry
import ChatBot.Command.Schema
import ChatBot.Command.Usage
import ChatBot.CommandLine.Arguments
import ChatBot.CommandLine.Execution
import ChatBot.CommandLine.Invocation
import ChatBot.Decimal.Reading
import ChatBot.Decimal.Shortest
import ChatBot.Decimal.Written
import ChatBot.Duration
import ChatBot.ErrorFamily
import ChatBot.Fault
import ChatBot.Feature.Basic
import ChatBot.Feature.Chatter
import ChatBot.Feature.Crates
import ChatBot.Feature.CustomResponses
import ChatBot.Feature.Help
import ChatBot.Feature.Uptime
import ChatBot.Json.Basic
import ChatBot.Json.Printer
import ChatBot.Json.Reader
import ChatBot.Logging
import ChatBot.Main
import ChatBot.Message
import ChatBot.Note
import ChatBot.Program.Basic
import ChatBot.Program.Errand
import ChatBot.Program.Gather
import ChatBot.Runtime
import ChatBot.Scalar
import ChatBot.Service.Chance
import ChatBot.Service.Request
import ChatBot.Settings.Basic
import ChatBot.Settings.EnvFile
import ChatBot.Settings.Field
import ChatBot.Settings.Sources
import ChatBot.Storage.Document
import ChatBot.Storage.Entries
import ChatBot.Storage.FilePath
import ChatBot.Storage.FileSystem
import ChatBot.Storage.Shelf
import ChatBot.Template.Basic
import ChatBot.Template.Environment
import ChatBot.Terminal.CellWidth
import ChatBot.Terminal.Emoji
import ChatBot.Terminal.Layout
import ChatBot.Terminal.Markup
import ChatBot.Text.Alphanumeric
import ChatBot.Text.Basic
import ChatBot.Text.Blank
import ChatBot.Text.Capitals
import ChatBot.Text.Casing
import ChatBot.Text.Quoted
import ChatBot.World
import ChatBot.Terminal.Style
import ChatBot.Terminal.Literal
import ChatBot.Proofs.Assoc
import ChatBot.Proofs.Command.Extraction
import ChatBot.Proofs.Text.Pieces
import ChatBot.Proofs.Command.UsageGrammar
import ChatBot.Proofs.Command.FirstViolation
import ChatBot.Proofs.Command.Registry
import ChatBot.Proofs.Program.Runs
import ChatBot.Proofs.Text.Trim
import ChatBot.Proofs.Template.Filling
import ChatBot.Proofs.Template.Layout
import ChatBot.Proofs.Template.Grammar
import ChatBot.Proofs.Template.Substitution
import ChatBot.Proofs.Command.Dispatch
import ChatBot.Proofs.Storage.FileSystem
import ChatBot.Proofs.Storage.Shelf
import ChatBot.Proofs.Storage.Interleaving
import ChatBot.Proofs.Json.RoundTrip
import ChatBot.Proofs.Json.DistinctNames
import ChatBot.Proofs.Storage.Reload
import ChatBot.Proofs.Program.Advance
import ChatBot.Proofs.Program.Frame
import ChatBot.Proofs.Feature.Frame
import ChatBot.Proofs.Feature.CustomResponses
import ChatBot.Proofs.Bot.Registrations
import ChatBot.Proofs.Command.Call
import ChatBot.Proofs.Bot.Course
import ChatBot.Proofs.Bot.Operations
import ChatBot.Proofs.Bot.Privilege
import ChatBot.Proofs.Bot.ChannelIsolation
import ChatBot.Proofs.Bot.Guard
import ChatBot.Proofs.Json.Limits
import ChatBot.Proofs.Storage.Loading
import ChatBot.Proofs.Storage.Failure
import ChatBot.Proofs.Command.Invocation
import ChatBot.Proofs.Command.Rendering
import ChatBot.Proofs.Program.Faults
import ChatBot.Proofs.Feature.Faults
import ChatBot.Proofs.Bot.FirstArgument
import ChatBot.Proofs.Bot.Storing
import ChatBot.Proofs.Text.Words
import ChatBot.Proofs.Bot.Recall
import ChatBot.Proofs.Command.FullName
import ChatBot.Proofs.Json.Spelling
import ChatBot.Proofs.Storage.Templates
import ChatBot.Proofs.Feature.Cooldown
import ChatBot.Proofs.Feature.ConcurrentChanges
import ChatBot.Proofs.Feature.FilledAnswers
import ChatBot.Proofs.Program.Progress
import ChatBot.Proofs.Program.Workload
import ChatBot.Proofs.Program.Fairness
import ChatBot.Proofs.Command.Failing
import ChatBot.Proofs.Command.Admission
import ChatBot.Proofs.Bot.Containment
import ChatBot.Proofs.Bot.Provenance
import ChatBot.Proofs.Channel.Subscriptions
import ChatBot.Proofs.Channel.Delivery
import ChatBot.Proofs.Channel.Stopping
import ChatBot.Proofs.Channel.Session
import ChatBot.Proofs.Command.UsageLine
import ChatBot.Proofs.Command.EqualSchemas
import ChatBot.Proofs.Channel.Publishing
import ChatBot.Proofs.Feature.Help
import ChatBot.Proofs.Program.Conditions
import ChatBot.Proofs.Feature.ChatterBounds
import ChatBot.Proofs.Bot.LookupAnswers
import ChatBot.Proofs.Terminal.Verbatim
import ChatBot.Proofs.Terminal.Markup
import ChatBot.Proofs.CommandLine.Reports
import ChatBot.Proofs.Program.Strands
import ChatBot.Proofs.Bot.Strands
import ChatBot.Proofs.Channel.Records
import ChatBot.Proofs.Duration
import ChatBot.Proofs.Text.Lines
import ChatBot.Proofs.Feature.CrateSummary
import ChatBot.Proofs.Feature.ReplyDelay
