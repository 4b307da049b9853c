import LoadTrial.CommandLine.Argument
import LoadTrial.CommandLine.Arguments
import LoadTrial.CommandLine.Help
import LoadTrial.CommandLine.Parser
import LoadTrial.Console.Paint
import LoadTrial.Console.Plain
import LoadTrial.Console.Report
import LoadTrial.Criterion
import LoadTrial.Directory
import LoadTrial.Duration
import LoadTrial.Environment.Basic
import LoadTrial.Environment.EnvFile
import LoadTrial.Exchange
import LoadTrial.Exchange.Client
import LoadTrial.Failure
import LoadTrial.Failure.Source
import LoadTrial.Files
import LoadTrial.Http.Reply
import LoadTrial.Http.Script
import LoadTrial.Json.Basic
import LoadTrial.Json.Printer
import LoadTrial.Json.Reader
import LoadTrial.Json.Record
import LoadTrial.Main
import LoadTrial.Number.Binary64
import LoadTrial.Number.Natural
import LoadTrial.Number.Text
import LoadTrial.Outcome
import LoadTrial.Program
import LoadTrial.Program.Basic
import LoadTrial.Proofs.Classification
import LoadTrial.Proofs.Clock
import LoadTrial.Proofs.Colour
import LoadTrial.Proofs.CommandLine
import LoadTrial.Proofs.Conservation
import LoadTrial.Proofs.Course
import LoadTrial.Proofs.Echo
import LoadTrial.Proofs.EnvironmentCheck
import LoadTrial.Proofs.EnvironmentFile
import LoadTrial.Proofs.ExitStatus
import LoadTrial.Proofs.FirstFault
import LoadTrial.Proofs.Forecast
import LoadTrial.Proofs.Independence
import LoadTrial.Proofs.Json.Reading
import LoadTrial.Proofs.Json.RoundTrip
import LoadTrial.Proofs.Latency
import LoadTrial.Proofs.Lenient
import LoadTrial.Proofs.Loading
import LoadTrial.Proofs.Masking
import LoadTrial.Proofs.PartialMerge
import LoadTrial.Proofs.PoolShare
import LoadTrial.Proofs.Precedence
import LoadTrial.Proofs.Progress
import LoadTrial.Proofs.Reloading
import LoadTrial.Proofs.ReportFigures
import LoadTrial.Proofs.RequestIds
import LoadTrial.Proofs.RunPlan
import LoadTrial.Proofs.SigningUrl
import LoadTrial.Proofs.SuiteDocument
import LoadTrial.Proofs.Tally
import LoadTrial.Proofs.Threshold
import LoadTrial.Proofs.Timeline
import LoadTrial.Proofs.Timeout
import LoadTrial.Proofs.TrustFaults
import LoadTrial.Proofs.Url.AsciiName
import LoadTrial.Proofs.Url.Authority
import LoadTrial.Proofs.Url.Below
import LoadTrial.Proofs.Url.Blank
import LoadTrial.Proofs.Url.HostName
import LoadTrial.Proofs.Url.Path
import LoadTrial.Proofs.Utf8
import LoadTrial.Proofs.Validation
import LoadTrial.Proofs.VariableInFile
import LoadTrial.Proofs.Verdicts
import LoadTrial.Proofs.Warning
import LoadTrial.Proofs.Wire.Compatibility
import LoadTrial.Proofs.Wire.Field
import LoadTrial.Proofs.Wire.Merging
import LoadTrial.Proofs.Wire.RoundTrip
import LoadTrial.Proofs.Wire.Size
import LoadTrial.Proofs.Wire.Stray
import LoadTrial.Proofs.Wire.Truncation
import LoadTrial.Proofs.Wire.Varint
import LoadTrial.Run.Document
import LoadTrial.Run.RunId
import LoadTrial.Run.Scenario
import LoadTrial.Run.Suite
import LoadTrial.Run.Worker
import LoadTrial.Settings.Basic
import LoadTrial.Settings.Document
import LoadTrial.Settings.Load
import LoadTrial.Settings.LogFormat
import LoadTrial.Settings.Manual
import LoadTrial.Settings.Profile
import LoadTrial.Settings.Validation
import LoadTrial.Settings.Variable
import LoadTrial.Settings.Warning
import LoadTrial.Summary
import LoadTrial.Tally
import LoadTrial.Text.Alphanumeric
import LoadTrial.Text.Blank
import LoadTrial.Text.CaseTable
import LoadTrial.Text.Lower
import LoadTrial.Text.Similarity
import LoadTrial.Text.Utf8
import LoadTrial.Trust.Certificate
import LoadTrial.Trust.Der
import LoadTrial.Trust.Material
import LoadTrial.Trust.Pem
import LoadTrial.Unicode.Composition
import LoadTrial.Unicode.Direction
import LoadTrial.Unicode.DomainMapping
import LoadTrial.Unicode.Joining
import LoadTrial.Unicode.Mark
import LoadTrial.Unicode.Normal
import LoadTrial.Unicode.Table
import LoadTrial.Url.Address
import LoadTrial.Url.Domain
import LoadTrial.Url.Parser
import LoadTrial.Url.Path
import LoadTrial.Url.Percent
import LoadTrial.Url.Punycode
import LoadTrial.Url.Relative
import LoadTrial.Wire.Envelope
import LoadTrial.Wire.Field
import LoadTrial.Wire.Signing
import LoadTrial.Wire.Varint
