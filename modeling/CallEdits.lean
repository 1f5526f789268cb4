import CallEdits.Bytes.Encoding
import CallEdits.Bytes.Utf8
import CallEdits.Call.Arguments
import CallEdits.Call.Find
import CallEdits.Call.Flaw
import CallEdits.Call.Site
import CallEdits.Command.Basic
import CallEdits.Command.Files
import CallEdits.Command.Flags
import CallEdits.Disk
import CallEdits.Disk.TextFile
import CallEdits.Editor
import CallEdits.Event
import CallEdits.Failure
import CallEdits.Fault
import CallEdits.Json.Basic
import CallEdits.Json.Reader
import CallEdits.Location
import CallEdits.Main
import CallEdits.Numeral
import CallEdits.Path
import CallEdits.Policy
import CallEdits.Report.Addresses
import CallEdits.Report.File
import CallEdits.Report.Flaw
import CallEdits.Report.Outline
import CallEdits.Session
import CallEdits.Settings.Basic
import CallEdits.Settings.Check
import CallEdits.Settings.Integer
import CallEdits.Source.Lines
import CallEdits.Store
import CallEdits.Table
import CallEdits.Text.Basic
import CallEdits.Text.Digit
import CallEdits.Text.Identifier
import CallEdits.Text.Intervals
import CallEdits.Text.Lines
import CallEdits.Text.LowerCase
import CallEdits.Text.Quoted
import CallEdits.Proofs.AbortedRuns
import CallEdits.Proofs.ArgumentGrammar
import CallEdits.Proofs.CallSearch
import CallEdits.Proofs.LineNumbers
import CallEdits.Proofs.LocationOrder
import CallEdits.Proofs.RejoinedArguments
import CallEdits.Proofs.Regions
import CallEdits.Proofs.LineBalance
import CallEdits.Proofs.Utf8RoundTrip
import CallEdits.Proofs.OffsetLaw
import CallEdits.Proofs.OwnText
import CallEdits.Proofs.RewrittenCalls
import CallEdits.Proofs.UsageTrees
import CallEdits.Proofs.QualifiedPaths
import CallEdits.Proofs.ReportLines
import CallEdits.Proofs.ReportRoundTrip
import CallEdits.Proofs.PlainPaths
import CallEdits.Proofs.WriteOutcomes
import CallEdits.Proofs.EmptiedFiles
import CallEdits.Proofs.Backups
import CallEdits.Proofs.DryRuns
import CallEdits.Proofs.SmallLetters
import CallEdits.Proofs.TouchedFiles
import CallEdits.Proofs.Declarations
import CallEdits.Proofs.ComposedRuns
import CallEdits.Proofs.OutlineNodes
import CallEdits.Proofs.Listings
import CallEdits.Proofs.CommandRuns
import CallEdits.Proofs.CheckedSettings
import CallEdits.Proofs.HeadingWindows
import CallEdits.Proofs.Endings
import CallEdits.Proofs.FirstCalls
import CallEdits.Proofs.ReportedCalls
import CallEdits.Proofs.BytesOutside
import CallEdits.Proofs.KeptTexts
import CallEdits.Proofs.LineEnds
import CallEdits.Proofs.SelfContained
import CallEdits.Proofs.ListedLocations
import CallEdits.Proofs.RenamedCalls
import CallEdits.Proofs.RelativeDepth
import CallEdits.Proofs.ReportFiles
import CallEdits.Proofs.NamedSites
import CallEdits.Proofs.OverriddenSettings
import CallEdits.Proofs.LineStarts
