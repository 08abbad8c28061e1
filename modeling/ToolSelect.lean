import ToolSelect.CommandLine.Basic
import ToolSelect.CommandLine.Parse
import ToolSelect.CommandLine.Word
import ToolSelect.Config.Basic
import ToolSelect.Config.Json
import ToolSelect.Config.Registrations
import ToolSelect.Config.Session
import ToolSelect.Decimal.Binary64
import ToolSelect.Decimal.Shortest
import ToolSelect.Json.Cursor
import ToolSelect.Json.Error
import ToolSelect.Json.Number
import ToolSelect.Json.Reader
import ToolSelect.Json.Shape
import ToolSelect.Json.Text
import ToolSelect.Json.Value
import ToolSelect.Machine.Basic
import ToolSelect.Machine.FileTree
import ToolSelect.Machine.Trace
import ToolSelect.Main
import ToolSelect.Path
import ToolSelect.Platform.Architecture
import ToolSelect.Platform.Basic
import ToolSelect.Platform.Host
import ToolSelect.Platform.Json
import ToolSelect.Platform.OperatingSystem
import ToolSelect.Program.Report
import ToolSelect.Program.Run
import ToolSelect.Program.Usage
import ToolSelect.Proofs.Aliases
import ToolSelect.Proofs.AppendedArguments
import ToolSelect.Proofs.AppendingHooks
import ToolSelect.Proofs.AsciiCase
import ToolSelect.Proofs.CommandLine.Environment
import ToolSelect.Proofs.CommandLine.Giving
import ToolSelect.Proofs.CommandLine.Placement
import ToolSelect.Proofs.CommandLine.Reading
import ToolSelect.Proofs.CommandLine.Spelling
import ToolSelect.Proofs.CommandLine.Splitting
import ToolSelect.Proofs.CompleteTools
import ToolSelect.Proofs.ConfigShape
import ToolSelect.Proofs.ConfigText
import ToolSelect.Proofs.ConfigVariable
import ToolSelect.Proofs.ConfiguredArguments
import ToolSelect.Proofs.ConfiguredSelection
import ToolSelect.Proofs.ConfiguredTools
import ToolSelect.Proofs.ExecutableNames
import ToolSelect.Proofs.FirstSpellings
import ToolSelect.Proofs.History
import ToolSelect.Proofs.InPlace
import ToolSelect.Proofs.Inquiries
import ToolSelect.Proofs.InstalledFiles
import ToolSelect.Proofs.Interleaving
import ToolSelect.Proofs.Json.Reading
import ToolSelect.Proofs.Json.Recognising
import ToolSelect.Proofs.Json.Records
import ToolSelect.Proofs.Json.Spelling
import ToolSelect.Proofs.Json.Taking
import ToolSelect.Proofs.Json.Texts
import ToolSelect.Proofs.Json.Written
import ToolSelect.Proofs.KindNames
import ToolSelect.Proofs.ListedDirectories
import ToolSelect.Proofs.LoadedSessions
import ToolSelect.Proofs.MoreDirectories
import ToolSelect.Proofs.NormalNames
import ToolSelect.Proofs.Outcomes
import ToolSelect.Proofs.Paths
import ToolSelect.Proofs.PlatformText
import ToolSelect.Proofs.Priorities
import ToolSelect.Proofs.Probing
import ToolSelect.Proofs.Recording
import ToolSelect.Proofs.Results
import ToolSelect.Proofs.SearchOrder
import ToolSelect.Proofs.Searching
import ToolSelect.Proofs.Selection
import ToolSelect.Proofs.StrategyTools
import ToolSelect.Proofs.Tables
import ToolSelect.Proofs.ToolEdits
import ToolSelect.Proofs.ToolSetRuns
import ToolSelect.Proofs.UnrelatedTargets
import ToolSelect.Proofs.Validity
import ToolSelect.Proofs.WholeConfigurations
import ToolSelect.Search.Availability
import ToolSelect.Search.Locator
import ToolSelect.Search.SearchPath
import ToolSelect.Selection.Provider
import ToolSelect.Selection.Registry
import ToolSelect.Selection.Strategy
import ToolSelect.Selection.ToolChain
import ToolSelect.Table
import ToolSelect.Text.Ascii
import ToolSelect.Text.Blank
import ToolSelect.Text.CaseTable
import ToolSelect.Text.CodeSpan
import ToolSelect.Text.Fields
import ToolSelect.Text.HiddenTable
import ToolSelect.Text.LowerCase
import ToolSelect.Text.Quoted
import ToolSelect.Text.Terminal
import ToolSelect.Tool.Arguments
import ToolSelect.Tool.Family
import ToolSelect.Tool.Json
import ToolSelect.Tool.Kind
import ToolSelect.Tool.KindMap
import ToolSelect.Tool.Set
