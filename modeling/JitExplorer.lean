import JitExplorer.Act
import JitExplorer.ArgumentList
import JitExplorer.CommandLine
import JitExplorer.Container
import JitExplorer.Datum
import JitExplorer.Descriptor
import JitExplorer.Dispatcher.Compiler
import JitExplorer.Dispatcher.Setting
import JitExplorer.Dispatcher.TypedListing
import JitExplorer.Dispatcher.World
import JitExplorer.Enumeration
import JitExplorer.Extraction
import JitExplorer.Failure
import JitExplorer.FilePath
import JitExplorer.FileTree
import JitExplorer.Filter.Assembly
import JitExplorer.Filter.Marker
import JitExplorer.Filter.Metadata
import JitExplorer.Framing
import JitExplorer.Hint
import JitExplorer.Host
import JitExplorer.HostAddress
import JitExplorer.Index
import JitExplorer.Invocation
import JitExplorer.Job
import JitExplorer.Loading
import JitExplorer.Log
import JitExplorer.Log.Tree
import JitExplorer.Main
import JitExplorer.Pipeline
import JitExplorer.Program
import JitExplorer.Session
import JitExplorer.Session.Client
import JitExplorer.Session.Run
import JitExplorer.SourceListing
import JitExplorer.Stage
import JitExplorer.Table
import JitExplorer.Text.Blank
import JitExplorer.Text.CodeRange
import JitExplorer.Text.Digit
import JitExplorer.Text.Lines
import JitExplorer.Text.Percent
import JitExplorer.Text.Printable
import JitExplorer.Text.Quoted
import JitExplorer.Text.Search
import JitExplorer.Text.Utf8
import JitExplorer.Text.Word
import JitExplorer.Toolchain
import JitExplorer.Toolchain.Binding
import JitExplorer.Toolchain.Script
import JitExplorer.Uri
import JitExplorer.Proofs.Framing.HeaderLine
import JitExplorer.Proofs.Framing.Frame
import JitExplorer.Proofs.Framing.RoundTrip
import JitExplorer.Proofs.Text.Encoding
import JitExplorer.Proofs.Pipeline.Frames
import JitExplorer.Proofs.Pipeline.Output
import JitExplorer.Proofs.Invocation.ReadBack
import JitExplorer.Proofs.Session.Effects
import JitExplorer.Proofs.Session.History
import JitExplorer.Proofs.Session.LatestText
import JitExplorer.Proofs.Session.View
import JitExplorer.Proofs.Session.Closed
import JitExplorer.Proofs.Session.Unserved
import JitExplorer.Proofs.Session.FurtherRun
import JitExplorer.Proofs.Session.EditsKept
import JitExplorer.Proofs.Session.Threads
import JitExplorer.Proofs.Session.OneRun
import JitExplorer.Proofs.CommandLine.Spelling
import JitExplorer.Proofs.CommandLine.Grammar
import JitExplorer.Proofs.Enumeration.Inventory
import JitExplorer.Proofs.Enumeration.Transcript
import JitExplorer.Proofs.Session.Pairing
import JitExplorer.Proofs.Session.Shown
import JitExplorer.Proofs.Filter.MetadataLine
import JitExplorer.Proofs.Filter.Reachable
import JitExplorer.Proofs.Filter.Instrumented
import JitExplorer.Proofs.Pipeline.Agreement
import JitExplorer.Proofs.Pipeline.Calls
import JitExplorer.Proofs.Pipeline.Untouched
import JitExplorer.Proofs.Pipeline.Verbosity
import JitExplorer.Proofs.Framing.Faults
import JitExplorer.Proofs.Framing.Concatenation
import JitExplorer.Proofs.Framing.Truncation
import JitExplorer.Proofs.Filter.Directive
import JitExplorer.Proofs.Filter.DebugSection
import JitExplorer.Proofs.ArgumentList.Joined
import JitExplorer.Proofs.Hint.Grouping
import JitExplorer.Proofs.Text.EscapedForm
import JitExplorer.Proofs.Uri.FileAddress
import JitExplorer.Proofs.Extraction.Attribution
import JitExplorer.Proofs.Dispatcher.Rebuilds
import JitExplorer.Proofs.CommandLine.Answers
import JitExplorer.Proofs.Loading.Escapes
import JitExplorer.Proofs.Pipeline.Blame
import JitExplorer.Proofs.Descriptor.Circle
import JitExplorer.Proofs.Dispatcher.Listing
import JitExplorer.Proofs.Filter.SecondPass
import JitExplorer.Proofs.Filter.SourceMarker
import JitExplorer.Proofs.Log.Inheritance
import JitExplorer.Proofs.Text.EditorLines
import JitExplorer.Proofs.Hint.LineEnd
import JitExplorer.Proofs.Session.Side
import JitExplorer.Proofs.Session.Record
import JitExplorer.Proofs.Session.Errand
import JitExplorer.Proofs.Session.Chronicle
import JitExplorer.Proofs.Session.Overtaking
