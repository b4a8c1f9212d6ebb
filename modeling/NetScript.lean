import NetScript.Binary64.Basic
import NetScript.Binary64.Rounding
import NetScript.Category
import NetScript.CharSet.Ascii
import NetScript.CharSet.Basic
import NetScript.CharSet.Table
import NetScript.Code.Number
import NetScript.Code.Quoted
import NetScript.Code.Reader.Call
import NetScript.Code.Reader.Qualifier
import NetScript.Code.Reader.Quoted
import NetScript.Decimal.Layout
import NetScript.Decimal.Shortest
import NetScript.Edge
import NetScript.Export
import NetScript.Export.Interleaving
import NetScript.Fields
import NetScript.FileTree
import NetScript.Files
import NetScript.Graph.Basic
import NetScript.Graph.Edit
import NetScript.Json.Basic
import NetScript.Json.Failure
import NetScript.Json.Reader.Basic
import NetScript.Json.Reader.Container
import NetScript.Json.Reader.Ignored
import NetScript.Json.Reader.Number
import NetScript.Json.Reader.String
import NetScript.Json.Reader.Value
import NetScript.Json.Record
import NetScript.Json.Verbatim
import NetScript.Json.Writer
import NetScript.Layer
import NetScript.Layer.Signature
import NetScript.Log.Basic
import NetScript.Log.Filter
import NetScript.Main
import NetScript.Manifest
import NetScript.Network.Assembly
import NetScript.Network.Basic
import NetScript.Network.DepthFirst
import NetScript.Network.Execution
import NetScript.Network.Forward
import NetScript.Node.Basic
import NetScript.Node.Canonical
import NetScript.Node.Json
import NetScript.Palette
import NetScript.Path
import NetScript.Pattern.Basic
import NetScript.Pattern.Cursor
import NetScript.Pattern.Fault
import NetScript.Pattern.Meaning
import NetScript.Pattern.Parser
import NetScript.Pattern.Reader.Class
import NetScript.Pattern.Reader.Count
import NetScript.Pattern.Reader.Escape
import NetScript.Pattern.Reader.Group
import NetScript.Pattern.Reader.Tree
import NetScript.Pattern.Size
import NetScript.Pattern.Tree
import NetScript.Pattern.Utf8
import NetScript.Proofs.Category
import NetScript.Proofs.Code.Call
import NetScript.Proofs.Code.Number
import NetScript.Proofs.Code.Qualifier
import NetScript.Proofs.Code.Quoted
import NetScript.Proofs.Decimal.Shortest
import NetScript.Proofs.Export.Confluence
import NetScript.Proofs.Export.Effects
import NetScript.Proofs.Export.History
import NetScript.Proofs.Export.ScriptPath
import NetScript.Proofs.Export.Sequential
import NetScript.Proofs.Export.Turns
import NetScript.Proofs.FileTree.Directories
import NetScript.Proofs.FileTree.Places
import NetScript.Proofs.Forward.Acyclic
import NetScript.Proofs.Forward.Chain
import NetScript.Proofs.Forward.Components
import NetScript.Proofs.Forward.Dataflow
import NetScript.Proofs.Forward.Embedding
import NetScript.Proofs.Forward.Execution
import NetScript.Proofs.Forward.Exploration
import NetScript.Proofs.Forward.Forest
import NetScript.Proofs.Forward.Loop
import NetScript.Proofs.Forward.Path
import NetScript.Proofs.Forward.Reachability
import NetScript.Proofs.Forward.Recursion
import NetScript.Proofs.Forward.Scoping
import NetScript.Proofs.Forward.Sink
import NetScript.Proofs.Forward.Trace
import NetScript.Proofs.Forward.Trail
import NetScript.Proofs.Graph.RoundTrip
import NetScript.Proofs.Json.Containers
import NetScript.Proofs.Json.Grammar
import NetScript.Proofs.Json.Ignored
import NetScript.Proofs.Json.Listed
import NetScript.Proofs.Json.Local
import NetScript.Proofs.Json.Numbers
import NetScript.Proofs.Json.Objects
import NetScript.Proofs.Json.Outcome
import NetScript.Proofs.Json.Reads
import NetScript.Proofs.Json.RoundTrip
import NetScript.Proofs.Json.Scalars
import NetScript.Proofs.Json.Settled
import NetScript.Proofs.Json.Verbatim
import NetScript.Proofs.Json.Yields
import NetScript.Proofs.Layer.Signature
import NetScript.Proofs.Names
import NetScript.Proofs.Network.Assembly
import NetScript.Proofs.Node.Spelling
import NetScript.Proofs.Script.Canonical
import NetScript.Proofs.Script.Imports
import NetScript.Proofs.Script.Interchange
import NetScript.Proofs.Script.NodeOrder
import NetScript.Proofs.Script.Outcome
import NetScript.Proofs.Script.Plain
import NetScript.Proofs.Script.Renaming
import NetScript.Proofs.Script.Source
import NetScript.Proofs.Script.Targets
import NetScript.Proofs.Setting.Shapes
import NetScript.Proofs.Text.CamelCase
import NetScript.Proofs.Text.Lines
import NetScript.Script.Basic
import NetScript.Script.ModelClass
import NetScript.Script.Preamble
import NetScript.Script.Training
import NetScript.Session
import NetScript.Setting
import NetScript.Text.Blank
import NetScript.Text.CamelCase
import NetScript.Text.Hex
import NetScript.Text.Hidden
import NetScript.Text.Lines
import NetScript.Text.Quote
import NetScript.Text.Runs
import NetScript.Text.Split
import NetScript.Text.Terminal
import NetScript.Text.UpperCase
import NetScript.Unicode.Break
import NetScript.Unicode.CaseFolding
import NetScript.Unicode.GeneralCategory
import NetScript.Unicode.Name
import NetScript.Unicode.Property
import NetScript.Unicode.Script
import NetScript.Unicode.Version
