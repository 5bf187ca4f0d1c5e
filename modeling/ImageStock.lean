import ImageStock.Catalog
import ImageStock.Command
import ImageStock.Console
import ImageStock.ContainerRuntime
import ImageStock.Dialogue
import ImageStock.Engine
import ImageStock.Failure
import ImageStock.FileTree
import ImageStock.Host
import ImageStock.Image
import ImageStock.Inventory
import ImageStock.Invocation.Basic
import ImageStock.Invocation.Help
import ImageStock.Invocation.Parse
import ImageStock.Invocation.Refusal
import ImageStock.LogFilter
import ImageStock.Main
import ImageStock.Notice
import ImageStock.Number.Binary64
import ImageStock.Number.Shortest
import ImageStock.Number.Written
import ImageStock.Path
import ImageStock.Program
import ImageStock.ProjectFile.Basic
import ImageStock.ProjectFile.Decode
import ImageStock.ProjectFile.Mismatch
import ImageStock.ProjectFile.Parse
import ImageStock.ProjectFile.Render
import ImageStock.Provision
import ImageStock.Relay
import ImageStock.Scripted
import ImageStock.Settings
import ImageStock.SystemError
import ImageStock.Text.Alphanumeric
import ImageStock.Text.Blank
import ImageStock.Text.CodePointSet
import ImageStock.Text.Columns
import ImageStock.Text.Grid
import ImageStock.Text.Hex
import ImageStock.Text.Pattern
import ImageStock.Text.Pictograph
import ImageStock.Text.Quoted
import ImageStock.Text.Similarity
import ImageStock.Text.Unprintable
import ImageStock.Text.Utf8
import ImageStock.Text.Width
import ImageStock.Toml.Document
import ImageStock.Toml.Excerpt
import ImageStock.Toml.Expression
import ImageStock.Toml.Malformed
import ImageStock.Toml.Moment
import ImageStock.Toml.Node
import ImageStock.Toml.Numeral
import ImageStock.Toml.Printer
import ImageStock.Toml.Quote
import ImageStock.Toml.Reader
import ImageStock.Toml.Value
import ImageStock.Workspace
import ImageStock.Proofs.Exchange
import ImageStock.Proofs.Provision.Segment
import ImageStock.Proofs.Provision.FailFast
import ImageStock.Proofs.Provision.Scripted
import ImageStock.Proofs.Rehearsal
import ImageStock.Proofs.FileTree
import ImageStock.Proofs.ProjectFile.Document
import ImageStock.Proofs.ProjectFile.RoundTrip
import ImageStock.Proofs.Catalog
import ImageStock.Proofs.Simulation
import ImageStock.Proofs.Text.Blank
import ImageStock.Proofs.Engine
import ImageStock.Proofs.Workspace
import ImageStock.Proofs.Provision.Served
import ImageStock.Proofs.Within
import ImageStock.Proofs.Inventory
import ImageStock.Proofs.Program.Prepare
import ImageStock.Proofs.Program.Commands
import ImageStock.Proofs.Program.ExitStatus
import ImageStock.Proofs.Provision.Account
import ImageStock.Proofs.Provision.Agreement
import ImageStock.Proofs.Environment
import ImageStock.Proofs.ProjectFile.KnownFields
import ImageStock.Proofs.Provision.Sequence
import ImageStock.Proofs.Program.UserFile
import ImageStock.Proofs.ProjectFile.Export
import ImageStock.Proofs.ProjectFile.Images
import ImageStock.Proofs.Provision.Monotone
import ImageStock.Proofs.CommandLine
import ImageStock.Proofs.Directory
import ImageStock.Proofs.ProjectFile.Initial
import ImageStock.Proofs.ProjectFile.UnknownFields
import ImageStock.Proofs.ProjectFile.InitialSettings
import ImageStock.Proofs.Provision.Report
import ImageStock.Proofs.Text.Words
import ImageStock.Proofs.Arguments
import ImageStock.Proofs.Presence
