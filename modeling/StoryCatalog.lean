import StoryCatalog.Text.Word
import StoryCatalog.Text.Digit
import StoryCatalog.Text.Quoted
import StoryCatalog.Text.Case
import StoryCatalog.Text.Blank
import StoryCatalog.Text.Wide
import StoryCatalog.Text.Utf8
import StoryCatalog.Text.Scan
import StoryCatalog.Fields
import StoryCatalog.Number.Notation
import StoryCatalog.Number.Reading
import StoryCatalog.Path.Spelled
import StoryCatalog.Path.Wide
import StoryCatalog.FileSystem.Memory
import StoryCatalog.Component.Extract
import StoryCatalog.Story.Args
import StoryCatalog.Story.Literal
import StoryCatalog.Story.Name
import StoryCatalog.Story.Examples
import StoryCatalog.Story.Record
import StoryCatalog.Json.Basic
import StoryCatalog.Json.Reader
import StoryCatalog.Json.Writer
import StoryCatalog.Json.Display
import StoryCatalog.Story.Usage
import StoryCatalog.Index.Entry
import StoryCatalog.FileSystem.Disk
import StoryCatalog.Project.Inspect
import StoryCatalog.Index.Client
import StoryCatalog.CommandLine.Flag
import StoryCatalog.CommandLine.Launch
import StoryCatalog.Log.Clock
import StoryCatalog.Main
import StoryCatalog.Proofs.Text.Scan
import StoryCatalog.Proofs.Text.Character
import StoryCatalog.Proofs.Source.Token
import StoryCatalog.Proofs.Story.ArgsBlock
import StoryCatalog.Proofs.Story.Declaration
import StoryCatalog.Proofs.Text.Split
import StoryCatalog.Proofs.Path.Normal
import StoryCatalog.Proofs.FileSystem.Memory
import StoryCatalog.Proofs.Story.Name
import StoryCatalog.Proofs.Story.ExportName
import StoryCatalog.Proofs.Fields
import StoryCatalog.Proofs.Except
import StoryCatalog.Proofs.Story.Args
import StoryCatalog.Proofs.Story.Record
import StoryCatalog.Proofs.Story.Canonical
import StoryCatalog.Proofs.Story.Agreement
import StoryCatalog.Proofs.Service.Route
import StoryCatalog.Proofs.Service.Response
import StoryCatalog.Proofs.Service.Kinds
import StoryCatalog.Proofs.Story.Faults
import StoryCatalog.Proofs.Story.Sources
import StoryCatalog.Proofs.Story.Blocks
import StoryCatalog.Proofs.Source.BlockComment
import StoryCatalog.Proofs.Component.Properties
import StoryCatalog.Proofs.Component.Members
import StoryCatalog.Proofs.Component.Declarations
import StoryCatalog.Proofs.Component.TypedMembers
import StoryCatalog.Proofs.Component.AttachedComments
import StoryCatalog.Proofs.Component.InterfaceFields
import StoryCatalog.Proofs.Component.Passes
import StoryCatalog.Proofs.Component.Code
import StoryCatalog.Proofs.Text.Search
import StoryCatalog.Proofs.Story.WholeBlocks
import StoryCatalog.Proofs.Story.ArgTypes
import StoryCatalog.Proofs.Story.Imports
import StoryCatalog.Proofs.Number.Reading
import StoryCatalog.Proofs.Story.Literal
import StoryCatalog.Proofs.Json.Limits
import StoryCatalog.Proofs.Json.Depth
import StoryCatalog.Proofs.Index.Client
import StoryCatalog.Proofs.Service.Story
import StoryCatalog.Proofs.Service.Views
import StoryCatalog.Proofs.Text.Utf8
import StoryCatalog.Proofs.Service.Containment
import StoryCatalog.Proofs.Path.Spelled
import StoryCatalog.Proofs.Path.Wide
import StoryCatalog.Proofs.Service.Documentation
import StoryCatalog.Proofs.FileSystem.Disk
import StoryCatalog.Proofs.Service.FaultyFiles
import StoryCatalog.Proofs.FileSystem.Tree
import StoryCatalog.Proofs.Story.HandedPaths
import StoryCatalog.Proofs.Story.ComponentFile
import StoryCatalog.Proofs.Settings.File
import StoryCatalog.Proofs.CommandLine.Launch
import StoryCatalog.Proofs.CommandLine.Settings
import StoryCatalog.Proofs.Source.CommentLines
import StoryCatalog.Proofs.Story.Usage
import StoryCatalog.Proofs.CommandLine.Options
import StoryCatalog.Proofs.CommandLine.Overrides
import StoryCatalog.Proofs.Story.WrittenArgs
import StoryCatalog.Proofs.Path.Join
import StoryCatalog.Proofs.Path.ImportPath
import StoryCatalog.Proofs.Story.Session
import StoryCatalog.Proofs.Index.Relisting
import StoryCatalog.Proofs.Json.Spelling
