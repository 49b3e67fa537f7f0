import ModSkeleton.Cli
import ModSkeleton.Command.Duration
import ModSkeleton.Command.FileName
import ModSkeleton.Command.Format
import ModSkeleton.Command.Process
import ModSkeleton.Command.Program
import ModSkeleton.Command.Report
import ModSkeleton.Command.Run
import ModSkeleton.CommandLine.Arguments
import ModSkeleton.CommandLine.Item
import ModSkeleton.CommandLine.Switch
import ModSkeleton.CommandLine.Usage
import ModSkeleton.Console.Colour
import ModSkeleton.Console.Emoji
import ModSkeleton.Console.Markup
import ModSkeleton.Console.Message
import ModSkeleton.Console.Report
import ModSkeleton.Console.StyleName
import ModSkeleton.Console.Table
import ModSkeleton.Console.Wrap
import ModSkeleton.FileTree.Basic
import ModSkeleton.FileTree.Fault
import ModSkeleton.FileTree.Walk
import ModSkeleton.Generate
import ModSkeleton.Git
import ModSkeleton.Groovy
import ModSkeleton.Host
import ModSkeleton.Issue
import ModSkeleton.Json.Reader
import ModSkeleton.Json.Value
import ModSkeleton.Json.Writer
import ModSkeleton.Language
import ModSkeleton.Main
import ModSkeleton.MainClass
import ModSkeleton.ModId
import ModSkeleton.Path
import ModSkeleton.Project.Bundled
import ModSkeleton.Project.Layout
import ModSkeleton.Project.Render
import ModSkeleton.ProjectError
import ModSkeleton.Request.Basic
import ModSkeleton.Request.Brief
import ModSkeleton.Request.Resolve
import ModSkeleton.Request.Validate
import ModSkeleton.Shell.Arithmetic
import ModSkeleton.Shell.Builtin
import ModSkeleton.Shell.Execute
import ModSkeleton.Shell.Expand
import ModSkeleton.Shell.Lexeme
import ModSkeleton.Shell.Pattern
import ModSkeleton.Shell.Script
import ModSkeleton.Shell.Signal
import ModSkeleton.Shell.State
import ModSkeleton.Shell.Syntax
import ModSkeleton.Shell.Test
import ModSkeleton.Shell.Token
import ModSkeleton.Template.Expr
import ModSkeleton.Template.Library
import ModSkeleton.Template.Literal
import ModSkeleton.Template.Node
import ModSkeleton.Template.Piece
import ModSkeleton.Template.Render
import ModSkeleton.Template.Segment
import ModSkeleton.Template.Token
import ModSkeleton.Text.Basic
import ModSkeleton.Text.Blank
import ModSkeleton.Text.CharName
import ModSkeleton.Text.Compatible
import ModSkeleton.Text.Digit
import ModSkeleton.Text.Grapheme
import ModSkeleton.Text.Identifier
import ModSkeleton.Text.Lowercase
import ModSkeleton.Text.Printable
import ModSkeleton.Text.Quoted
import ModSkeleton.Text.Utf8
import ModSkeleton.Text.Width
import ModSkeleton.Toolchain.Basic
import ModSkeleton.Toolchain.JavaVersion
import ModSkeleton.Toolchain.Settings
import ModSkeleton.Workspace
import ModSkeleton.Workspace.Access
import ModSkeleton.Workspace.Real
import ModSkeleton.Proofs.FileTree.Growth
import ModSkeleton.Proofs.FileTree.Walking
import ModSkeleton.Proofs.FileTree.Arrival
import ModSkeleton.Proofs.Workspace.Making
import ModSkeleton.Proofs.Workspace.RealPath
import ModSkeleton.Proofs.Workspace.Writing
import ModSkeleton.Proofs.Generation.Target
import ModSkeleton.Proofs.Template.Evaluation
import ModSkeleton.Proofs.Template.Outline
import ModSkeleton.Proofs.Template.Reading
import ModSkeleton.Proofs.Request.Names
import ModSkeleton.Proofs.Project.Contexts
import ModSkeleton.Proofs.Project.Sources
import ModSkeleton.Proofs.Project.Outlines
import ModSkeleton.Proofs.Project.Names
import ModSkeleton.Proofs.Generation.FreshProject
import ModSkeleton.Proofs.Generation.Overwriting
import ModSkeleton.Proofs.Generation.Failure
import ModSkeleton.Proofs.Json.Layout
import ModSkeleton.Proofs.Project.Documents
import ModSkeleton.Proofs.Generation.Emission
import ModSkeleton.Proofs.Generation.Sequence
import ModSkeleton.Proofs.Generation.Repetition
import ModSkeleton.Proofs.Workspace.Room
import ModSkeleton.Proofs.Generation.Independence
import ModSkeleton.Proofs.Console.Escaping
import ModSkeleton.Proofs.CommandLine.Words
import ModSkeleton.Proofs.Cli.Reporting
import ModSkeleton.Proofs.Request.ModIds
import ModSkeleton.Proofs.Project.EntryPoints
import ModSkeleton.Proofs.Text.Replacing
import ModSkeleton.Proofs.Json.Substitution
import ModSkeleton.Proofs.Project.Resources
import ModSkeleton.Proofs.Json.Places
import ModSkeleton.Proofs.Project.Versions
import ModSkeleton.Proofs.Console.Balance
import ModSkeleton.Proofs.Cli.Summary
import ModSkeleton.Proofs.Project.Containment
import ModSkeleton.Proofs.Project.Placement
import ModSkeleton.Proofs.Project.DataFlow
import ModSkeleton.Proofs.Project.Variants
import ModSkeleton.Proofs.Groovy.Quoting
import ModSkeleton.Proofs.Path.Printing
import ModSkeleton.Proofs.Path.Lexical
import ModSkeleton.Proofs.Request.MainClasses
import ModSkeleton.Proofs.Request.Resolution
import ModSkeleton.Proofs.Request.DerivedIds
import ModSkeleton.Proofs.Project.Properties
import ModSkeleton.Proofs.Json.Printing
import ModSkeleton.Proofs.Text.Newlines
import ModSkeleton.Proofs.Project.Description
import ModSkeleton.Proofs.Template.Strictness
import ModSkeleton.Proofs.Template.Cutting
import ModSkeleton.Proofs.Template.LineTemplates
import ModSkeleton.Proofs.Generation.Outcome
import ModSkeleton.Proofs.Generation.VersionControl
import ModSkeleton.Proofs.Request.Coordinates
import ModSkeleton.Proofs.CommandLine.Spelling
import ModSkeleton.Proofs.Console.Messages
import ModSkeleton.Proofs.FileTree.Lookup
import ModSkeleton.Proofs.FileTree.Ordinary
import ModSkeleton.Proofs.Template.Directories
import ModSkeleton.Proofs.Template.Listing
import ModSkeleton.Proofs.Toolchain.Numerals
import ModSkeleton.Proofs.Project.Releases
import ModSkeleton.Proofs.Text.Quoting
import ModSkeleton.Proofs.Request.Refusals
