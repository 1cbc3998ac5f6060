import EnvAudit.Check
import EnvAudit.Checkout
import EnvAudit.CommandLine.Arg
import EnvAudit.CommandLine.Command
import EnvAudit.CommandLine.Help
import EnvAudit.CommandLine.Reading
import EnvAudit.Commands
import EnvAudit.Config
import EnvAudit.Decimal.Binary64
import EnvAudit.Decimal.Shortest
import EnvAudit.Declarations.Source
import EnvAudit.Declarations.TaskDefinition
import EnvAudit.Dotenv
import EnvAudit.Error
import EnvAudit.Event
import EnvAudit.Files.Basic
import EnvAudit.Files.Edit
import EnvAudit.Files.Fault
import EnvAudit.Files.Resolve
import EnvAudit.Files.Room
import EnvAudit.Files.Walk
import EnvAudit.FoundNames
import EnvAudit.Json.Basic
import EnvAudit.Json.Fault
import EnvAudit.Json.Input
import EnvAudit.Json.Printer
import EnvAudit.Json.Reader
import EnvAudit.Json.Typed
import EnvAudit.Log
import EnvAudit.Main
import EnvAudit.Main.Launcher
import EnvAudit.Main.Script
import EnvAudit.Main.Trees
import EnvAudit.Path.Basic
import EnvAudit.Path.Parent
import EnvAudit.Pattern.Basic
import EnvAudit.Pattern.Cursor
import EnvAudit.Pattern.Error
import EnvAudit.Pattern.Form
import EnvAudit.Pattern.Meaning
import EnvAudit.Pattern.Reader
import EnvAudit.Pattern.Route
import EnvAudit.Pattern.Search
import EnvAudit.Program.Basic
import EnvAudit.Proofs.Check
import EnvAudit.Proofs.Checkout
import EnvAudit.Proofs.Checkout.Cloning
import EnvAudit.Proofs.Checkout.EnvFile
import EnvAudit.Proofs.Checkout.Name
import EnvAudit.Proofs.Checkout.Project
import EnvAudit.Proofs.Commands
import EnvAudit.Proofs.Commands.Like
import EnvAudit.Proofs.Commands.Streams
import EnvAudit.Proofs.Config
import EnvAudit.Proofs.Config.Nearest
import EnvAudit.Proofs.Debugging
import EnvAudit.Proofs.Decimal.Layout
import EnvAudit.Proofs.Decimal.Nearest
import EnvAudit.Proofs.Decimal.Shortest
import EnvAudit.Proofs.Declarations.Containers
import EnvAudit.Proofs.Declarations.Formats
import EnvAudit.Proofs.Declarations.TaskDefinition
import EnvAudit.Proofs.Dotenv.Append
import EnvAudit.Proofs.Dotenv.Appended
import EnvAudit.Proofs.Dotenv.EachLine
import EnvAudit.Proofs.Dotenv.Keys
import EnvAudit.Proofs.Dotenv.Preferred
import EnvAudit.Proofs.Dotenv.ReadFrom
import EnvAudit.Proofs.Dotenv.Skipped
import EnvAudit.Proofs.Dotenv.Statement
import EnvAudit.Proofs.Dotenv.Written
import EnvAudit.Proofs.Environments
import EnvAudit.Proofs.Files.Alike
import EnvAudit.Proofs.Files.Below
import EnvAudit.Proofs.Files.Copies
import EnvAudit.Proofs.Files.Follow
import EnvAudit.Proofs.Files.Gains
import EnvAudit.Proofs.Files.Lead
import EnvAudit.Proofs.Files.Made
import EnvAudit.Proofs.Files.Walk
import EnvAudit.Proofs.Files.Within
import EnvAudit.Proofs.Files.Write
import EnvAudit.Proofs.FoundNames
import EnvAudit.Proofs.Init
import EnvAudit.Proofs.Json.Compact
import EnvAudit.Proofs.Json.ReadWritten
import EnvAudit.Proofs.Json.Regular
import EnvAudit.Proofs.Json.Typed
import EnvAudit.Proofs.Json.Written
import EnvAudit.Proofs.Path
import EnvAudit.Proofs.Path.Behind
import EnvAudit.Proofs.Pattern.Apart
import EnvAudit.Proofs.Pattern.Explore
import EnvAudit.Proofs.Pattern.Runs
import EnvAudit.Proofs.Pattern.Sightings
import EnvAudit.Proofs.Pattern.Ways
import EnvAudit.Proofs.Places
import EnvAudit.Proofs.Registry.Additions
import EnvAudit.Proofs.Registry.Default
import EnvAudit.Proofs.Registry.Forms
import EnvAudit.Proofs.Registry.Merge
import EnvAudit.Proofs.Registry.References
import EnvAudit.Proofs.Scan
import EnvAudit.Proofs.Scan.Extensions
import EnvAudit.Proofs.Scan.InvalidBytes
import EnvAudit.Proofs.Scan.Obstacles
import EnvAudit.Proofs.Text.CharSet
import EnvAudit.Proofs.Text.Lines
import EnvAudit.Proofs.Text.Lossy
import EnvAudit.Proofs.Text.Utf8
import EnvAudit.Proofs.Traced
import EnvAudit.Proofs.Traced.Like
import EnvAudit.Proofs.Variables
import EnvAudit.Registry.Basic
import EnvAudit.Registry.Entry
import EnvAudit.Report
import EnvAudit.Scan
import EnvAudit.Text.Blank
import EnvAudit.Text.CaseFold
import EnvAudit.Text.Category
import EnvAudit.Text.CharSet
import EnvAudit.Text.Lines
import EnvAudit.Text.Named
import EnvAudit.Text.Property
import EnvAudit.Text.Quoted
import EnvAudit.Text.Script
import EnvAudit.Text.Utf8
import EnvAudit.Text.WordChar
import EnvAudit.Traced
import EnvAudit.Variables
