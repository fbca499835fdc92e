import Polyview.Build.Command
import Polyview.Build.Launch
import Polyview.CommandLine.Reader
import Polyview.Disk.Machine
import Polyview.Document.Printer
import Polyview.Document.Reader
import Polyview.Document.Views
import Polyview.Escape.TomlString
import Polyview.Main
import Polyview.Manifest
import Polyview.Program
import Polyview.Project.Generation
import Polyview.Project.Starter
import Polyview.Proofs.Action.Building
import Polyview.Proofs.Action.Compiling
import Polyview.Proofs.Action.Fresh
import Polyview.Proofs.Action.Starting
import Polyview.Proofs.Document.Offences
import Polyview.Proofs.Document.RoundTrip
import Polyview.Proofs.Document.Sharing
import Polyview.Proofs.Escape.TypeName
import Polyview.Proofs.Project.Starter
import Polyview.Proofs.Markup.Document
import Polyview.Proofs.Render.Binding
import Polyview.Proofs.Render.Linux
import Polyview.Proofs.Render.Macos
import Polyview.Proofs.Render.Windows
import Polyview.Proofs.Session.Refinement
import Polyview.Proofs.StateVariable.Grammar
import Polyview.Proofs.StateVariable.Redeclaration
import Polyview.Render.Target
import Polyview.Session
import Polyview.Template.Library
import Polyview.Text.Quoted
import Polyview.Proofs.Project.PropertyList
import Polyview.Proofs.Project.Confinement
import Polyview.Proofs.Project.Substitution
import Polyview.Proofs.Project.Makefile
import Polyview.Proofs.Render.Declaration
import Polyview.Proofs.Json.Phrase
import Polyview.Proofs.Json.Scanning
import Polyview.Proofs.Json.Evaluation
import Polyview.Proofs.Json.Skipping
import Polyview.Proofs.Document.Evaluation
import Polyview.Proofs.Document.Order
import Polyview.Proofs.CommandLine.Arrangement
import Polyview.Proofs.Render.Editing
