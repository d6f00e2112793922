import KernelCache.Action
import KernelCache.Assembly.Command
import KernelCache.Assembly.Effect
import KernelCache.Assembly.Expression
import KernelCache.Assembly.Listing
import KernelCache.Assembly.Statement
import KernelCache.Assembly.Unit
import KernelCache.Binary.Archive
import KernelCache.Binary.Module
import KernelCache.C.Block
import KernelCache.C.Builtin
import KernelCache.C.Class
import KernelCache.C.Closure
import KernelCache.C.Lifetime
import KernelCache.C.Construct
import KernelCache.C.Conversion
import KernelCache.C.Declaration
import KernelCache.C.Declarator
import KernelCache.C.Expression
import KernelCache.C.Function
import KernelCache.C.Source
import KernelCache.C.Lane
import KernelCache.C.Layout
import KernelCache.C.Machine
import KernelCache.C.Types
import KernelCache.C.Name
import KernelCache.C.Naming
import KernelCache.C.Number
import KernelCache.C.Operand
import KernelCache.C.Operator
import KernelCache.C.Outer
import KernelCache.C.Overload
import KernelCache.C.Preprocess.Directive
import KernelCache.C.Preprocess.Macro
import KernelCache.C.Primary
import KernelCache.C.Reading
import KernelCache.C.Specifier
import KernelCache.C.Statement
import KernelCache.C.Symbol
import KernelCache.C.Tag
import KernelCache.C.Template
import KernelCache.C.Token
import KernelCache.C.Use
import KernelCache.Cache
import KernelCache.Channel.Basic
import KernelCache.Code.Term
import KernelCache.Code.Memory
import KernelCache.Code.Processor
import KernelCache.Code.Program
import KernelCache.Code.Value
import KernelCache.Command.Basic
import KernelCache.CommandLine.Run
import KernelCache.Config.Basic
import KernelCache.Config.File
import KernelCache.Config.Schema
import KernelCache.Coordinator
import KernelCache.Decimal.Quantity
import KernelCache.Decimal.Shortest
import KernelCache.Digest
import KernelCache.Failure
import KernelCache.Group.Basic
import KernelCache.Group.Round
import KernelCache.Kernel
import KernelCache.Layout
import KernelCache.Machine.Actor
import KernelCache.Machine.Basic
import KernelCache.Machine.Team
import KernelCache.Main
import KernelCache.Path
import KernelCache.Poll
import KernelCache.Power
import KernelCache.Session.Basic
import KernelCache.Session.Lookup
import KernelCache.Shell.Arithmetic
import KernelCache.Shell.Assigning
import KernelCache.Shell.Builtin
import KernelCache.Shell.Run
import KernelCache.Shell.Simple
import KernelCache.Shell.Expansion
import KernelCache.Shell.Find
import KernelCache.Shell.Launch
import KernelCache.Shell.Parser
import KernelCache.Shell.Process
import KernelCache.Shell.Reader
import KernelCache.Shell.Redirect
import KernelCache.Shell.Starter
import KernelCache.Shell.State
import KernelCache.Shell.Syntax
import KernelCache.Standard.Declaration
import KernelCache.Standard.Library
import KernelCache.Standard.Header
import KernelCache.Standard.Stream
import KernelCache.Standard.Routine
import KernelCache.Standard.Storage
import KernelCache.Standard.Thread
import KernelCache.System.Base
import KernelCache.System.Entries
import KernelCache.System.Fault
import KernelCache.System.Files
import KernelCache.System.Host
import KernelCache.Text.Category
import KernelCache.Text.Calendar
import KernelCache.Text.Directive
import KernelCache.Text.Quoted
import KernelCache.Text.Numeral
import KernelCache.Text.Utf8
import KernelCache.Text.Regex
import KernelCache.Toml.Lexeme
import KernelCache.Toml.Parser
import KernelCache.Toolchain
import KernelCache.Upkeep
import KernelCache.Utility.Archiver
import KernelCache.Utility.Calculation
import KernelCache.Utility.Compiler
import KernelCache.Utility.Compiler.Compiling
import KernelCache.Utility.Compiler.Order
import KernelCache.Utility.CompilerOption
import KernelCache.Utility.Condition
import KernelCache.Utility.Copying
import KernelCache.Utility.Difference
import KernelCache.Utility.Dump
import KernelCache.Utility.EditScript
import KernelCache.Utility.Editor
import KernelCache.Utility.Executable
import KernelCache.Utility.Facts
import KernelCache.Utility.Fields
import KernelCache.Utility.FileTools
import KernelCache.Utility.Format
import KernelCache.Utility.Option
import KernelCache.Utility.Listing
import KernelCache.Utility.Mode
import KernelCache.Utility.Names
import KernelCache.Utility.Program
import KernelCache.Utility.Search
import KernelCache.Utility.Sorting
import KernelCache.Utility.Viewing
import KernelCache.Worker
import KernelCache.Proofs.Action.Basic
import KernelCache.Proofs.Group.Joint
import KernelCache.Proofs.Coordinator.Steps
import KernelCache.Proofs.Session.Lockstep
import KernelCache.Proofs.Channel.Buffer
import KernelCache.Proofs.Channel.Mailbox
import KernelCache.Proofs.Group.Gathering
import KernelCache.Proofs.Channel.Handover
import KernelCache.Proofs.Channel.Ownership
import KernelCache.Proofs.Path.Components
import KernelCache.Proofs.Text.Numeral
import KernelCache.Proofs.Layout.Places
import KernelCache.Proofs.Action.Contract
import KernelCache.Proofs.Session.Tasks
import KernelCache.Proofs.Session.Steps
import KernelCache.Proofs.Session.Questions
import KernelCache.Proofs.Layout.Isolation
import KernelCache.Proofs.Session.Line
import KernelCache.Proofs.Session.Creation
import KernelCache.Proofs.Session.Trace
import KernelCache.Proofs.Session.Run
import KernelCache.Proofs.Workshop.Shelf
import KernelCache.Proofs.Workshop.Bench
import KernelCache.Proofs.Workshop.Keeping
import KernelCache.Proofs.Workshop.Commands
import KernelCache.Proofs.Workshop.Lookup
import KernelCache.Proofs.Workshop.History
import KernelCache.Proofs.Workshop.Hall
import KernelCache.Proofs.Command.Splitting
import KernelCache.Proofs.Command.Quoting
import KernelCache.Proofs.Command.Synthesis
import KernelCache.Proofs.Coordinator.Company
import KernelCache.Proofs.Coordinator.Handshake
import KernelCache.Proofs.Session.Ownership
import KernelCache.Proofs.Session.Founding
import KernelCache.Proofs.Session.Legs
import KernelCache.Proofs.Session.March
import KernelCache.Proofs.Group.Course
import KernelCache.Proofs.Group.Convoy
import KernelCache.Proofs.Group.Openings
import KernelCache.Proofs.Kernel.Fingerprint
import KernelCache.Proofs.Session.Inert
import KernelCache.Proofs.Group.Aftermath
import KernelCache.Proofs.Workshop.Failing
import KernelCache.Proofs.Session.Freshness
import KernelCache.Proofs.Session.Precheck
import KernelCache.Proofs.Worker.Service
import KernelCache.Proofs.Coordinator.Duties
import KernelCache.Proofs.Workshop.Leftovers
import KernelCache.Proofs.Poll.Attempts
import KernelCache.Proofs.Layout.Names
import KernelCache.Proofs.Config.Fields
import KernelCache.Proofs.Config.Layers
import KernelCache.Proofs.Config.Resolution
import KernelCache.Proofs.Coordinator.Mortality
import KernelCache.Proofs.Coordinator.Closing
import KernelCache.Proofs.CommandLine.Hash
import KernelCache.Proofs.Cache.Retention
import KernelCache.Proofs.Session.Retention
