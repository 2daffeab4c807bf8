import FsidRegistry.Binary64.Basic
import FsidRegistry.Binary64.Decimal
import FsidRegistry.Cache.Basic
import FsidRegistry.Cache.Call
import FsidRegistry.Cache.Worker
import FsidRegistry.Client
import FsidRegistry.Command
import FsidRegistry.CommandLine.Help
import FsidRegistry.CommandLine.Read
import FsidRegistry.CommandLine.Syntax
import FsidRegistry.Config.Basic
import FsidRegistry.Config.Layers
import FsidRegistry.Config.Read
import FsidRegistry.Config.Resolve
import FsidRegistry.Config.Written
import FsidRegistry.Control.Arguments
import FsidRegistry.Control.Run
import FsidRegistry.Daemon.Arguments
import FsidRegistry.Daemon.Run
import FsidRegistry.Dictionary
import FsidRegistry.Duration
import FsidRegistry.Errno
import FsidRegistry.Error
import FsidRegistry.Fault
import FsidRegistry.Fsid
import FsidRegistry.Host.Files
import FsidRegistry.Host.Sockets
import FsidRegistry.IoError
import FsidRegistry.Listener
import FsidRegistry.Main
import FsidRegistry.Number.Decimal
import FsidRegistry.Outcome
import FsidRegistry.Program
import FsidRegistry.Proofs.Server.Step
import FsidRegistry.Response
import FsidRegistry.Retry.Policy
import FsidRegistry.Retry.Run
import FsidRegistry.Retry.Script
import FsidRegistry.Server.Basic
import FsidRegistry.Server.Connection
import FsidRegistry.Server.Handlers
import FsidRegistry.Server.Service
import FsidRegistry.Server.Tracker
import FsidRegistry.ServiceManager
import FsidRegistry.Store.Backing
import FsidRegistry.Store.Connect
import FsidRegistry.Store.DatabaseUrl
import FsidRegistry.Store.Error
import FsidRegistry.Store.Memory
import FsidRegistry.Store.Scripted
import FsidRegistry.Store.Source
import FsidRegistry.Store.Sql
import FsidRegistry.Store.Sqlite
import FsidRegistry.Store.Table
import FsidRegistry.Store.TableName
import FsidRegistry.Text.Blank
import FsidRegistry.Text.GraphemeExtend
import FsidRegistry.Text.Percent
import FsidRegistry.Text.Quoted
import FsidRegistry.Text.Unprintable
import FsidRegistry.Text.Uppercase
import FsidRegistry.Text.Utf8
import FsidRegistry.Toml.Document
import FsidRegistry.Toml.Error
import FsidRegistry.Toml.Literal
import FsidRegistry.Toml.Scanner
import FsidRegistry.Toml.Value
import FsidRegistry.Toml.Written
import FsidRegistry.Proofs.Server.Stopping
import FsidRegistry.Proofs.Server.Live
import FsidRegistry.Proofs.Server.Faults
import FsidRegistry.Proofs.Server.LastRequest
import FsidRegistry.Proofs.Server.Drain
import FsidRegistry.Proofs.Dictionary
import FsidRegistry.Proofs.Cache.Step
import FsidRegistry.Proofs.Cache.Agreement
import FsidRegistry.Proofs.Cache.Attempt
import FsidRegistry.Proofs.Cache.Worker
import FsidRegistry.Proofs.Cache.Transparency
import FsidRegistry.Proofs.Cache.Bijection
import FsidRegistry.Proofs.Cache.Shared
import FsidRegistry.Proofs.Service.Ledger
import FsidRegistry.Proofs.Host.Sockets
import FsidRegistry.Proofs.Host.Binding
import FsidRegistry.Proofs.Host.SocketFiles
import FsidRegistry.Proofs.Store.Table
import FsidRegistry.Proofs.Service.Turn
import FsidRegistry.Proofs.Service.Serving
import FsidRegistry.Proofs.Service.Tasks
import FsidRegistry.Proofs.Service.Answers
import FsidRegistry.Proofs.Text.Encoded
import FsidRegistry.Proofs.Service.Fidelity
import FsidRegistry.Proofs.Service.Running
import FsidRegistry.Proofs.Number.Decimal
import FsidRegistry.Proofs.Service.World
import FsidRegistry.Proofs.Service.RoundTrip
import FsidRegistry.Proofs.Server.Ending
import FsidRegistry.Proofs.Server.Treatment
import FsidRegistry.Proofs.Server.Dialogue
import FsidRegistry.Proofs.Retry.Step
import FsidRegistry.Proofs.Retry.Scenario
import FsidRegistry.Proofs.Retry.Timetable
import FsidRegistry.Proofs.Retry.Budget
import FsidRegistry.Proofs.Retry.Polling
import FsidRegistry.Proofs.Binary64.Rounding
import FsidRegistry.Proofs.Binary64.Seconds
import FsidRegistry.Proofs.Retry.Overflow
import FsidRegistry.Proofs.Cache.Session
import FsidRegistry.Proofs.Cache.Stages
import FsidRegistry.Proofs.Cache.Race
import FsidRegistry.Proofs.Store.Rows
import FsidRegistry.Proofs.Store.Issuing
import FsidRegistry.Proofs.Store.Allocation
import FsidRegistry.Proofs.Host.Replacement
import FsidRegistry.Proofs.Server.Removal
import FsidRegistry.Proofs.Server.Registration
import FsidRegistry.Proofs.Text.Percent
import FsidRegistry.Proofs.Store.Location
import FsidRegistry.Proofs.Config.Layers
import FsidRegistry.Proofs.Binary64.Scaling
import FsidRegistry.Proofs.Retry.Bounds
import FsidRegistry.Proofs.Store.Classes
import FsidRegistry.Proofs.Number.Numeral
import FsidRegistry.Proofs.Service.FsidTexts
import FsidRegistry.Proofs.Server.Wakeups
