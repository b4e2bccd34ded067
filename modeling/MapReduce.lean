import MapReduce.Number.Binary64
import MapReduce.Number.Shortest
import MapReduce.Number.Arith
import MapReduce.Number.Digits
import MapReduce.Sql.Numeric
import MapReduce.Sql.Value
import MapReduce.Sql.JsonText
import MapReduce.Sql.Format
import MapReduce.Sql.Elementary
import MapReduce.Sql.JsonEdit
import MapReduce.Sql.Calendar
import MapReduce.Number.Machine
import MapReduce.Sql.Lexer
import MapReduce.Sql.Syntax
import MapReduce.Sql.Schema
import MapReduce.Sql.Plan
import MapReduce.Sql.Eval
import MapReduce.Sql.Engine
import MapReduce.Sql.Session
import MapReduce.Json.Value
import MapReduce.Json.Write
import MapReduce.Json.Read
import MapReduce.Hash.Sha256
import MapReduce.Kv.Identity
import MapReduce.Kv.Memory
import MapReduce.Sql.Parse
import MapReduce.Sql.Functions
import MapReduce.Kv.Store
import MapReduce.Kv.Client
import MapReduce.Data.Driftsort
import MapReduce.Data.KeyOrder
import MapReduce.Text.Blank
import MapReduce.Json.Decode
import MapReduce.Domain.Error
import MapReduce.Domain.Entity
import MapReduce.Domain.Store
import MapReduce.Domain.Collections
import MapReduce.Text.Timestamp
import MapReduce.Files.Basic
import MapReduce.Engine.Error
import MapReduce.Number.Reading
import MapReduce.Engine.Config
import MapReduce.Engine.Transport
import MapReduce.Engine.Output
import MapReduce.Engine.Files
import MapReduce.Engine.Script
import MapReduce.Engine.World
import MapReduce.Engine.Runner
import MapReduce.Engine.Results
import MapReduce.Engine.Trace
import MapReduce.Engine.Cleanup
import MapReduce.Engine.Processor
import MapReduce.Engine.Lifecycle
import MapReduce.Engine.Admin
import MapReduce.Engine.Dispatcher
import MapReduce.Json.Traverse
import MapReduce.Console.Reply
import MapReduce.Console.Store
import MapReduce.Console.Entities
import MapReduce.Console.Simulation
import MapReduce.Console.Engine
import MapReduce.Text.Case
import MapReduce.Text.Letters
import MapReduce.Text.Debug
import MapReduce.Program.Dotenv
import MapReduce.Program.WordCount
import MapReduce.Main
import MapReduce.Proofs.Json.RoundTrip
import MapReduce.Proofs.Domain.Codec
import MapReduce.Proofs.Kv.Memory
import MapReduce.Proofs.Kv.Versions
import MapReduce.Proofs.Domain.AtomicUpdate
import MapReduce.Proofs.Engine.FanIn
import MapReduce.Proofs.Engine.Fence
import MapReduce.Proofs.Engine.Closing
import MapReduce.Proofs.Engine.Failure
import MapReduce.Proofs.Engine.Completion
import MapReduce.Proofs.Engine.Wire
import MapReduce.Proofs.Engine.Frame
import MapReduce.Proofs.Engine.Placement
import MapReduce.Proofs.Engine.Resolution
import MapReduce.Proofs.Engine.Pointers
import MapReduce.Proofs.Engine.Pruning
import MapReduce.Proofs.Domain.Linearizability
import MapReduce.Proofs.Domain.Pristine
import MapReduce.Proofs.Data.KeyOrder
import MapReduce.Proofs.Data.Rearrange
import MapReduce.Proofs.Data.SmallSort
import MapReduce.Proofs.Data.Runs
import MapReduce.Proofs.Data.StableSort
import MapReduce.Proofs.Data.Grouping
import MapReduce.Proofs.Data.Merging
import MapReduce.Proofs.Data.Breadth
import MapReduce.Proofs.Engine.Traversal
import MapReduce.Proofs.Kv.Queues
import MapReduce.Proofs.Engine.CleanupPass
import MapReduce.Proofs.Kv.Paths
import MapReduce.Proofs.Engine.HandlerFiles
import MapReduce.Proofs.Domain.HandlersState
import MapReduce.Proofs.Engine.Admin
import MapReduce.Proofs.Domain.FanOut
import MapReduce.Proofs.Kv.Scan
import MapReduce.Proofs.Engine.Directive
import MapReduce.Proofs.Engine.Settings
import MapReduce.Proofs.Engine.Settlement
import MapReduce.Proofs.Engine.Deletion
