import Uringio.Lib.Machine
import Uringio.Lib.IndexPool
import Uringio.Ops.Sockets
import Uringio.Ops.COp
import Uringio.Buffers.BufferIndex
import Uringio.Buffers.Buffers
import Uringio.Lib.Program
import Uringio.Lib.Noted
import Uringio.Registry.Registry
import Uringio.Registry.PartialMap
import Uringio.Loop.Loop
import Uringio.Loop.Request
import Uringio.PyOps.Files
import Uringio.PyOps.Sockets
import Uringio.Reader.OnReady
import Uringio.Loop.Shutdown
import Uringio.Lib.Timespec
import Uringio.Loop.Timeout
import Uringio.Lib.Ledger
import Uringio.Buffers.Construct
import Uringio.Buffers.Create
import Uringio.Buffers.Outcomes
import Uringio.Buffers.Release
import Uringio.Buffers.Balance
import Uringio.Buffers.Unwind
import Uringio.Buffers.Linear
import Uringio.Buffers.ContextPayload
import Uringio.Buffers.Constructed
import Uringio.Buffers.Announced
import Uringio.PyOps.Spec
import Uringio.PyOps.Run
import Uringio.PyOps.Blocks
import Uringio.PyOps.Registered
import Uringio.PyOps.Closing
import Uringio.Reader.Vectored
import Uringio.Reader.FixedReads
import Uringio.Reader.Handled
import Uringio.Reader.Blocks
import Uringio.Loop.Context
import Uringio.System.Tags
import Uringio.System.Demux
import Uringio.System.Continued
import Uringio.System.Ownership
import Uringio.Lib.Scopes
import Uringio.Contexts.Managers
import Uringio.Contexts.Nesting
import Uringio.Contexts.Registrations
import Uringio.Lib.Heap
import Uringio.Loop.Scheduling
import Uringio.System.Iteration
import Uringio.System.Parts
import Uringio.System.Shapes
import Uringio.System.Lifetimes
import Uringio.System.Pools
import Uringio.System.FixedBuffers
import Uringio.System.Sources
import Uringio.System.Closing
import Uringio.System.Delivered
import Uringio.Contexts.Groups
import Uringio.Contexts.Variable
import Uringio.Contexts.Tasks
import Uringio.System.Descriptors
import Uringio.Timer.Params
import Uringio.Registry.Removal
import Uringio.Ops.Chains
import Uringio.Ops.PollFirst
import Uringio.PyOps.Aexit
import Uringio.PyOps.Raising
import Uringio.PyOps.Addresses
import Uringio.Contexts.Enters
import Uringio.Contexts.ReadOnly
import Uringio.PyOps.Exceptions
import Uringio.PyOps.Coherence
import Uringio.Buffers.Settled
import Uringio.Contexts.Constructors
import Uringio.Contexts.PublicCalls
import Uringio.System.References
import Uringio.System.Aborts
import Uringio.System.Published
import Uringio.Loop.Rounds
import Uringio.Loop.Lifecycle
