import Slight.Support.System
import Slight.Acp.Types
import Slight.Acp.Gate
import Slight.Session.Types
import Slight.Session.Worker
import Slight.Session.Permission
import Slight.Session.Deadlock
import Slight.Session.Codec
import Slight.Protocol.Frames
import Slight.Client.Timestamp
import Slight.Client.Decoding
import Slight.Client.Payloads
import Slight.Client.Journal
import Slight.Client.State
import Slight.Client.Connection
import Slight.Client.Replay
import Slight.Client.Resync
import Slight.Gateway.Acks
import Slight.Client.CatchUp
import Slight.Session.Labels
import Slight.Session.Persisted
import Slight.Support.Program
import Slight.Session.Manager
import Slight.Session.Changes
import Slight.Session.Recovery
import Slight.Session.Journal
import Slight.Support.Crash
import Slight.Support.Lists
import Slight.Support.Memo
import Slight.Session.Reads
import Slight.Gateway.Protocol
import Slight.Gateway.Server
import Slight.Gateway.Discipline
import Slight.Gateway.Scopes
import Slight.Gateway.Retry
import Slight.Session.Host
import Slight.Session.Partition
import Slight.Session.Sequencing
import Slight.Session.Consistency
import Slight.Session.Vitals
import Slight.Session.Calls
import Slight.Session.Exit
import Slight.Session.BadRows
import Slight.Client.Mirror
import Slight.Client.Survival
import Slight.Client.SessionView
import Slight.Acp.Updates
import Slight.Client.ToolCalls
import Slight.Client.Snapshot
import Slight.Gateway.Stream
import Slight.Session.Readback
import Slight.Session.Generations
import Slight.Session.Failures
import Slight.Session.Opening
import Slight.Session.Lives
import Slight.Session.Archiving
import Slight.Session.Ownership
import Slight.Host.Pairing
import Slight.Gateway.Outbound
import Slight.Acp.Client
import Slight.Acp.Answering
import Slight.Client.InStep
import Slight.Session.Paging
import Slight.Session.Workspaces
import Slight.Session.Columns
import Slight.Session.Interchange
import Slight.Acp.Matching
import Slight.Support.Automaton
import Slight.Acp.Normalizing
import Slight.Acp.Calls
import Slight.Acp.Serving
import Slight.Acp.Conversation
import Slight.Acp.Streaming
import Slight.Client.Rows
import Slight.Client.Screen
import Slight.Client.Holding
import Slight.Session.Cancelling
import Slight.Session.Prompts
import Slight.Client.Completion
import Slight.Client.Reconnect
import Slight.Client.Contiguity
import Slight.Client.Results
import Slight.Support.Queue
import Slight.Support.Turns
import Slight.Client.Echoes
import Slight.Client.Responding
import Slight.Acp.Framing
import Slight.Acp.Envelope
import Slight.Protocol.Calendar
import Slight.Support.Directory
import Slight.Support.Disk
import Slight.Host.Logging
import Slight.Acp.Environment
import Slight.Support.Double
import Slight.Client.Rendering
import Slight.Gateway.Wire
import Slight.Client.Frames
import Slight.Client.Crossing
import Slight.Gateway.Calling
import Slight.Support.Delivery
import Slight.Client.Reading
import Slight.Session.Sources
import Slight.Gateway.Agreement
import Slight.Host.Auditing
import Slight.Host.Secrecy
import Slight.Host.Hosting
import Slight.Host.Flags
import Slight.Host.Threads
import Slight.Host.Stopping
