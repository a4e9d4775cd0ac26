import RemoteJobs.Bytes
import RemoteJobs.Channel
import RemoteJobs.Client.Call
import RemoteJobs.Client.Memory
import RemoteJobs.Client.Order
import RemoteJobs.Client.Reactions
import RemoteJobs.Client.Session
import RemoteJobs.Client.Socket
import RemoteJobs.Decimal.Binary64
import RemoteJobs.Decimal.Digits
import RemoteJobs.Decimal.Shortest
import RemoteJobs.Endpoint
import RemoteJobs.Envelope.Inbound
import RemoteJobs.Envelope.Reader
import RemoteJobs.Envelope.Reply
import RemoteJobs.Envelope.Request
import RemoteJobs.Failure
import RemoteJobs.Frame.Basic
import RemoteJobs.Frame.Reader
import RemoteJobs.Frame.Source
import RemoteJobs.Frame.Writer
import RemoteJobs.Inbox
import RemoteJobs.Job.Id
import RemoteJobs.Job.Info
import RemoteJobs.Job.Queues
import RemoteJobs.Job.Request
import RemoteJobs.Job.State
import RemoteJobs.Json.Basic
import RemoteJobs.Json.Fault
import RemoteJobs.Json.Printer
import RemoteJobs.Json.Reader
import RemoteJobs.Json.Reader.Blank
import RemoteJobs.Json.Reader.Number
import RemoteJobs.Json.Reader.String
import RemoteJobs.Json.Skip
import RemoteJobs.Keyed
import RemoteJobs.Link
import RemoteJobs.Method
import RemoteJobs.Notice
import RemoteJobs.Observer
import RemoteJobs.Outcome
import RemoteJobs.PacketId
import RemoteJobs.RemoteError
import RemoteJobs.Schema.Decoder
import RemoteJobs.Schema.Mismatch
import RemoteJobs.Schema.Record
import RemoteJobs.Settings
import RemoteJobs.Slots
import RemoteJobs.Span
import RemoteJobs.Text.Blank
import RemoteJobs.Text.Hidden
import RemoteJobs.Text.Quoted
import RemoteJobs.Text.Utf8
import RemoteJobs.Proofs.Call
import RemoteJobs.Proofs.Inbox
import RemoteJobs.Proofs.Conduct
import RemoteJobs.Proofs.Traffic
import RemoteJobs.Proofs.Traffic.Holders
import RemoteJobs.Proofs.Traffic.Replies
import RemoteJobs.Proofs.Arrivals
import RemoteJobs.Proofs.Json.Ordered
import RemoteJobs.Proofs.Inbound
import RemoteJobs.Proofs.Slots.Acts
import RemoteJobs.Proofs.Slots.History
import RemoteJobs.Proofs.Routes
import RemoteJobs.Proofs.Frame.Cut
import RemoteJobs.Proofs.Frame.Writer
import RemoteJobs.Proofs.Frame.Source
import RemoteJobs.Proofs.Frame.Codec
import RemoteJobs.Proofs.Observer.Keeps
import RemoteJobs.Proofs.Observer.Alike
import RemoteJobs.Proofs.Stream
import RemoteJobs.Proofs.Json.Integers
import RemoteJobs.Proofs.Json.RoundTrip
import RemoteJobs.Proofs.Request
import RemoteJobs.Proofs.Envelopes
import RemoteJobs.Proofs.Dialogue
import RemoteJobs.Proofs.PacketId
import RemoteJobs.Proofs.PacketId.Shared
import RemoteJobs.Proofs.Dialogue.Changes
import RemoteJobs.Proofs.Dialogue.Requests
import RemoteJobs.Proofs.Dialogue.Closing
import RemoteJobs.Proofs.Channel
import RemoteJobs.Proofs.Channel.Sinks
import RemoteJobs.Proofs.Observer.Turns
import RemoteJobs.Proofs.Traffic.Results
import RemoteJobs.Proofs.Frame.Front
import RemoteJobs.Proofs.Frame.Room
import RemoteJobs.Proofs.Slots.Commute
import RemoteJobs.Proofs.Replies
import RemoteJobs.Proofs.Observer.Filters
import RemoteJobs.Proofs.Observer.Names
import RemoteJobs.Proofs.Lists
import RemoteJobs.Proofs.Schema
import RemoteJobs.Proofs.Job.Request
import RemoteJobs.Proofs.Job.Info
import RemoteJobs.Proofs.Job.RoundTrip
import RemoteJobs.Proofs.Job.Queues
