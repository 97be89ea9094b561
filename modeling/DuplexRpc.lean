import DuplexRpc.Bytes.RoundTrip
import DuplexRpc.Declaration.Expansion
import DuplexRpc.Sample.Services
import DuplexRpc.Session.Report
import DuplexRpc.Supervisor.Bench
import DuplexRpc.Proofs.Pending.Pool
import DuplexRpc.Proofs.Calls.Run
import DuplexRpc.Proofs.Endpoint.Pool
import DuplexRpc.Proofs.Calls.Outcome
import DuplexRpc.Proofs.Calls.Ownership
import DuplexRpc.Proofs.ByteStream.Delivery
import DuplexRpc.Proofs.Network.Reading
import DuplexRpc.Proofs.Json.Value
import DuplexRpc.Proofs.MessagePack.Value
import DuplexRpc.Proofs.Fields
import DuplexRpc.Proofs.Message.Carried
import DuplexRpc.Proofs.Message.RoundTrip
import DuplexRpc.Proofs.Network.Holding
import DuplexRpc.Proofs.Ordered
import DuplexRpc.Proofs.Codec
import DuplexRpc.Proofs.Endpoint.Deed
import DuplexRpc.Proofs.Network.Live
import DuplexRpc.Proofs.Network.Happening
import DuplexRpc.Proofs.Network.Moves
import DuplexRpc.Proofs.Network.Asking
import DuplexRpc.Proofs.Network.Answering
import DuplexRpc.Proofs.Network.Exchange
import DuplexRpc.Proofs.Network.Conservation
import DuplexRpc.Proofs.Network.Reaction
import DuplexRpc.Proofs.Network.Transparency
import DuplexRpc.Proofs.Decode.Record
import DuplexRpc.Proofs.Error.Reading
import DuplexRpc.Proofs.Message.Classification
import DuplexRpc.Proofs.Endpoint.Answers
import DuplexRpc.Proofs.Endpoint.Formats
import DuplexRpc.Proofs.Handler.Leads
import DuplexRpc.Proofs.Network.Lone
import DuplexRpc.Proofs.Network.Docket
import DuplexRpc.Proofs.Closing.Parting
import DuplexRpc.Proofs.Closing.Bystanders
import DuplexRpc.Proofs.Closing.Release
import DuplexRpc.Proofs.Closing.Stopping
import DuplexRpc.Proofs.Closing.Sweeps
import DuplexRpc.Proofs.Endpoint.Offers
import DuplexRpc.Proofs.Network.Replying
import DuplexRpc.Proofs.Pending.Timers
import DuplexRpc.Proofs.Calls.Refusal
import DuplexRpc.Proofs.Double.Rounding
import DuplexRpc.Proofs.Double.Decimal
import DuplexRpc.Proofs.Double.Shortest
import DuplexRpc.Proofs.Json.Numeral
import DuplexRpc.Proofs.Endpoint.Retorts
import DuplexRpc.Proofs.Enrolment
import DuplexRpc.Proofs.Endpoint.Dispatch
import DuplexRpc.Proofs.Network.Steady
import DuplexRpc.Proofs.Network.Dispatch
import DuplexRpc.Proofs.Arguments
import DuplexRpc.Proofs.Resolver
import DuplexRpc.Proofs.Exporting
import DuplexRpc.Proofs.Supervision
import DuplexRpc.Proofs.Message.Entrances
import DuplexRpc.Proofs.Truncation
import DuplexRpc.Proofs.Endpoint.Draws
import DuplexRpc.Proofs.Network.Changes
import DuplexRpc.Proofs.Calls.Freshness
import DuplexRpc.Proofs.Joining
import DuplexRpc.Proofs.Declaration.Expansion
import DuplexRpc.Proofs.Error.Chain
