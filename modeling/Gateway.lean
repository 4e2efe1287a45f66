import Gateway.Bench.Service
import Gateway.Bench.Trial
import Gateway.Chain
import Gateway.Config.Decode
import Gateway.Config.Encode
import Gateway.Error.Fields
import Gateway.Main
import Gateway.Proofs.Breaker.Learning
import Gateway.Proofs.Breaker.Shield
import Gateway.Proofs.Breaker.Straggler
import Gateway.Proofs.Front.Handling
import Gateway.Proofs.Limit.Comeback
import Gateway.Proofs.Limit.FloatingPoint
import Gateway.Proofs.Limit.Patience
import Gateway.Proofs.Limit.Throughput
import Gateway.Proofs.Limit.Tracking
import Gateway.Proofs.Location.Failover
import Gateway.Proofs.Location.Protocol
import Gateway.Proofs.Location.Replay
import Gateway.Proofs.Location.Turns
import Gateway.Proofs.Pool.Integrity
import Gateway.Proofs.Pool.Rotation
import Gateway.Server
import Gateway.Proofs.Outbound.Addresses
import Gateway.Proofs.Outbound.EndToEnd
import Gateway.Proofs.Outbound.Usable
import Gateway.Proofs.Decimal.Dyadic
import Gateway.Proofs.Json.Numerals
import Gateway.Proofs.Json.Objects
import Gateway.Proofs.Json.RoundTrip
import Gateway.Proofs.Error.Decoding
import Gateway.Proofs.Error.RoundTrip
import Gateway.Proofs.Body.Bounded
import Gateway.Proofs.Chain.Entries
import Gateway.Proofs.Failover.Overflow
