import CrossVenue.LogLevel
import CrossVenue.Loose.Market
import CrossVenue.Loose.Strategy
import CrossVenue.Proofs.Arbitrage.Equilibrium
import CrossVenue.Proofs.Arbitrage.PriceGap
import CrossVenue.Proofs.Pool.Run
import CrossVenue.Registry.Document
import CrossVenue.Service.Endpoint
import CrossVenue.Transaction.Session
import CrossVenue.Venue.Slot0
import CrossVenue.Proofs.Json.Number
import CrossVenue.Proofs.Json.Roundtrip
import CrossVenue.Proofs.Json.Bytes
import CrossVenue.Proofs.Transaction.Build
import CrossVenue.Proofs.Transaction.Wire
import CrossVenue.Proofs.Market.Execution
import CrossVenue.Proofs.Transaction.Faithful
import CrossVenue.Proofs.Transaction.Incremental
import CrossVenue.Proofs.Encoding.Base58
import CrossVenue.Proofs.Arbitrage.Route
import CrossVenue.Proofs.Message.Reading
import CrossVenue.Proofs.Registry.Factor
import CrossVenue.Proofs.Venue.Transfer
import CrossVenue.Proofs.Venue.Offer
import CrossVenue.Proofs.Venue.Raydium
import CrossVenue.Proofs.Venue.Quoted
import CrossVenue.Proofs.Venue.Dispatcher
import CrossVenue.Proofs.Arbitrage.Swaps
import CrossVenue.Proofs.Strategy.RoundTrip
import CrossVenue.Proofs.Transaction.Keys
import CrossVenue.Proofs.Arbitrage.Headroom
import CrossVenue.Proofs.Encoding.Lengths
import CrossVenue.Proofs.Encoding.Words
import CrossVenue.Proofs.Json.Parts
import CrossVenue.Proofs.Pool.Scaled
import CrossVenue.Proofs.Pool.Monotone
import CrossVenue.Proofs.Pool.Dust
import CrossVenue.Proofs.Pool.Range
import CrossVenue.Proofs.Pool.Split
import CrossVenue.Proofs.Pool.Mirror
import CrossVenue.Proofs.Arbitrage.Affordable
import CrossVenue.Proofs.Arbitrage.FeeFree
import CrossVenue.Proofs.Venue.Orientation
import CrossVenue.Proofs.Venue.Calldata
import CrossVenue.Proofs.Venue.ListingOrder
import CrossVenue.Proofs.Reported
import CrossVenue.Proofs.Arbitrage.Judged
import CrossVenue.Proofs.Registry.Sound
import CrossVenue.Proofs.Address.Judged
import CrossVenue.Proofs.Venue.State
import CrossVenue.Proofs.Venue.Composed
import CrossVenue.Proofs.Strategy.Answered
import CrossVenue.Proofs.Service.Form
import CrossVenue.Proofs.Service.Arbitrage
import CrossVenue.Proofs.Venue.WholeSteps
import CrossVenue.Proofs.Venue.Units
import CrossVenue.Proofs.Venue.Received
import CrossVenue.Proofs.Address.Search
import CrossVenue.Proofs.Json.Depth
import CrossVenue.Proofs.Transaction.Session
import CrossVenue.Proofs.Json.Compact
import CrossVenue.Proofs.Json.Payload
import CrossVenue.Proofs.Venue.Decoded
import CrossVenue.Proofs.Venue.Routed
import CrossVenue.Proofs.Venue.Directed
import CrossVenue.Proofs.Text.Trimmed
import CrossVenue.Proofs.Text.Integer
import CrossVenue.Proofs.Venue.Named
import CrossVenue.Proofs.Venue.Listed
import CrossVenue.Proofs.Venue.Asset
import CrossVenue.Proofs.Transaction.Accepted
import CrossVenue.Proofs.Venue.Slot0
import CrossVenue.Proofs.Arbitrage.Correction
import CrossVenue.Proofs.Strategy.Pairs
