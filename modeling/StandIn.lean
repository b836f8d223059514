import StandIn.Ingress.Service
import StandIn.Main
import StandIn.Proofs.Relay.Delivery
import StandIn.Proofs.Http.EndToEnd
import StandIn.Proofs.Relay.ForwardedFor
import StandIn.Proofs.Relay.Observation
import StandIn.Proofs.Relay.Outcome
import StandIn.Proofs.Wire.Reading
import StandIn.Proofs.Wire.Number
import StandIn.Proofs.Wire.Records
import StandIn.Proofs.Wire.Scalars
import StandIn.Proofs.Text.Dictionary
import StandIn.Proofs.Wire.RoundTrip
import StandIn.Proofs.Wire.Messages
import StandIn.Proofs.Wire.Grammar
import StandIn.Proofs.Relay.TaskGrammar
import StandIn.Proofs.Json.Grammar
import StandIn.Proofs.Json.Reading
import StandIn.Proofs.Relay.LoggedTask
import StandIn.Proofs.Ingress.Schedule
import StandIn.Proofs.Grpc.Frames
import StandIn.Proofs.Grpc.Bodies
import StandIn.Proofs.Ingress.Acceptance
import StandIn.Proofs.Ingress.Division
import StandIn.Proofs.Settings.Layers
import StandIn.Proofs.Settings.Validation
import StandIn.Proofs.Settings.Restriction
import StandIn.Proofs.Settings.Order
import StandIn.Proofs.Http.Authority
import StandIn.Proofs.Relay.Addressing
import StandIn.Proofs.Wire.Merging
import StandIn.Proofs.Wire.Steps
import StandIn.Proofs.Wire.Concatenation
import StandIn.Proofs.Wire.Places
import StandIn.Proofs.Wire.Exchange
import StandIn.Proofs.Relay.UndeclaredFields
import StandIn.Proofs.Wire.Confinement
import StandIn.Proofs.Text.Division
import StandIn.Proofs.Certificate.Blame
import StandIn.Proofs.Certificate.Trust
import StandIn.Proofs.Tls.Verdict
import StandIn.Proofs.Net.AddressReading
import StandIn.Proofs.Net.PrintedAddress
import StandIn.Proofs.Pem.Base64
import StandIn.Proofs.Pem.Grammar
import StandIn.Proofs.Pem.Writing
import StandIn.Proofs.Tls.Loading
import StandIn.Proofs.Tls.ServerIdentity
import StandIn.Proofs.Startup
