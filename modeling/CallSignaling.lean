import CallSignaling.Agent.Rehearsal
import CallSignaling.Agent.Report
import CallSignaling.Channel.Batches
import CallSignaling.Channel.Client
import CallSignaling.Channel.Socket
import CallSignaling.Main
import CallSignaling.Proofs.Agent.ArrivalOrder
import CallSignaling.Proofs.Agent.Atomicity
import CallSignaling.Proofs.Agent.CallOrder
import CallSignaling.Proofs.Agent.Calling
import CallSignaling.Proofs.Agent.Commutation
import CallSignaling.Proofs.Agent.Consistency
import CallSignaling.Proofs.Agent.Delivery
import CallSignaling.Proofs.Agent.Expiry
import CallSignaling.Proofs.Agent.Furnishing
import CallSignaling.Proofs.Agent.Lateness
import CallSignaling.Proofs.Agent.Provenance
import CallSignaling.Proofs.Agent.Reassignment
import CallSignaling.Proofs.Agent.Teardown
import CallSignaling.Proofs.Channel.Carriage
import CallSignaling.Proofs.Channel.Course
import CallSignaling.Proofs.Channel.Ending
import CallSignaling.Proofs.Channel.Punctuality
import CallSignaling.Proofs.Channel.Reconnection
import CallSignaling.Proofs.Channel.Service
import CallSignaling.Proofs.Config.StunServers
import CallSignaling.Proofs.Message.Layout
import CallSignaling.Proofs.Relay.Agreement
import CallSignaling.Proofs.Session.Handles
import CallSignaling.Proofs.Url.Normalisation
import CallSignaling.Transport.Peer
