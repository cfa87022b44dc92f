import Forum.Fixture
import Forum.Main
import Forum.Proofs.Broker.Coverage
import Forum.Proofs.Broker.Waiting
import Forum.Proofs.Calendar.Reading
import Forum.Proofs.Codec
import Forum.Proofs.Codec.Binary
import Forum.Proofs.Codec.Json
import Forum.Proofs.Codec.Grammar
import Forum.Proofs.Codec.Layout
import Forum.Proofs.Codec.Separation
import Forum.Proofs.Json.Octets
import Forum.Proofs.Json.Spelling
import Forum.Proofs.Pipeline.Calls
import Forum.Proofs.Pipeline.Chronicle
import Forum.Proofs.Pipeline.Convergence
import Forum.Proofs.Pipeline.Delivery
import Forum.Proofs.Pipeline.Publication
import Forum.Proofs.Pipeline.Run
import Forum.Proofs.Replica.Independence
import Forum.Proofs.Replica.Membership
import Forum.Proofs.Replica.Mirror
import Forum.Proofs.Replica.Order
import Forum.Proofs.Replica.Redelivery
import Forum.Proofs.Service.Atomicity
import Forum.Proofs.Service.Interleaving
import Forum.Proofs.Service.Part
import Forum.Proofs.Service.Posts
import Forum.Proofs.Service.Program
import Forum.Signal
import Forum.Simulation.Clock
import Forum.Simulation.Folder
import Forum.Simulation.Probe
import Forum.Proofs.Database.Bracket
import Forum.Proofs.Service.Isolation
import Forum.Proofs.Pipeline.DeadLetter
import Forum.Proofs.Database.Replica
import Forum.Proofs.Broker.Independence
import Forum.Proofs.Database.Finished
import Forum.Proofs.Database.Mirror
import Forum.Proofs.Service.Creation
import Forum.Proofs.Database.Nesting
import Forum.Proofs.Pipeline.Records
import Forum.Proofs.Pipeline.Settlement
import Forum.Proofs.Database.Filters
import Forum.Proofs.Database.Overwriting
import Forum.Proofs.Database.Paging
import Forum.Proofs.Settings.Address
import Forum.Proofs.Settings.Rules
import Forum.Proofs.Broker.Fairness
import Forum.Proofs.Resubscription.Backoff
