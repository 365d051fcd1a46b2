import TokenKeeper.Proofs.Machine.History
import TokenKeeper.Proofs.Machine.Store
import TokenKeeper.Proofs.Acquisition.Outcome
import TokenKeeper.Settings.Sources
import TokenKeeper.Simulation.Scenario
import TokenKeeper.Simulation.Session
import TokenKeeper.Proofs.Connection.Established
import TokenKeeper.Proofs.Pass.Endpoint
import TokenKeeper.Proofs.Machine.Play
import TokenKeeper.Proofs.Pass.Connection
import TokenKeeper.Proofs.Machine.Threads
import TokenKeeper.Proofs.Pass.Workers
import TokenKeeper.Proofs.Machine.Recording
import TokenKeeper.Proofs.Pass.Effect
import TokenKeeper.Proofs.Connection.Numbers
import TokenKeeper.Proofs.Connection.Tags
import TokenKeeper.Proofs.Connection.Directory
import TokenKeeper.Proofs.Connection.Reference
import TokenKeeper.Proofs.Pass.Origin
import TokenKeeper.Proofs.Pass.Overlap
import TokenKeeper.Proofs.Machine.Exclusion
import TokenKeeper.Proofs.Call.Requests
import TokenKeeper.Proofs.Call.Progress
import TokenKeeper.Proofs.Call.Telling
import TokenKeeper.Proofs.Call.Alone
import TokenKeeper.Proofs.Pass.Verdict
import TokenKeeper.Proofs.Pass.Alone
import TokenKeeper.Proofs.Machine.Members
import TokenKeeper.Proofs.Pass.Sendings
import TokenKeeper.Proofs.Pass.Commands
import TokenKeeper.Proofs.Pass.Jobs
import TokenKeeper.Proofs.Pass.Course
import TokenKeeper.Proofs.Pass.Crew
import TokenKeeper.Proofs.Pass.Tells
import TokenKeeper.Proofs.Call.Search
import TokenKeeper.Proofs.Check.Course
import TokenKeeper.Proofs.Check.Gate
import TokenKeeper.Proofs.Acquisition.Named
import TokenKeeper.Proofs.Check.Pass
import TokenKeeper.Proofs.Heartbeat.Books
import TokenKeeper.Proofs.Heartbeat.Running
import TokenKeeper.Proofs.Check.Dropped
import TokenKeeper.Proofs.Connection.Bounds
import TokenKeeper.Proofs.Connection.Staleness
import TokenKeeper.Proofs.Call.Credential
import TokenKeeper.Proofs.Acquisition.Offers
import TokenKeeper.Proofs.Machine.Shares
import TokenKeeper.Proofs.Acquisition.Announced
import TokenKeeper.Proofs.Event.Delivery
import TokenKeeper.Proofs.Heartbeat.Single
import TokenKeeper.Proofs.Call.Renewal
import TokenKeeper.Proofs.Event.Audience
import TokenKeeper.Proofs.Event.Independence
import TokenKeeper.Proofs.Settings.Tree
import TokenKeeper.Proofs.Settings.Spelling
import TokenKeeper.Proofs.Settings.Variable
import TokenKeeper.Proofs.Check.Due
import TokenKeeper.Proofs.Acquisition.Delays
import TokenKeeper.Proofs.Policy.Margin
import TokenKeeper.Proofs.Json.Reading
import TokenKeeper.Proofs.Json.Record
import TokenKeeper.Proofs.Json.Literal
import TokenKeeper.Proofs.Identity.Expiry
import TokenKeeper.Proofs.Identity.Dialects
import TokenKeeper.Proofs.Acquisition.Deadlines
import TokenKeeper.Proofs.Policy.Interval
import TokenKeeper.Proofs.Identity.Parameters
import TokenKeeper.Proofs.Options.Secrets
