import PushToTalk.Checksum
import PushToTalk.Main
import PushToTalk.Control
import PushToTalk.Rehearsal.Batch
import PushToTalk.Rehearsal.Live
import PushToTalk.Sending
import PushToTalk.Proofs.SessionFolder
import PushToTalk.Proofs.Registry
import PushToTalk.Proofs.Relay.Step
import PushToTalk.Proofs.Upload.Queue
import PushToTalk.Proofs.Upload.Job
import PushToTalk.Proofs.Relay.Exclusivity
import PushToTalk.Proofs.Relay.Delivery
import PushToTalk.Proofs.Upload.Course
import PushToTalk.Proofs.Relay.Ground
import PushToTalk.Proofs.Upload.Progress
import PushToTalk.Proofs.Disk.Entry
import PushToTalk.Proofs.Relay.Recording
import PushToTalk.Proofs.Upload.Retry
import PushToTalk.Proofs.Relay.History
import PushToTalk.Proofs.Relay.Session
import PushToTalk.Proofs.Fetch
import PushToTalk.Proofs.Relay.Handover
import PushToTalk.Proofs.Relay.Completion
import PushToTalk.Proofs.Relay.Stamp
import PushToTalk.Proofs.Relay.Source
import PushToTalk.Proofs.Relay.FirstFlush
import PushToTalk.Proofs.Relay.Toggle
import PushToTalk.Proofs.Relay.LifeCycle
import PushToTalk.Proofs.Relay.Fetching
import PushToTalk.Proofs.Upload.Dispatcher
import PushToTalk.Proofs.Relay.Dispatch
import PushToTalk.Proofs.Relay.Speaking
import PushToTalk.Proofs.Control
import PushToTalk.Proofs.Sending
import PushToTalk.Proofs.Topic
import PushToTalk.Proofs.Startup
import PushToTalk.Proofs.Relay.Stranded
import PushToTalk.Proofs.Relay.Convergence
import PushToTalk.Proofs.Disk.Outcome
import PushToTalk.Proofs.Upload.Effect
import PushToTalk.Proofs.Upload.Independence
import PushToTalk.Proofs.Readback
import PushToTalk.Proofs.Relay.Scan
import PushToTalk.Proofs.Relay.Look
import PushToTalk.Proofs.Tick
import PushToTalk.Proofs.UserId
import PushToTalk.Proofs.TickReadback
import PushToTalk.Proofs.Config.Number
import PushToTalk.Proofs.Relay.Refused
import PushToTalk.Proofs.Disk.Prepare
import PushToTalk.Proofs.Disk.Steady
import PushToTalk.Proofs.Relay.Spared
