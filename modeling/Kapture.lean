import Kapture.Agent.AsyncWriter
import Kapture.Agent.BodyLimit
import Kapture.Agent.BufferedWriter
import Kapture.Agent.Target
import Kapture.Dataset.Endings
import Kapture.Engines.Bridge
import Kapture.Fleet.Orphans
import Kapture.Hub.Deadlines
import Kapture.Hub.Deliveries
import Kapture.Hub.Finalize
import Kapture.Hub.ServerLife
import Kapture.Hub.Verdicts
import Kapture.Replay.Checkpoint
import Kapture.Replay.Manager
import Kapture.Replay.Manifest
import Kapture.Replay.Pipeline
import Kapture.Replay.Pruning
import Kapture.Replay.Span
import Kapture.Replay.Summary
import Kapture.Spoke.AllowedHosts
import Kapture.Spoke.Denied
import Kapture.Spoke.MirrorLaws
import Kapture.Spoke.Redaction
import Kapture.Spoke.Translation
import Kapture.Spoke.Upkeep
import Kapture.Spoke.WatchLoop
import Kapture.Validation.Contention
import Kapture.Worker.Slices
