import Kapture.Go.Path
import Kapture.Storage.Request

/-!
# Object names

Where the writers put a capture: `{root}/{captureID}/{date}/{writer}-{seq}.jsonl.gz`
for its data and `{root}/{captureID}/manifest.json` for its manifest, `{root}`
being a bucket prefix or a mount path.
-/

namespace Kapture

open Go

/-- `24 * time.Hour`. -/
def dayDuration : Duration := 86400000000000

/-- The number of the day of `t.UTC()`. -/
def Time.day (t : Time) : Nat := (t / dayDuration).toNat

namespace Storage

open Path

/-- The storage backends. The two kinds of volume, EFS and EBS, are one here. -/
inductive BackendKind where
  | s3
  | gcs
  | filesystem
deriving DecidableEq, Repr

structure Backend where
  kind : BackendKind
  /-- The prefix in the bucket, or the mount path. -/
  root : Str
deriving DecidableEq, Repr

/-- `ts.UTC().Format(dateLayout)`. -/
def dateOf (ts : Time) : Str := (Date.ofDay ts.day).format

def objectFileName (agentPod : Str) (seq : Nat) : Str :=
  let pod := Str.trimSpace agentPod
  (if pod = [] then lit "unknown-agent" else pod) ++ lit "-" ++ padded 6 seq ++ lit ".jsonl.gz"

def manifestObjectName : Str := lit "manifest.json"

def newCloudObjectName (pre captureID agentPod : Str) (ts : Time) (seq : Nat) : Str :=
  joinPath ((if pre.trim = [] then [] else [pre.trim])
    ++ [captureID, dateOf ts, objectFileName agentPod seq])

def newFilesystemObjectName (mountPath captureID agentPod : Str) (ts : Time) (seq : Nat) : Str :=
  joinPath [mountPath, captureID, dateOf ts, objectFileName agentPod seq]

/-- The name of a data object of a capture. -/
def Backend.objectName (b : Backend) (captureID agentPod : Str) (ts : Time) (seq : Nat) : Str :=
  match b.kind with
  | .filesystem => newFilesystemObjectName b.root captureID agentPod ts seq
  | _ => newCloudObjectName b.root captureID agentPod ts seq

/-- The name under which `PutManifest` stores the manifest of a capture. -/
def Backend.manifestName (b : Backend) (captureID : Str) : Str :=
  match b.kind with
  | .filesystem => joinPath [b.root, captureID, manifestObjectName]
  | _ => joinPath [b.root.trim, captureID, manifestObjectName]

end Storage

end Kapture
