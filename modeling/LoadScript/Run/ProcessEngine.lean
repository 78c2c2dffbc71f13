import LoadScript.Host.Process
import LoadScript.Run.Engine
import LoadScript.Run.Settings
import LoadScript.Text.Utf8

/-!
# The engine as a process

Each script is run by a process of its own, which is killed when it takes too long. Its outputs are
read to their end, but not for longer than a grace period after the process has ended.
-/

set_option autoImplicit false

namespace LoadScript.Engine

def arguments (script : String) (e : Environment) : List String :=
  "run" :: e.toList.flatMap (fun (key, value) => ["-e", key ++ "=" ++ value]) ++ [script]

/-- How long the end of an output is waited for, in milliseconds. -/
def grace : Nat := 2000

def collect (bytes : List UInt8) (held : Nat) : String :=
  if held ≤ grace then Utf8.decode bytes else ""

/-- The outcome of a process. The standard output is waited for first, then the error output. -/
def outcomeOf (r : ProcessReport) : Outcome :=
  let stdoutWait := Nat.min r.stdoutHeld grace
  let stderrWait := Nat.min (r.stderrHeld - stdoutWait) grace
  let stdout := collect r.stdout r.stdoutHeld
  let stderr := collect r.stderr (r.stderrHeld - stdoutWait)
  let milliseconds := r.milliseconds + stdoutWait + stderrWait
  match r.ending with
  | .exited code => Outcome.finished (some (Int.ofNat code)) stdout stderr milliseconds
  | .signalled _ => Outcome.finished none stdout stderr milliseconds
  | .expired => Outcome.expired stdout stderr milliseconds

def ofBinary (host : Host) (binary : String) (limit : Nat) : Engine :=
  ⟨fun _ call volume =>
    match host.start volume binary (arguments call.script call.environment) limit with
    | .error cause => ⟨.error (.unstartable binary cause), volume, []⟩
    | .ok r =>
      let warnings := if r.ending = .expired then [.timedOut call.script (limit / 1000)] else []
      ⟨.ok (outcomeOf r), r.volume, warnings⟩⟩

def ofSettings (host : Host) (s : Settings) : Engine :=
  ofBinary host s.binary (1000 * s.timeoutSeconds)

end LoadScript.Engine
