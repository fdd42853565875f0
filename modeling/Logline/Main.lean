/-
The program: it takes the words of the command line, the variables of the
environment and the present moment, and writes what the command line
comes to. The server's side of the conversation with its client belongs
to the transport, which is no part of this program; starting the server
here writes what the log says of it.
-/
import Logline.Command
import Std.Time.DateTime.Timestamp

open Logline Logline.Calendar

/-- The variables of the process. -/
def processEnvironment : IO Environment :=
  Variable.all.foldlM (fun env v => do
    let value ← IO.getEnv (String.ofList v.name)
    return env.set v (value.map String.toList)) Environment.empty

/-- The microseconds since Unix time started. -/
def presentMicros : IO Int := do
  let now ← Std.Time.Timestamp.now
  return now.toNanosecondsSinceUnixEpoch.val / 1000

/-- Writes the output of a run and gives its exit code. -/
def finish (outcome : Command.Outcome) : IO UInt32 := do
  IO.print (String.ofList outcome.stdout)
  IO.eprint (String.ofList outcome.stderr)
  return outcome.exitCode.toUInt32

def main (args : List String) : IO UInt32 := do
  let env ← processEnvironment
  let micros ← presentMicros
  match Timestamp.ofInstant micros with
  | .error _ => finish (.failure "the clock is out of range")
  | .ok now =>
    match Command.run now env (args.map String.toList) with
    | .ended outcome => finish outcome
    | .running server =>
      let log := server.startLog (.whole (micros / 1000000))
      finish ⟨0, [], log⟩
    | .broken why => finish ⟨1, [], why.message ++ "\n"⟩
