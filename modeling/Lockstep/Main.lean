import Lockstep.CommandLine.Program
import Lockstep.CommandLine.Recording
import Lockstep.Report.Printed

/-! The command line as a program. It reads a recording of its surroundings from standard input. -/
open Lockstep

/-- Reads a stream to its end. -/
partial def readAll (stream : IO.FS.Stream) (before : ByteArray) : IO ByteArray := do
  let piece ← stream.read 65536
  if piece.isEmpty then return before else readAll stream (before ++ piece)

def write (stream : IO.FS.Stream) (t : Text) : IO Unit := do
  stream.write ⟨t.toUtf8.toArray⟩
  stream.flush

def main (arguments : List String) : IO UInt32 := do
  let recording ← readAll (← IO.getStdin) .empty
  let room : Room := { reading := 3 * recording.size, showing := 0 }
  match Settings.tableOf room (.ofText "recording") recording.toList with
  | .error fault =>
    write (← IO.getStderr) (Failure.loading fault).message
    return 1
  | .ok t =>
    let ending := CommandLine.run (.ofTable t) (arguments.map Text.ofString)
    write (← IO.getStdout) ending.printed.out
    write (← IO.getStderr)
      (Report.journal ending.journal ++ ending.printed.err
        ++ ((ending.failure.map Failure.message).getD []))
    return ending.printed.exitCode.toUInt32
