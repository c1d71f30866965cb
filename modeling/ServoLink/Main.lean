import ServoLink.CommandLine.Run

open ServoLink

instance : Files IO where
  read? path := do
    try
      return some (← IO.FS.readBinFile path)
    catch _ =>
      return none
  write path bytes := do
    try
      IO.FS.writeBinFile path bytes
      return true
    catch _ =>
      return false

def main (words : List String) : IO UInt32 := do
  let outcome ← (runCommandLine words : IO Outcome)
  IO.sleep (UInt32.ofNat (min outcome.settled (UInt32.size - 1)))
  IO.print outcome.output
  IO.eprint outcome.errors
  return outcome.exitCode.toUInt32
