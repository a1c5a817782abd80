import SlabBook.Dump

/-!
# The command line

`bids` or `asks` and an optional depth, with the configuration in the environment and the
account's bytes in hexadecimal on standard input; without input there is no account.
-/

namespace SlabBook.Main

def variableNames : List String :=
  ["PORT", "LOG_LEVEL", "CORS_ORIGINS", "SOLANA_RPC_URL", "SOLANA_WS_URL", "COMMITMENT", "BIDS",
    "ASKS", "BASE_DECIMALS", "QUOTE_DECIMALS", "BASE_LOT_SIZE", "QUOTE_LOT_SIZE", "BOOK_NODES",
    "LIVENESS_SILENCE_SEC", "BOOK_LOG_DEPTH", "BOOK_LOG_EVERY_SEC"]

def environment : IO Environment :=
  variableNames.filterMapM fun name => do return (← IO.getEnv name).map fun text => (name, text)

/-- What standard input makes of any fetch. -/
def fetchFrom (input : String) : Dump.Fetch := fun address =>
  let hex := String.ofList (Text.trim input.toList)
  if hex.isEmpty then .ok none
  else
    match Hex.decode? hex with
    | none => .error (.failure "standard input is not hexadecimal")
    | some data => .ok (some ⟨address, data, none, none⟩)

def complaintText : Complaint → String
  | .text text => text
  | .fault fault => fault.message

def report (run : DumpRun) : IO UInt32 := do
  for complaint in run.complaints do
    IO.eprintln (complaintText complaint)
  for text in run.out do
    IO.println text
  return run.exitCode.toUInt32

def issueText (issue : ConfigIssue) : String := s!"{issue.name}: {issue.issue.message}"

end SlabBook.Main

open SlabBook in
def main (args : List String) : IO UInt32 := do
  match Dump.load (← SlabBook.Main.environment) with
  | .error (.config issues) =>
    for issue in issues do
      IO.eprintln (SlabBook.Main.issueText issue)
    return 1
  | .error cause =>
    IO.eprintln cause.message
    return 1
  | .ok config =>
    let input ← (← IO.getStdin).readToEnd
    SlabBook.Main.report (Dump.run config (SlabBook.Main.fetchFrom input) args)
