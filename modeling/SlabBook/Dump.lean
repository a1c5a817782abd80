import SlabBook.Config.Environment
import SlabBook.Live.Load

/-!
# Dumping one side

The command prints one book side as it is now.  The configuration comes first, then the endpoint
it names, then the arguments: the side, and optionally how many orders to show.
-/

namespace SlabBook

/-- Why the command does not start at all. -/
inductive LoadError where
  | config (issues : List ConfigIssue)
  | endpointScheme
  | endpointHost (url : String)
  deriving DecidableEq, Repr

/-- What goes wrong in a run. -/
inductive DumpFault where
  | address (cause : AddressError)
  | market (cause : MarketError)
  | session (fault : Fault)
  deriving DecidableEq, Repr

inductive Complaint where
  | text (text : String)
  | fault (fault : DumpFault)
  deriving DecidableEq, Repr

structure DumpRun where
  exitCode : Nat
  out : List String
  complaints : List Complaint
  fetched : List (Address × Commitment)
  deriving DecidableEq, Repr

structure DumpArguments where
  kind : SideKind
  depth : Int
  deriving DecidableEq, Repr

namespace LoadError

def message : LoadError → String
  | .config _ => "invalid configuration"
  | .endpointScheme => "Endpoint URL must start with \x60http:\x60 or \x60https:\x60."
  | .endpointHost url => "Failed to validate endpoint URL \x60" ++ url ++ "\x60"

end LoadError

namespace DumpFault

def message : DumpFault → String
  | .address cause => cause.message
  | .market cause => cause.message
  | .session fault => fault.message

end DumpFault

namespace Endpoint

/-- An endpoint for sockets can be made from a URL that names its host after two slashes. -/
def hasHost (rest : List Char) : Bool :=
  match rest with
  | '/' :: '/' :: '[' :: host => (host.takeWhile (· ≠ ']')) ≠ [] && host.contains ']'
  | '/' :: '/' :: first :: _ => first ≠ ':'
  | _ => false

/-- The socket endpoint is made from the URL unless one is given. -/
def check (config : Config) : Except LoadError Unit :=
  if config.rpcUrl.startsWith "http:" ∨ config.rpcUrl.startsWith "https:" then
    let rest := (config.rpcUrl.toList.dropWhile (· ≠ ':')).drop 1
    if config.wsUrl.isSome ∨ hasHost rest then .ok () else .error (.endpointHost config.rpcUrl)
  else .error .endpointScheme

end Endpoint

namespace Dump

def defaultDepth : Int := 20

def depthRange : Range := ⟨1, 1000⟩

def usage : String := "Usage: npx tsx src/scripts/dump_book.ts <bids|asks> [depth]"

def load (env : Environment) : Except LoadError Config :=
  match Config.ofEnvironment env with
  | .error issues => .error (.config issues)
  | .ok config => (Endpoint.check config).map fun _ => config

def arguments? (args : List String) : Option DumpArguments := do
  let kind ← SideKind.ofText? (← args[0]?)
  match args[1]? with
  | none => return ⟨kind, defaultDepth⟩
  | some text =>
    match depthRange.check (Literal.number text) with
    | .ok depth => return ⟨kind, depth⟩
    | .error _ => none

def complain (fault : DumpFault) : Complaint :=
  match fault with
  | .session cause =>
    match cause.code? with
    | some code => .text s!"{code}: {cause.message}"
    | none => .fault fault
  | _ => .fault fault

def failed (fault : DumpFault) (warnings : List Complaint)
    (fetched : List (Address × Commitment)) : DumpRun :=
  ⟨1, [], warnings ++ [complain fault], fetched⟩

/-- Describes a loaded side, with a warning if it is not the side asked for. -/
def present (arguments : DumpArguments) (loaded : LoadedSide)
    (fetched : List (Address × Commitment)) : DumpRun :=
  let address := loaded.account.address
  let held := loaded.side.kind
  let warnings :=
    if held = arguments.kind then []
    else [.text s!"account {address.toText} holds {held.toText}, not {arguments.kind.toText}"]
  match loaded.describe arguments.depth.toNat with
  | .error fault => failed (.session fault) warnings fetched
  | .ok text => ⟨0, [text], warnings, fetched⟩

/-- What a fetch of the side's account comes to. -/
abbrev Fetch := Address → Except Fault (Option Account)

def runFor (config : Config) (fetch : Fetch) (arguments : DumpArguments) : DumpRun :=
  match Address.ofText (config.sideText arguments.kind) with
  | .error cause => failed (.address cause) [] []
  | .ok address =>
    match config.market.check with
    | .error cause => failed (.market cause) [] []
    | .ok market =>
      let fetched := [(address, config.commitment)]
      match LoadedSide.ofFetched address market config.capacity (fetch address) with
      | .error fault => failed (.session fault) [] fetched
      | .ok loaded => present arguments loaded fetched

def run (config : Config) (fetch : Fetch) (args : List String) : DumpRun :=
  match arguments? args with
  | none => ⟨1, [], [.text usage], []⟩
  | some arguments => runFor config fetch arguments

end Dump
end SlabBook
