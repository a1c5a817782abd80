import SlabBook.Book.Error
import SlabBook.Config.Issue
import SlabBook.Url
import SlabBook.Live.Connection
import SlabBook.Market

/-!
# Configuration

The program is configured by environment variables.  Every variable is read and checked on its
own, in a fixed order, and all complaints are collected.  A market that is accepted here has
positive lots and decimals of one byte.
-/

namespace SlabBook

/-- Variables that are set, by name. -/
abbrev Environment := List (String × String)

structure Config where
  port : Int
  logLevel : String
  corsOrigins : Option String
  rpcUrl : String
  wsUrl : Option String
  commitment : Commitment
  bids : String
  asks : String
  baseDecimals : Int
  quoteDecimals : Int
  baseLotSize : Int
  quoteLotSize : Int
  bookNodes : Int
  livenessSilence : Int
  bookLogDepth : Int
  bookLogEvery : Int
  deriving DecidableEq, Repr

namespace Environment

def get? (env : Environment) (name : String) : Option String := env.lookup name

def complaint {α : Type} (name : String) (issue : VariableIssue) : Checked α :=
  .error [⟨name, issue⟩]

/-- A missing number without a default is no number. -/
def whole (env : Environment) (name : String) (range : Range) (default : Option Int) :
    Checked Int :=
  match env.get? name, default with
  | none, some value => .ok value
  | none, none => complaint name (.range .notANumber)
  | some text, _ =>
    (range.check (Literal.number text)).mapError fun issues =>
      issues.map fun issue => ⟨name, .range issue⟩

def positive (env : Environment) (name : String) : Checked Int :=
  match env.get? name with
  | none => complaint name .missing
  | some text =>
    match Literal.integer? text with
    | none => complaint name .notInteger
    | some value => if 0 < value then .ok value else complaint name .notPositive

def url (env : Environment) (name : String) : Checked String :=
  match env.get? name with
  | none => complaint name .missing
  | some text => if Url.isValid text then .ok text else complaint name .notUrl

def url? (env : Environment) (name : String) : Checked (Option String) :=
  match env.get? name with
  | none => .ok none
  | some text => if Url.isValid text then .ok (some text) else complaint name .notUrl

def longText (env : Environment) (name : String) (least : Nat) : Checked String :=
  match env.get? name with
  | none => complaint name .missing
  | some text => if least ≤ Text.units16 text then .ok text else complaint name (.tooShort least)

def commitment (env : Environment) (name : String) : Checked Commitment :=
  match env.get? name with
  | none => .ok .processed
  | some text =>
    match Commitment.ofText? text with
    | some value => .ok value
    | none => complaint name (.notCommitment text)

end Environment

namespace Config

def decimalsRange : Range := ⟨0, 255⟩

def ofEnvironment (env : Environment) : Checked Config :=
  let checked : Checked _ := .ok Config.mk
  checked
    |>.apply (env.whole "PORT" ⟨1, 65535⟩ (some 8080))
    |>.apply (.ok ((env.get? "LOG_LEVEL").getD "info"))
    |>.apply (.ok (env.get? "CORS_ORIGINS"))
    |>.apply (env.url "SOLANA_RPC_URL")
    |>.apply (env.url? "SOLANA_WS_URL")
    |>.apply (env.commitment "COMMITMENT")
    |>.apply (env.longText "BIDS" 32)
    |>.apply (env.longText "ASKS" 32)
    |>.apply (env.whole "BASE_DECIMALS" decimalsRange none)
    |>.apply (env.whole "QUOTE_DECIMALS" decimalsRange none)
    |>.apply (env.positive "BASE_LOT_SIZE")
    |>.apply (env.positive "QUOTE_LOT_SIZE")
    |>.apply (env.whole "BOOK_NODES" ⟨1, 65536⟩ (some 1024))
    |>.apply (env.whole "LIVENESS_SILENCE_SEC" ⟨1, 86400⟩ (some 60))
    |>.apply (env.whole "BOOK_LOG_DEPTH" ⟨0, 100⟩ (some 5))
    |>.apply (env.whole "BOOK_LOG_EVERY_SEC" ⟨0, 3600⟩ (some 15))

/-- The origins listed between commas; none when nothing is listed. -/
def origins (config : Config) : List String := Text.commaList (config.corsOrigins.getD "")

def market (config : Config) : Market :=
  ⟨config.baseDecimals, config.quoteDecimals, config.baseLotSize, config.quoteLotSize⟩

def capacity (config : Config) : Capacity := .whole config.bookNodes

/-- The address of one side, as text. -/
def sideText (config : Config) : SideKind → String
  | .bids => config.bids
  | .asks => config.asks

end Config
end SlabBook
