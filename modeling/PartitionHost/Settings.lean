import PartitionHost.Error
import PartitionHost.Table
import PartitionHost.Text.LowerCase
import PartitionHost.Text.Natural
import PartitionHost.Time.Duration

/-!
# Settings

The settings of a host and of the client of the message broker, and how they are read from the
environment. A variable that is not set leaves the default. Settings are usable when the host scans
its leases more than once in a lease's term.
-/

namespace PartitionHost

abbrev Environment := Table String

/-- Where a partition starts that has never been processed. -/
inductive Position where
  | startOfStream
  | latest
deriving DecidableEq, Repr, Inhabited

structure Settings where
  /-- How long a lease lasts that is not renewed. -/
  leaseTerm : Duration := .ofSeconds 30
  /-- How often the host scans the leases. -/
  scanInterval : Duration := .ofSeconds 10
  initialPosition : Position := .startOfStream
  /-- How many ownership events wait for their consumer before the host does. -/
  eventBuffer : Nat := 64
deriving DecidableEq, Repr

instance : Inhabited Settings := ⟨{}⟩

namespace Position

def name : Position → String
  | .startOfStream => "StartOfStream"
  | .latest => "Latest"

end Position

namespace Settings

/-! ## Faults -/

/-- Why settings cannot be used. -/
inductive Fault where
  | badSeconds (name value : String) (cause : Text.NumeralFault)
  | badPosition (lowered : String)
  | zeroLease
  | zeroScan
  | scanNotShorter (scan lease : Duration)
deriving DecidableEq, Repr

def Fault.message : Fault → String
  | .badSeconds name value cause => s!"Invalid value {value} for {name}: {cause.message}"
  | .badPosition lowered => s!"Invalid initial position {lowered}"
  | .zeroLease => "Lease duration must be positive"
  | .zeroScan => "Scan interval must be positive"
  | .scanNotShorter scan lease =>
    s!"Scan interval {scan.text} must be shorter than the lease duration {lease.text}"

def Fault.toError (f : Fault) : Error := .config f.message

/-! ## Reading -/

def position (word : String) : Except Fault Position :=
  let lowered := Text.lowerCase word
  if lowered = "start" ∨ lowered = "start-of-stream" then .ok .startOfStream
  else if lowered = "latest" then .ok .latest
  else .error (.badPosition lowered)

def validate (s : Settings) : Except Fault Unit :=
  if s.leaseTerm.nanos = 0 then .error .zeroLease
  else if s.scanInterval.nanos = 0 then .error .zeroScan
  else if s.leaseTerm ≤ s.scanInterval then .error (.scanNotShorter s.scanInterval s.leaseTerm)
  else .ok ()

def leaseVariable : String := "EVENTHOST_LEASE_DURATION_SECS"

def scanVariable : String := "EVENTHOST_SCAN_INTERVAL_SECS"

def positionVariable : String := "EVENTHOST_INITIAL_POSITION"

/-- A duration in whole seconds that a variable gives, or the default. -/
def secondsFrom (env : Environment) (name : String) (default : Duration) :
    Except Fault Duration :=
  match env.get? name with
  | none => .ok default
  | some value =>
    match Text.readNatural (1 <<< 64) value with
    | .ok n => .ok (.ofSeconds n)
    | .error cause => .error (.badSeconds name value cause)

def positionFrom (env : Environment) (default : Position) : Except Fault Position :=
  match env.get? positionVariable with
  | none => .ok default
  | some word => position word

/-- The settings that the environment gives; the first fault counts. -/
def load (env : Environment) : Except Fault Settings := do
  let defaults : Settings := {}
  let leaseTerm ← secondsFrom env leaseVariable defaults.leaseTerm
  let scanInterval ← secondsFrom env scanVariable defaults.scanInterval
  let initialPosition ← positionFrom env defaults.initialPosition
  let settings := { defaults with leaseTerm, scanInterval, initialPosition }
  settings.validate
  return settings

def text (s : Settings) : String :=
  s!"HostConfig \x7b lease_duration: {s.leaseTerm.text}, scan_interval: {s.scanInterval.text}, " ++
    s!"initial_position: {s.initialPosition.name}, event_buffer_size: {s.eventBuffer} \x7d"

end Settings

structure ClientSettings where
  url : String := "localhost:4222"
  user : Option String := none
  password : Option String := none
  tls : Bool := false
deriving DecidableEq, Repr

namespace ClientSettings

def urlVariable : String := "EVENTHOST_JETSTREAM_URL"

def userVariable : String := "EVENTHOST_JETSTREAM_USER"

def passwordVariable : String := "EVENTHOST_JETSTREAM_PASSWORD"

def tlsVariable : String := "EVENTHOST_JETSTREAM_TLS_ENABLED"

/-- The settings that the environment gives, which must name the broker's address. -/
def load (env : Environment) : Except ClientError ClientSettings :=
  match env.get? urlVariable with
  | none => .error (.config s!"Environment variable {urlVariable} is not set")
  | some url =>
    .ok
      { url := url
        user := env.get? userVariable
        password := env.get? passwordVariable
        tls := env.get? tlsVariable == some "true" }

end ClientSettings

end PartitionHost
