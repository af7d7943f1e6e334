import GoldenCapture.CommandLine.Arguments
import GoldenCapture.Run.GoldenScenario

/-!
# Requests

What a user asks for: one golden scenario, and the settings to run it with.
-/

namespace GoldenCapture.CommandLine

/-- What may be left out of a request. -/
structure Options where
  /-- The port of the sink, if not the usual one. -/
  port : Option UInt16 := none
  goldenRoot : String := "testdata"
  markerKind : Option EntryKind := none
  minBatches : Nat := 1
  ignoreShape : Bool := false
  timeoutSeconds : Nat := 180
  pollMillis : Nat := 1000
  leaseDir : Option String := none
  leaseKey : Option String := none
  setupCommand : Option String := none
  teardownCommand : Option String := none
  ignoredOrders : List Level := []
  ignoredFields : List String := []
  ignoredValues : List String := []
  flaky : List String := []
  maxPoints : Option Nat := none
  apiPort : Option UInt16 := none
  logLevel : Option String := none
  verbose : Bool := false

structure Request where
  protocol : Protocol
  golden : String
  marker : String
  options : Options

/-- A request of which something may be missing. -/
structure Draft where
  protocol : Option Protocol := none
  golden : Option String := none
  marker : Option String := none
  options : Options := {}

/-! ## Values -/

/-- A whole number up to `most`, with a plus sign or without. -/
def number? (most : Nat) (s : String) : Option Nat :=
  let digits := match s.toList with
    | '+' :: rest => rest
    | cs => cs
  if digits.isEmpty || !digits.all Char.isDigit then none
  else
    let n : Nat := digits.foldl (fun n c => 10 * n + (c.toNat - '0'.toNat)) 0
    if n ≤ most then some n else none

/-- A port. Zero may carry a minus sign. -/
def port? (s : String) : Option UInt16 :=
  match s.toList with
  | '-' :: c :: rest => if (c :: rest).all (· = '0') then some 0 else none
  | _ => (number? 65535 s).map UInt16.ofNat

/-- The largest count, of seconds or of anything else. -/
def maxCount : Nat := UInt64.size - 1

/-- A path; it must not be empty. -/
def path? (s : String) : Option String := if s = "" then none else some s

/-! ## Rules -/

/-- An option of which a request keeps the value. -/
def single {β : Type} (name : String) (value? : String → Option β)
    (set : β → Options → Options) : OptionRule Draft where
  name := name
  effect := .value fun s d => (value? s).map fun b => { d with options := set b d.options }

/-- An option of which a request keeps all values, in order. -/
def list {β : Type} (name : String) (value? : String → Option β)
    (set : β → Options → Options) : OptionRule Draft :=
  { single name value? set with repeats := true }

def flag (name : String) (set : Options → Options) : OptionRule Draft where
  name := name
  effect := .flag fun d => { d with options := set d.options }

def rules : List (OptionRule Draft) := [
  { name := "protocol"
    effect := .value fun s d => (Protocol.ofName? s).map fun p => { d with protocol := some p } },
  { name := "golden"
    effect := .value fun s d => (path? s).map fun p => { d with golden := some p } },
  { name := "marker", effect := .value fun s d => some { d with marker := some s } },
  single "port" port? fun p o => { o with port := some p },
  single "golden-root" path? fun p o => { o with goldenRoot := p },
  single "marker-kind" (fun s => (EntryKind.parse s).toOption) fun k o =>
    { o with markerKind := some k },
  single "min-batches" (number? maxCount) fun n o => { o with minBatches := n },
  flag "ignore-shape" fun o => { o with ignoreShape := true },
  single "timeout-secs" (number? maxCount) fun n o => { o with timeoutSeconds := n },
  single "poll-ms" (number? maxCount) fun n o => { o with pollMillis := n },
  single "lease-dir" path? fun p o => { o with leaseDir := some p },
  single "lease-key" some fun s o => { o with leaseKey := some s },
  single "setup-cmd" some fun s o => { o with setupCommand := some s },
  single "teardown-cmd" some fun s o => { o with teardownCommand := some s },
  list "ignore-order" (fun s => (Level.parse s).toOption) fun l o =>
    { o with ignoredOrders := o.ignoredOrders ++ [l] },
  list "ignore-field" some fun s o => { o with ignoredFields := o.ignoredFields ++ [s] },
  list "ignore-value" some fun s o => { o with ignoredValues := o.ignoredValues ++ [s] },
  list "flaky" some fun s o => { o with flaky := o.flaky ++ [s] },
  single "max-points" (number? maxCount) fun n o => { o with maxPoints := some n },
  single "signalfx-api-port" port? fun p o => { o with apiPort := some p },
  single "log-level" some fun s o => { o with logLevel := some s },
  flag "verbose" fun o => { o with verbose := true }]

/-- The request in a draft, if nothing is missing. -/
def Draft.request? (d : Draft) : Option Request :=
  match d.protocol, d.golden, d.marker with
  | some protocol, some golden, some marker => some ⟨protocol, golden, marker, d.options⟩
  | _, _, _ => none

/-- The request that arguments stand for. -/
def Request.ofArguments (argv : List String) : Except Refusal Request :=
  match readArguments rules {} argv with
  | .error refusal => .error refusal
  | .ok draft =>
    match draft.request? with
    | none => .error .misuse
    | some request => .ok request

/-- One line on how to call the program. -/
def usage : String :=
  " ".intercalate ("usage: golden-capture" :: rules.map fun rule =>
    let value := match rule.effect with
      | .flag _ => ""
      | .value _ => " VALUE"
    s!"[--{rule.name}{value}]")

namespace Request

/-! ## What a request asks for -/

/-- The sink of a request, on every address of the host. -/
def sink (r : Request) : SinkSettings :=
  ⟨r.protocol, .anyAddress (r.options.port.getD r.protocol.defaultPort)⟩

/-- A selection looks five times as seldom as a wait for batches. -/
def settings (r : Request) (switches : Switches) : Settings :=
  let timeout := Duration.ofSeconds r.options.timeoutSeconds
  let poll := Duration.ofMillis r.options.pollMillis
  { sinks := [r.sink]
    wait := ⟨timeout, poll⟩
    select := ⟨timeout, 5 * poll⟩
    goldenRoot := r.options.goldenRoot
    lease := r.options.leaseKey.map fun key => { key }
    leaseDir := r.options.leaseDir
    switches
    apiStub := r.options.apiPort.map .anyAddress
    logLevel := r.options.logLevel }

def comparison (r : Request) : Rules :=
  r.options.ignoredOrders.map .ignoreOrder ++ r.options.ignoredFields.map .ignoreField ++
    r.options.ignoredValues.map fun name => .ignoreFieldValue name .any

def scenario (r : Request) : GoldenScenario where
  name := r.golden
  protocol := r.protocol
  golden := r.golden
  selector := ⟨⟨r.marker, r.options.markerKind⟩, !r.options.ignoreShape⟩
  minBatches := r.options.minBatches
  rules := r.comparison
  scrubber := ⟨r.options.flaky, r.options.maxPoints⟩
  setupCommand := r.options.setupCommand
  teardownCommand := r.options.teardownCommand

end Request

end GoldenCapture.CommandLine
