import GoldenCapture.Dictionary
import GoldenCapture.Failure
import GoldenCapture.Net.Listeners
import GoldenCapture.Payload
import GoldenCapture.Settings
import GoldenCapture.Store

/-!
# Sinks

A sink listens for one protocol. It stores every payload that it can decode, drops and counts the
others, and goes on. The sinks of a run have one store each. The API stub answers the calls that an
exporter makes besides; it only counts them.
-/

namespace GoldenCapture

/-! ## Requests -/

structure HttpRequest where
  method : String := "POST"
  /-- The target of the request, with its query. -/
  target : String := "/"
  body : List UInt8

/-- The target without its query. -/
def HttpRequest.path (r : HttpRequest) : String :=
  String.ofList (r.target.toList.takeWhile (· ≠ '?'))

/-- How many bytes a body may have. -/
def HttpRequest.bodyLimit : Nat := 2097152

inductive HttpStatus where
  | ok
  | badRequest
  | notFound
  | methodNotAllowed
  | payloadTooLarge
deriving DecidableEq, Repr

def HttpStatus.code : HttpStatus → Nat
  | ok => 200
  | badRequest => 400
  | notFound => 404
  | methodNotAllowed => 405
  | payloadTooLarge => 413

/-! ## One sink -/

structure Sink where
  protocol : Protocol
  store : Store := {}
  /-- How many payloads could not be decoded. -/
  dropped : Nat := 0
  /-- The number of its listener. -/
  listener : Nat := 0

namespace Sink

/-- Whether payloads are taken under a path: the root or the route of the protocol, exactly. -/
def serves (s : Sink) (path : String) : Bool :=
  path == "/" || path == "" || path == s.protocol.route

/-- Takes a payload. -/
def receive (s : Sink) (payload : List UInt8) : HttpStatus × Sink :=
  match s.protocol.decode payload with
  | .ok batch => (.ok, { s with store := s.store.append s.protocol batch })
  | .error _ => (.badRequest, { s with dropped := s.dropped + 1 })

/-- Answers a request. Only a posted payload within the limit changes the sink. -/
def handle (s : Sink) (r : HttpRequest) : HttpStatus × Sink :=
  if s.serves r.path then
    if r.method == "POST" then
      if r.body.length ≤ HttpRequest.bodyLimit then s.receive r.body else (.payloadTooLarge, s)
    else (.methodNotAllowed, s)
  else (.notFound, s)

def reset (s : Sink) : Sink := { s with store := s.store.reset }

end Sink

/-! ## The sinks of a run -/

structure SinkSet where
  sinks : Dictionary Protocol Sink := {}

namespace SinkSet

def get? (s : SinkSet) (p : Protocol) : Option Sink := s.sinks.get? p

def put (s : SinkSet) (sink : Sink) : SinkSet := ⟨s.sinks.insert sink.protocol sink⟩

/-- The protocols that have a sink. -/
def protocols (s : SinkSet) : List Protocol :=
  Protocol.all.filter fun p => (s.get? p).isSome

def sink (s : SinkSet) (p : Protocol) : Except Failure Sink :=
  match s.get? p with
  | some sink => .ok sink
  | none => .error (.noSink p)

def store (s : SinkSet) (p : Protocol) : Except Failure Store :=
  match s.sink p with
  | .ok sink => .ok sink.store
  | .error failure => .error failure

/-- Answers a request to the sink of a protocol, if there is one. -/
def handle (s : SinkSet) (p : Protocol) (r : HttpRequest) : Option HttpStatus × SinkSet :=
  match s.get? p with
  | none => (none, s)
  | some sink =>
    let (status, sink) := sink.handle r
    (some status, ⟨s.sinks.insert p sink⟩)

/-- Stores a batch as if the sink of its protocol had captured it. -/
def append (s : SinkSet) (p : Protocol) (batch : Batch) : SinkSet :=
  match s.get? p with
  | none => s
  | some sink => ⟨s.sinks.insert p { sink with store := sink.store.append p batch }⟩

/-- Empties every store. -/
def resetAll (s : SinkSet) : SinkSet :=
  ⟨⟨s.sinks.entries.map fun (p, sink) => (p, sink.reset)⟩⟩

/-- The listeners of the sinks. -/
def listeners (s : SinkSet) : List Nat := s.protocols.filterMap fun p =>
  (s.get? p).map Sink.listener

/-- Stops the listeners of all sinks. -/
def stopAll (s : SinkSet) (n : Listeners) : Listeners :=
  s.listeners.foldl Listeners.stop n

/-- Starts a sink for each setting, in order. If one cannot start, those before it are stopped. -/
def startAll (settings : List SinkSettings) (s : SinkSet) (n : Listeners) :
    Except Failure SinkSet × Listeners :=
  match settings with
  | [] => (.ok s, n)
  | first :: rest =>
    match n.start first.protocol.name first.bind with
    | none => (.error (.listener first.protocol.name first.bind.text), s.stopAll n)
    | some (listener, n) =>
      startAll rest (s.put { protocol := first.protocol, listener := listener.id }) n

end SinkSet

/-! ## The API stub -/

structure ApiStub where
  requests : Nat := 0
  listener : Nat := 0

namespace ApiStub

/-- What the listener of a stub is for. -/
def label : String := "signalfx-api"

/-- Every request is fine. -/
def handle (s : ApiStub) (_ : HttpRequest) : HttpStatus × ApiStub :=
  (.ok, { s with requests := s.requests + 1 })

end ApiStub

end GoldenCapture
