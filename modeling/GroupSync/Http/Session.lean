import GroupSync.Http.Message
import GroupSync.Log
import GroupSync.Retry

/-!
# Sessions

What happens between this program and the world while it runs: requests are exchanged for
arrivals, time passes, events are recorded.  A session carries the rest of the world's behaviour
and the trace of everything that happened, in order.  Nothing else of the world can be observed,
so two sessions with equal traces look alike.
-/

namespace GroupSync

namespace Http

structure Server where
  /-- Connections can be made in these schemes; all others fail before a request is sent. -/
  schemes : List String
  /-- What comes of the requests to come. -/
  queue : List Arrival
  /-- What comes of requests after these. -/
  otherwise : Arrival

def Server.unreachable : Server :=
  ⟨[], [], .unreachable⟩

inductive Effect where
  /-- A request was sent, or could not be for want of a connection. -/
  | exchanged (request : Request) (arrival : Arrival)
  | slept (duration : Duration)
  | logged (event : LogEvent)
deriving DecidableEq

/-- The world around a running program. -/
structure World where
  server : Server
  /-- The random draws to come; zero after these. -/
  draws : List Nat
  trace : List Effect

namespace World

def fresh (server : Server) (draws : List Nat) : World :=
  ⟨server, draws, []⟩

def extend (world : World) (effect : Effect) : World :=
  { world with trace := world.trace ++ [effect] }

end World

/-- A counter of the program overflowed, which ends it on the spot. -/
inductive Breakdown where
  | counterOverflow
deriving DecidableEq

/-- A computation that interacts with the world and may break down. -/
abbrev Session := ExceptT Breakdown (StateM World)

namespace Session

def run {α : Type} (session : Session α) (world : World) : Except Breakdown α × World :=
  ExceptT.run session |>.run world

def record (event : LogEvent) : Session Unit :=
  modify fun world => world.extend (.logged event)

def recordAll : List LogEvent → Session Unit
  | [] => pure ()
  | event :: events => do
      record event
      recordAll events

def sleep (duration : Duration) : Session Unit :=
  modify fun world => world.extend (.slept duration)

def draw : Session Nat :=
  modifyGet fun world => (world.draws.headD 0, { world with draws := world.draws.drop 1 })

/-- Send a request and see what comes of it. -/
def exchange (request : Request) : Session Arrival :=
  modifyGet fun world =>
    if world.server.schemes.contains (String.ofList request.url.scheme) then
      match world.server.queue with
      | arrival :: queue =>
          (arrival,
            { world with server := { world.server with queue := queue } }.extend
              (.exchanged request arrival))
      | [] =>
          (world.server.otherwise, world.extend (.exchanged request world.server.otherwise))
    else (.unreachable, world.extend (.exchanged request .unreachable))

end Session

end Http

end GroupSync
