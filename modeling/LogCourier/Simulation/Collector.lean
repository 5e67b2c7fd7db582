import LogCourier.Grpc.Upload
import LogCourier.Http.Upload
import LogCourier.Simulation.Clock
import LogCourier.Simulation.Script

/-!
# Scripted collectors

What a collector answers to the requests of a run, and when.
-/

namespace LogCourier.Simulation

structure HttpScript where
  wait : Option Duration := none
  answer : Http.Answer := .response 200 []

structure GrpcScript where
  wait : Option Duration := none
  reply : Grpc.Reply := .accepted none

/-- An answer under way, and when it comes. -/
structure Pending (α : Type) where
  due : Option Instant
  answer : α

def Pending.start (m : Moment) (wait : Option Duration) (answer : α) : Pending α :=
  ⟨wait.map m.now.waitEnd, answer⟩

def Pending.isDue (p : Pending α) (m : Moment) : Bool :=
  p.due.all (·.isDue m.now)

def Pending.answer? (p : Pending α) (m : Moment) : Option α :=
  if p.isDue m then some p.answer else none

/-- The number of the collector's own HTTP client and channel. -/
def collectorId : Nat := 0

/-- The end of a call for which no connection can be made. -/
def unreachable : Grpc.Status := ⟨.unavailable, "tcp connect error"⟩

/-- What the requests meet that do not go to the collector, each by its number. As far as nothing
else is said, all of them are accepted at once but those to an address, where nobody listens. -/
structure Elsewhere where
  /-- Clients that are not the collector's, the library's own among them. -/
  http : Http.Carrier → Uri → Nat → HttpScript := fun _ _ _ => {}
  /-- Channels that are not the collector's. -/
  channel : Channel → Nat → GrpcScript := fun _ _ => {}
  /-- Channels that the library dials. -/
  dialed : Uri → Nat → GrpcScript := fun _ _ => { reply := .failed unreachable }

def reachesCollector : Http.Carrier → Bool
  | .provided client => client.id = collectorId
  | .own => false

def callsCollector : Grpc.Link → Bool
  | .provided channel _ => channel.id = collectorId
  | .dialed .. => false

/-- What an HTTP client gives to its request with a number. -/
def httpScript (client : Http.Client) (scripts : List HttpScript) (elsewhere : Elsewhere) (n : Nat) :
    HttpScript :=
  if reachesCollector client.carrier then nthOrLast {} scripts n
  else elsewhere.http client.carrier client.target n

/-- How the call with a number ends. -/
def grpcScript (link : Grpc.Link) (scripts : List GrpcScript) (elsewhere : Elsewhere) (n : Nat) :
    GrpcScript :=
  match link with
  | .provided channel _ =>
    if channel.id = collectorId then nthOrLast {} scripts n else elsewhere.channel channel n
  | .dialed target .. => elsewhere.dialed target n

end LogCourier.Simulation
