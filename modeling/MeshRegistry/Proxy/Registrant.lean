import MeshRegistry.Proxy.Container
import MeshRegistry.Channel.Peer

/-!
# Registrants

A registrant stands in for a proxy.  It waits a moment, finds its container, registers the mapping,
waits to be stopped and takes the mapping back; one that reloads is done once it has registered.
Each of the two errands is tried as often as the policy allows, and the last failure ends the run.

A run moves by what happens to it.  It records the states it enters and the requests it sends.
-/

namespace MeshRegistry.Proxy

/-- Where a registrant stands, as others see it. -/
inductive State where
  | starting
  | registering
  | running
  | deregistering
  | stopped
deriving DecidableEq, Repr

def State.name : State → String
  | starting => "starting"
  | registering => "registering"
  | running => "running"
  | deregistering => "deregistering"
  | stopped => "stopped"

/-- What the registry is called for. -/
inductive Errand where
  | register
  | deregister
deriving DecidableEq, Repr

def Errand.action : Errand → Action
  | register => .register
  | deregister => .deregister

def Errand.state : Errand → State
  | register => .registering
  | deregister => .deregistering

/-- Which mapping to register, and how. -/
structure Registrant where
  frontend : SocketAddress
  backend : SocketAddress
  policy : RetryPolicy
  reload : Bool
deriving DecidableEq, Repr

def Registrant.request (r : Registrant) (l : Labels) : Request :=
  .ofSockets r.frontend r.backend l.service l.environment l.mode

/-- How far a run has come.  A call is known by its errand, the request sent, and which attempt it
is. -/
inductive Stage where
  | waiting
  | searching
  | calling (errand : Errand) (request : Request) (attempt : Nat)
  | running (request : Request)
  | stopped
  | failed (errand : Errand) (error : ProxyError)
deriving DecidableEq, Repr

def Stage.state : Stage → State
  | waiting => .starting
  | searching => .registering
  | calling errand _ _ => errand.state
  | running _ => .running
  | stopped => .stopped
  | failed errand _ => errand.state

structure Run where
  registrant : Registrant
  stage : Stage
  stopRequested : Bool
  entered : List State
  sent : List Request
deriving DecidableEq, Repr

/-- What can happen to a run. -/
inductive Happening where
  /-- The moment of grace is over. -/
  | graceOver
  /-- The search for the container ends. -/
  | found (labels : Except ProxyError Labels)
  /-- The attempt under way ends. -/
  | answered (outcome : Except Channel.CallError Reply)
  /-- Somebody asks the registrant to stop. -/
  | stopRequested
  /-- The registrant notices that it was asked to stop. -/
  | stopNoticed

namespace Run

def start (r : Registrant) : Run :=
  ⟨r, .waiting, false, [.starting], []⟩

def enter (run : Run) (stage : Stage) : Run :=
  { run with stage := stage, entered := run.entered ++ [stage.state] }

def attempt (run : Run) (errand : Errand) (request : Request) (n : Nat) : Run :=
  { run with stage := .calling errand request n, sent := run.sent ++ [request] }

def close (run : Run) (request : Request) : Run :=
  let request := request.withAction .deregister
  (run.enter (.calling .deregister request 1)).attempt .deregister request 1

def accomplished (run : Run) (errand : Errand) (request : Request) : Run :=
  match errand with
  | .deregister => run.enter .stopped
  | .register =>
    let run := run.enter (.running request)
    if run.registrant.reload then run.enter .stopped else run

/-- What a run does when something happens; what makes no sense at its stage changes nothing. -/
def step (run : Run) (h : Happening) : Run :=
  match h, run.stage with
  | .stopRequested, _ => { run with stopRequested := true }
  | .graceOver, .waiting => run.enter .searching
  | .found (.error e), .searching => { run with stage := .failed .register e }
  | .found (.ok labels), .searching =>
    run.attempt .register ((run.registrant.request labels).withAction .register) 1
  | .answered (.ok _), .calling errand request _ => run.accomplished errand request
  | .answered (.error e), .calling errand request n =>
    if run.registrant.policy.shouldRetry n e.isRetryable then
      run.attempt errand request (n + 1)
    else { run with stage := .failed errand (.registration e) }
  | .stopNoticed, .running request => if run.stopRequested then run.close request else run
  | _, _ => run

/-- What the run came to: nothing wrong, or the failure that ended it. -/
def result (run : Run) : Except ProxyError Unit :=
  match run.stage with
  | .failed _ e => .error e
  | _ => .ok ()

/-- Makes up to so many calls, as long as there is one to make. -/
def converse (caller : Channel.Caller) : Nat → Run → Channel.Line → Run × Channel.Line
  | 0, run, line => (run, line)
  | n + 1, run, line =>
    match run.stage with
    | .calling _ request _ =>
      let (outcome, line) := caller.attempt request line
      converse caller n (run.step (.answered outcome)) line
    | _ => (run, line)

end Run

/-- A run from beginning to end: the container is looked for, calls are answered by a peer, and the
registrant is asked to stop before it begins. -/
def Registrant.run (r : Registrant) (caller : Channel.Caller) (labels : Except ProxyError Labels)
    (line : Channel.Line) : Run × Channel.Line :=
  let attempts := r.policy.maxAttempts
  let run := [Happening.stopRequested, .graceOver, .found labels].foldl Run.step (Run.start r)
  let (run, line) := run.converse caller attempts line
  (run.step .stopNoticed).converse caller attempts line

end MeshRegistry.Proxy
