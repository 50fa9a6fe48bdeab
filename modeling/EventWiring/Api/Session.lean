import EventWiring.Api.Request
import EventWiring.Json.Printer
import EventWiring.Key

/-!
# Sessions with the API server

A session answers the calls of a program with the responses of the server, one after the other.
Schedulers are read from a cache that watches them.
-/

namespace EventWiring.Api

/-- The schedulers that are watched, by namespace and name. -/
structure Watched where
  schedulers : List Scheduler
deriving DecidableEq

namespace Watched

def sameObject (a b : Scheduler) : Bool :=
  a.metadata.space? = b.metadata.space? && a.metadata.name = b.metadata.name

def forget (w : Watched) (s : Scheduler) : Watched :=
  ⟨w.schedulers.filter (!sameObject s ·)⟩

def note (w : Watched) (s : Scheduler) : Watched := ⟨s :: (w.forget s).schedulers⟩

def find? (w : Watched) (space : Option String) (name : String) : Option Scheduler :=
  w.schedulers.find? fun s => s.metadata.space? = space && s.metadata.name.getD "" = name

/-- A scheduler in no namespace is found in every one, after those that are in it. -/
def get? (w : Watched) (key : Key) : Option Scheduler :=
  (w.find? (some key.space) key.name).or (w.find? none key.name)

end Watched

structure Session where
  watched : Watched
  /-- The responses that are still to come. -/
  responses : List Response
  recorder : Recorder
deriving DecidableEq

namespace Session

/-- What the server says when it has nothing to say. -/
def exhausted : Response where
  code := 500
  body := Json.render (.object [("code", Json.int 500), ("message", .string "no response left"),
    ("reason", .string "InternalError"), ("status", .string "Failure")])

/-- The next response. -/
def receive (s : Session) : Response × Session :=
  match s.responses with
  | r :: rest => (r, { s with responses := rest })
  | [] => (exhausted, s)

/-- Sends a request, if there is one, and reads the response. -/
def send {α : Type} (s : Session) (request : Except Failure Request)
    (read : Response → Except Error α) : Except Error α × Session :=
  match request with
  | .error failure => (.error (.api failure), s)
  | .ok _ =>
    let (response, s) := s.receive
    (read response, s)

def answer : (c : Call) → Session → c.Answer × Session
  | .getScheduler space name, s => (.ok (s.watched.get? ⟨space, name⟩), s)
  | .patchScheduler space name patch, s =>
    s.send (Request.patchScheduler space name patch.toJson) Response.readScheduler
  | .updateStatus desired, s => s.send (Request.updateStatus desired) Response.readScheduler
  | .get d space name, s => s.send (Request.get d space name) (Response.readGet d)
  | .create d space object, s =>
    s.send (Request.create d space object) (Response.readCreate d space object)
  | .delete d space name, s => s.send (Request.delete d space name) (Response.readDelete d)
  | .listPods space selector, s => s.send (Request.listPods space selector) Response.readPods
  | .publish e, s =>
    let (publication, recorder) := s.recorder.publish e
    (publication, { s with recorder })

/-- Runs a program against the server. -/
def run {α : Type} (p : Program α) (s : Session) : Program.Run Session α := p.run answer s

end Session

end EventWiring.Api
