/-
# Graft.Service.App -- the service that exposes the hooks

The service keeps one session, which is configured when it is first needed, at the start or by a request.  A
configuration that fails leaves no session behind, so the next request tries again.

* The health check always answers: with the session, or with the reason why there is none.
* The transform hook answers a rejected configuration or edit with its reason.  Any other fault, and any
  fault of the two other hooks, breaks the request off without one (`Fault.isRejection`).

How requests are sent, and which of them reach a hook at all, is up to a `Wire`.  Hooks are called from different
places, each of which leaves the stack of calls a room of its own (`App.room`).
-/
import Graft.Transform

namespace Graft.Service

set_option autoImplicit false

open Graft.Version (Room)

/-! ## Queries and outcomes -/

/-- What the transform hook is asked to patch. -/
structure TransformRequest where
  id : Text
  code : Text
  phase : Option Phase
  deriving DecidableEq, Repr

/-- What a request asks of the hooks. -/
inductive Query where
  | health
  | resolve (id : Text)
  | load (id : Text)
  | transform (request : TransformRequest)
  deriving DecidableEq, Repr

/-- Where a session can be configured. -/
inductive Place where
  | start
  | health
  | resolve
  | load
  | transform
  deriving DecidableEq, Repr

def Query.place : Query → Place
  | .health => .health
  | .resolve _ => .resolve
  | .load _ => .load
  | .transform _ => .transform

/-- What a hook says: a value, or that it rejects the request and why, or nothing, as the request was broken off. -/
inductive Outcome where
  | value (v : Json)
  | rejected (reason : Text)
  | broken

/-- How requests ask and responses tell.  A request that asks no hook has its response at once; no session comes into
that, and nothing is kept from one request for the next. -/
structure Wire (Request Response : Type) where
  read : Request → Except Response Query
  write : Request → Outcome → Response

/-! ## Faults -/

/-- Why a request could not be answered. -/
inductive Fault where
  | session (fault : SessionFault)
  | patch (fault : Patch.PatchFault)
  | load (fault : LoadFault)
  deriving DecidableEq, Repr

namespace Fault

def message : Fault → String
  | .session fault => fault.message
  | .patch fault => fault.message
  | .load fault => fault.message

/-- Whether a pattern is refused for what it says, and not because it is beyond what can be read or matched. -/
def isValueFault : Regex.Fault → Bool
  | .clashingModes => true
  | .number _ => true
  | _ => false

/-- Whether the fault is that a value was rejected. -/
def isRejection : Fault → Bool
  | .session (.gate (.resolve _)) => false
  | .session (.filter (.unreadable fault)) => isValueFault fault
  | .session _ => true
  | .patch (.edit (.indexOutOfRange _)) => false
  | .patch (.edit _) => true
  | .patch (.regex fault) => isValueFault fault
  | .load (.denied _) => false
  | .load (.decode _) => true

end Fault

/-! ## What the hooks tell -/

def object (members : List (String × Json)) : Json := .object (members.map fun (n, v) => (n.toList, v))

def message (s : String) : Json := .text s.toList

def textOrNull (t : Option Text) : Json := (t.map Json.text).getD .null

/-- The version of the service. -/
def version : String := "0.1.0"

def healthy (s : Session) : Json :=
  object [
    ("status", message "healthy"),
    ("mode", .text s.mode.name),
    ("active", .bool s.active),
    ("dependency", object [
      ("version", .text s.gate.version),
      ("fixed_version", .text s.gate.threshold),
      ("skip", .bool s.gate.skip)]),
    ("version", message version)]

def unhealthy (fault : Fault) : Json :=
  object [("status", message "error"), ("error", message fault.message), ("version", message version)]

/-- The members of a source map. -/
def mapObject (m : SourceMap) : Json :=
  object [
    ("version", .int 3),
    ("file", .text m.file),
    ("sources", .array [.text m.source]),
    ("sourcesContent", .array [.text m.sourceContent]),
    ("names", .array []),
    ("mappings", .text m.mappings)]

/-- What is told of a transform; a file that was declined comes back as it is. -/
def transformed (code : Text) : Option PatchResult → Json
  | none => object [("changed", .bool false), ("code", .text code), ("map", .null), ("delta", .int 0)]
  | some r =>
    object [
      ("changed", .bool true),
      ("code", .text r.text),
      ("map", mapObject r.map),
      ("delta", .int r.positions.delta)]

/-- What is told of a transform that failed. -/
def transformFailure (id : Text) (fault : Fault) : Logged Outcome :=
  if fault.isRejection then
    ⟨[.transformFailed id fault.message], .rejected s!"Transform failed: {fault.message}".toList⟩
  else .quiet .broken

namespace Query

/-- What is told when there is no session. -/
def refused (fault : Fault) : Query → Logged Outcome
  | .health => ⟨[.healthFailed fault.message], .value (unhealthy fault)⟩
  | .resolve _ => .quiet .broken
  | .load _ => .quiet .broken
  | .transform request => transformFailure request.id fault

/-- What a session tells. -/
def answered (files : FileSystem) (session : Session) : Query → Logged Outcome
  | .health => .quiet (.value (healthy session))
  | .resolve id => .quiet (.value (object [("id", textOrNull (session.resolveId id))]))
  | .load id =>
    (session.load files id).map fun
      | .ok code => .value (object [("code", textOrNull code)])
      | .error _ => .broken
  | .transform request =>
    (session.transform request.id request.code request.phase).andThen fun
      | .ok result => .quiet (.value (transformed request.code result))
      | .error fault => transformFailure request.id (.patch fault)

end Query

/-! ## The service -/

/-- The settings of a service, the files it sees, and what surrounds it.  Regular expressions are compiled alike at every
place, which leaves out those that are nested about as deep as the stack. -/
structure App where
  settings : Settings
  files : FileSystem
  room : Place → Room
  compile : Regex.Compiler := Regex.compile {}

/-- The session, once there is one. -/
structure State where
  session : Option Session := none

/-- Whether the next request meets the session that is there now. -/
def State.keepsSession (state : State) : Bool := state.session.isSome

/-- What came of a request: the state after it, the notices and the response. -/
structure Answer (Response : Type) where
  state : State
  notices : List Notice
  response : Response

namespace App

/-- Configures a session, as is done at a place. -/
def configure (app : App) (place : Place) : Logged (Except SessionFault Session) :=
  Session.ofSettings (app.room place) app.files app.settings app.compile

/-- The session, which is configured if there is none yet. -/
def session (app : App) (state : State) (place : Place) : Logged (Except SessionFault Session) :=
  match state.session with
  | some session => .quiet (.ok session)
  | none => app.configure place

/-- What comes of a query: the state after it, and what is told. -/
def answer (app : App) (state : State) (query : Query) : Answer Outcome :=
  let configured := app.session state query.place
  match configured.result with
  | .error fault =>
    let told := query.refused (.session fault)
    ⟨state, configured.notices ++ told.notices, told.result⟩
  | .ok session =>
    let told := query.answered app.files session
    ⟨⟨some session⟩, configured.notices ++ told.notices, told.result⟩

section

variable {Request Response : Type} (wire : Wire Request Response) (app : App)

def handle (state : State) (request : Request) : Answer Response :=
  match wire.read request with
  | .error response => ⟨state, [], response⟩
  | .ok query =>
    let a := app.answer state query
    ⟨a.state, a.notices, wire.write request a.response⟩

/-- Answers requests in order. -/
def handleAll (state : State) : List Request → List (Answer Response)
  | [] => []
  | request :: rest =>
    let a := app.handle wire state request
    a :: handleAll a.state rest

end

/-- Configures the session before the first request. -/
def start (app : App) : Logged (Except SessionFault State) :=
  (app.configure .start).andThen fun
    | .error fault => .quiet (.error fault)
    | .ok session =>
      ⟨(if session.skip then [.passThrough] else []) ++
          [.listening app.settings.host app.settings.tcpPort], .ok ⟨some session⟩⟩

end App

/-- The notices of a service that ends. -/
def stopNotices : List Notice := [.shuttingDown]

end Graft.Service
