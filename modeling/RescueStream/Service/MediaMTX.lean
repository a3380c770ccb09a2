import Mathlib.Data.List.Basic

/-! `MediaMTXClient.KickPath`, which `Revoke` calls to cut off the publisher of a stream.
MediaMTX has no kick by path, so the client lists the RTMP connections, kicks each one on the
path, then does the same with the RTSP sessions. A failed list or kick is only logged, and
`KickPath` always returns `nil`. The model is what the call sends and logs: the kick requests
in order, each with the log line for its outcome. -/

namespace RescueStream

/-- The fields of a connection or session that `KickPath` reads; `nil` is `none`. -/
structure Conn where
  id : Option String
  path : Option String
  deriving DecidableEq, Repr

/-- A list call: a transport error, or a response whose `JSON200` and `Items` may be `nil`. -/
abbrev ListResult := Except String (Option (Option (List Conn)))

structure Transport where
  listFailed : String
  kickFailed : String
  kicked : String
  idKey : String
  deriving DecidableEq, Repr

def rtmpConns : Transport :=
  ⟨"failed to list RTMP connections", "failed to kick RTMP connection", "kicked RTMP connection",
    "connection_id"⟩

def rtspSessions : Transport :=
  ⟨"failed to list RTSP sessions", "failed to kick RTSP session", "kicked RTSP session",
    "session_id"⟩

inductive LogLevel
  | info | warn
  deriving DecidableEq, Repr

/-- A kick request, or a line of `KickPath`'s `slog` logger with its attributes. -/
inductive Effect
  | kick (t : Transport) (id : String)
  | log (level : LogLevel) (msg : String) (attrs : List (String × String))
  deriving DecidableEq, Repr

/-- The loop over the listed connections; `kickErr n` is the error of the `n`-th kick. -/
def kickLoop (t : Transport) (path : String) (kickErr : Nat → Option String) :
    Nat → List Conn → List Effect
  | _, [] => []
  | n, c :: cs =>
    match c.path, c.id with
    | some p, some id =>
      if p = path then
        .kick t id ::
          (match kickErr n with
            | some e => .log .warn t.kickFailed [("error", e), (t.idKey, id)]
            | none => .log .info t.kicked [(t.idKey, id), ("path", path)]) ::
          kickLoop t path kickErr (n + 1) cs
      else kickLoop t path kickErr n cs
    | _, _ => kickLoop t path kickErr n cs

def kickTransport (t : Transport) (path : String) (listed : ListResult)
    (kickErr : Nat → Option String) : List Effect :=
  match listed with
  | .error e => [.log .warn t.listFailed [("error", e)]]
  | .ok (some (some items)) => kickLoop t path kickErr 0 items
  | .ok _ => []

/-- `MediaMTXClient.KickPath`: what it sends and logs, and what it returns. -/
def kickPath (path : String) (rtmpList rtspList : ListResult)
    (rtmpKickErr rtspKickErr : Nat → Option String) : List Effect × Except String Unit :=
  (kickTransport rtmpConns path rtmpList rtmpKickErr ++
    kickTransport rtspSessions path rtspList rtspKickErr, .ok ())

/-! ### Which connections are kicked -/

/-- The kick requests among the effects, in order. -/
def Effect.kicks : List Effect → List (Transport × String) :=
  List.filterMap fun
    | .kick t id => some (t, id)
    | .log .. => none

def listedConns : ListResult → List Conn
  | .ok (some (some items)) => items
  | _ => []

/-- The ids of the listed connections whose path is `path` and whose id is set. -/
def kickTargets (path : String) (items : List Conn) : List String :=
  items.filterMap fun c => if c.path = some path then c.id else none

@[simp] theorem Effect.kicks_nil : Effect.kicks [] = [] := rfl

@[simp] theorem Effect.kicks_append (l₁ l₂ : List Effect) :
    Effect.kicks (l₁ ++ l₂) = Effect.kicks l₁ ++ Effect.kicks l₂ := List.filterMap_append _ _ _

@[simp] theorem Effect.kicks_kick (t : Transport) (id : String) (l : List Effect) :
    Effect.kicks (.kick t id :: l) = (t, id) :: Effect.kicks l := rfl

@[simp] theorem Effect.kicks_log (lv : LogLevel) (msg : String) (attrs : List (String × String))
    (l : List Effect) : Effect.kicks (.log lv msg attrs :: l) = Effect.kicks l := rfl

/-- Whatever each kick returns, the loop kicks exactly its targets, in order. -/
theorem kicks_kickLoop (t : Transport) (path : String) (kickErr : Nat → Option String) (n : Nat)
    (items : List Conn) :
    Effect.kicks (kickLoop t path kickErr n items) = (kickTargets path items).map (t, ·) := by
  induction items generalizing n with
  | nil => rfl
  | cons c cs ih =>
    obtain ⟨id, p⟩ := c
    cases p with
    | none => cases id <;> simp [kickLoop, kickTargets, ih]
    | some p =>
      cases id with
      | none => simp [kickLoop, kickTargets, ih]
      | some id =>
        by_cases hp : p = path
        · cases hk : kickErr n <;> simp [kickLoop, kickTargets, hp, hk, ih]
        · simp [kickLoop, kickTargets, hp, ih]

theorem kicks_kickTransport (t : Transport) (path : String) (listed : ListResult)
    (kickErr : Nat → Option String) :
    Effect.kicks (kickTransport t path listed kickErr) =
      (kickTargets path (listedConns listed)).map (t, ·) := by
  rcases listed with e | _ | _ | items
  · rfl
  · rfl
  · rfl
  · exact kicks_kickLoop t path kickErr 0 items

/-- Whatever fails, `KickPath` kicks exactly the matching RTMP then RTSP ids, and returns `nil`. -/
theorem kickPath_kicks (path : String) (rtmpList rtspList : ListResult)
    (rtmpKickErr rtspKickErr : Nat → Option String) :
    Effect.kicks (kickPath path rtmpList rtspList rtmpKickErr rtspKickErr).1 =
      (kickTargets path (listedConns rtmpList)).map (rtmpConns, ·) ++
        (kickTargets path (listedConns rtspList)).map (rtspSessions, ·) ∧
    (kickPath path rtmpList rtspList rtmpKickErr rtspKickErr).2 = .ok () := by
  simp [kickPath, kicks_kickTransport]

end RescueStream
