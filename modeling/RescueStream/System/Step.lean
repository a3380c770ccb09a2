import RescueStream.Service.Auth
import RescueStream.Service.StreamKey
import RescueStream.Handler.Webhook

/-! The service as one state machine. A state holds the tables, every call of `Revoke` and
`handleReady` started so far (in flight, or returned with its result), and the ids and key
values drawn so far. An action is atomic: a whole `Authenticate` transaction, a
`handleNotReady` or a create or delete (one statement each), the start of a `Revoke` or
`handleReady` call, or the next statement of a call in flight. Any interleaving of
requests is a list of actions, and `Reachable` is what some list reaches from the empty
database.

`uuid.New()` draws 122 random bits and `generateStreamKey` 256; a draw is modelled as never
repeating a value drawn before, as the guard of the action that draws. Reads, broadcaster
updates (display fields only) and requests whose body fails to decode write nothing and
are left out. -/

namespace RescueStream

/-- A call in flight or returned, with its argument. -/
inductive Proc
  | revoke (id : Nat) (pc : RevokePc)
  | ready (req : WebhookReadyRequest) (pc : ReadyPc)
  deriving DecidableEq, Repr

/-- The whole service: the tables, the calls started, and the values drawn so far. -/
structure Sys where
  db : Store
  procs : List Proc
  issuedIds : List Nat
  issuedKeys : List String
  deriving DecidableEq, Repr

/-- One atomic action, with the clock, the driver's failure and the values drawn in it. -/
inductive Action
  | authenticate (req : AuthRequest) (now : Int) (fault : Option AuthStmt)
  | notReady (req : WebhookNotReadyRequest) (now : Int) (fault : Bool)
  | createBroadcaster (id : Nat) (fault : Bool)
  | deleteBroadcaster (id : Nat) (fault : Bool)
  | createStreamKey (req : CreateRequest) (draw : Option RandomBytes) (id : Nat) (now : Int)
      (fault : Bool)
  | startRevoke (id : Nat)
  | startReady (req : WebhookReadyRequest)
  | advance (pid uuid : Nat) (now : Int) (fault : Bool)

namespace Sys

def init : Sys := ⟨.empty, [], [], []⟩

/-- The next statement of call `pid`; `none` when there is no such call or it has returned. -/
def advance (s : Sys) (pid uuid : Nat) (now : Int) (fault : Bool) : Option Sys :=
  match s.procs[pid]? with
  | some (.revoke id pc) => (revokeStep s.db id now fault pc).map fun r =>
    { s with db := r.2, procs := s.procs.set pid (.revoke id r.1) }
  | some (.ready req (.insert key)) =>
    if uuid ∈ s.issuedIds then none
    else (readyStep s.db req uuid now fault (.insert key)).map fun r =>
      { s with db := r.2, procs := s.procs.set pid (.ready req r.1),
               issuedIds := uuid :: s.issuedIds }
  | some (.ready req pc) => (readyStep s.db req uuid now fault pc).map fun r =>
    { s with db := r.2, procs := s.procs.set pid (.ready req r.1) }
  | none => none

/-- One action; `none` when it cannot happen. -/
def step (s : Sys) : Action → Option Sys
  | .authenticate req now fault => some { s with db := (authenticate s.db req now fault).2 }
  | .notReady req now fault => some { s with db := (handleNotReady s.db (some req) now fault).1 }
  | .createBroadcaster id fault =>
    if id ∈ s.issuedIds then none
    else some { s with db := BroadcasterService.create s.db id fault, issuedIds := id :: s.issuedIds }
  | .deleteBroadcaster id fault => some { s with db := BroadcasterService.delete s.db id fault }
  | .createStreamKey req draw id now fault =>
    match generateStreamKey draw with
    | .error _ => some s
    | .ok v =>
      if id ∈ s.issuedIds ∨ v ∈ s.issuedKeys then none
      else some { s with db := (StreamKeyService.create s.db req draw id now fault).2,
                         issuedIds := id :: s.issuedIds, issuedKeys := v :: s.issuedKeys }
  | .startRevoke id => some { s with procs := s.procs ++ [.revoke id .start] }
  | .startReady req => some { s with procs := s.procs ++ [.ready req (readyStart req)] }
  | .advance pid uuid now fault => s.advance pid uuid now fault

def run : Sys → List Action → Option Sys
  | s, [] => some s
  | s, a :: as => (s.step a).bind fun s' => s'.run as

def after (s : Sys) (as : List Action) : Sys := (s.run as).getD s

/-- Broadcaster `0`, then key `1` for it, its value drawn from `zeroDraw`. -/
def setup : List Action :=
  [.createBroadcaster 0 false, .createStreamKey ⟨0, none⟩ (some zeroDraw) 1 0 false]

/-- The states some interleaving of requests reaches from the empty database. -/
inductive Reachable : Sys → Prop
  | init : Reachable init
  | step {s s' : Sys} (a : Action) : Reachable s → s.step a = some s' → Reachable s'

inductive Steps : Sys → Sys → Prop
  | refl (s : Sys) : Steps s s
  | tail {s s' s'' : Sys} (a : Action) : Steps s s' → s'.step a = some s'' → Steps s s''

theorem Steps.reachable {s s' : Sys} (h : Steps s s') (hs : Reachable s) : Reachable s' := by
  induction h with
  | refl => exact hs
  | tail a _ hst ih => exact .step a ih hst

theorem Steps.head {s s₁ s' : Sys} {a : Action} (h₁ : s.step a = some s₁) (h : Steps s₁ s') :
    Steps s s' := by
  induction h with
  | refl => exact .tail a (.refl s) h₁
  | tail b _ hst ih => exact .tail b ih hst

theorem steps_of_run {s s' : Sys} {as : List Action} (h : s.run as = some s') : Steps s s' := by
  induction as generalizing s with
  | nil => simp only [run, Option.some.injEq] at h; exact h ▸ .refl s
  | cons a as ih =>
    simp only [run, Option.bind_eq_some] at h
    obtain ⟨s₁, h₁, h₂⟩ := h
    exact (ih h₂).head h₁

theorem reachable_of_run {s : Sys} {as : List Action} (h : init.run as = some s) : Reachable s :=
  (steps_of_run h).reachable .init

theorem run_after {s : Sys} {as : List Action} (h : (s.run as).isSome) :
    s.run as = some (s.after as) := by
  unfold after
  cases h' : s.run as with
  | none => simp [h'] at h
  | some s' => rfl

end Sys

end RescueStream
