import RescueStream.System.Run
import RescueStream.Service.Revoke

/-! The two calls that run more than one statement outside a transaction, `Revoke` and
`handleReady`, are modelled in `Sys` by program counters whose statements other requests can
interleave. Run with nothing between their statements, they are a run of the service that
ends exactly as the sequential Go functions do: `revoke_uninterrupted` for
`StreamKeyService.Revoke`, `ready_uninterrupted` for `WebhookHandler.handleReady`. -/

namespace RescueStream

theorem set_getElem?_self {α : Type} {l : List α} {i : Nat} {a : α} (h : l[i]? = some a) :
    l.set i a = l := by
  apply List.ext_getElem?
  intro j
  by_cases hj : i = j
  · subst hj
    rw [List.getElem?_set_self (List.getElem?_eq_some.mp h).1, h]
  · exact List.getElem?_set_ne hj

/-- Whether `handleReady` reaches `uuid.New()`: the path is set and a key was found. -/
def readyDrawsID (db : Store) (req : WebhookReadyRequest) (d : ReadyDraw) : Bool :=
  req.path != "" && (StreamKeyRepo.getByKeyValue db req.path d.lookupFault).isOk

namespace Sys

theorem steps_revokeRun {s : Sys} {pid id : Nat} {pc : RevokePc}
    (hp : s.procs[pid]? = some (.revoke id pc)) (d : RevokeDraw) (n : Nat) :
    Steps s { s with db := (revokeRun id d n pc s.db).2,
                     procs := s.procs.set pid (.revoke id (revokeRun id d n pc s.db).1) } := by
  induction n generalizing s pc with
  | zero => simp only [revokeRun, set_getElem?_self hp]; exact .refl s
  | succ n ih =>
    cases hst : revokeStep s.db id (d.clock pc) (d.fault pc) pc with
    | none => simp only [revokeRun, hst, set_getElem?_self hp]; exact .refl s
    | some r =>
      obtain ⟨pc', db'⟩ := r
      have h₁ : s.step (.advance pid 0 (d.clock pc) (d.fault pc)) =
          some { s with db := db', procs := s.procs.set pid (.revoke id pc') } := by
        simp [step, advance, hp, hst]
      have hp' : (s.procs.set pid (.revoke id pc'))[pid]? = some (.revoke id pc') :=
        List.getElem?_set_self (List.getElem?_eq_some.mp hp).1
      simpa only [revokeRun, hst, List.set_set] using Steps.head h₁ (ih hp')

/-- A `Revoke` run with nothing between its statements ends as the sequential `Revoke`. -/
theorem revoke_uninterrupted {s : Sys} {pid id : Nat} (hp : s.procs[pid]? = some (.revoke id .start))
    (d : RevokeDraw) :
    ∃ s', Steps s s' ∧ s'.db = (StreamKeyService.revoke s.db id d).2 ∧
      ∃ ended, s'.procs =
        s.procs.set pid (.revoke id (.returned ended (StreamKeyService.revoke s.db id d).1)) := by
  obtain ⟨ended, he⟩ := revokeRun_eq_revoke s.db id d
  have h := steps_revokeRun hp d 5
  rw [he] at h
  exact ⟨_, h, rfl, ended, rfl⟩

theorem revoke_uninterrupted_setup :
    let s := init.after (setup ++ [.startRevoke 1])
    let d : RevokeDraw := ⟨false, false, 1, false, 1, false⟩
    s.procs[0]? = some (.revoke 1 .start) ∧
    ∃ s', Steps s s' ∧ s'.db = (StreamKeyService.revoke s.db 1 d).2 ∧
      ∃ ended, s'.procs = s.procs.set 0 (.revoke 1 (.returned ended (StreamKeyService.revoke s.db 1 d).1)) := by
  intro s d
  have hp : s.procs[0]? = some (.revoke 1 .start) := by decide
  exact ⟨hp, revoke_uninterrupted hp d⟩

theorem steps_ready {s : Sys} {pid : Nat} {req : WebhookReadyRequest}
    (hp : s.procs[pid]? = some (.ready req .lookup)) (hpath : req.path ≠ "") (d : ReadyDraw)
    (hu : readyDrawsID s.db req d = true → d.id ∉ s.issuedIds) :
    Steps s { s with
      db := (handleReady s.db (some req) d).1
      procs := s.procs.set pid (.ready req (.answered (handleReady s.db (some req) d).2))
      issuedIds := if readyDrawsID s.db req d then d.id :: s.issuedIds else s.issuedIds } := by
  have hlt := (List.getElem?_eq_some.mp hp).1
  cases hk : StreamKeyRepo.getByKeyValue s.db req.path d.lookupFault with
  | error e =>
    have hs₁ : s.step (.advance pid d.id d.now d.lookupFault) =
        some { s with procs := s.procs.set pid (.ready req (.answered .noContent)) } := by
      simp [step, advance, hp, readyStep, hk]
    simpa [handleReady, readyDrawsID, hpath, hk] using Steps.tail _ (.refl s) hs₁
  | ok key =>
    have hd : readyDrawsID s.db req d = true := by
      simp [readyDrawsID, hpath, hk, Except.isOk, Except.toBool]
    have hs₁ : s.step (.advance pid d.id d.now d.lookupFault) =
        some { s with procs := s.procs.set pid (.ready req (.insert key)) } := by
      simp [step, advance, hp, readyStep, hk]
    have hs₂ : ({ s with procs := s.procs.set pid (.ready req (.insert key)) } : Sys).step
        (.advance pid d.id d.now d.createFault) =
        some { s with
          db := (handleReady s.db (some req) d).1
          procs := s.procs.set pid (.ready req (.answered (handleReady s.db (some req) d).2))
          issuedIds := d.id :: s.issuedIds } := by
      simp only [step, advance, List.getElem?_set_self hlt, hu hd, if_false, readyStep,
        handleReady, if_neg hpath, hk, List.set_set]
      cases StreamRepo.create s.db (readyStream req key.id d.id d.now) d.createFault <;> rfl
    simpa only [hd, if_true] using Steps.tail _ (.tail _ (.refl s) hs₁) hs₂

/-- A `ready` run with nothing between its statements ends as the sequential `handleReady`. -/
theorem ready_uninterrupted {s : Sys} {pid : Nat} {req : WebhookReadyRequest}
    (hp : s.procs[pid]? = some (.ready req .lookup)) (hpath : req.path ≠ "") (d : ReadyDraw)
    (hu : d.id ∉ s.issuedIds) :
    ∃ s', Steps s s' ∧ s'.db = (handleReady s.db (some req) d).1 ∧
      s'.procs = s.procs.set pid (.ready req (.answered (handleReady s.db (some req) d).2)) :=
  ⟨_, steps_ready hp hpath d fun _ => hu, rfl, rfl⟩

theorem ready_uninterrupted_setup :
    let s := init.after (setup ++ [.startReady ⟨zeroKey, "rtmpConn", ""⟩])
    let req : WebhookReadyRequest := ⟨zeroKey, "rtmpConn", ""⟩
    let d : ReadyDraw := ⟨false, 2, 1, false⟩
    s.procs[0]? = some (.ready req .lookup) ∧ req.path ≠ "" ∧ d.id ∉ s.issuedIds ∧
    ∃ s', Steps s s' ∧ s'.db = (handleReady s.db (some req) d).1 ∧
      s'.procs = s.procs.set 0 (.ready req (.answered (handleReady s.db (some req) d).2)) := by
  intro s req d
  have hp : s.procs[0]? = some (.ready req .lookup) := by decide
  have hpath : req.path ≠ "" := by decide
  have hu : d.id ∉ s.issuedIds := by decide
  exact ⟨hp, hpath, hu, ready_uninterrupted hp hpath d hu⟩

end Sys

end RescueStream
