import RescueStream.System.Run

/-! Stream keys over every run. A key that is revoked or expired never becomes active again,
and no later admission with its value succeeds. A `Revoke` that returned `nil` leaves its key
revoked, and the stream it found ended unless `EndStream` failed; both stay true for the rest
of the run. Nothing stops a `ready` webhook from starting a stream for the revoked key
afterwards, and `Revoke` checks the status and writes it in two statements with no
transaction around them, so a second `Revoke` or an expiring admission can run in between;
for the same reason a failing `UpdateStatus` returns an error after `EndStream` has ended the
key's stream. -/

namespace RescueStream

namespace Sys

/-! ### Revoked and expired keys stay out -/

theorem inactive_key_never_admits {s s' : Sys} (hs : Reachable s) (h : Steps s s')
    {k : StreamKey} (hk : k ∈ s.db.streamKeys) (hst : k.status = .revoked ∨ k.status = .expired) :
    (∀ k' ∈ s'.db.streamKeys, k'.id = k.id → k'.status ≠ .active) ∧
    ∀ (req : AuthRequest) (now : Int) (fault : Option AuthStmt) (res : AuthResult),
      req.action = "publish" → extractKeyValue req = k.keyValue →
      (authenticate s'.db req now fault).1 = .ok res → res.allowed = false := by
  have hw := reachable_wf hs
  have hna : k.status ≠ .active := by rcases hst with h | h <;> rw [h] <;> decide
  have hgone : ∀ k' ∈ s'.db.streamKeys, k'.id = k.id ∨ k'.keyValue = k.keyValue →
      k'.status ≠ .active := fun k' hk' he =>
    KeyStep.trace_not_active (h.key_trace_of_mem hw hk hk' he) hna
  refine ⟨fun k' hk' he => hgone k' hk' (.inl he), fun req now fault res hp hkv hres => ?_⟩
  by_contra ha
  obtain ⟨key, hkey, hact, -⟩ := authenticate_allowed hres (by simpa using ha) hp
  obtain ⟨hmem, hval⟩ := Store.mem_of_keyByValue hkey
  exact hgone key hmem (.inr (hval.trans hkv)) hact

/-- Key `1` revoked by a `Revoke` that found no stream. -/
def revokeIdle : List Action :=
  setup ++ [.startRevoke 1, .advance 0 0 1 false, .advance 0 0 1 false, .advance 0 0 1 false]

theorem inactive_key_never_admits_revokeIdle :
    let s := init.after revokeIdle
    let s' := s.after [.authenticate ⟨zeroKey, "publish", zeroKey⟩ 2 none]
    let k : StreamKey := ⟨1, zeroKey, 0, .revoked, 0, none, some 1, none⟩
    Reachable s ∧ Steps s s' ∧ k ∈ s.db.streamKeys ∧ (k.status = .revoked ∨ k.status = .expired) ∧
    (∀ k' ∈ s'.db.streamKeys, k'.id = k.id → k'.status ≠ .active) ∧
    ∀ (req : AuthRequest) (now : Int) (fault : Option AuthStmt) (res : AuthResult),
      req.action = "publish" → extractKeyValue req = k.keyValue →
      (authenticate s'.db req now fault).1 = .ok res → res.allowed = false := by
  intro s s' k
  have hs : Reachable s := reachable_of_run (run_after (by decide))
  have h : Steps s s' := steps_of_run (run_after (by decide))
  have hk : k ∈ s.db.streamKeys := by decide
  exact ⟨hs, h, hk, .inl rfl, inactive_key_never_admits hs h hk (.inl rfl)⟩

/-! ### What a successful `Revoke` leaves -/

/-- A `Revoke` that returned `nil` leaves its key revoked and its stream ended, from then on. -/
theorem revoke_ok_final {s s' : Sys} (hs : Reachable s) (h : Steps s s') {i id : Nat}
    {t : Option (Stream × Except Error Unit)}
    (hp : s.procs[i]? = some (.revoke id (.returned t (.ok ())))) :
    (∀ k ∈ s'.db.streamKeys, k.id = id → k.status = .revoked ∧ k.revokedAt ≠ none) ∧
    ∀ st r, t = some (st, r) → EndedOk r → ∀ x ∈ s'.db.streams, x.id = st.id → x.status ≠ .active := by
  obtain ⟨-, hkeys, hterm⟩ := (reachable_wf (h.reachable hs)).procs _ (List.getElem?_mem (h.returned hp))
  refine ⟨hkeys, ?_⟩
  rintro st r rfl hr
  exact hterm.2 hr

/-- A stream of key `1` started by its ready webhook, then a `Revoke` of the key that ends it. -/
def revokeLive : List Action :=
  setup ++ [.startReady ⟨zeroKey, "rtmpConn", ""⟩, .advance 0 2 1 false, .advance 0 2 1 false,
    .startRevoke 1, .advance 1 0 3 false, .advance 1 0 3 false, .advance 1 0 3 false,
    .advance 1 0 3 false, .advance 1 0 3 false]

theorem revoke_ok_final_revokeLive :
    let s := init.after revokeLive
    let s' := s.after [.startReady ⟨zeroKey, "rtmpConn", ""⟩, .advance 2 4 4 false,
      .advance 2 4 4 false]
    let st := readyStream ⟨zeroKey, "rtmpConn", ""⟩ 1 2 1
    Reachable s ∧ Steps s s' ∧
    s.procs[1]? = some (.revoke 1 (.returned (some (st, .ok ())) (.ok ()))) ∧
    (∀ k ∈ s'.db.streamKeys, k.id = 1 → k.status = .revoked ∧ k.revokedAt ≠ none) ∧
    ∀ st' r, some (st, .ok ()) = some (st', r) → EndedOk r →
      ∀ x ∈ s'.db.streams, x.id = st'.id → x.status ≠ .active := by
  intro s s' st
  have hs : Reachable s := reachable_of_run (run_after (by decide))
  have h : Steps s s' := steps_of_run (run_after (by decide))
  have hp : s.procs[1]? = some (.revoke 1 (.returned (some (st, .ok ())) (.ok ()))) := by decide
  exact ⟨hs, h, hp, revoke_ok_final hs h hp⟩

/-- `Revoke` returns `nil` on a key with no stream, then `ready` starts a stream of it. -/
def lateReady : List Action :=
  revokeIdle ++ [.startReady ⟨zeroKey, "rtmpConn", ""⟩, .advance 1 2 2 false, .advance 1 2 2 false]

theorem revoke_ok_then_ready :
    ¬ ∀ s : Sys, Reachable s → ∀ (i id : Nat) (t : Option (Stream × Except Error Unit)),
      s.procs[i]? = some (.revoke id (.returned t (.ok ()))) →
      ∀ r ∈ s.db.streams, r.streamKeyID = id → r.status ≠ .active := fun h =>
  h (init.after lateReady) (reachable_of_run (run_after (by decide))) 0 1 none (by decide)
    (readyStream ⟨zeroKey, "rtmpConn", ""⟩ 1 2 2) (by decide) rfl rfl

/-! ### Two statements, no transaction -/

/-- Two `Revoke`s of key `1` that both pass the status check, and the first one's writes. -/
def doubleRevoke : List Action :=
  setup ++ [.startRevoke 1, .startRevoke 1, .advance 0 0 0 false, .advance 1 0 0 false,
    .advance 0 0 0 false, .advance 0 0 5 false]

/-- Key `1` expiring at `3`, checked by a `Revoke` at `1`, then expired by an admission at `10`. -/
def expireDuringRevoke : List Action :=
  [.createBroadcaster 0 false, .createStreamKey ⟨0, some 3⟩ (some zeroDraw) 1 0 false,
    .startRevoke 1, .advance 0 0 1 false, .authenticate ⟨zeroKey, "publish", zeroKey⟩ 10 none]

/-- Both `Revoke`s of `doubleRevoke` return `nil`; `expireDuringRevoke` revokes an expired key. -/
theorem revoke_check_then_write :
    Reachable (init.after doubleRevoke) ∧
    (init.after doubleRevoke).procs[0]? = some (.revoke 1 (.returned none (.ok ()))) ∧
    ((init.after doubleRevoke).db.keyByID 1).map (·.revokedAt) = some (some 5) ∧
    Steps (init.after doubleRevoke)
      ((init.after doubleRevoke).after [.advance 1 0 0 false, .advance 1 0 7 false]) ∧
    ((init.after doubleRevoke).after [.advance 1 0 0 false, .advance 1 0 7 false]).procs[1]? =
      some (.revoke 1 (.returned none (.ok ()))) ∧
    (((init.after doubleRevoke).after [.advance 1 0 0 false, .advance 1 0 7 false]).db.keyByID
      1).map (·.revokedAt) = some (some 7) ∧
    Reachable (init.after expireDuringRevoke) ∧
    ((init.after expireDuringRevoke).db.keyByID 1).map (·.status) = some .expired ∧
    Steps (init.after expireDuringRevoke)
      ((init.after expireDuringRevoke).after [.advance 0 0 11 false, .advance 0 0 11 false]) ∧
    ((init.after expireDuringRevoke).after [.advance 0 0 11 false, .advance 0 0 11 false]).procs[0]? =
      some (.revoke 1 (.returned none (.ok ()))) ∧
    (((init.after expireDuringRevoke).after [.advance 0 0 11 false, .advance 0 0 11 false]).db.keyByID
      1).map (·.status) = some .revoked :=
  ⟨reachable_of_run (run_after (by decide)), by decide, by decide,
    steps_of_run (run_after (by decide)), by decide, by decide,
    reachable_of_run (run_after (by decide)), by decide, steps_of_run (run_after (by decide)),
    by decide, by decide⟩

def liveKeyRevoke : List Action :=
  setup ++ [.startReady ⟨zeroKey, "rtmpConn", ""⟩, .advance 0 2 1 false, .advance 0 2 1 false,
    .startRevoke 1]

/-- The five statements of that `Revoke` uninterrupted, the driver failing `UpdateStatus`. -/
def failUpdateStatus : List Action :=
  [.advance 1 0 3 false, .advance 1 0 3 false, .advance 1 0 3 false, .advance 1 0 3 false,
    .advance 1 0 3 true]

/-- `Revoke` returns `UpdateStatus`'s error after `EndStream` has ended the key's stream. -/
theorem revoke_error_after_end :
    Reachable (init.after liveKeyRevoke) ∧
    (init.after liveKeyRevoke).db.activeStreamOf 1 =
      some (readyStream ⟨zeroKey, "rtmpConn", ""⟩ 1 2 1) ∧
    Steps (init.after liveKeyRevoke) ((init.after liveKeyRevoke).after failUpdateStatus) ∧
    ((init.after liveKeyRevoke).after failUpdateStatus).procs[1]? = some (.revoke 1
      (.returned (some (readyStream ⟨zeroKey, "rtmpConn", ""⟩ 1 2 1, .ok ()))
        (.error (driverFailure "failed to update stream key status" .unavailable)))) ∧
    ((init.after liveKeyRevoke).after failUpdateStatus).db.streams ≠
      (init.after liveKeyRevoke).db.streams ∧
    (((init.after liveKeyRevoke).after failUpdateStatus).db.keyByID 1).map (·.status) =
      some .active ∧
    ((init.after liveKeyRevoke).after failUpdateStatus).db.activeStreamOf 1 = none :=
  ⟨reachable_of_run (run_after (by decide)), by decide, steps_of_run (run_after (by decide)),
    by decide, by decide, by decide, by decide⟩

end Sys

end RescueStream
