import RescueStream.Service.StreamKey

/-! `StreamKeyService.Revoke` as the Go method reads, start to finish, and its statements run
back to back. `StreamKeyService.revoke` translates the method directly; `revokeRun` runs
the program-counter model `revokeStep` of `Service/StreamKey.lean` for some fuel, each
statement drawing its clock and driver failure from one `RevokeDraw`. `revokeRun_eq_revoke`
says that five statements with nothing between them give the method's result and tables:
the interleavable model, which every result about concurrent calls uses, is the Go method
when no other request runs between its statements. -/

namespace RescueStream

/-- The driver's failures and `time.Now()` at `EndStream` and `UpdateStatus` in one `Revoke`. -/
structure RevokeDraw where
  getFault : Bool
  checkFault : Bool
  endNow : Int
  endFault : Bool
  now : Int
  updateFault : Bool
  deriving DecidableEq, Repr

namespace StreamKeyService

def revokeKey (db : Store) (id : Nat) (d : RevokeDraw) : Except Error Unit × Store :=
  match StreamKeyRepo.updateStatus db id .revoked (some d.now) d.updateFault with
  | .ok db' => (.ok (), db')
  | .error e => (.error e, db)

def endLogged (db : Store) (stream : Stream) (d : RevokeDraw) : Store :=
  match StreamRepo.endStream db stream.id d.endNow d.endFault with
  | .ok db' => db'
  | .error _ => db

/-- `StreamKeyService.Revoke` run whole; a failed kick or `EndStream` is only logged. -/
def revoke (db : Store) (id : Nat) (d : RevokeDraw) : Except Error Unit × Store :=
  match StreamKeyRepo.getByID db id d.getFault with
  | .error e => (.error e, db)
  | .ok key =>
    if key.status ≠ .active then (.error .invalidStatus, db)
    else match StreamRepo.getActiveByStreamKeyID db id d.checkFault with
      | .error .notFound => revokeKey db id d
      | .error e => (.error (.wrap "failed to check active stream" e), db)
      | .ok stream => revokeKey (endLogged db stream d) id d

end StreamKeyService

def RevokeDraw.clock (d : RevokeDraw) : RevokePc → Int
  | .endStream _ => d.endNow
  | _ => d.now

def RevokeDraw.fault (d : RevokeDraw) : RevokePc → Bool
  | .start => d.getFault
  | .checkActive => d.checkFault
  | .endStream _ => d.endFault
  | .updateStatus _ => d.updateFault
  | _ => false

/-- The statements of `Revoke(id)` from `pc` on, at most `n` of them, with nothing between them. -/
def revokeRun (id : Nat) (d : RevokeDraw) : Nat → RevokePc → Store → RevokePc × Store
  | 0, pc, db => (pc, db)
  | n + 1, pc, db => match revokeStep db id (d.clock pc) (d.fault pc) pc with
    | none => (pc, db)
    | some (pc', db') => revokeRun id d n pc' db'

/-! ### One lemma per program point -/

section Run

variable (id : Nat) (d : RevokeDraw) (n : Nat) (db : Store)

theorem revokeRun_returned (ended : Option (Stream × Except Error Unit)) (r : Except Error Unit) :
    revokeRun id d n (.returned ended r) db = (.returned ended r, db) := by
  cases n <;> rfl

theorem revokeRun_updateStatus (ended : Option (Stream × Except Error Unit)) :
    revokeRun id d (n + 1) (.updateStatus ended) db =
      (.returned ended (StreamKeyService.revokeKey db id d).1,
        (StreamKeyService.revokeKey db id d).2) := by
  simp only [revokeRun, revokeStep, RevokeDraw.clock, RevokeDraw.fault,
    StreamKeyService.revokeKey]
  cases StreamKeyRepo.updateStatus db id .revoked (some d.now) d.updateFault <;>
    exact revokeRun_returned ..

theorem revokeRun_kick (st : Stream) :
    ∃ ended, revokeRun id d (n + 3) (.kick st) db =
      (.returned ended (StreamKeyService.revokeKey (StreamKeyService.endLogged db st d) id d).1,
        (StreamKeyService.revokeKey (StreamKeyService.endLogged db st d) id d).2) := by
  simp only [revokeRun, revokeStep, RevokeDraw.clock, RevokeDraw.fault, StreamKeyService.endLogged]
  cases StreamRepo.endStream db st.id d.endNow d.endFault <;> exact ⟨_, revokeRun_updateStatus ..⟩

theorem revokeRun_start_active {key : StreamKey} (hg : StreamKeyRepo.getByID db id d.getFault = .ok key)
    (ha : key.status = .active) :
    revokeRun id d (n + 1) .start db = revokeRun id d n .checkActive db := by
  simp only [revokeRun, revokeStep, RevokeDraw.fault, hg, ha, ne_eq, not_true_eq_false, if_false]

theorem revokeRun_checkActive_ok {st : Stream}
    (hc : StreamRepo.getActiveByStreamKeyID db id d.checkFault = .ok st) :
    revokeRun id d (n + 1) .checkActive db = revokeRun id d n (.kick st) db := by
  simp only [revokeRun, revokeStep, RevokeDraw.fault, hc]

theorem revokeRun_checkActive_notFound
    (hc : StreamRepo.getActiveByStreamKeyID db id d.checkFault = .error .notFound) :
    revokeRun id d (n + 1) .checkActive db = revokeRun id d n (.updateStatus none) db := by
  simp only [revokeRun, revokeStep, RevokeDraw.fault, hc]

end Run

/-- Five uninterrupted statements of `Revoke(id)` end it as `StreamKeyService.Revoke` does. -/
theorem revokeRun_eq_revoke (db : Store) (id : Nat) (d : RevokeDraw) :
    ∃ ended, revokeRun id d 5 .start db =
      (.returned ended (StreamKeyService.revoke db id d).1, (StreamKeyService.revoke db id d).2) := by
  cases hg : StreamKeyRepo.getByID db id d.getFault with
  | error e => exact ⟨none, by simp [StreamKeyService.revoke, revokeRun, revokeStep, RevokeDraw.fault,
      hg, revokeRun_returned]⟩
  | ok key =>
    by_cases ha : key.status = .active
    swap
    · exact ⟨none, by simp [StreamKeyService.revoke, revokeRun, revokeStep, RevokeDraw.fault, hg, ha,
        revokeRun_returned]⟩
    simp only [StreamKeyService.revoke, hg, ha, ne_eq, not_true_eq_false, if_false,
      revokeRun_start_active id d 4 db hg ha]
    cases hc : StreamRepo.getActiveByStreamKeyID db id d.checkFault with
    | ok st => rw [revokeRun_checkActive_ok id d 3 db hc]; exact revokeRun_kick ..
    | error e =>
      by_cases hn : e = .notFound
      · subst hn
        rw [revokeRun_checkActive_notFound id d 3 db hc]
        exact ⟨none, revokeRun_updateStatus ..⟩
      · exact ⟨none, by simp only [revokeRun, revokeStep, RevokeDraw.fault, hc]⟩

/-! ### What `Revoke` returns -/

theorem StreamKeyService.endLogged_streamKeys (db : Store) (st : Stream) (d : RevokeDraw) :
    (StreamKeyService.endLogged db st d).streamKeys = db.streamKeys := by
  unfold StreamKeyService.endLogged
  split
  · rename_i h
    rw [StreamRepo.endActive_ok h]
    rfl
  · rfl

end RescueStream
