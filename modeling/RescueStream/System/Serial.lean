import RescueStream.System.Sequential
import RescueStream.System.DataModel

/-! The service as its Go code reads when requests come one at a time. `Serial.serve` runs
each request whole: `Revoke` as `StreamKeyService.revoke` and a `ready` delivery as
`handleReady`, the sequential translations of the Go functions, and the others as the one
statement or transaction they are. Its state is the tables and the values drawn so far.

`Sys.serve_steps` says that each request, served from the tables and draws a state of the
interleaved model `Sys` shows, is a run of that model ending in a state that shows the
result; `Serial.reachable_sys` that every state the sequential service reaches is reachable
with interleavings. So every invariant proved over `Sys.Reachable` holds of sequential use,
while the interleavings add races such as the two `Revoke`s of `Sys.revoke_check_then_write`.

Sequential use also has an invariant of its own. `Revoke` and `Authenticate` check that a key is
active before they write its row, and with nothing between the check and the write the row
they write is active. So `Sys.inactive_key_frozen`: served one at a time, requests never change
a key row once it is revoked or expired. -/

namespace RescueStream

/-- The tables, and the ids and key values drawn so far. -/
structure Serial where
  db : Store
  issuedIds : List Nat
  issuedKeys : List String
  deriving DecidableEq, Repr

inductive Request
  | authenticate (req : AuthRequest) (now : Int) (fault : Option AuthStmt)
  | notReady (req : WebhookNotReadyRequest) (now : Int) (fault : Bool)
  | createBroadcaster (id : Nat) (fault : Bool)
  | deleteBroadcaster (id : Nat) (fault : Bool)
  | createStreamKey (req : CreateRequest) (draw : Option RandomBytes) (id : Nat) (now : Int)
      (fault : Bool)
  | revoke (id : Nat) (d : RevokeDraw)
  | ready (req : WebhookReadyRequest) (d : ReadyDraw)

namespace Serial

def init : Serial := ⟨.empty, [], []⟩

/-- One request run whole; `none` when a value it draws was drawn before. -/
def serve (q : Serial) : Request → Option Serial
  | .authenticate req now fault => some { q with db := (authenticate q.db req now fault).2 }
  | .notReady req now fault => some { q with db := (handleNotReady q.db (some req) now fault).1 }
  | .createBroadcaster id fault =>
    if id ∈ q.issuedIds then none
    else some ⟨BroadcasterService.create q.db id fault, id :: q.issuedIds, q.issuedKeys⟩
  | .deleteBroadcaster id fault => some { q with db := BroadcasterService.delete q.db id fault }
  | .createStreamKey req draw id now fault =>
    match generateStreamKey draw with
    | .error _ => some q
    | .ok v =>
      if id ∈ q.issuedIds ∨ v ∈ q.issuedKeys then none
      else some ⟨(StreamKeyService.create q.db req draw id now fault).2, id :: q.issuedIds,
        v :: q.issuedKeys⟩
  | .revoke id d => some { q with db := (StreamKeyService.revoke q.db id d).2 }
  | .ready req d =>
    if readyDrawsID q.db req d then
      if d.id ∈ q.issuedIds then none
      else some ⟨(handleReady q.db (some req) d).1, d.id :: q.issuedIds, q.issuedKeys⟩
    else some { q with db := (handleReady q.db (some req) d).1 }

inductive Reachable : Serial → Prop
  | init : Reachable init
  | step {q q' : Serial} (r : Request) : Reachable q → q.serve r = some q' → Reachable q'

def run : Serial → List Request → Option Serial
  | q, [] => some q
  | q, r :: rs => (q.serve r).bind fun q' => q'.run rs

theorem reachable_of_run {q q' : Serial} {rs : List Request} (hq : Reachable q)
    (h : q.run rs = some q') : Reachable q' := by
  induction rs generalizing q with
  | nil => simp only [run, Option.some.injEq] at h; exact h ▸ hq
  | cons r rs ih =>
    simp only [run, Option.bind_eq_some] at h
    obtain ⟨q₁, h₁, h₂⟩ := h
    exact ih (.step r hq h₁) h₂

/-- A key's stream started by its ready webhook, then `Revoke` of the key, one request at a time. -/
def liveRevoke : List Request :=
  [.createBroadcaster 0 false, .createStreamKey ⟨0, none⟩ (some zeroDraw) 1 0 false,
    .ready ⟨zeroKey, "rtmpConn", ""⟩ ⟨false, 2, 1, false⟩, .revoke 1 ⟨false, false, 3, false, 3, false⟩]

end Serial

namespace Sys

/-- What a state shows of the sequential service: the tables and the draws. -/
def serial (s : Sys) : Serial := ⟨s.db, s.issuedIds, s.issuedKeys⟩

theorem serve_revoke_steps (s : Sys) (id : Nat) (d : RevokeDraw) :
    ∃ s', Steps s s' ∧ s'.serial = { s.serial with db := (StreamKeyService.revoke s.db id d).2 } := by
  let s₁ : Sys := { s with procs := s.procs ++ [.revoke id .start] }
  have hp : s₁.procs[s.procs.length]? = some (.revoke id .start) := by simp [s₁]
  obtain ⟨ended, he⟩ := revokeRun_eq_revoke s.db id d
  have h := Steps.head (show s.step (.startRevoke id) = some s₁ from rfl) (steps_revokeRun hp d 5)
  rw [he] at h
  exact ⟨_, h, rfl⟩

theorem serve_ready_steps (s : Sys) (req : WebhookReadyRequest) (d : ReadyDraw)
    (hu : readyDrawsID s.db req d = true → d.id ∉ s.issuedIds) :
    ∃ s', Steps s s' ∧ s'.serial = ⟨(handleReady s.db (some req) d).1,
      if readyDrawsID s.db req d then d.id :: s.issuedIds else s.issuedIds, s.issuedKeys⟩ := by
  let s₁ : Sys := { s with procs := s.procs ++ [.ready req (readyStart req)] }
  have h₁ : Steps s s₁ := .tail (.startReady req) (.refl s) rfl
  by_cases hpath : req.path = ""
  · have hd : readyDrawsID s.db req d = false := by simp [readyDrawsID, hpath]
    exact ⟨s₁, h₁, by simp [serial, s₁, handleReady, hpath, hd]⟩
  · have hp : s₁.procs[s.procs.length]? = some (.ready req .lookup) := by
      simp [s₁, readyStart, hpath]
    exact ⟨_, Steps.head (show s.step (.startReady req) = some s₁ from rfl) (steps_ready hp hpath d hu),
      rfl⟩

/-- Each request served from what a state shows is a run of the interleaved model. -/
theorem serve_steps {s : Sys} {r : Request} {q' : Serial} (h : s.serial.serve r = some q') :
    ∃ s', Steps s s' ∧ s'.serial = q' := by
  cases r with
  | authenticate req now fault =>
    exact ⟨_, .tail (.authenticate req now fault) (.refl s) rfl, Option.some.inj h⟩
  | notReady req now fault =>
    exact ⟨_, .tail (.notReady req now fault) (.refl s) rfl, Option.some.inj h⟩
  | createBroadcaster id fault =>
    simp only [Serial.serve, serial] at h
    split_ifs at h with hid
    refine ⟨{ s with db := BroadcasterService.create s.db id fault, issuedIds := id :: s.issuedIds },
      .tail (.createBroadcaster id fault) (.refl s) ?_, Option.some.inj h⟩
    simp [step, hid]
  | deleteBroadcaster id fault =>
    exact ⟨_, .tail (.deleteBroadcaster id fault) (.refl s) rfl, Option.some.inj h⟩
  | createStreamKey req draw id now fault =>
    simp only [Serial.serve, serial] at h
    cases hg : generateStreamKey draw with
    | error e =>
      rw [hg] at h
      exact ⟨s, .tail (.createStreamKey req draw id now fault) (.refl s) (by simp [step, hg]),
        Option.some.inj h⟩
    | ok v =>
      simp only [hg] at h
      split_ifs at h with hfresh
      refine ⟨{ s with
          db := (StreamKeyService.create s.db req draw id now fault).2
          issuedIds := id :: s.issuedIds
          issuedKeys := v :: s.issuedKeys },
        .tail (.createStreamKey req draw id now fault) (.refl s) ?_, Option.some.inj h⟩
      simp [step, hg, hfresh]
  | revoke id d =>
    obtain ⟨s', hs', he⟩ := serve_revoke_steps s id d
    exact ⟨s', hs', he.trans (Option.some.inj h)⟩
  | ready req d =>
    simp only [Serial.serve, serial] at h
    by_cases hd : readyDrawsID s.db req d
    · rw [if_pos hd] at h
      split_ifs at h with hid
      obtain ⟨s', hs', he⟩ := serve_ready_steps s req d fun _ => hid
      rw [if_pos hd] at he
      exact ⟨s', hs', he.trans (Option.some.inj h)⟩
    · rw [if_neg hd] at h
      obtain ⟨s', hs', he⟩ := serve_ready_steps s req d fun h' => absurd h' hd
      rw [if_neg hd] at he
      exact ⟨s', hs', he.trans (Option.some.inj h)⟩

end Sys

/-- Every state reached one request at a time is reachable with interleavings. -/
theorem Serial.reachable_sys {q : Serial} (hq : Serial.Reachable q) :
    ∃ s, Sys.Reachable s ∧ s.serial = q := by
  induction hq with
  | init => exact ⟨Sys.init, .init, rfl⟩
  | step r _ hr ih =>
    obtain ⟨s, hs, rfl⟩ := ih
    obtain ⟨s', hss', he⟩ := Sys.serve_steps hr
    exact ⟨s', hss'.reachable hs, he⟩

theorem reachable_sys_liveRevoke :
    Serial.Reachable ((Serial.init.run Serial.liveRevoke).getD .init) ∧
    ∃ s, Sys.Reachable s ∧ s.serial = (Serial.init.run Serial.liveRevoke).getD .init := by
  have h : Serial.Reachable ((Serial.init.run Serial.liveRevoke).getD .init) :=
    Serial.reachable_of_run .init
      (show Serial.init.run Serial.liveRevoke = some _ by decide)
  exact ⟨h, Serial.reachable_sys h⟩

/-! ### Sequential use freezes the keys that are not active -/

theorem StreamKeyService.revoke_streamKeys (db : Store) (id : Nat) (d : RevokeDraw) :
    (StreamKeyService.revoke db id d).2.streamKeys = db.streamKeys ∨
      ∃ key, StreamKeyRepo.getByID db id d.getFault = .ok key ∧ key.status = .active ∧
        (StreamKeyService.revoke db id d).2.streamKeys =
          (db.updateKey id fun k => { k with status := .revoked, revokedAt := some d.now }).streamKeys := by
  have hupd (db₁ : Store) (h₁ : db₁.streamKeys = db.streamKeys) :
      (StreamKeyService.revokeKey db₁ id d).2.streamKeys = db.streamKeys ∨
        (StreamKeyService.revokeKey db₁ id d).2.streamKeys =
          (db.updateKey id fun k => { k with status := .revoked, revokedAt := some d.now }).streamKeys := by
    unfold StreamKeyService.revokeKey
    split
    · rename_i h
      exact .inr (by rw [(StreamKeyRepo.updateStatus_ok h).2]; simp [Store.updateKey, h₁])
    · exact .inl h₁
  unfold StreamKeyService.revoke
  cases hg : StreamKeyRepo.getByID db id d.getFault with
  | error e => exact .inl rfl
  | ok key =>
    by_cases ha : key.status = .active
    · simp only [ha, ne_eq, not_true_eq_false, if_false]
      split
      · rcases hupd db rfl with h | h
        exacts [.inl h, .inr ⟨key, rfl, ha, h⟩]
      · exact .inl rfl
      · rcases hupd _ (StreamKeyService.endLogged_streamKeys db _ d) with h | h
        exacts [.inl h, .inr ⟨key, rfl, ha, h⟩]
    · exact .inl (by simp [ha])

namespace Serial

/-- Every key row after a request is fresh, or an old row of its id, unchanged or once active. -/
theorem serve_key_row {q q' : Serial} {r : Request} (ht : Tables q.issuedIds q.issuedKeys q.db)
    (h : q.serve r = some q') :
    ∀ k' ∈ q'.db.streamKeys, k'.id ∉ q.issuedIds ∨
      ∃ k ∈ q.db.streamKeys, k.id = k'.id ∧ (k' = k ∨ k.status = .active) := by
  have kept (k' : StreamKey) (hk' : k' ∈ q.db.streamKeys) :
      k'.id ∉ q.issuedIds ∨ ∃ k ∈ q.db.streamKeys, k.id = k'.id ∧ (k' = k ∨ k.status = .active) :=
    .inr ⟨k', hk', rfl, .inl rfl⟩
  have active (key : StreamKey) (f : StreamKey → StreamKey) (hkey : key ∈ q.db.streamKeys)
      (ha : key.status = .active) (k' : StreamKey) (hk' : k' ∈ (q.db.updateKey key.id f).streamKeys)
      (hf : ∀ x, (f x).id = x.id) :
      k'.id ∉ q.issuedIds ∨ ∃ k ∈ q.db.streamKeys, k.id = k'.id ∧ (k' = k ∨ k.status = .active) := by
    obtain ⟨x, hx, hxid, hcase⟩ := Store.mem_updateKey_cases hk' hf
    rcases hcase with he | ⟨hxk, -⟩
    · exact .inr ⟨x, hx, hxid, .inl he⟩
    · exact .inr ⟨x, hx, hxid, .inr (ht.key_eq_of_id hkey hx hxk.symm ▸ ha)⟩
  intro k' hk'
  cases r with
  | authenticate req now fault =>
    cases h
    rcases authenticate_cases q.db req now fault with ⟨-, he⟩ | ⟨-, -, he⟩ | ⟨-, _, he⟩ |
      ⟨-, -, res, db', htx, he⟩ <;> rw [he] at hk'
    iterate 3 exact kept k' hk'
    rcases authenticateTx_cases htx with ⟨-, rfl, -⟩ | ⟨key, hkey, ha, -, -, rfl⟩ |
      ⟨key, hkey, ha, -, -, -, rfl⟩
    · exact kept k' hk'
    · exact active key _ (Store.mem_of_keyByValue hkey).1 ha k' hk' fun _ => rfl
    · exact active key _ (Store.mem_of_keyByValue hkey).1 ha k' hk' fun _ => rfl
  | notReady req now fault =>
    cases h
    rcases handleNotReady_db q.db (some req) now fault with he | ⟨p, he⟩ <;> rw [he] at hk' <;>
      exact kept k' hk'
  | createBroadcaster id fault =>
    simp only [serve] at h
    split_ifs at h
    cases h
    rcases BroadcasterService.create_db q.db id fault with he | he <;> rw [he] at hk' <;>
      exact kept k' hk'
  | deleteBroadcaster id fault =>
    cases h
    rcases BroadcasterService.delete_db q.db id fault with he | he <;> rw [he] at hk'
    · exact kept k' hk'
    · exact kept k' (List.mem_filter.mp hk').1
  | createStreamKey req draw id now fault =>
    simp only [serve] at h
    split at h
    · cases h
      exact kept k' hk'
    · rename_i v hv
      split_ifs at h with hfresh
      cases h
      rcases StreamKeyService.create_db q.db req id now fault hv with he | ⟨key, hid, -, -, he⟩ <;>
        rw [he] at hk'
      · exact kept k' hk'
      · rcases List.mem_cons.mp hk' with rfl | hk'
        · exact .inl (hid ▸ (not_or.mp hfresh).1)
        · exact kept k' hk'
  | revoke id d =>
    cases h
    rcases StreamKeyService.revoke_streamKeys q.db id d with he | ⟨key, hg, ha, he⟩ <;>
      simp only [he] at hk'
    · exact kept k' hk'
    · obtain ⟨hkey, rfl⟩ := StreamKeyRepo.getByID_ok hg
      exact active key _ hkey ha k' hk' fun _ => rfl
  | ready req d =>
    have hdb : q'.db = (handleReady q.db (some req) d).1 := by
      simp only [serve] at h
      split_ifs at h <;> cases h <;> rfl
    rw [hdb] at hk'
    rcases handleReady_inserts q.db req d with he | ⟨key, -, -, he⟩ <;> rw [he] at hk' <;>
      exact kept k' hk'

end Serial

namespace Sys

theorem serve_frozen {s : Sys} {r : Request} {q₁ : Serial} (hs : Reachable s)
    (h : s.serial.serve r = some q₁) {k : StreamKey} (hna : k.status ≠ .active)
    (hfix : ∀ k' ∈ s.db.streamKeys, k'.id = k.id → k' = k) :
    ∀ k' ∈ q₁.db.streamKeys, k'.id = k.id → k.id ∈ s.issuedIds → k' = k := by
  intro k' hk' hid hi
  rcases Serial.serve_key_row (reachable_wf hs).tables h k' hk' with hn | ⟨x, hx, hxid, he | ha⟩
  · exact absurd (hid ▸ hi) hn
  · rw [he, hfix x hx (hxid.trans hid)]
  · exact absurd (hfix x hx (hxid.trans hid) ▸ ha) hna

/-- Served one request at a time, a revoked or expired key row never changes again. -/
theorem inactive_key_frozen {s : Sys} {q' : Serial} {rs : List Request} (hs : Reachable s)
    (h : s.serial.run rs = some q') {k : StreamKey} (hk : k ∈ s.db.streamKeys)
    (hna : k.status ≠ .active) :
    ∀ k' ∈ q'.db.streamKeys, k'.id = k.id → k' = k := by
  have ht := (reachable_wf hs).tables
  suffices ∀ t : Sys, Reachable t → k.id ∈ t.issuedIds → (∀ k' ∈ t.db.streamKeys, k'.id = k.id → k' = k) →
      t.serial.run rs = some q' → ∀ k' ∈ q'.db.streamKeys, k'.id = k.id → k' = k from
    this s hs (ht.keyID_issued k hk) (fun k' hk' hid => ht.key_eq_of_id hk' hk hid) h
  clear h
  induction rs with
  | nil =>
    intro t _ _ hfix h
    simp only [Serial.run, Option.some.injEq] at h
    exact h ▸ hfix
  | cons r rs ih =>
    intro t ht hi hfix h
    simp only [Serial.run, Option.bind_eq_some] at h
    obtain ⟨q₁, h₁, h₂⟩ := h
    obtain ⟨t₁, htt, rfl⟩ := serve_steps h₁
    exact ih t₁ (htt.reachable ht) ((htt.issued (reachable_wf ht)).1 hi)
      (fun k' hk' hid => serve_frozen ht h₁ hna hfix k' hk' hid hi) h₂

theorem inactive_key_frozen_revokeIdle :
    let s := init.after revokeIdle
    let rs : List Request := [.revoke 1 ⟨false, false, 2, false, 2, false⟩,
      .authenticate ⟨zeroKey, "publish", zeroKey⟩ 3 none]
    let k : StreamKey := ⟨1, zeroKey, 0, .revoked, 0, none, some 1, none⟩
    Reachable s ∧ s.serial.run rs = some ((s.serial.run rs).getD s.serial) ∧ k ∈ s.db.streamKeys ∧
      k.status ≠ .active ∧ ∀ k' ∈ ((s.serial.run rs).getD s.serial).db.streamKeys, k'.id = k.id → k' = k := by
  intro s rs k
  have hs : Reachable s := reachable_of_run (run_after (by decide))
  have h : s.serial.run rs = some ((s.serial.run rs).getD s.serial) := by decide
  have hk : k ∈ s.db.streamKeys := by decide
  have hna : k.status ≠ .active := by decide
  exact ⟨hs, h, hk, hna, inactive_key_frozen hs h hk hna⟩

end Sys

end RescueStream
