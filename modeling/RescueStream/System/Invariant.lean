import RescueStream.System.Change

/-! The invariant of the whole service: `Tables` of the tables, and `ProcInv` of every call
started. A `handleReady` about to insert knows that the key it found keeps its value; a
`Revoke` that found an active stream knows it drew its id, and, once `EndStream` did its
work, that no row with that id is active; a `Revoke` that returned `nil` knows that its
key row is revoked. `step_change` says which `DbChange` each action is, `step_wf` that
every action keeps the invariant, and `reachable_wf` that every reachable state has it. -/

namespace RescueStream

/-- `EndStream` did its work: it ended the row, or found no active row with the id. -/
def EndedOk (r : Except Error Unit) : Prop := r = .ok () ∨ r = .error .notFound

def Terminated (ids : List Nat) (db : Store) : Option (Stream × Except Error Unit) → Prop
  | none => True
  | some (st, r) => st.id ∈ ids ∧ (EndedOk r → ∀ x ∈ db.streams, x.id = st.id → x.status ≠ .active)

/-- What a call in flight, or returned, knows about the tables. -/
def ProcInv (ids : List Nat) (db : Store) : Proc → Prop
  | .ready req (.insert key) => key.id ∈ ids ∧ key.keyValue = req.path ∧
      ∀ k ∈ db.streamKeys, k.id = key.id → k.keyValue = key.keyValue
  | .revoke _ (.kick st) => st.id ∈ ids
  | .revoke _ (.endStream st) => st.id ∈ ids
  | .revoke _ (.updateStatus t) => Terminated ids db t
  | .revoke id (.returned t (.ok ())) => id ∈ ids ∧
      (∀ k ∈ db.streamKeys, k.id = id → k.status = .revoked ∧ k.revokedAt ≠ none) ∧
      Terminated ids db t
  | _ => True

section Stable

variable {ids ids' : List Nat} {vals vals' : List String} {db db' : Store}

theorem Terminated.change (h : DbChange ids vals db ids' vals' db')
    {t : Option (Stream × Except Error Unit)} (ht : Terminated ids db t) : Terminated ids' db' t := by
  match t, ht with
  | none, _ => trivial
  | some (st, r), ⟨hid, hend⟩ =>
    refine ⟨h.ids_subset hid, fun hr x hx hxid => ?_⟩
    rcases h.row_history x hx with ⟨y, hy, hs⟩ | hfresh
    · have hy' := hend hr y hy (hs.id_eq ▸ hxid)
      rwa [hs.eq_of_not_active hy']
    · exact absurd (hxid ▸ hid) hfresh

/-- What a call knows survives every change of the tables. -/
theorem ProcInv.change (h : DbChange ids vals db ids' vals' db') {p : Proc}
    (hp : ProcInv ids db p) : ProcInv ids' db' p := by
  match p, hp with
  | .ready req (.insert key), ⟨hid, hpath, hval⟩ =>
    refine ⟨h.ids_subset hid, hpath, fun k hk he => ?_⟩
    rcases h.key_history k hk with ⟨k₀, hk₀, h₁, h₂, -⟩ | ⟨hfresh, -⟩
    · rw [h₂]; exact hval k₀ hk₀ (h₁ ▸ he)
    · exact absurd (he ▸ hid) hfresh
  | .ready _ .lookup, _ | .ready _ (.answered _), _ => trivial
  | .revoke _ .start, _ | .revoke _ .checkActive, _ => trivial
  | .revoke _ (.kick _), hid | .revoke _ (.endStream _), hid => exact h.ids_subset hid
  | .revoke _ (.updateStatus _), ht => exact Terminated.change h ht
  | .revoke id (.returned t (.ok ())), ⟨hid, hkeys, ht⟩ =>
    refine ⟨h.ids_subset hid, fun k hk he => ?_, Terminated.change h ht⟩
    rcases h.key_history k hk with ⟨k₀, hk₀, hs⟩ | ⟨hfresh, -⟩
    · exact hs.revoked (hkeys k₀ hk₀ (hs.1 ▸ he))
    · exact absurd (he ▸ hid) hfresh
  | .revoke _ (.returned _ (.error _)), _ => trivial

end Stable

section Moved

variable {ids : List Nat} {vals : List String} {db db' : Store} {now : Int} {fault : Bool}

theorem revokeStep_inv {id : Nat} {pc pc' : RevokePc} (ht : Tables ids vals db)
    (hp : ProcInv ids db (.revoke id pc)) (h : revokeStep db id now fault pc = some (pc', db')) :
    ProcInv ids db' (.revoke id pc') := by
  cases pc with
  | start =>
    simp only [revokeStep, Option.some.injEq] at h
    split at h <;> [skip; split_ifs at h] <;> obtain ⟨rfl, rfl⟩ := Prod.mk.inj h <;> trivial
  | checkActive =>
    simp only [revokeStep, Option.some.injEq] at h
    split at h <;> obtain ⟨rfl, rfl⟩ := Prod.mk.inj h
    · rename_i st hst
      exact ht.streamID_issued st (StreamRepo.getActiveByStreamKeyID_ok hst).1
    all_goals trivial
  | kick st => obtain ⟨rfl, rfl⟩ := Prod.mk.inj (Option.some.inj h); exact hp
  | endStream st =>
    simp only [revokeStep, Option.some.injEq] at h
    split at h <;> obtain ⟨rfl, rfl⟩ := Prod.mk.inj h
    · rename_i db₁ he
      refine ⟨hp, fun _ x hx hid => ?_⟩
      rw [StreamRepo.endActive_ok he] at hx
      obtain ⟨y, -, rfl⟩ := Store.mem_endWhere.mp hx
      split_ifs at hid ⊢ with hc
      · simp
      · exact fun ha => hc ⟨by simpa using hid, ha⟩
    · rename_i e he
      refine ⟨hp, fun hr x hx hid => ?_⟩
      rcases hr with hr | hr <;> cases hr
      exact StreamRepo.endActive_notFound he x hx (by simp [hid])
  | updateStatus t =>
    simp only [revokeStep, Option.some.injEq] at h
    split at h <;> obtain ⟨rfl, rfl⟩ := Prod.mk.inj h
    · rename_i db₁ he
      obtain ⟨⟨k, hk, hkid⟩, rfl⟩ := StreamKeyRepo.updateStatus_ok he
      refine ⟨hkid ▸ ht.keyID_issued k hk, fun k' hk' he' => ?_, Terminated.change
        (@DbChange.updateKey ids vals _ id
          (fun k => { k with status := .revoked, revokedAt := some now })
          (fun _ => rfl) (fun _ => rfl) fun _ _ _ => ⟨rfl, rfl, .inr (.inl ⟨rfl, by simp⟩)⟩) hp⟩
      obtain ⟨x, -, rfl⟩ := Store.mem_updateKey.mp hk'
      split_ifs at he' ⊢ with hx
      · simp
      · exact absurd he' hx
    · trivial
  | returned t r => cases h

/-- The statement a call runs leaves it knowing what `ProcInv` says of its next point. -/
theorem readyStep_inv {req : WebhookReadyRequest} {u : Nat} {pc pc' : ReadyPc}
    (ht : Tables ids vals db) (h : readyStep db req u now fault pc = some (pc', db')) :
    ProcInv ids db' (.ready req pc') := by
  cases pc with
  | lookup =>
    simp only [readyStep, Option.some.injEq] at h
    split at h <;> obtain ⟨rfl, rfl⟩ := Prod.mk.inj h
    · trivial
    · rename_i key hkey
      obtain ⟨hk, hv⟩ := StreamKeyRepo.getByKeyValue_ok hkey
      exact ⟨ht.keyID_issued key hk, hv, fun k hk' he => by rw [ht.key_eq_of_id hk' hk he]⟩
  | insert key =>
    simp only [readyStep, Option.some.injEq] at h
    split at h <;> obtain ⟨rfl, rfl⟩ := Prod.mk.inj h <;> trivial
  | answered r => cases h

end Moved

namespace Sys

/-- The invariant of the service. -/
structure WF (s : Sys) : Prop where
  tables : Tables s.issuedIds s.issuedKeys s.db
  procs : ∀ p ∈ s.procs, ProcInv s.issuedIds s.db p

theorem WF.init : init.WF := ⟨Tables.empty, fun _ h => nomatch h⟩

theorem advance_change {s s' : Sys} {pid u : Nat} {now : Int} {fault : Bool} (hw : s.WF)
    (h : s.advance pid u now fault = some s') :
    DbChange s.issuedIds s.issuedKeys s.db s'.issuedIds s'.issuedKeys s'.db := by
  unfold advance at h
  split at h
  · obtain ⟨⟨pc', db'⟩, hr, rfl⟩ := Option.map_eq_some'.mp h
    rcases revokeStep_db hr with rfl | ⟨st, -, rfl⟩ | rfl
    · exact .refl
    · exact .endWhere _ _
    · exact .updateKey _ _ (fun _ => rfl) (fun _ => rfl) fun _ _ _ =>
        ⟨rfl, rfl, .inr (.inl ⟨rfl, by simp⟩)⟩
  · rename_i req key hp
    split_ifs at h with hu
    obtain ⟨⟨pc', db'⟩, hr, rfl⟩ := Option.map_eq_some'.mp h
    rcases readyStep_db hr with rfl | ⟨key', hkey', hins, rfl⟩
    · exact .grow _ _ (List.subset_cons_self _ _) (fun _ h => h)
    · cases hkey'
      obtain ⟨-, hpath, hval⟩ := hw.procs _ (List.getElem?_mem hp)
      exact .insertStream _ hu hins rfl rfl fun k hk he => (hval k hk he).trans hpath
  · rename_i req pc hne hp
    obtain ⟨⟨pc', db'⟩, hr, rfl⟩ := Option.map_eq_some'.mp h
    rcases readyStep_db hr with rfl | ⟨key', rfl, -, -⟩
    · exact .refl
    · exact absurd rfl (hne key')
  · cases h

/-- Which `DbChange` each action is. -/
theorem step_change {s s' : Sys} {a : Action} (hw : s.WF) (h : s.step a = some s') :
    DbChange s.issuedIds s.issuedKeys s.db s'.issuedIds s'.issuedKeys s'.db := by
  cases a with
  | authenticate req now fault =>
    simp only [step, Option.some.injEq] at h; subst h
    rcases authenticate_db s.db req now fault with he | ⟨key, hk, hact, he⟩ | ⟨key, -, he⟩ <;>
      dsimp only <;> rw [he]
    · exact .refl
    · refine .updateKey _ _ (fun _ => rfl) (fun _ => rfl) fun k hk' hid => ?_
      rw [hw.tables.key_eq_of_id hk' (List.mem_of_find?_eq_some hk) hid]
      exact ⟨rfl, rfl, .inr (.inr ⟨hact, rfl, rfl⟩)⟩
    · exact .updateKey _ _ (fun _ => rfl) (fun _ => rfl) fun k _ _ => KeyStep.refl k
  | notReady req now fault =>
    simp only [step, Option.some.injEq] at h; subst h
    rcases handleNotReady_db s.db (some req) now fault with he | ⟨p, he⟩ <;> dsimp only <;> rw [he]
    · exact .refl
    · exact .endWhere _ _
  | createBroadcaster id fault =>
    simp only [step] at h
    split_ifs at h
    simp only [Option.some.injEq] at h; subst h
    rcases BroadcasterService.create_db s.db id fault with he | he <;> dsimp only <;> rw [he]
    · exact .grow _ _ (List.subset_cons_self _ _) (fun _ h => h)
    · exact .insertBroadcaster id
  | deleteBroadcaster id fault =>
    simp only [step, Option.some.injEq] at h; subst h
    rcases BroadcasterService.delete_db s.db id fault with he | he <;> dsimp only <;> rw [he]
    · exact .refl
    · exact .deleteBroadcaster id
  | createStreamKey req draw id now fault =>
    simp only [step] at h
    split at h
    · simp only [Option.some.injEq] at h; subst h; exact .refl
    · rename_i v hv
      split_ifs at h with hfresh
      simp only [Option.some.injEq] at h; subst h
      push_neg at hfresh
      rcases StreamKeyService.create_db s.db req id now fault hv with he | ⟨key, rfl, rfl, -, he⟩ <;>
        dsimp only <;> rw [he]
      · exact .grow _ _ (List.subset_cons_self _ _) (List.subset_cons_self _ _)
      · exact .insertKey key hfresh.1 hfresh.2
  | startRevoke id => simp only [step, Option.some.injEq] at h; subst h; exact .refl
  | startReady req => simp only [step, Option.some.injEq] at h; subst h; exact .refl
  | advance pid u now fault => exact advance_change hw h

/-- After an action every call is an old one or one whose `ProcInv` holds anew. -/
theorem step_procs {s s' : Sys} {a : Action} (hw : s.WF) (h : s.step a = some s') :
    ∀ p ∈ s'.procs, p ∈ s.procs ∨ ProcInv s'.issuedIds s'.db p := by
  have hstart : ∀ req, ProcInv s.issuedIds s.db (.ready req (readyStart req)) := fun req => by
    unfold readyStart; split_ifs <;> trivial
  cases a with
  | startRevoke id =>
    simp only [step, Option.some.injEq] at h; subst h
    intro p hp
    rcases List.mem_append.mp hp with hp | hp
    · exact .inl hp
    · rw [List.mem_singleton.mp hp]; exact .inr trivial
  | startReady req =>
    simp only [step, Option.some.injEq] at h; subst h
    intro p hp
    rcases List.mem_append.mp hp with hp | hp
    · exact .inl hp
    · rw [List.mem_singleton.mp hp]; exact .inr (hstart req)
  | advance pid u now fault =>
    simp only [step, advance] at h
    intro p hp
    split at h
    · obtain ⟨⟨pc', db'⟩, hr, rfl⟩ := Option.map_eq_some'.mp h
      rename_i id pc hpc
      rcases List.mem_or_eq_of_mem_set hp with hp | rfl
      · exact .inl hp
      · exact .inr (revokeStep_inv hw.tables (hw.procs _ (List.getElem?_mem hpc)) hr)
    · split_ifs at h
      obtain ⟨⟨pc', db'⟩, hr, rfl⟩ := Option.map_eq_some'.mp h
      rcases List.mem_or_eq_of_mem_set hp with hp | rfl
      · exact .inl hp
      · exact .inr (ProcInv.change (.grow _ s.issuedKeys (List.subset_cons_self _ _) fun _ h => h)
          (readyStep_inv hw.tables hr))
    · obtain ⟨⟨pc', db'⟩, hr, rfl⟩ := Option.map_eq_some'.mp h
      rcases List.mem_or_eq_of_mem_set hp with hp | rfl
      · exact .inl hp
      · exact .inr (readyStep_inv hw.tables hr)
    · cases h
  | _ =>
    simp only [step] at h
    repeat' split at h
    all_goals first
      | (simp only [Option.some.injEq] at h; subst h; exact fun p hp => .inl hp)
      | cases h

/-- Every action keeps the invariant. -/
theorem step_wf {s s' : Sys} {a : Action} (hw : s.WF) (h : s.step a = some s') : s'.WF := by
  have hc := step_change hw h
  refine ⟨hc.tables hw.tables, fun p hp => ?_⟩
  rcases step_procs hw h p hp with hp | hp
  · exact ProcInv.change hc (hw.procs p hp)
  · exact hp

theorem reachable_wf {s : Sys} (h : Reachable s) : s.WF := by
  induction h with
  | init => exact WF.init
  | step a _ hs ih => exact step_wf ih hs

end Sys

end RescueStream
