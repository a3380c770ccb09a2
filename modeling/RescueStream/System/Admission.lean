import RescueStream.System.DataModel

/-! Admissions against the rest of the service. `Authenticate` takes the stream key from the
password, or from the path without one leading slash, while the `ready` webhook looks the key
up by the path as it is: the two agree when the value presented is the path itself, and never
when a password different from the path is presented, nor when an empty password leaves the
key to a path with a leading slash, since key values are URL-safe. An admission writes only the key's
`last_used_at`, which no admission reads, so two admissions with nothing between them both
succeed: the key counts as in use only once the `ready` webhook has created its stream. -/

namespace RescueStream

namespace Sys

/-! ### Two admissions in a row -/

/-- Two publish requests with the value of an idle key, one after the other, are both admitted. -/
theorem admissions_back_to_back :
    Reachable (init.after setup) ∧
    ((init.after setup).db.keyByID 1).map (·.status) = some .active ∧
    (init.after setup).db.activeStreamOf 1 = none ∧
    admitted (authenticate (init.after setup).db ⟨zeroKey, "publish", zeroKey⟩ 1 none).1 = true ∧
    admitted (authenticate (authenticate (init.after setup).db ⟨zeroKey, "publish", zeroKey⟩ 1 none).2
      ⟨zeroKey, "publish", zeroKey⟩ 2 none).1 = true :=
  ⟨reachable_of_run (run_after (by decide)), by decide, by decide, by decide, by decide⟩

/-! ### The key the ready webhook finds -/

/-- After an admission, `ready`'s lookup by path finds its key only when the path was presented. -/
theorem admitted_key_by_path {s s' : Sys} (hs : Reachable s) (h : Steps s s') {req : AuthRequest}
    {now : Int} {fault : Option AuthStmt} {res : AuthResult} {id : Nat}
    (hres : (authenticate s.db req now fault).1 = .ok res) (ha : res.allowed = true)
    (hp : req.action = "publish") (hid : res.streamKeyID = some id) :
    (extractKeyValue req = req.path →
      (∀ k, StreamKeyRepo.getByKeyValue s'.db req.path false = .ok k → k.id = id) ∧
      ((∃ k ∈ s'.db.streamKeys, k.id = id) →
        ∃ k, StreamKeyRepo.getByKeyValue s'.db req.path false = .ok k)) ∧
    (req.password ≠ "" → req.password ≠ req.path →
      ∀ k, StreamKeyRepo.getByKeyValue s'.db req.path false = .ok k → k.id ≠ id) ∧
    (req.password = "" → req.path.data.head? = some '/' →
      ∀ k, StreamKeyRepo.getByKeyValue s'.db req.path false ≠ .ok k) := by
  have hw := reachable_wf hs
  obtain ⟨K, hK, -, -, -, hKid, -⟩ := authenticate_allowed hres ha hp
  obtain rfl : K.id = id := Option.some.inj (hKid.symm.trans hid)
  obtain ⟨hKm, hKv⟩ := Store.mem_of_keyByValue hK
  refine ⟨fun hx => ⟨fun k hk => ?_, fun ⟨k, hk, hkid⟩ => ?_⟩, fun hne hne' k hk hkid => ?_,
    fun _ hslash k hk => ?_⟩
  · obtain ⟨hkm, hkv⟩ := StreamKeyRepo.getByKeyValue_ok hk
    have he : k.keyValue = K.keyValue := hkv.trans (hx.symm.trans hKv.symm)
    exact (KeyStep.trace_id (h.key_trace_of_mem hw hKm hkm (.inr he))).1
  · have hv := (KeyStep.trace_id (h.key_trace_of_mem hw hKm hk (.inl hkid))).2
    obtain ⟨k', hk'⟩ := Store.keyByValue_isSome hk (hv.trans (hKv.trans hx))
    exact ⟨k', by simp [StreamKeyRepo.getByKeyValue, StreamKeyRepo.scanStreamKey, hk']⟩
  · obtain ⟨hkm, hkv⟩ := StreamKeyRepo.getByKeyValue_ok hk
    have hv := (KeyStep.trace_id (h.key_trace_of_mem hw hKm hkm (.inl hkid))).2
    have hx : extractKeyValue req = req.password := by simp [extractKeyValue, hne]
    exact hne' (hx.symm.trans (hKv.symm.trans (hv.symm.trans hkv)))
  · -- Key values are URL-safe, so none starts with a slash.
    obtain ⟨hkm, hkv⟩ := StreamKeyRepo.getByKeyValue_ok hk
    have hurl := (keyValue_valid (h.reachable hs) k hkm).2.2 '/' (hkv ▸ List.mem_of_mem_head? hslash)
    exact absurd hurl (by decide)

theorem admitted_key_by_path_setup :
    let s := init.after setup
    let req : AuthRequest := ⟨zeroKey, "publish", zeroKey⟩
    let res : AuthResult := ⟨true, some 1, "authentication successful"⟩
    let s' := s.after [.authenticate req 1 none]
    Reachable s ∧ Steps s s' ∧ (authenticate s.db req 1 none).1 = .ok res ∧ res.allowed = true ∧
    req.action = "publish" ∧ res.streamKeyID = some 1 ∧
    (extractKeyValue req = req.path →
      (∀ k, StreamKeyRepo.getByKeyValue s'.db req.path false = .ok k → k.id = 1) ∧
      ((∃ k ∈ s'.db.streamKeys, k.id = 1) →
        ∃ k, StreamKeyRepo.getByKeyValue s'.db req.path false = .ok k)) ∧
    (req.password ≠ "" → req.password ≠ req.path →
      ∀ k, StreamKeyRepo.getByKeyValue s'.db req.path false = .ok k → k.id ≠ 1) ∧
    (req.password = "" → req.path.data.head? = some '/' →
      ∀ k, StreamKeyRepo.getByKeyValue s'.db req.path false ≠ .ok k) := by
  intro s req res s'
  have hs : Reachable s := reachable_of_run (run_after (by decide))
  have h : Steps s s' := steps_of_run (run_after (by decide))
  have hres : (authenticate s.db req 1 none).1 = .ok res := by decide
  exact ⟨hs, h, hres, rfl, rfl, rfl, admitted_key_by_path hs h hres rfl rfl rfl⟩

/-- Key `1` as the password on the path `live/cam1`: admitted, and `ready` finds no key. -/
example :
    (authenticate (init.after setup).db ⟨zeroKey, "publish", "live/cam1"⟩ 1 none).1 =
      .ok ⟨true, some 1, "authentication successful"⟩ ∧
    StreamKeyRepo.getByKeyValue
      (authenticate (init.after setup).db ⟨zeroKey, "publish", "live/cam1"⟩ 1 none).2 "live/cam1"
      false = .error .notFound := by
  decide

end Sys

end RescueStream
