import RescueStream.System.Streams
import RescueStream.Handler.Admin

/-! The admin API over the reachable states. The key endpoints clear every key value they
return, but a stream's path is the value of its key, and `GET /streams` lists each active
stream with its path and the playback URLs built from it: every key in use can be read off
the stream listing. -/

namespace RescueStream

theorem StreamService.listActive_ok (publicURL : String) (db : Store) :
    StreamService.listActive publicURL db false =
      .ok (((db.streams.filter (·.status = .active)).insertionSort
        fun a b => b.startedAt ≤ a.startedAt).map (withURLs publicURL)) := rfl

namespace Sys

/-- The key endpoints clear key values; `GET /streams` shows each active stream's. -/
theorem streams_show_key_values {s : Sys} (hs : Reachable s) (publicURL : String) :
    (∀ path fault resp, StreamKeyHandler.listStreamKeys path s.db fault =
      .json 200 (.streamKeyList resp) → ∀ k ∈ resp.streamKeys, k.keyValue = "") ∧
    (∀ parseUUID path idStr fault key, StreamKeyHandler.getStreamKey parseUUID path s.db idStr fault =
      .json 200 (.streamKey key) → key.keyValue = "") ∧
    ∀ path, ∃ resp, StreamHandler.listStreams publicURL path s.db false = .json 200 (.streamList resp) ∧
      ∀ k ∈ s.db.streamKeys, ∀ r ∈ s.db.streams, r.streamKeyID = k.id → r.status = .active →
        ∃ e ∈ resp.streams, e.stream.path = k.keyValue ∧
          e.urls.hls = getHLSURL publicURL k.keyValue ∧ e.urls.webRTC = getWebRTCURL publicURL k.keyValue := by
  refine ⟨fun path fault resp h => ?_, fun parseUUID path idStr fault key h => ?_, fun path => ?_⟩
  · unfold StreamKeyHandler.listStreamKeys at h
    split at h
    · cases h
    · rename_i keys hl
      cases h
      exact StreamKeyService.list_keyValue hl
  · unfold StreamKeyHandler.getStreamKey at h
    split at h
    · cases h
    · split at h <;> cases h
      rfl
  · refine ⟨_, by rw [StreamHandler.listStreams, StreamService.listActive_ok], fun k hk r hr hrk ha => ?_⟩
    have hv := (reachable_wf hs).tables.keyValue_eq_path hr hk hrk.symm
    refine ⟨StreamService.withURLs publicURL r, ?_, ?_⟩
    · exact List.mem_map_of_mem _ ((List.mem_insertionSort _).mpr (List.mem_filter.mpr ⟨hr, by simpa⟩))
    · simp [StreamService.withURLs, hv]

theorem streams_show_key_values_redelivery :
    Reachable (init.after redelivery) ∧
    (∀ path fault resp, StreamKeyHandler.listStreamKeys path (init.after redelivery).db fault =
      .json 200 (.streamKeyList resp) → ∀ k ∈ resp.streamKeys, k.keyValue = "") ∧
    (∀ parseUUID path idStr fault key, StreamKeyHandler.getStreamKey parseUUID path
      (init.after redelivery).db idStr fault = .json 200 (.streamKey key) → key.keyValue = "") ∧
    ∀ path, ∃ resp, StreamHandler.listStreams "pub" path (init.after redelivery).db false =
        .json 200 (.streamList resp) ∧
      ∀ k ∈ (init.after redelivery).db.streamKeys, ∀ r ∈ (init.after redelivery).db.streams,
        r.streamKeyID = k.id → r.status = .active →
        ∃ e ∈ resp.streams, e.stream.path = k.keyValue ∧
          e.urls.hls = getHLSURL "pub" k.keyValue ∧
          e.urls.webRTC = getWebRTCURL "pub" k.keyValue :=
  ⟨reachable_redelivery, streams_show_key_values reachable_redelivery "pub"⟩

end Sys

end RescueStream
