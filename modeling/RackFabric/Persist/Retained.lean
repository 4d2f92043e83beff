import RackFabric.Persist.Trail

/-!
What a store keeps of its log whatever the writes answer: nothing that was on the log is taken off it, and a record is
on the log once its append was reported as done.
-/

namespace RackFabric

namespace Store

/-- The log begins with what is there by now, and every log that a crash of this call could leave with what was there
before it. -/
structure Retains (past present : List StoreRecord) (store : Store) : Prop where
  since : past <+: present
  log : present <+: store.disk.log
  trail : ∀ crash ∈ store.trail, past <+: crash.log

variable {past present : List StoreRecord} {store : Store}

theorem Retains.attempt (retains : store.Retains past present) {disk : Disk} (grown : present <+: disk.log) :
    (store.attempt disk).1.Retains past present := by
  have written : ∀ io, Retains past present (write { store with io := io } disk) := by
    intro io
    refine ⟨retains.since, grown, ?_⟩
    intro crash member
    rcases List.mem_append.mp member with earlier | last
    · exact retains.trail crash earlier
    · rw [List.mem_singleton.mp last]
      exact retains.since.trans grown
  unfold Store.attempt answer
  cases outcomes : store.io with
  | nil => exact written store.io
  | cons outcome rest =>
    cases outcome with
    | done => exact written rest
    | lost detail => exact ⟨retains.since, retains.log, retains.trail⟩
    | stored detail => exact written rest

theorem Retains.append (retains : store.Retains past present) (record : StoreRecord) :
    (store.append record).1.Retains past present := by
  unfold Store.append
  split
  · exact retains
  · have grown : present <+: Disk.log { store.disk with wal := some (store.disk.log ++ [record]) } :=
      retains.log.trans (List.prefix_append _ _)
    have attempted := retains.attempt grown
    split
    · rename_i failed
      rwa [failed] at attempted
    · rename_i done
      rw [done] at attempted
      exact ⟨attempted.since, attempted.log, attempted.trail⟩

theorem Retains.writeCheckpoint (retains : store.Retains past present) (checkpoint : Checkpoint) :
    (store.writeCheckpoint checkpoint).1.Retains past present := by
  have rotated : store.rotate.Retains past present := by
    unfold Store.rotate
    split
    · exact retains
    · exact retains.attempt retains.log
  unfold Store.writeCheckpoint
  split
  · exact retains
  · dsimp only
    generalize store.rotate = middle at rotated ⊢
    have kept : present <+: Disk.log { middle.disk with checkpoint := .intact checkpoint } := rotated.log
    have stored := rotated.attempt kept
    split
    · rename_i failed
      rwa [failed] at stored
    · rename_i written done
      rw [done] at stored
      have pointed : ∀ {manifest : Meta} {next : Store} {result : Result Unit},
          written.persistMeta manifest = (next, result) → next.Retains past present := by
        intro manifest next result persisted
        have still : present <+: Disk.log { written.disk with manifest := .intact manifest } := stored.log
        have described := Retains.attempt stored still
        rwa [← persistMeta, persisted] at described
      split
      · rename_i failed
        exact pointed failed
      · rename_i done
        exact ⟨(pointed done).since, (pointed done).log, (pointed done).trail⟩

/-- An append that is reported as done is on the log. -/
theorem append_logged {next : Store} {record : StoreRecord} (done : store.append record = (next, .ok ())) :
    record ∈ next.disk.log := by
  unfold append at done
  split at done
  · cases done
  · split at done
    · cases done
    · rename_i written attempted
      cases done
      unfold attempt at attempted
      split at attempted
      · cases attempted
        exact List.mem_append_right _ (List.mem_singleton_self record)
      · cases attempted
      · cases attempted

/-- A record whose payload is always encoded fails to be appended for a reason. -/
theorem append_error {next : Store} {record : StoreRecord} {status : Status}
    (plain : ∀ writer, ∃ written, encodeStorePayload record writer = .ok written)
    (failed : store.append record = (next, .error status)) : status.code ≠ .ok := by
  unfold append at failed
  split at failed
  · rename_i refused
    cases failed
    obtain ⟨written, encoded⟩ := plain (ByteWriter.u8 { limit := store.options.maxRecordBytes } record.code)
    simp only [encodeStoreRecord, encoded, bind, Except.bind] at refused
    split at refused
    · cases refused
      simp
    · cases refused
  · split at failed
    · rename_i attempted
      cases failed
      rw [attempt_error attempted]
      simp
    · cases failed

end Store

end RackFabric
