import RackFabric.Persist.Recovery
import RackFabric.Persist.Trail

/-!
What every record of a log has in common. A property that each appended record has is one of every record on the
disk, whatever the operating system answers and wherever a crash falls.
-/

namespace RackFabric

/-- Every record of the log has the property. -/
def Disk.Holds (property : StoreRecord → Prop) (disk : Disk) : Prop :=
  ∀ record ∈ disk.log, property record

theorem Disk.Holds.of_wal {property : StoreRecord → Prop} {before after : Disk} (holds : before.Holds property)
    (wal : after.wal = before.wal) : after.Holds property := by
  intro record member
  rw [Disk.log, wal] at member
  exact holds record member

namespace Store

/-- The disk has the property, and so has every disk a crash of this call could leave. -/
structure Holds (property : StoreRecord → Prop) (store : Store) : Prop where
  disk : store.disk.Holds property
  trail : ∀ crash ∈ store.trail, crash.Holds property

variable {property : StoreRecord → Prop} {store : Store}

theorem Holds.write (holds : store.Holds property) {disk : Disk} (fits : disk.Holds property) :
    (store.write disk).Holds property := by
  refine ⟨fits, ?_⟩
  intro crash member
  rcases List.mem_append.mp member with member | member
  · exact holds.trail crash member
  · rw [List.mem_singleton.mp member]
    exact fits

theorem Holds.attempt (holds : store.Holds property) {disk : Disk} (fits : disk.Holds property) :
    (store.attempt disk).1.Holds property := by
  unfold Store.attempt answer
  cases store.io with
  | nil => exact holds.write fits
  | cons outcome rest =>
    have waiting : Holds property { store with io := rest } := ⟨holds.disk, holds.trail⟩
    cases outcome with
    | done => exact waiting.write fits
    | lost detail => exact waiting
    | stored detail => exact waiting.write fits

theorem Holds.append (holds : store.Holds property) {record : StoreRecord} (fits : property record) :
    (store.append record).1.Holds property := by
  unfold Store.append
  split
  · exact holds
  · have grown : Disk.Holds property { store.disk with wal := some (store.disk.log ++ [record]) } := by
      intro old member
      rcases List.mem_append.mp member with member | member
      · exact holds.disk old member
      · rw [List.mem_singleton.mp member]
        exact fits
    have attempted := holds.attempt grown
    split
    · rename_i failed
      rwa [failed] at attempted
    · rename_i done
      rw [done] at attempted
      exact ⟨attempted.disk, attempted.trail⟩

theorem Holds.persistMeta (holds : store.Holds property) (manifest : Meta) :
    (store.persistMeta manifest).1.Holds property :=
  holds.attempt (holds.disk.of_wal rfl)

theorem Holds.rotate (holds : store.Holds property) : store.rotate.Holds property := by
  unfold Store.rotate
  split
  · exact holds
  · exact holds.attempt (holds.disk.of_wal rfl)

theorem Holds.writeCheckpoint (holds : store.Holds property) (checkpoint : Checkpoint) :
    (store.writeCheckpoint checkpoint).1.Holds property := by
  unfold Store.writeCheckpoint
  split
  · exact holds
  · have rotated := holds.rotate
    dsimp only
    generalize store.rotate = middle at rotated ⊢
    have stored := @Holds.attempt _ _ rotated { middle.disk with checkpoint := .intact checkpoint }
      (rotated.disk.of_wal rfl)
    split
    · rename_i failed
      rwa [failed] at stored
    · rename_i written done
      rw [done] at stored
      have pointed : ∀ {manifest : Meta} {next : Store} {result : Result Unit},
          written.persistMeta manifest = (next, result) → Holds property next := by
        intro manifest next result persisted
        have kept := Holds.persistMeta stored manifest
        rwa [persisted] at kept
      split
      · rename_i failed
        exact pointed failed
      · rename_i done
        exact ⟨(pointed done).disk, (pointed done).trail⟩

/-- Writes of the manifest alone. -/
theorem KeepsFiles.holds {before after : Store} (kept : before.KeepsFiles after) (holds : before.Holds property) :
    after.Holds property := by
  refine ⟨holds.disk.of_wal kept.wal, ?_⟩
  obtain ⟨added, trail, files⟩ := kept.trail
  intro crash member
  rw [trail] at member
  rcases List.mem_append.mp member with member | member
  · exact holds.trail crash member
  · exact holds.disk.of_wal (files crash member).1

end Store

/-- Neither half of a split log has a record that the log did not have. -/
theorem splitLog_holds {property : StoreRecord → Prop} (offset : Nat) {log : List StoreRecord}
    (every : ∀ record ∈ log, property record) :
    (∀ record ∈ (splitLog {} offset log).1, property record) ∧
      ∀ record ∈ (splitLog {} offset log).2, property record := by
  induction log generalizing offset with
  | nil => simp [splitLog]
  | cons record rest ih =>
    have others : ∀ old ∈ rest, property old := fun old member => every old (by simp [member])
    unfold splitLog
    split
    · exact ⟨by simp, every⟩
    · split
      · obtain ⟨skipped, replayed⟩ := ih (offset - frameSize {} record) others
        refine ⟨?_, replayed⟩
        intro old member
        rcases List.mem_cons.mp member with rfl | member
        · exact every _ (by simp)
        · exact skipped old member
      · simp

theorem Disk.replayed_holds {property : StoreRecord → Prop} {disk : Disk} (holds : disk.Holds property) :
    ∀ record ∈ disk.replayed, property record :=
  (splitLog_holds disk.usedCheckpoint.walOffset holds).2

theorem Store.Opened.holds {property : StoreRecord → Prop} {disk : Disk} {io : List IoOutcome} {store : Store}
    (opened : Store.Opened disk io store) (holds : disk.Holds property) : store.Holds property := by
  have kept : store.disk.Holds property := by
    intro record member
    rw [opened.log] at member
    rcases List.mem_append.mp member with member | member
    · exact (splitLog_holds disk.usedCheckpoint.walOffset holds).1 record member
    · exact Disk.replayed_holds holds record member
  refine ⟨kept, ?_⟩
  intro crash member
  rw [opened.trail] at member
  rw [List.mem_singleton.mp member]
  exact kept

end RackFabric
