import Mathlib.Data.List.Infix
import RackFabric.Persist.Retained
import RackFabric.Persist.Served

/-!
What outlives a process, byte for byte. Over every life of a directory the records of its log only grow, and a record
whose append was answered is on the log from then on, wherever later processes die.
-/

namespace RackFabric

open Foundation

namespace Store

variable {past present : List StoreRecord} {store : Store}

theorem Retains.exec (retains : store.Retains past present) (call : StoreCall) :
    (store.exec call).1.Retains past present := by
  have describes : ∀ {store next : Store} {manifest : Meta} {result : Result Unit}, store.Retains past present →
      store.persistMeta manifest = (next, result) → next.Retains past present := by
    intro store next manifest result kept persisted
    have still : present <+: Disk.log { store.disk with manifest := .intact manifest } := kept.log
    have described := Retains.attempt kept still
    rwa [← persistMeta, persisted] at described
  cases call with
  | append record => exact retains.append record
  | writeCheckpoint checkpoint => exact retains.writeCheckpoint checkpoint
  | markCleanShutdown atMs =>
    simp only [Store.exec, Store.markCleanShutdown]
    split
    · rename_i failed
      exact describes retains failed
    · rename_i done
      have kept := describes retains done
      exact ⟨kept.since, kept.log, kept.trail⟩
  | nextIncarnation =>
    have counted : Retains past present { store with incarnationCounter := store.incarnationCounter + 1 } :=
      ⟨retains.since, retains.log, retains.trail⟩
    simp only [Store.exec, Store.nextIncarnation]
    split
    · exact retains
    · split
      · rename_i failed
        exact describes counted failed
      · rename_i done
        exact describes counted done
  | bindRack rack =>
    have bound : Retains past present { store with boundRack := rack } :=
      ⟨retains.since, retains.log, retains.trail⟩
    simp only [Store.exec, Store.bindRack]
    exact describes bound (Prod.eta _).symm

theorem exec_log (store : Store) (call : StoreCall) : store.disk.log <+: (store.exec call).1.disk.log := by
  have retains : store.Retains [] store.disk.log :=
    ⟨List.nil_prefix, List.prefix_refl _, fun _ _ => List.nil_prefix⟩
  exact (retains.exec call).log

theorem cut_log (store : Store) (call : StoreCall) (reached : Nat) :
    store.disk.log <+: (store.cut call reached).log := by
  have retains : Retains store.disk.log store.disk.log { store with trail := [] } :=
    ⟨List.prefix_refl _, List.prefix_refl _, List.forall_mem_nil _⟩
  have kept := (retains.exec call).trail
  unfold cut
  dsimp only
  cases found : (store.disk :: (exec { store with trail := [] } call).1.trail)[reached]? with
  | some disk =>
    rcases List.mem_cons.mp (List.mem_of_getElem? found) with rfl | member
    · exact List.prefix_refl _
    · exact kept disk member
  | none =>
    rw [Option.getD_none, List.getLastD_eq_getLast?]
    cases last : (exec { store with trail := [] } call).1.trail.getLast? with
    | none => exact List.prefix_refl _
    | some disk => exact kept disk (List.mem_of_getLast? last)

end Store

namespace OnDisk

variable {options : Options} {directory : Directory} {disk : Disk} {life : Life Directory Store}
  {other : Life Disk RackFabric.Store}

/-- The records of the log in the files, from its start. -/
def recordsIn (options : Options) : Life Directory Store → List StoreRecord
  | .down directory => (replayLog options.maxRecordBytes directory.log 0).values
  | .up store => (replayLog options.maxRecordBytes store.directory.log 0).values

def diskOf : Life Disk RackFabric.Store → Disk
  | .down disk => disk
  | .up store => store.disk

theorem Directory.Holds.records (holds : directory.Holds options disk) :
    (replayLog options.maxRecordBytes directory.log 0).values = disk.log := by
  obtain ⟨frames, tail, held⟩ := holds.log
  exact (HoldsLog.replays (show HoldsLog options directory.log ([] ++ disk.log) frames tail from held)).1

theorem recordsIn_related (related : life.Related (Directory.Holds options) (Models options) other) :
    recordsIn options life = (diskOf other).log := by
  cases related with
  | down held => exact held.records
  | up modelled => exact modelled.holds.records

/-- No event takes a record off the log. -/
theorem step_grows (related : life.Related (Directory.Holds options) (Models options) other) (fate : Fate StoreCall) :
    (diskOf other).log <+: (diskOf ((RackFabric.Store.keeper options.toStoreOptions).step other fate)).log := by
  cases related with
  | @down directory disk held =>
    have opening := held.opens
    cases fate with
    | start =>
      rcases opening with ⟨failure, -, failed⟩ | ⟨store, other, -, opened, -, same, -⟩
      · simp only [Keeper.step, RackFabric.Store.keeper, failed]
        exact List.prefix_refl _
      · simp only [Keeper.step, RackFabric.Store.keeper, opened, diskOf, same]
        exact List.prefix_refl _
    | dieStarting reached =>
      cases reached with
      | zero => exact List.prefix_refl _
      | succ reached =>
        rcases opening with ⟨failure, -, failed⟩ | ⟨store, other, -, opened, -, same, -⟩
        · simp only [Keeper.step, RackFabric.Store.keeper, RackFabric.Store.cutOpening, failed]
          exact List.prefix_refl _
        · simp only [Keeper.step, RackFabric.Store.keeper, RackFabric.Store.cutOpening, opened, diskOf, same]
          exact List.prefix_refl _
    | call call => exact List.prefix_refl _
    | dieServing call reached => exact List.prefix_refl _
    | die => exact List.prefix_refl _
  | @up store other modelled =>
    cases fate with
    | start => exact List.prefix_refl _
    | dieStarting reached => exact List.prefix_refl _
    | call call => exact other.exec_log call
    | dieServing call reached => exact other.cut_log call reached
    | die => exact List.prefix_refl _

theorem live_grows (sized : options.Sized)
    (related : life.Related (Directory.Holds options) (Models options) other) {fates : List (Fate StoreCall)}
    (proper : (Store.keeper options).Throughout Proper life fates) :
    (∃ other, ((Store.keeper options).live life fates).Related (Directory.Holds options) (Models options) other) ∧
      recordsIn options life <+: recordsIn options ((Store.keeper options).live life fates) := by
  induction fates generalizing life other with
  | nil => exact ⟨⟨other, related⟩, List.prefix_refl _⟩
  | cons fate rest ih =>
    obtain ⟨alike, -, -, next⟩ := (refines sized).step related fate proper.1
    obtain ⟨ends, later⟩ := ih next proper.2
    have first : recordsIn options life <+: recordsIn options ((Store.keeper options).step life fate) := by
      rw [recordsIn_related related, recordsIn_related next]
      exact step_grows related alike
    rw [Keeper.live_cons]
    exact ⟨ends, first.trans later⟩

/-- An append that is answered well puts its record at the end of the log. -/
theorem Models.append_records {store next : Store} {other : RackFabric.Store} (models : Models options store other)
    {record : StoreRecord} (decodable : record.Decodable) (done : store.append record .done = (next, .ok ())) :
    recordsIn options (.up next) = recordsIn options (.up store) ++ [record] := by
  obtain ⟨later, same⟩ := models.append decodable
  rw [done] at later same
  have before : recordsIn options (.up store) = other.disk.log := models.holds.records
  have after : recordsIn options (.up next) = (other.append record).1.disk.log := later.holds.records
  rw [before, after]
  rcases RackFabric.Store.append_cases models.quiet record with ⟨writer, -, appended⟩ | ⟨status, -, failed⟩
  · rw [appended]
    rfl
  · rw [failed] at same
    cases same

/-- A directory that does not exist yet holds nothing. -/
theorem holds_fresh (options : Options) : Directory.Holds options {} {} where
  manifest := rfl
  file := ⟨fun _ => rfl, fun _ => rfl⟩
  checkpoint := rfl
  boundary := by
    intro checkpoint found
    cases found
  wal := rfl
  log := ⟨[], [], List.forall_mem_nil _, rfl, rfl, .cleanEnd, readFrame_nil _⟩

/-- The bytes a store keeps are the records it is meant to keep. In every life of a directory, whatever is called in
whatever order and whatever byte of a log append or step of a file change the process dies at, each opening recovers and
each call answers what the store over whole records does in a life with the same calls and deaths, and the files at the
end hold what that life leaves. -/
theorem files_keep_records (sized : options.Sized) (holds : directory.Holds options disk)
    {fates : List (Fate StoreCall)} (proper : (Store.keeper options).Throughout Proper (.down directory) fates) :
    ∃ alike, List.Forall₂ Fate.Alike fates alike ∧
      (Store.keeper options).tells (.down directory) fates =
        (RackFabric.Store.keeper options.toStoreOptions).tells (.down disk) alike ∧
      ((Store.keeper options).live (.down directory) fates).Related (Directory.Holds options) (Models options)
        ((RackFabric.Store.keeper options.toStoreOptions).live (.down disk) alike) :=
  (refines sized).lives (.down holds) proper

/-- An incarnation takes a checkpoint of the empty log, logs a generation and dies within the fifth byte of the next
append; the next incarnation logs another generation. -/
def tornLife : List (Fate StoreCall) :=
  [.start, .call (.writeCheckpoint {}), .call .nextIncarnation, .call (.append (.generation 3)),
    .dieServing (.append (.generation 4)) 5, .start, .call (.append (.generation 5))]

theorem tornLife_proper : (Store.keeper {}).Throughout Proper (.down {}) tornLife := by
  have opens : Keeper.Meets Proper ((Store.keeper {}).step (.down {}) .start) (.call (.writeCheckpoint {})) := by
    decide +kernel
  refine ⟨trivial, opens, Keeper.throughout_of_forall ?_ _⟩
  intro fate member life
  simp only [List.mem_cons, List.not_mem_nil, or_false] at member
  rcases member with rfl | rfl | rfl | rfl | rfl <;> cases life <;> exact trivial

theorem files_keep_records_torn :
    ∃ alike, List.Forall₂ Fate.Alike tornLife alike ∧
      (Store.keeper {}).tells (.down {}) tornLife = (RackFabric.Store.keeper {}).tells (.down {}) alike := by
  obtain ⟨alike, same, tells, -⟩ := files_keep_records (by decide : Options.Sized {}) (holds_fresh {}) tornLife_proper
  exact ⟨alike, same, tells⟩

/-- An answered append is never lost. In every life of a directory, once an append was answered with success the log in
the files begins with what it held before, then the record, whatever is called afterwards and whatever byte later
processes die at; and the next opening replays all of that log but the part that the checkpoint it uses covers. -/
theorem answered_appends_survive (sized : options.Sized) (holds : directory.Holds options disk)
    {earlier later : List (Fate StoreCall)} {record : StoreRecord} {store next : Store}
    (proper : (Store.keeper options).Throughout Proper (.down directory) (earlier ++ .call (.append record) :: later))
    (running : (Store.keeper options).live (.down directory) earlier = .up store)
    (answered : store.append record .done = (next, .ok ())) :
    recordsIn options (.up store) ++ [record] <+:
        recordsIn options ((Store.keeper options).live (.down directory) (earlier ++ .call (.append record) :: later)) ∧
      ∀ files opened,
        (Store.keeper options).live (.down directory) (earlier ++ .call (.append record) :: later) = .down files →
        Store.openDirectory files options = .ok opened →
        ∃ covered, recordsIn options (.down files) = covered ++ opened.recovered.records ∧
          opened.recovered.checkpoint.walOffset = logSize options.toStoreOptions covered := by
  obtain ⟨before, meets, after⟩ := Keeper.throughout_append.mp proper
  have start : Life.Related (Directory.Holds options) (Models options) (.down directory) (.down disk) := .down holds
  obtain ⟨⟨other, related⟩, -⟩ := live_grows sized start before
  rw [running] at related meets after
  have moved : (Store.keeper options).step (.up store) (.call (.append record)) = .up next := by
    simp only [Keeper.step, Store.keeper, Store.exec, answered]
  rw [Keeper.live_append, running, Keeper.live_cons, moved]
  rw [moved] at after
  cases related with
  | @up store other models =>
    have grown := models.append_records meets answered
    obtain ⟨appended, same⟩ := models.append meets
    rw [answered] at appended
    obtain ⟨⟨last, ends⟩, kept⟩ := live_grows sized (.up appended) after
    rw [grown] at kept
    refine ⟨kept, ?_⟩
    intro files opened dead succeeds
    rw [dead] at ends
    cases ends with
    | @down files disk held =>
      rcases held.opens with ⟨failure, failed, -⟩ | ⟨again, there, opened', -, -, -, covered, split, offset⟩
      · rw [succeeds] at failed
        cases failed
      · rw [succeeds] at opened'
        cases opened'
        exact ⟨covered, held.records.trans split, offset⟩

theorem answered_appends_survive_torn : ∃ store next,
    (Store.keeper {}).live (.down {}) [.start] = .up store ∧ store.append (.generation 3) .done = (next, .ok ()) ∧
      recordsIn {} (.up store) ++ [.generation 3] <+: recordsIn {} ((Store.keeper {}).live (.down {})
        ([.start] ++ .call (.append (.generation 3)) :: [.dieServing (.append (.generation 4)) 5])) := by
  refine ⟨_, _, rfl, rfl, (answered_appends_survive (by decide : Options.Sized {}) (holds_fresh {})
    (Keeper.throughout_of_forall ?_ _) rfl rfl).1⟩
  intro fate member life
  simp only [List.singleton_append, List.mem_cons, List.not_mem_nil, or_false] at member
  rcases member with rfl | rfl | rfl <;> cases life <;> exact trivial

end OnDisk

end RackFabric
