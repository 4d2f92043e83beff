import RackFabric.Authority.Accounts
import RackFabric.Persist.Calls
import RackFabric.Persist.Reopen

/-!
The incarnations a store directory hands out over its whole life: processes that open it, call it and end, writes
that fail with any part of their bytes in the files, and a manifest that may be lost or damaged while no process has
the directory open.
-/

namespace RackFabric.OnDisk

open Foundation

/-- Who has the directory. -/
inductive Holder where
  | closed (directory : Directory)
  | opened (store : Store)

/-- A directory and every incarnation that was handed out on it, in order. -/
structure StoreHistory where
  holder : Holder
  returned : List UInt64 := []

/-- The bytes of a manifest that no opening reads. -/
structure SpoiltManifest where
  bytes : List UInt8
  unread : ∀ options manifest, readMeta bytes options ≠ .ok manifest

inductive StoreAction where
  | openDirectory (options : Options)
  | call (call : StoreCall)
  | exit
  | loseManifest
  | spoilManifest (manifest : SpoiltManifest)

/-- How an opening or a call ends: it does what it should, or a write of it fails, or the process dies in it. The
latter two say how far its writes got. -/
inductive Ending where
  | done
  | failed (reached : Nat)
  | died (reached : Nat)
deriving DecidableEq, Repr

structure StoreEvent where
  action : StoreAction
  ending : Ending := .done

namespace Store

/-- What a call has changed in memory before its first write. -/
def begun (store : Store) : StoreCall → Store
  | .nextIncarnation =>
    if store.incarnationCounter = maxU64 then store
    else { store with incarnationCounter := store.incarnationCounter + 1 }
  | .bindRack rack => { store with boundRack := rack }
  | .append _ | .writeCheckpoint _ | .markCleanShutdown _ => store

/-- The store after a call one of whose writes failed. -/
def fail (store : Store) (call : StoreCall) (reached : Nat) : Store :=
  { store.begun call with directory := store.cut call reached }

end Store

namespace StoreHistory

/-- A directory that does not exist yet. -/
def fresh : StoreHistory :=
  { holder := .closed {} }

def step (history : StoreHistory) (event : StoreEvent) : StoreHistory :=
  match history.holder, event.action with
  | .closed directory, .openDirectory options =>
    match Store.openDirectory directory options with
    | .error _ => history
    | .ok store =>
      match event.ending with
      | .done => { history with holder := .opened store }
      | .failed reached | .died reached =>
        { history with holder := .closed (Store.cutOpening options directory reached) }
  | .closed directory, .loseManifest => { history with holder := .closed { directory with manifest := none } }
  | .closed directory, .spoilManifest manifest =>
    { history with holder := .closed { directory with manifest := some manifest.bytes } }
  | .opened store, .call call =>
    match event.ending with
    | .done =>
      { holder := .opened (store.exec call).1
        returned := history.returned ++ (store.exec call).2.toOption.join.toList }
    | .failed reached => { history with holder := .opened (store.fail call reached) }
    | .died reached => { history with holder := .closed (store.cut call reached) }
  | .opened store, .exit => { history with holder := .closed store.directory }
  | _, _ => history

/-- An opening that goes on without a readable manifest replays a grant of the last incarnation. -/
def counted (history : StoreHistory) (event : StoreEvent) : Bool :=
  match history.holder, event.action with
  | .closed directory, .openDirectory options =>
    match Store.readManifest directory options with
    | .ok (none, _) => history.returned.all fun value =>
        value ≤ maxIncarnationOf (replayLog options.maxRecordBytes directory.log 0).values
    | _ => true
  | _, _ => true

end StoreHistory

/-- A readable manifest is not behind any incarnation handed out. -/
def Directory.Covers (returned : List UInt64) (directory : Directory) : Prop :=
  ∀ bytes options manifest, directory.manifest = some bytes → readMeta bytes options = .ok manifest →
    ∀ value ∈ returned, value ≤ manifest.incarnationCounter

variable {returned : List UInt64} {directory : Directory} {store : Store}

theorem Directory.Covers.congr {other : Directory} (covers : directory.Covers returned)
    (same : other.manifest = directory.manifest) : other.Covers returned := by
  intro bytes options manifest stored
  rw [same] at stored
  exact covers bytes options manifest stored

/-- A manifest just written covers what its counter covers. -/
theorem Directory.covers_written {manifest : Manifest} (written : directory.manifest = some (encodeMeta manifest))
    (current : manifest.formatVersion = kStateFormatVersion)
    (reached : ∀ value ∈ returned, value ≤ manifest.incarnationCounter) : directory.Covers returned := by
  intro bytes options found stored read
  rw [written] at stored
  cases stored
  rw [readMeta_encodeMeta current] at read
  cases read
  exact reached

namespace Store

/-- A store whose counter and manifest are not behind. -/
structure Covers (returned : List UInt64) (store : Store) : Prop where
  counter : ∀ value ∈ returned, value ≤ store.incarnationCounter
  directory : store.directory.Covers returned

/-- The manifest in the directory carries the counter of the store. -/
def Written (store : Store) : Prop :=
  ∃ manifest : Manifest, manifest.formatVersion = kStateFormatVersion ∧
    manifest.incarnationCounter = store.incarnationCounter ∧ store.directory.manifest = some (encodeMeta manifest)

theorem Written.covers (written : store.Written) (reached : ∀ value ∈ returned, value ≤ store.incarnationCounter) :
    store.Covers returned := by
  obtain ⟨manifest, current, counts, stored⟩ := written
  refine ⟨reached, Directory.covers_written stored current ?_⟩
  rw [counts]
  exact reached

/-- What a call does to counter and manifest: it counts on, writes that and hands it out, or it leaves the counter. -/
inductive Counts (store : Store) : Store × Result (Option UInt64) → Prop where
  | next {after : Store} (above : after.incarnationCounter.toNat = store.incarnationCounter.toNat + 1)
      (written : after.Written) : Counts store (after, .ok (some after.incarnationCounter))
  | same {after : Store} {result : Result (Option UInt64)} (silent : result.toOption.join = none)
      (counter : after.incarnationCounter = store.incarnationCounter)
      (manifest : after.directory.manifest = store.directory.manifest ∨ after.Written) : Counts store (after, result)

theorem toNat_next {count : UInt64} (room : count ≠ maxU64) : (count + 1).toNat = count.toNat + 1 := by
  have bound := count.toNat_lt
  have other : count.toNat ≠ maxU64.toNat := fun same => room (UInt64.toNat_inj.mp same)
  have top : maxU64.toNat = 2 ^ 64 - 1 := rfl
  rw [UInt64.toNat_add, UInt64.toNat_one, Nat.mod_eq_of_lt (by omega)]

theorem nextIncarnation_counts (store : Store) : store.Counts (store.exec .nextIncarnation) := by
  simp only [exec, nextIncarnation]
  by_cases full : store.incarnationCounter = maxU64
  · simp only [if_pos full]
    exact .same rfl rfl (.inl rfl)
  · simp only [if_neg full]
    exact .next (toNat_next full) ⟨_, rfl, rfl, rfl⟩

theorem exec_counts (store : Store) (call : StoreCall) : store.Counts (store.exec call) := by
  have silent : ∀ result : Result Unit, (result.map fun _ => (none : Option UInt64)).toOption.join = none := by
    intro result
    cases result <;> rfl
  cases call with
  | append record =>
    simp only [exec, append]
    split
    · exact .same rfl rfl (.inl rfl)
    · exact .same rfl rfl (.inl rfl)
  | writeCheckpoint checkpoint =>
    simp only [exec, writeCheckpoint]
    split
    · exact .same rfl rfl (.inl rfl)
    · exact .same rfl rfl (.inr ⟨_, rfl, rfl, rfl⟩)
  | markCleanShutdown atMs => exact .same rfl rfl (.inr ⟨_, rfl, rfl, rfl⟩)
  | nextIncarnation => exact nextIncarnation_counts store
  | bindRack rack => exact .same rfl rfl (.inr ⟨_, rfl, rfl, rfl⟩)

/-- What a call hands out is new, and it is in the manifest by then. -/
theorem Covers.counts (covers : store.Covers returned) {served : Store × Result (Option UInt64)}
    (counts : store.Counts served) :
    (∀ value ∈ served.2.toOption.join, ∀ earlier ∈ returned, earlier < value) ∧
      served.1.Covers (returned ++ served.2.toOption.join.toList) := by
  cases counts with
  | @next after above written =>
    have below : ∀ earlier ∈ returned, earlier < after.incarnationCounter := by
      intro earlier member
      have known := covers.counter earlier member
      rw [UInt64.le_iff_toNat_le] at known
      rw [UInt64.lt_iff_toNat_lt]
      omega
    refine ⟨?_, written.covers ?_⟩
    · intro value handed
      cases handed
      exact below
    · intro value member
      rcases List.mem_append.mp member with member | member
      · exact UInt64.le_of_lt (below value member)
      · rw [List.mem_singleton.mp member]
        exact UInt64.le_refl _
  | same silent counter manifest =>
    have reached : ∀ value ∈ returned, value ≤ _ := covers.counter
    rw [← counter] at reached
    simp only [silent, Option.toList_none, List.append_nil]
    refine ⟨by simp, ?_⟩
    rcases manifest with same | written
    · exact ⟨reached, covers.directory.congr same⟩
    · exact written.covers reached

theorem Covers.mono {fewer : List UInt64} (covers : store.Covers returned) (within : fewer ⊆ returned) :
    store.Covers fewer :=
  ⟨fun value member => covers.counter value (within member),
    fun bytes options manifest stored read value member =>
      covers.directory bytes options manifest stored read value (within member)⟩

/-- What a call that is cut short leaves has the manifest from before it or the one from after it. -/
theorem cut_manifest (store : Store) (call : StoreCall) (reached : Nat) :
    (store.cut call reached).manifest = store.directory.manifest ∨
      (store.cut call reached).manifest = (store.exec call).1.directory.manifest := by
  cases call with
  | append record =>
    left
    simp only [cut]
    split <;> rfl
  | writeCheckpoint checkpoint =>
    simp only [cut]
    split
    · exact .inl rfl
    · split
      · exact .inl rfl
      · exact .inl rfl
      · exact .inl rfl
      · exact .inr rfl
  | markCleanShutdown | nextIncarnation | bindRack =>
    simp only [cut]
    split
    · exact .inl rfl
    · exact .inr rfl

/-- A call that is cut short leaves a directory that is not behind. -/
theorem Covers.cut (covers : store.Covers returned) (call : StoreCall) (reached : Nat) :
    (store.cut call reached).Covers returned := by
  have whole : (store.exec call).1.Covers returned :=
    (covers.counts (exec_counts store call)).2.mono (List.subset_append_left _ _)
  rcases cut_manifest store call reached with same | same
  · exact covers.directory.congr same
  · exact whole.directory.congr same

theorem Covers.fail (covers : store.Covers returned) (call : StoreCall) (reached : Nat) :
    (store.fail call reached).Covers returned := by
  refine ⟨?_, covers.cut call reached⟩
  intro value member
  have known := covers.counter value member
  cases call with
  | nextIncarnation =>
    simp only [Store.fail, begun]
    split
    · exact known
    · rename_i room
      have next := toNat_next room
      rw [UInt64.le_iff_toNat_le] at known
      change value ≤ store.incarnationCounter + 1
      rw [UInt64.le_iff_toNat_le]
      omega
  | append | writeCheckpoint | markCleanShutdown | bindRack => exact known

theorem readManifest_ok {options : Options} {manifest : Option Manifest} {report : RecoveryReport}
    (read : readManifest directory options = .ok (manifest, report)) {found : Manifest} (some_ : manifest = some found) :
    ∃ bytes, directory.manifest = some bytes ∧ readMeta bytes options = .ok found := by
  subst some_
  unfold readManifest at read
  dsimp only at read
  split at read
  · cases read
  · rename_i bytes stored
    split at read
    · rename_i manifest reads
      cases read
      exact ⟨bytes, stored, reads⟩
    · split at read
      · cases read
      · split at read
        · cases read
        · cases read

/-- Opening a directory takes the counter of its manifest, or else of its whole log. -/
theorem openDirectory_covers {options : Options} (covers : directory.Covers returned)
    (opened : openDirectory directory options = .ok store)
    (logged : ∀ report, readManifest directory options = .ok (none, report) →
      ∀ value ∈ returned, value ≤ maxIncarnationOf (replayLog options.maxRecordBytes directory.log 0).values) :
    store.Covers returned := by
  unfold openDirectory at opened
  rw [bind_eq_ok] at opened
  obtain ⟨⟨manifest, report⟩, read, opened⟩ := opened
  cases opened
  refine ⟨?_, covers.congr rfl⟩
  intro value member
  change value ≤ max ((manifest.map Manifest.incarnationCounter).getD 0) _
  rw [UInt64.le_iff_toNat_le, toNat_max]
  cases manifest with
  | some found =>
    obtain ⟨bytes, stored, reads⟩ := readManifest_ok read rfl
    have known := covers bytes options found stored reads value member
    rw [UInt64.le_iff_toNat_le] at known
    exact Nat.le_trans known (Nat.le_max_left _ _)
  | none =>
    have known := logged report read value member
    rw [UInt64.le_iff_toNat_le] at known
    exact Nat.le_trans known (Nat.le_max_right _ _)

theorem cutOpening_covers (covers : directory.Covers returned) (options : Options) (reached : Nat) :
    (cutOpening options directory reached).Covers returned := by
  unfold cutOpening
  split
  · exact covers
  · exact covers
  · rename_i store opened
    unfold openDirectory at opened
    rw [bind_eq_ok] at opened
    obtain ⟨⟨manifest, report⟩, -, opened⟩ := opened
    cases opened
    exact covers.congr rfl

end Store

namespace StoreHistory

/-- Strictly increasing so far, and ready to go on. -/
structure Sound (history : StoreHistory) : Prop where
  increasing : history.returned.Pairwise (· < ·)
  holder : match history.holder with
    | .closed directory => directory.Covers history.returned
    | .opened store => store.Covers history.returned

theorem fresh_sound : fresh.Sound := by
  refine ⟨.nil, ?_⟩
  intro bytes options manifest stored
  cases stored

/-- A call that is served hands out something new, if anything. -/
theorem served_sound (increasing : returned.Pairwise (· < ·)) (covers : store.Covers returned) (call : StoreCall) :
    Sound ⟨.opened (store.exec call).1, returned ++ (store.exec call).2.toOption.join.toList⟩ := by
  obtain ⟨above, next⟩ := covers.counts (Store.exec_counts store call)
  refine ⟨List.pairwise_append.mpr ⟨increasing, ?_, ?_⟩, next⟩
  · cases (store.exec call).2.toOption.join <;> simp
  · intro earlier listed value member
    exact above value (by simpa using member) earlier listed

theorem called_sound (increasing : returned.Pairwise (· < ·)) (covers : store.Covers returned) (call : StoreCall)
    (ending : Ending) : (step ⟨.opened store, returned⟩ ⟨.call call, ending⟩).Sound := by
  cases ending with
  | done => exact served_sound increasing covers call
  | failed reached => exact ⟨increasing, covers.fail call reached⟩
  | died reached => exact ⟨increasing, covers.cut call reached⟩

theorem opened_sound (increasing : returned.Pairwise (· < ·)) (covers : directory.Covers returned) {options : Options}
    {ending : Ending} (logged : counted ⟨.closed directory, returned⟩ ⟨.openDirectory options, ending⟩ = true) :
    (step ⟨.closed directory, returned⟩ ⟨.openDirectory options, ending⟩).Sound := by
  simp only [step]
  cases opening : Store.openDirectory directory options with
  | error status => exact ⟨increasing, covers⟩
  | ok store =>
    cases ending with
    | done =>
      refine ⟨increasing, Store.openDirectory_covers covers opening ?_⟩
      intro report read
      simpa [counted, read] using logged
    | failed reached | died reached => exact ⟨increasing, Store.cutOpening_covers covers options reached⟩

theorem step_sound {history : StoreHistory} (sound : history.Sound) {event : StoreEvent}
    (logged : history.counted event = true) : (history.step event).Sound := by
  obtain ⟨holder, returned⟩ := history
  obtain ⟨action, ending⟩ := event
  obtain ⟨increasing, covers⟩ := sound
  cases holder with
  | closed directory =>
    cases action with
    | openDirectory options => exact opened_sound increasing covers logged
    | loseManifest =>
      refine ⟨increasing, ?_⟩
      intro bytes options manifest stored
      cases stored
    | spoilManifest spoilt =>
      refine ⟨increasing, ?_⟩
      rintro bytes options manifest ⟨⟩ read
      exact absurd read (spoilt.unread options manifest)
    | call | exit => exact ⟨increasing, covers⟩
  | opened store =>
    cases action with
    | call call => exact called_sound increasing covers call ending
    | exit => exact ⟨increasing, covers.directory⟩
    | openDirectory | loseManifest | spoilManifest => exact ⟨increasing, covers⟩

end StoreHistory

/-- Incarnations handed out on one directory are strictly increasing as long as every opening finds the manifest, or
else replays a grant of the last incarnation. -/
theorem incarnations_increase (events : List StoreEvent)
    (logged : Along StoreHistory.step (fun history event _ => history.counted event = true) .fresh events) :
    (run StoreHistory.step .fresh events).returned.Pairwise (· < ·) :=
  (logged.invariant StoreHistory.fresh_sound fun _ _ sound counted => StoreHistory.step_sound sound counted).increasing

/-- A manifest file cut to nothing. -/
def emptyManifest : SpoiltManifest where
  bytes := []
  unread := by
    intro options manifest read
    cases read

/-- A grant commit of the first incarnation. -/
def firstCommit : StoreRecord :=
  .grantCommit {
    id := 1
    request := ⟨0, 1⟩
    principal := 1
    scope := ⟨.rack, 7⟩
    mode := .shared
    capacity := 0
    generation := 0
    epoch := 0
    incarnation := 1
    fence := 1
    issuedAtMs := 0
    expiresAtMs := 1
    state := .active
    authorityBasis := .zero
    capacityPool := [] }

/-- Two processes on one directory, the second of which finds the manifest gone or spoilt. -/
def amnesicRun (calls : List StoreEvent) (loss : StoreAction) : List StoreEvent :=
  [⟨.openDirectory {}, .done⟩, ⟨.call .nextIncarnation, .done⟩] ++ calls ++
    [⟨.exit, .done⟩, ⟨loss, .done⟩, ⟨.openDirectory { allowManifestLoss := true }, .done⟩,
      ⟨.call .nextIncarnation, .done⟩]

/-- A first process that granted nothing leaves no trace of its incarnation but the manifest: without it, the second
process is the first one again. -/
theorem lost_manifest_repeats :
    (run StoreHistory.step .fresh (amnesicRun [] .loseManifest)).returned = [1, 1] ∧
      (run StoreHistory.step .fresh (amnesicRun [] (.spoilManifest emptyManifest))).returned = [1, 1] ∧
      ¬ (run StoreHistory.step .fresh (amnesicRun [] .loseManifest)).returned.Pairwise (· < ·) := by decide +kernel

set_option maxRecDepth 2000 in
/-- With a grant of the first process on the log the second one counts on, also when the append after it is torn. -/
theorem logged_incarnation_counts :
    ((run StoreHistory.step .fresh (amnesicRun [⟨.call (.append firstCommit), .done⟩,
      ⟨.call (.append (.generation 3)), .failed 5⟩] .loseManifest)).returned).Pairwise (· < ·) :=
  incarnations_increase _ (by decide +kernel)

end RackFabric.OnDisk
