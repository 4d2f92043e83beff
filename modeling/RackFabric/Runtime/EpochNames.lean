import RackFabric.Runtime.CounterStart

/-!
One epoch names one member set. The exception is the first epoch: a start that finds neither a checkpoint nor an epoch
on record adopts whatever member set its evidence composes to, under the epoch that an empty rack was published at.
-/

namespace RackFabric

open Counters Foundation

/-- The epoch and its member set are followed. -/
def memberTracked : Tracked :=
  ⟨False, True⟩

namespace Disk

/-- The evidence that a start recovers names no member at the generation it composes at. -/
def memberless (config : DaemonConfig) (disk : Disk) : Bool :=
  (gather (disk.rebuiltLedger config) config.rack
    { generation := disk.recoveredCounters.generation
      epoch := disk.recoveredCounters.epoch
      lifecycle := .assembling
      limits := config.composeLimits }).members.size == 0

end Disk

namespace System

/-- The snapshot a running process publishes. -/
def snapshots : System → List SnapshotData
  | .down _ => []
  | .up core => [core.snapshot.data]

/-- Every snapshot published in a run. -/
def published (config : DaemonConfig) : System → List Event → List SnapshotData
  | _, [] => []
  | system, event :: rest =>
    (step config system event).snapshots ++ published config (step config system event) rest

/-- A start that comes up finds a member set on record, or evidence without members. -/
def FindsMembers (config : DaemonConfig) (system : System) (_ : Event) (next : System) : Prop :=
  match system, next with
  | .down disk, .up _ => disk.namesMembers = true ∨ disk.memberless config = true
  | _, _ => True

instance (config : DaemonConfig) (event : Event) :
    ∀ system next, Decidable (FindsMembers config system event next)
  | .down _, .up _ => inferInstanceAs (Decidable (_ ∨ _))
  | .down _, .down _ | .up _, _ => .isTrue trivial

/-- The counters a snapshot was published at. -/
def countersOf (data : SnapshotData) : Counters :=
  { generation := data.generation, epoch := data.epoch, memberSet := data.memberSetDigest }

/-- The counters are no earlier than those of every snapshot of a list. -/
def Follows (snapshots : List SnapshotData) (counters : Counters) : Prop :=
  ∀ data ∈ snapshots, (countersOf data).Upto memberTracked counters

theorem follows_lasting (snapshots : List SnapshotData) : Lasting memberTracked (Follows snapshots) :=
  fun _ _ upto follows data member => (follows data member).trans upto

/-- Snapshots whose recorded digests are those of their devices, one digest an epoch. -/
structure Consistent (snapshots : List SnapshotData) : Prop where
  digest : ∀ data ∈ snapshots, data.memberSetDigest = memberSetDigest data.devices
  epoch : ∀ first ∈ snapshots, ∀ second ∈ snapshots, first.epoch = second.epoch →
    first.memberSetDigest = second.memberSetDigest

/-- A snapshot is published at the counters of the log. -/
theorem snapshot_agrees {held : Counters → Prop} {core : DaemonCore} (tracks : core.Tracks memberTracked held) :
    (countersOf core.snapshot.data).Agree memberTracked (logged core.log) := by
  obtain ⟨-, epoch, memberSet⟩ := tracks.published
  exact ⟨False.elim, epoch.trans tracks.counters.epoch, fun follow => memberSet.trans (tracks.counters.memberSet follow)⟩

/-- Publishing one more snapshot at the counters of the log. -/
theorem Consistent.publish {snapshots : List SnapshotData} {data : SnapshotData} {counters : Counters}
    (consistent : Consistent snapshots) (follows : Follows snapshots counters)
    (agree : (countersOf data).Agree memberTracked counters)
    (digest : data.memberSetDigest = memberSetDigest data.devices) : Consistent (snapshots ++ [data]) := by
  have older : ∀ other ∈ snapshots, other.epoch = data.epoch → other.memberSetDigest = data.memberSetDigest := by
    intro other member same
    have here : data.memberSetDigest = counters.memberSet := agree.memberSet trivial
    have epoch : data.epoch = counters.epoch := agree.epoch
    rcases (follows other member).epoch with before | ⟨-, named⟩
    · have below : other.epoch < counters.epoch := before
      rw [same, epoch] at below
      exact absurd below (UInt64.lt_irrefl _)
    · exact (named trivial).trans here.symm
  constructor
  · intro other member
    rcases List.mem_append.mp member with member | member
    · exact consistent.digest other member
    · rw [List.mem_singleton.mp member]
      exact digest
  · intro first left second right same
    rcases List.mem_append.mp left with left | left <;> rcases List.mem_append.mp right with right | right
    · exact consistent.epoch first left second right same
    · rw [List.mem_singleton.mp right] at same ⊢
      exact older first left same
    · rw [List.mem_singleton.mp left] at same ⊢
      exact (older second right same.symm).symm
    · rw [List.mem_singleton.mp left, List.mem_singleton.mp right]

/-- A start without a member set on record publishes the empty one, when its evidence names no member. -/
theorem memberless_grounded {config : DaemonConfig} (backed : config.storeDirectory ≠ []) {disk : Disk} {env : Env}
    {held : Counters → Prop} (quiet : env.io = []) (charted : disk.Charted (chart memberTracked held))
    (faithful : disk.Faithful config) (finds : disk.namesMembers = true ∨ disk.memberless config = true)
    {opened : DaemonCore} (opening : (DaemonCore.starting config).openStore disk env = (opened, .ok ())) :
    DaemonCore.Grounded memberTracked disk opened := by
  refine ⟨False.elim, fun _ => ?_⟩
  by_cases named : disk.namesMembers = true
  · exact .inl named
  · right
    have memberless := finds.resolve_left named
    have found := DaemonCore.openStore_found backed quiet charted opening
    have ledger := (DaemonCore.openStore_faithful backed faithful env).1
    rw [opening] at ledger
    intro snapshot published
    obtain ⟨outcome, composed, data⟩ := published.composed
    have generation : opened.generation = disk.recoveredCounters.generation :=
      congrArg Counters.generation found.counters
    have rack : opened.config.rack = config.rack := by rw [found.config]
    have limits : opened.config.composeLimits = config.composeLimits := by rw [found.config]
    have evidence : opened.ledger = disk.rebuiltLedger config := ledger
    have empty : (gather opened.readyToCompose.ledger opened.readyToCompose.config.rack
        (opened.readyToCompose.composeInput opened.readyToCompose.generation)).members.size = 0 := by
      rw [Disk.memberless, beq_iff_eq, ← rack, ← evidence] at memberless
      rw [← memberless]
      exact congrArg (fun gathered : Gathered => gathered.members.size)
        (gather_congr opened.ledger opened.config.rack generation limits)
    rw [data, Disk.logged_unnamed charted (by simpa using named)]
    exact compose_memberless composed empty

/-- Along a run whose starts find a member set on record, or evidence without members, every snapshot published so far
is consistent with the log. -/
theorem run_consistent {config : DaemonConfig} (backed : config.storeDirectory ≠ []) {events : List Event}
    (quiet : ∀ event ∈ events, event.env.io = []) {system : System}
    (finds : Along (step config) (FindsMembers config) system events) {earlier : List SnapshotData}
    (faithful : system.Faithful config) (tracks : system.Tracks memberTracked (Follows earlier))
    (consistent : Consistent earlier) : Consistent (earlier ++ published config system events) := by
  induction events generalizing system earlier with
  | nil =>
    rw [published, List.append_nil]
    exact consistent
  | cons event rest ih =>
    have still := quiet event (by simp)
    have ready : event.action = .start → ∀ disk core opened, system = .down disk → boot config disk event = .up core →
        (DaemonCore.starting config).openStore disk event.env = (opened, .ok ()) →
        DaemonCore.Grounded memberTracked disk opened := by
      intro action disk core opened down up opening
      have found := finds.1
      have stepped : step config (.down disk) event = .up core := by simp only [step, action, up]
      rw [down, stepped] at found
      rw [down] at tracks faithful
      exact memberless_grounded backed still tracks faithful found opening
    have next := step_tracks backed (follows_lasting earlier) still tracks ready
    have follows : Follows earlier (logged (step config system event).log) := next.disk.log.1
    have grown : Follows (earlier ++ (step config system event).snapshots) (logged (step config system event).log) ∧
        Consistent (earlier ++ (step config system event).snapshots) := by
      cases stepped : step config system event with
      | down disk =>
        rw [stepped] at follows
        rw [snapshots, List.append_nil]
        exact ⟨follows, consistent⟩
      | up core =>
        rw [stepped] at follows next
        have agree := snapshot_agrees next
        rw [DaemonCore.enter_log] at agree
        refine ⟨?_, consistent.publish follows agree next.digest⟩
        intro data member
        rcases List.mem_append.mp member with member | member
        · exact follows data member
        · rw [List.mem_singleton.mp member]
          exact agree.upto
    have later := ih (fun other member => quiet other (by simp [member])) finds.2 (step_faithful backed still faithful)
      (next.rehold grown.1) grown.2
    rw [published, ← List.append_assoc]
    exact later

/-- As long as every start that comes up finds a member set on record, or evidence that names no member, snapshots of one
epoch have one member set, up to collisions of its digest. -/
theorem epoch_names_members {config : DaemonConfig} (backed : config.storeDirectory ≠ []) {events : List Event}
    (quiet : ∀ event ∈ events, event.env.io = [])
    (finds : Along (step config) (FindsMembers config) fresh events)
    (collisionFree : ∀ first ∈ published config fresh events, ∀ second ∈ published config fresh events,
      memberSetDigest first.devices = memberSetDigest second.devices → first.memberSet = second.memberSet) :
    ∀ first ∈ published config fresh events, ∀ second ∈ published config fresh events,
      first.epoch = second.epoch → first.memberSet = second.memberSet := by
  have blank : fresh.Tracks memberTracked (Follows []) := by
    refine ⟨⟨?_, ?_, ?_⟩, ?_⟩
    · intro data member
      cases member
    · intro grant member
      cases member
    · intro record member
      cases member
    · intro checkpoint found
      cases found
  have nothing : Consistent [] := ⟨by simp, by simp⟩
  have faithful : fresh.Faithful config := @after_faithful config backed [] (by simp)
  have consistent := run_consistent backed quiet finds faithful blank nothing
  rw [List.nil_append] at consistent
  intro first left second right same
  apply collisionFree first left second right
  rw [← consistent.digest first left, ← consistent.digest second right]
  exact consistent.epoch first left second right same

/-- A device that joins `loneRack`. -/
def joins (device incarnation : UInt64) : EvidenceRecord :=
  { provenance := { source := 1, sequence := 1 }, payload := .member ⟨7, device, incarnation⟩ }

/-- A member joins, and the process dies before the rack is composed with it. -/
def adoptedRun : List Event :=
  [.start 0, .call 1 (.submitEvidence [joins 9 1]), .crash, .start 2]

/-- The second process adopts the member under the epoch that the first one published the empty rack at. -/
theorem adopted_member_shares_epoch :
    (published loneRack fresh adoptedRun).map (fun data => (data.epoch, data.memberSet)) =
        [(0, []), (0, []), (0, [(9, 1)])] ∧
      ∀ first ∈ published loneRack fresh adoptedRun, ∀ second ∈ published loneRack fresh adoptedRun,
        memberSetDigest first.devices = memberSetDigest second.devices → first.memberSet = second.memberSet := by
  decide +kernel

/-- A member joins and the rack is composed with it, which puts an epoch on record. -/
def composedRun : List Event :=
  [.start 0, .call 1 (.submitEvidence [joins 9 1]), .call 2 (.compose 0), .crash, .start 3]

theorem composed_member_enters_epoch :
    (published loneRack fresh composedRun).map (fun data => (data.epoch, data.memberSet)) =
        [(0, []), (0, []), (1, [(9, 1)]), (1, [(9, 1)])] ∧
      ∀ first ∈ published loneRack fresh composedRun, ∀ second ∈ published loneRack fresh composedRun,
        first.epoch = second.epoch → first.memberSet = second.memberSet := by
  refine ⟨by decide +kernel, ?_⟩
  exact epoch_names_members loneRack_backed (by decide) (by decide +kernel) (by decide +kernel)

end System

end RackFabric
