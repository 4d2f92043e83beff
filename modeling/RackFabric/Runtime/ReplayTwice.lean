import RackFabric.Authority.Replay
import RackFabric.Compose.Arrival
import RackFabric.Runtime.Boot

/-!
Starting on a log whose front part is there twice. Each record is applied by assigning, raising, keeping the best,
keeping the first or keeping the last, and under all of these the second copy changes nothing.
-/

namespace RackFabric

open Foundation

namespace DaemonCore

/-- The larger of a counter and a replayed one. -/
def higher (held value : UInt64) : UInt64 :=
  if value > held then value else held

instance : Std.Associative higher := by
  refine ⟨?_⟩
  intro a b c
  unfold higher
  simp only [GT.gt, UInt64.lt_iff_toNat_lt]
  repeat' split
  all_goals first | rfl | (exfalso; omega)

instance : Std.IdempotentOp higher :=
  ⟨fun a => by simp [higher]⟩

/-- The limits of a replayed configuration over the rack they are replayed for. -/
def reconfigured (held value : RackConfig) : RackConfig :=
  { held with
    headroomFloor := value.headroomFloor
    maxPathsPerPair := value.maxPathsPerPair
    maxPathHops := value.maxPathHops }

instance : Std.Associative reconfigured := ⟨fun _ _ _ => rfl⟩

instance : Std.IdempotentOp reconfigured := ⟨fun _ => rfl⟩

/-- Where a register that is only ever assigned goes is decided by the assignments alone. -/
def firstOf {α : Type} (held _value : α) : α := held

instance {α : Type} : Std.Associative (firstOf (α := α)) := ⟨fun _ _ _ => rfl⟩

instance {α : Type} : Std.IdempotentOp (firstOf (α := α)) := ⟨fun _ => rfl⟩

def rackEffect : StoreRecord → Effect RackConfig
  | .config body => .raise {
      rack := 0
      headroomFloor := body.headroomFloor
      maxPathsPerPair := body.maxPathsPerPair.toNat
      maxPathHops := body.maxPathHops.toNat }
  | _ => .keep

def lifecycleEffect : StoreRecord → Effect LifecycleState
  | .lifecycle body => .assign body.state
  | _ => .keep

def generationEffect : StoreRecord → Effect UInt64
  | .lifecycle body => .raise body.generation
  | .generation generation => .assign generation
  | _ => .keep

def epochEffect : StoreRecord → Effect UInt64
  | .lifecycle body => .raise body.epoch
  | .epoch body => .assign body.epoch
  | _ => .keep

def memberSetEffect : StoreRecord → Effect Digest
  | .epoch body => .assign body.memberSetDigest
  | _ => .keep

def membershipEffect : StoreRecord → Effect Bool
  | .epoch _ => .assign true
  | _ => .keep

/-- A register after the records of a log. -/
def registerAfter {α : Type} (join : α → α → α) (effectOf : StoreRecord → Effect α) (held : α)
    (records : List StoreRecord) : α :=
  records.foldl (fun held record => (effectOf record).apply join held) held

theorem registerAfter_append {α : Type} (join : α → α → α) (effectOf : StoreRecord → Effect α) (held : α)
    (first second : List StoreRecord) :
    registerAfter join effectOf held (first ++ second) =
      registerAfter join effectOf (registerAfter join effectOf held first) second :=
  List.foldl_append

/-- A core after the records of a log, each applied once. -/
def afterRecords (core : DaemonCore) (records : List StoreRecord) : DaemonCore :=
  { core with
    config := { core.config with rack := registerAfter reconfigured rackEffect core.config.rack records }
    ledger := core.ledger.insertAll (evidenceOf records)
    lifecycle := registerAfter firstOf lifecycleEffect core.lifecycle records
    generation := registerAfter higher generationEffect core.generation records
    epoch := registerAfter higher epochEffect core.epoch records
    memberSetDigest := registerAfter firstOf memberSetEffect core.memberSetDigest records
    membershipInitialized := registerAfter firstOf membershipEffect core.membershipInitialized records
    grants := outcomesAfter core.grants records }

theorem afterRecords_append (core : DaemonCore) (first second : List StoreRecord) :
    core.afterRecords (first ++ second) = (core.afterRecords first).afterRecords second := by
  simp only [afterRecords, registerAfter_append, evidenceOf_append, EvidenceLedger.insertAll_append, outcomesAfter,
    outcomesOf_append, List.foldl_append]

theorem afterRecords_rack (core : DaemonCore) (records : List StoreRecord) :
    (core.afterRecords records).config.rack.rack = core.config.rack.rack := by
  induction records using List.reverseRecOn with
  | nil => rfl
  | append_singleton records record ih =>
    rw [afterRecords_append]
    generalize core.afterRecords records = middle at ih ⊢
    rw [← ih]
    cases record <;> rfl

/-- Every binding in a list of records is to this rack, or to none. -/
def Bound (rack : UInt64) (records : List StoreRecord) : Prop :=
  ∀ body, .rackBind body ∈ records → body.rack = 0 ∨ body.rack = rack

theorem applyRecoveredRecord_eq {core : DaemonCore} {record : StoreRecord}
    (bound : Bound core.config.rack.rack [record]) :
    core.applyRecoveredRecord record = (core.afterRecords [record], .ok ()) := by
  cases record with
  | rackBind body =>
    have own := bound body (by simp)
    simp only [applyRecoveredRecord]
    rw [if_neg]
    · rfl
    · rintro ⟨nonzero, foreign⟩
      exact own.elim nonzero foreign
  | config body | evidence record | lifecycle body | generation generation | epoch body | grantCommit grant
  | grantState body | requestOutcome body | cleanShutdown atMs => rfl

/-- Records bound to this rack replay to their end. -/
theorem replayRecords_bound {core : DaemonCore} {records : List StoreRecord}
    (bound : Bound core.config.rack.rack records) :
    core.replayRecords records = (core.afterRecords records, .ok ()) := by
  induction records generalizing core with
  | nil => rfl
  | cons record rest ih =>
    have first : Bound core.config.rack.rack [record] := fun body member => bound body (by simp_all)
    have later : Bound (core.afterRecords [record]).config.rack.rack rest := by
      intro body member
      rw [afterRecords_rack]
      exact bound body (by simp [member])
    rw [replayRecords, applyRecoveredRecord_eq first]
    change (core.afterRecords [record]).replayRecords rest = _
    rw [ih later, ← afterRecords_append, List.singleton_append]

end DaemonCore

namespace Store

/-- Two stores that differ in their logs alone. -/
structure Twin (first second : Store) : Prop where
  io : second.io = first.io
  options : second.options = first.options
  checkpoint : second.recovered.checkpoint = first.recovered.checkpoint
  incarnationCounter : second.incarnationCounter = first.incarnationCounter
  checkpointLength : second.checkpointLength = first.checkpointLength
  boundRack : second.boundRack = first.boundRack

theorem Twin.attempt {first second : Store} (twin : Twin first second) (one other : Disk) :
    (second.attempt other).2 = (first.attempt one).2 ∧ Twin (first.attempt one).1 (second.attempt other).1 := by
  unfold Store.attempt answer
  rw [twin.io]
  cases first.io with
  | nil => exact ⟨rfl, twin.io, twin.options, twin.checkpoint, twin.incarnationCounter, twin.checkpointLength,
      twin.boundRack⟩
  | cons outcome rest =>
    cases outcome <;> exact ⟨rfl, rfl, twin.options, twin.checkpoint, twin.incarnationCounter,
      twin.checkpointLength, twin.boundRack⟩

theorem Twin.append {first second : Store} (twin : Twin first second) (record : StoreRecord) :
    (second.append record).2 = (first.append record).2 ∧ Twin (first.append record).1 (second.append record).1 := by
  unfold Store.append
  rw [twin.options]
  split
  · exact ⟨rfl, twin⟩
  · obtain ⟨same, twins⟩ := twin.attempt { first.disk with wal := some (first.disk.log ++ [record]) }
      { second.disk with wal := some (second.disk.log ++ [record]) }
    cases one : first.attempt { first.disk with wal := some (first.disk.log ++ [record]) } with
    | mk left answer =>
      cases other : second.attempt { second.disk with wal := some (second.disk.log ++ [record]) } with
      | mk right again =>
        rw [one, other] at same twins
        dsimp only at same twins ⊢
        rw [same]
        cases answer with
        | error status => exact ⟨rfl, twins⟩
        | ok _ => exact ⟨rfl, twins.io, twins.options, twins.checkpoint, twins.incarnationCounter,
            twins.checkpointLength, twins.boundRack⟩

theorem Twin.manifestOf {first second : Store} (twin : Twin first second) : second.manifestOf = first.manifestOf := by
  simp only [Store.manifestOf, twin.checkpoint, twin.boundRack, twin.incarnationCounter, twin.checkpointLength]

theorem Twin.nextIncarnation {first second : Store} (twin : Twin first second) :
    second.nextIncarnation.2 = first.nextIncarnation.2 ∧
      Twin first.nextIncarnation.1 second.nextIncarnation.1 := by
  unfold Store.nextIncarnation
  rw [twin.incarnationCounter]
  split
  · exact ⟨rfl, twin⟩
  · have counted : Twin { first with incarnationCounter := first.incarnationCounter + 1 }
        { second with incarnationCounter := first.incarnationCounter + 1 } :=
      ⟨twin.io, twin.options, twin.checkpoint, rfl, twin.checkpointLength, twin.boundRack⟩
    dsimp only
    unfold persistMeta
    rw [counted.manifestOf]
    generalize ({ first with incarnationCounter := first.incarnationCounter + 1 } : Store) = left at counted ⊢
    generalize ({ second with incarnationCounter := first.incarnationCounter + 1 } : Store) = right at counted ⊢
    obtain ⟨same, twins⟩ := counted.attempt { left.disk with manifest := .intact left.manifestOf }
      { right.disk with manifest := .intact left.manifestOf }
    cases one : left.attempt { left.disk with manifest := .intact left.manifestOf } with
    | mk left_ answer =>
      cases other : right.attempt { right.disk with manifest := .intact left.manifestOf } with
      | mk right_ again =>
        rw [one, other] at same twins
        dsimp only at same twins ⊢
        rw [same]
        cases answer with
        | error status => exact ⟨rfl, twins⟩
        | ok _ => exact ⟨congrArg Except.ok twins.incarnationCounter, twins⟩

theorem Twin.bindRack {first second : Store} (twin : Twin first second) (rack : UInt64) :
    (second.bindRack rack).2 = (first.bindRack rack).2 ∧ Twin (first.bindRack rack).1 (second.bindRack rack).1 := by
  have bound : Twin { first with boundRack := rack } { second with boundRack := rack } :=
    ⟨twin.io, twin.options, twin.checkpoint, twin.incarnationCounter, twin.checkpointLength, rfl⟩
  unfold Store.bindRack persistMeta
  dsimp only
  rw [bound.manifestOf]
  exact bound.attempt _ _

end Store

namespace DaemonCore

/-- Two cores that differ in their logs and in the losers their ledgers have counted. -/
structure Alike (first second : DaemonCore) : Prop where
  same : second = { first with ledger := second.ledger, store := second.store }
  ledger : EvidenceLedger.Leaves first.ledger second.ledger
  store : Option.Rel Store.Twin first.store second.store

theorem Alike.trans {first second third : DaemonCore} (earlier : Alike first second) (later : Alike second third) :
    Alike first third := by
  refine ⟨?_, earlier.ledger.trans later.ledger, ?_⟩
  · have same := later.same
    rw [earlier.same] at same
    exact same
  · have one := earlier.store
    have other := later.store
    generalize first.store = left at one ⊢
    generalize second.store = middle at one other
    generalize third.store = right at other ⊢
    cases one with
    | none =>
      cases other
      exact .none
    | some one =>
      cases other with
      | some other =>
        exact .some ⟨other.io.trans one.io, other.options.trans one.options, other.checkpoint.trans one.checkpoint,
          other.incarnationCounter.trans one.incarnationCounter, other.checkpointLength.trans one.checkpointLength,
          other.boundRack.trans one.boundRack⟩

/-- The same update of two cores that are alike, one that leaves the ledger and the store alone. -/
theorem Alike.update {first second : DaemonCore} (alike : Alike first second) {change : DaemonCore → DaemonCore}
    (blind : ∀ core ledger store, change { core with ledger := ledger, store := store } =
      { change core with ledger := ledger, store := store }) : Alike (change first) (change second) := by
  have moved : change second = { change first with ledger := second.ledger, store := second.store } := by
    rw [← blind, ← alike.same]
  have own : change first = { change first with ledger := first.ledger, store := first.store } := blind first _ _
  refine ⟨?_, ?_, ?_⟩
  · rw [moved]
  · rw [moved, own]
    exact alike.ledger
  · rw [moved, own]
    exact alike.store

theorem Alike.afterRecords {first second : DaemonCore} (alike : Alike first second) (records : List StoreRecord) :
    Alike (first.afterRecords records) (second.afterRecords records) := by
  refine ⟨?_, alike.ledger.insertAll (evidenceOf records), alike.store⟩
  have same := alike.same
  generalize second.ledger = ledger at same
  generalize second.store = store at same
  rw [same]
  rfl

theorem Alike.config {first second : DaemonCore} (alike : Alike first second) : second.config = first.config := by
  have same := congrArg DaemonCore.config alike.same
  exact same

theorem Alike.replayRecords {first second : DaemonCore} (alike : Alike first second) (records : List StoreRecord) :
    (second.replayRecords records).2 = (first.replayRecords records).2 ∧
      Alike (first.replayRecords records).1 (second.replayRecords records).1 := by
  induction records generalizing first second with
  | nil => exact ⟨rfl, alike⟩
  | cons record rest ih =>
    by_cases binding : ∃ body, record = .rackBind body ∧ (body.rack ≠ 0 ∧ body.rack ≠ first.config.rack.rack)
    · obtain ⟨body, rfl, foreign⟩ := binding
      have refused : ∀ core : DaemonCore, core.config = first.config →
          core.replayRecords (.rackBind body :: rest) = (core, .error ⟨.outOfRack, text "the store belongs to rack " ++
            hex64 body.rack ++ text " but this daemon is configured for " ++ hex64 first.config.rack.rack⟩) := by
        intro core same
        simp only [DaemonCore.replayRecords, applyRecoveredRecord, same]
        rw [if_pos foreign]
      rw [refused first rfl, refused second alike.config]
      exact ⟨rfl, alike⟩
    · have bound : Bound first.config.rack.rack [record] := by
        intro body member
        by_cases zero : body.rack = 0
        · exact .inl zero
        · by_cases own : body.rack = first.config.rack.rack
          · exact .inr own
          · exact absurd ⟨body, (List.mem_singleton.mp member).symm, zero, own⟩ binding
      rw [DaemonCore.replayRecords, DaemonCore.replayRecords, applyRecoveredRecord_eq bound,
        applyRecoveredRecord_eq (alike.config ▸ bound)]
      exact ih (alike.afterRecords [record])

/-- Replaying records again changes nothing but what the ledger has counted. -/
theorem afterRecords_twice {core : DaemonCore} {records : List StoreRecord}
    (free : CollisionFree (evidenceOf records)) (holds : core.ledger.HoldsAmong (evidenceOf records)) :
    Alike (core.afterRecords records) ((core.afterRecords records).afterRecords records) := by
  have outcomes : outcomesAfter (outcomesAfter core.grants records) records = outcomesAfter core.grants records := by
    have paired : ∀ registry : GrantRegistry, outcomesAfter registry records =
        registry.rememberAll ((outcomesOf records).map (fun body => (body.request, body.outcome))) := by
      intro registry
      rw [outcomesAfter, GrantRegistry.rememberAll, List.foldl_map]
    rw [paired, paired, GrantRegistry.rememberAll_twice]
  refine ⟨?_, EvidenceLedger.insertAll_twice free holds, ?_⟩
  · have twice : ∀ {α : Type} (join : α → α → α) [Std.Associative join] [Std.IdempotentOp join]
        (effectOf : StoreRecord → Effect α) (held : α),
        registerAfter join effectOf (registerAfter join effectOf held records) records =
          registerAfter join effectOf held records :=
      fun join _ _ effectOf held => foldl_effect_twice effectOf records held
    simp only [afterRecords, twice, outcomes]
  · change Option.Rel Store.Twin core.store core.store
    cases core.store with
    | none => exact .none
    | some store => exact .some ⟨rfl, rfl, rfl, rfl, rfl, rfl⟩

theorem replayRecords_append (core : DaemonCore) (first second : List StoreRecord) :
    core.replayRecords (first ++ second) =
      match core.replayRecords first with
      | (core, .error status) => (core, .error status)
      | (core, .ok ()) => core.replayRecords second := by
  induction first generalizing core with
  | nil => rfl
  | cons record rest ih =>
    rw [List.cons_append, replayRecords, replayRecords]
    split
    · rfl
    · exact ih _

/-- A replay that ends without an error met no foreign binding. -/
theorem bound_of_replayRecords {core next : DaemonCore} {records : List StoreRecord}
    (replayed : core.replayRecords records = (next, .ok ())) : Bound core.config.rack.rack records := by
  induction records generalizing core with
  | nil =>
    intro body member
    cases member
  | cons record rest ih =>
    by_cases first : Bound core.config.rack.rack [record]
    · rw [replayRecords, applyRecoveredRecord_eq first] at replayed
      have later := ih replayed
      rw [afterRecords_rack] at later
      intro body member
      rcases List.mem_cons.mp member with same | member
      · exact first body (by simp [same])
      · exact later body member
    · exfalso
      apply first
      intro body member
      rw [List.mem_singleton] at member
      subst member
      by_cases zero : body.rack = 0
      · exact .inl zero
      · by_cases own : body.rack = core.config.rack.rack
        · exact .inr own
        · simp only [replayRecords, applyRecoveredRecord, zero, own, ne_eq, not_false_eq_true, and_self,
            if_true, Prod.mk.injEq, reduceCtorEq, and_false] at replayed

/-- A front part of the log that is there twice is replayed as if it were there once. -/
theorem replayRecords_twice {once twice : DaemonCore} {front rest : List StoreRecord} (alike : Alike once twice)
    (free : CollisionFree (evidenceOf front)) (holds : twice.ledger.HoldsAmong (evidenceOf front)) :
    (twice.replayRecords (front ++ front ++ rest)).2 = (once.replayRecords (front ++ rest)).2 ∧
      Alike (once.replayRecords (front ++ rest)).1 (twice.replayRecords (front ++ front ++ rest)).1 := by
  obtain ⟨same, replayed⟩ := alike.replayRecords front
  rw [List.append_assoc, replayRecords_append once, replayRecords_append twice]
  cases one : once.replayRecords front with
  | mk left result =>
    cases other : twice.replayRecords front with
    | mk right again =>
      rw [one, other] at same replayed
      dsimp only at same replayed ⊢
      rw [same]
      cases result with
      | error status => exact ⟨rfl, replayed⟩
      | ok _ =>
        rw [same] at other
        have bound := bound_of_replayRecords other
        rw [replayRecords_bound bound] at other
        obtain rfl : twice.afterRecords front = right := (Prod.mk.inj other).1
        dsimp only
        have again : Bound (twice.afterRecords front).config.rack.rack front := by
          rw [afterRecords_rack]
          exact bound
        rw [replayRecords_append, replayRecords_bound again]
        exact (replayed.trans (afterRecords_twice free holds)).replayRecords rest

end DaemonCore

/-- The highest incarnation of a log does not depend on a repetition of its front part. -/
theorem maxIncarnationOf_twice (front rest : List StoreRecord) :
    maxIncarnationOf (front ++ front ++ rest) = maxIncarnationOf (front ++ rest) := by
  have same : ∀ (grants : List Grant) (held : UInt64),
      grants.foldl (fun highest grant => max highest grant.incarnation) held =
        grants.foldl (fun held grant => (Effect.raise grant.incarnation).apply DaemonCore.higher held) held := by
    intro grants
    induction grants with
    | nil => exact fun _ => rfl
    | cons grant rest ih =>
      intro held
      have larger : max held grant.incarnation = DaemonCore.higher held grant.incarnation := by
        have unfolded : max held grant.incarnation = if held ≤ grant.incarnation then grant.incarnation else held := rfl
        rw [unfolded, DaemonCore.higher]
        simp only [GT.gt, UInt64.lt_iff_toNat_lt, UInt64.le_iff_toNat_le]
        split
        · split
          · rfl
          · exact UInt64.toNat_inj.mp (by omega)
        · rw [if_neg (by omega)]
      rw [List.foldl_cons, List.foldl_cons, larger]
      exact ih _
  unfold maxIncarnationOf
  have again := @foldl_effect_twice Grant UInt64 DaemonCore.higher _ _
    (fun grant => Effect.raise grant.incarnation) (commitsOf front) 0
  simp only [commitsOf_append, List.foldl_append, same, again]

namespace Store

/-- Two directories without a checkpoint whose logs differ by a repetition open alike. -/
theorem openDirectory_twice (manifest : FileContent Meta) (front rest : List StoreRecord) (io : List IoOutcome) :
    (∃ status, openDirectory { manifest := manifest, wal := some (front ++ rest) } {} io = .error status ∧
      openDirectory { manifest := manifest, wal := some (front ++ front ++ rest) } {} io = .error status) ∨
    ∃ once twice, openDirectory { manifest := manifest, wal := some (front ++ rest) } {} io = .ok once ∧
      openDirectory { manifest := manifest, wal := some (front ++ front ++ rest) } {} io = .ok twice ∧
      Twin once twice ∧ once.recovered.checkpoint = {} ∧
      once.recovered.records = front ++ rest ∧ twice.recovered.records = front ++ front ++ rest ∧
      twice.recovered.report.freshStore = once.recovered.report.freshStore ∧
      twice.recovered.report.cleanShutdown = once.recovered.report.cleanShutdown := by
  have whole : ∀ log : List StoreRecord, splitLog {} 0 log = ([], log) := fun log => splitLog_boundary {} [] log
  have unused : ∀ (log : List StoreRecord) (found : Option Meta) (report : RecoveryReport),
      readCheckpoint { manifest := manifest, wal := some log } {} found report =
        ({}, (readCheckpoint { manifest := manifest, wal := some [] } {} found report).2) := by
    intro log found report
    unfold readCheckpoint
    dsimp only
    split <;> rfl
  have reads : ∀ log : List StoreRecord, readManifest { manifest := manifest, wal := some log } {} =
      readManifest { manifest := manifest, wal := some [] } {} := fun log => rfl
  unfold openDirectory
  rw [reads (front ++ rest), reads (front ++ front ++ rest)]
  cases readManifest { manifest := manifest, wal := some [] } {} with
  | error status => exact .inl ⟨status, rfl, rfl⟩
  | ok found =>
    right
    obtain ⟨found, report⟩ := found
    simp only [bind, Except.bind, unused (front ++ rest), unused (front ++ front ++ rest), Disk.log,
      Option.getD_some, whole, List.nil_append, maxIncarnationOf_twice]
    exact ⟨_, _, rfl, rfl, ⟨rfl, rfl, rfl, rfl, rfl, rfl⟩, rfl, rfl, rfl, rfl, rfl⟩

end Store

namespace DaemonCore

theorem Alike.appendLocked {first second : DaemonCore} (alike : Alike first second) (record : StoreRecord) :
    (second.appendLocked record).2 = (first.appendLocked record).2 ∧
      Alike (first.appendLocked record).1 (second.appendLocked record).1 := by
  have same := alike.same
  have store := alike.store
  unfold DaemonCore.appendLocked
  generalize first.store = one at store ⊢
  generalize held : second.store = other at store ⊢
  cases store with
  | none => exact ⟨rfl, alike⟩
  | some twin =>
    obtain ⟨answers, twins⟩ := twin.append record
    refine ⟨answers, ?_, alike.ledger, .some twins⟩
    dsimp only
    rw [same]

/-- The parts of two cores that are alike and that a composition reads. -/
theorem Alike.composes {first second : DaemonCore} (alike : Alike first second) (target : UInt64) :
    RackFabric.compose second.ledger second.config.rack (second.composeInput target) =
      RackFabric.compose first.ledger first.config.rack (first.composeInput target) := by
  have input : second.composeInput target = first.composeInput target := by
    rw [alike.same]
    rfl
  rw [input, alike.config]
  exact compose_of_slots alike.ledger.slots _ _

theorem Alike.advanceEpoch {first second : DaemonCore} (alike : Alike first second) (target : UInt64)
    (digest : Digest) :
    (second.advanceEpoch target digest).2 = (first.advanceEpoch target digest).2 ∧
      Alike (first.advanceEpoch target digest).1 (second.advanceEpoch target digest).1 := by
  have epoch : second.epoch = first.epoch := by
    have same := congrArg DaemonCore.epoch alike.same
    exact same
  have advanced : Alike { first with epoch := first.epoch + 1, memberSetDigest := digest }
      { second with epoch := first.epoch + 1, memberSetDigest := digest } := by
    refine ⟨?_, alike.ledger, alike.store⟩
    have same := congrArg
      (fun core : DaemonCore => { core with epoch := first.epoch + 1, memberSetDigest := digest }) alike.same
    exact same
  unfold DaemonCore.advanceEpoch
  rw [epoch]
  split
  · exact ⟨rfl, alike⟩
  · dsimp only
    generalize ({ first with epoch := first.epoch + 1, memberSetDigest := digest } : DaemonCore) = left at advanced ⊢
    generalize ({ second with epoch := first.epoch + 1, memberSetDigest := digest } : DaemonCore) = right
      at advanced ⊢
    obtain ⟨answers, appended⟩ := advanced.appendLocked (.epoch ⟨first.epoch + 1, digest⟩)
    cases one : left.appendLocked (.epoch ⟨first.epoch + 1, digest⟩) with
    | mk left result =>
      cases other : right.appendLocked (.epoch ⟨first.epoch + 1, digest⟩) with
      | mk right again =>
        rw [one, other] at answers appended
        dsimp only at answers appended ⊢
        rw [answers]
        cases result with
        | error status => exact ⟨rfl, appended⟩
        | ok _ =>
          dsimp only
          rw [appended.composes]
          split
          · exact ⟨rfl, appended⟩
          · rename_i outcome _
            refine ⟨rfl, ?_, appended.ledger, appended.store⟩
            have same := congrArg (fun core : DaemonCore => core.publish outcome.snapshot) appended.same
            exact same

theorem Alike.composeLocked {first second : DaemonCore} (alike : Alike first second) (target : UInt64) :
    (second.composeLocked target).2 = (first.composeLocked target).2 ∧
      Alike (first.composeLocked target).1 (second.composeLocked target).1 := by
  have composes := alike.composes target
  have advances := alike.advanceEpoch target
  obtain ⟨ledger, store, rfl⟩ : ∃ ledger store, second = { first with ledger := ledger, store := store } :=
    ⟨_, _, alike.same⟩
  unfold DaemonCore.composeLocked
  dsimp only at composes ⊢
  rw [composes]
  split
  · exact ⟨rfl, alike⟩
  · split
    · exact ⟨rfl, alike⟩
    · split
      · exact ⟨rfl, rfl, alike.ledger, alike.store⟩
      · split
        · exact advances _
        · exact ⟨rfl, rfl, alike.ledger, alike.store⟩

theorem Alike.refl (core : DaemonCore) : Alike core core := by
  refine ⟨rfl, .refl core.ledger, ?_⟩
  cases core.store with
  | none => exact .none
  | some store => exact .some ⟨rfl, rfl, rfl, rfl, rfl, rfl⟩

/-- Taking the incarnation and binding the rack, the last part of opening a store. -/
def takeIncarnation (core : DaemonCore) (store : Store) : DaemonCore × Result Unit :=
  match store.nextIncarnation with
  | (store, .error status) => ({ core with store := some store }, .error status)
  | (store, .ok incarnation) =>
    let (store, bound) := store.bindRack core.config.rack.rack
    ({ core with store := some store, incarnation := incarnation }, bound)

theorem Alike.takeIncarnation {first second : DaemonCore} (alike : Alike first second) {one other : Store}
    (twin : Store.Twin one other) :
    (second.takeIncarnation other).2 = (first.takeIncarnation one).2 ∧
      Alike (first.takeIncarnation one).1 (second.takeIncarnation other).1 := by
  obtain ⟨ledger, store, rfl⟩ : ∃ ledger store, second = { first with ledger := ledger, store := store } :=
    ⟨_, _, alike.same⟩
  obtain ⟨counts, counted⟩ := twin.nextIncarnation
  unfold DaemonCore.takeIncarnation
  cases taken : one.nextIncarnation with
  | mk one count =>
    cases again : other.nextIncarnation with
    | mk other recount =>
      rw [taken, again] at counts counted
      dsimp only at counts counted ⊢
      rw [counts]
      cases count with
      | error status => exact ⟨rfl, rfl, alike.ledger, .some counted⟩
      | ok incarnation =>
        obtain ⟨bound, bindings⟩ := counted.bindRack first.config.rack.rack
        exact ⟨bound, rfl, alike.ledger, .some bindings⟩

/-- A starting process that has opened its store and replays it next. -/
def onStore (config : DaemonConfig) (store : Store) : DaemonCore :=
  { starting config with
    store := some store
    dirtyRecovery := !store.recovered.report.freshStore && !store.recovered.report.cleanShutdown }

/-- Opening a store that recovered no checkpoint. -/
theorem openStore_eq {config : DaemonConfig} {disk : Disk} {env : Env} {store : Store}
    (backed : config.storeDirectory ≠ []) (opened : Store.openDirectory disk {} env.io = .ok store)
    (unused : store.recovered.checkpoint = {}) :
    (starting config).openStore disk env =
      if store.boundRack ≠ 0 ∧ store.boundRack ≠ config.rack.rack then
        ({ starting config with store := some store }, .error ⟨.outOfRack, text "the store at " ++
          config.storeDirectory ++ text " belongs to rack " ++ hex64 store.boundRack⟩)
      else
        match (onStore config store).replayRecords store.recovered.records with
        | (core, .error status) => (core, .error status)
        | (core, .ok ()) => core.takeIncarnation store := by
  unfold openStore
  rw [if_neg (by simpa [starting, create] using backed), opened]
  dsimp only
  rw [unused]
  rfl

/-- Opening two directories whose logs differ by a repetition. -/
theorem openStore_twice (config : DaemonConfig) (manifest : FileContent Meta) {front : List StoreRecord}
    (rest : List StoreRecord) (env : Env) (free : CollisionFree (evidenceOf front)) :
    ∃ once twice result,
      (starting config).openStore { manifest := manifest, wal := some (front ++ rest) } env = (once, result) ∧
      (starting config).openStore { manifest := manifest, wal := some (front ++ front ++ rest) } env =
        (twice, result) ∧
      Alike once twice := by
  by_cases backed : config.storeDirectory = []
  · have empty : (starting config).config.storeDirectory.isEmpty = true := List.isEmpty_iff.mpr backed
    unfold openStore
    rw [if_pos empty, if_pos empty]
    exact ⟨_, _, _, rfl, rfl, .refl _⟩
  · rcases Store.openDirectory_twice manifest front rest env.io with ⟨status, one, other⟩ |
      ⟨one, other, opened, reopened, twin, unused, records, again, fresh, clean⟩
    · have failed : ∀ disk : Disk, Store.openDirectory disk {} env.io = .error status →
          (starting config).openStore disk env = (starting config, .error status) := by
        intro disk failing
        unfold openStore
        rw [if_neg (by simpa [starting, create] using backed), failing]
      exact ⟨_, _, _, failed _ one, failed _ other, .refl _⟩
    · rw [openStore_eq backed opened unused, openStore_eq backed reopened (twin.checkpoint.trans unused),
        twin.boundRack, records, again]
      split
      · exact ⟨_, _, _, rfl, rfl, ⟨rfl, .refl _, .some twin⟩⟩
      · have begun : Alike (onStore config one) (onStore config other) := by
          refine ⟨?_, .refl _, .some twin⟩
          simp only [onStore, fresh, clean]
        obtain ⟨answers, replayed⟩ :=
          @replayRecords_twice _ _ _ rest begun free (EvidenceLedger.holdsAmong_empty _ _)
        cases first : (onStore config one).replayRecords (front ++ rest) with
        | mk left result =>
          cases second : (onStore config other).replayRecords (front ++ front ++ rest) with
          | mk right repeated =>
            rw [first, second] at answers replayed
            dsimp only at answers replayed ⊢
            rw [answers]
            cases result with
            | error status => exact ⟨_, _, _, rfl, rfl, replayed⟩
            | ok _ =>
              obtain ⟨same, taken⟩ := replayed.takeIncarnation twin
              exact ⟨_, _, _, rfl, Prod.ext rfl same, taken⟩

end DaemonCore

/-- A directory without a checkpoint is replayed from its start. -/
theorem Disk.replayed_whole (manifest : FileContent Meta) (log : List StoreRecord) :
    ({ manifest := manifest, wal := some log } : Disk).replayed = log := by
  have unused : ({ manifest := manifest, wal := some log } : Disk).usedCheckpoint = {} := by
    unfold Disk.usedCheckpoint
    split
    · rfl
    · unfold Store.readCheckpoint
      dsimp only
      split <;> rfl
  rw [Disk.replayed, unused]
  exact congrArg Prod.snd (splitLog_boundary {} [] log)

namespace DaemonCore

theorem Alike.readyToCompose {first second : DaemonCore} (alike : Alike first second) :
    Alike first.readyToCompose second.readyToCompose := by
  have held : second.store.isSome = first.store.isSome := by
    have store := alike.store
    generalize first.store = one at store ⊢
    generalize second.store = other at store ⊢
    cases store <;> rfl
  have lifecycle : second.startLifecycle = first.startLifecycle := by
    unfold startLifecycle
    rw [held, alike.same]
  refine ⟨?_, alike.ledger, alike.store⟩
  unfold DaemonCore.readyToCompose
  rw [lifecycle, alike.same]

/-- Commits and states of which the front part is there twice rebuild the same registry. -/
theorem rebuilt_twice {registry : GrantRegistry} (keyed : registry.Keyed) (snapshot : Snapshot)
    (front rest : List StoreRecord) :
    (registry.installAll snapshot (commitsOf (front ++ front ++ rest))).applyAll (statesOf (front ++ front ++ rest)) =
      (registry.installAll snapshot (commitsOf (front ++ rest))).applyAll (statesOf (front ++ rest)) := by
  have installs : registry.installAll snapshot (commitsOf (front ++ front ++ rest)) =
      registry.installAll snapshot (commitsOf (front ++ rest)) := by
    have twice := registry.installAll_twice snapshot (commitsOf front)
    simp only [GrantRegistry.installAll, commitsOf_append, List.foldl_append] at twice ⊢
    rw [twice]
  rw [installs]
  have twice := GrantRegistry.applyAll_twice (statesOf front)
    (GrantRegistry.installAll_keyed keyed snapshot (commitsOf (front ++ rest)))
  generalize registry.installAll snapshot (commitsOf (front ++ rest)) = installed at twice ⊢
  simp only [GrantRegistry.applyAll, statesOf_append, List.foldl_append] at twice ⊢
  rw [twice]

/-- The registry that the recovered records rebuild. -/
def rebuild (core : DaemonCore) : DaemonCore :=
  { core with
    grants := (core.grants.installAll core.snapshot (commitsOf core.recoveredRecords)).applyAll
      (statesOf core.recoveredRecords) }

theorem recover_eq (core : DaemonCore) (disk : Disk) (env : Env) :
    core.recover disk env =
      match core.openStore disk env with
      | (core, .error status) => (core, .error status)
      | (core, .ok ()) =>
        match core.readyToCompose.composeLocked core.generation with
        | (core, .error status) => (core, .error status)
        | (core, .ok ()) => (core.rebuild, .ok ()) := rfl

theorem recover_twice (config : DaemonConfig) (manifest : FileContent Meta) {front : List StoreRecord}
    (rest : List StoreRecord) (env : Env) (free : CollisionFree (evidenceOf front)) :
    ∃ once twice result,
      (starting config).recover { manifest := manifest, wal := some (front ++ rest) } env = (once, result) ∧
      (starting config).recover { manifest := manifest, wal := some (front ++ front ++ rest) } env =
        (twice, result) ∧
      Alike once twice := by
  obtain ⟨one, other, result, opening, reopening, opened⟩ := openStore_twice config manifest rest env free
  rw [recover_eq, recover_eq, opening, reopening]
  cases result with
  | error status => exact ⟨_, _, _, rfl, rfl, opened⟩
  | ok _ =>
    have generation : other.generation = one.generation := by
      have same := congrArg DaemonCore.generation opened.same
      exact same
    obtain ⟨answers, composed⟩ := opened.readyToCompose.composeLocked one.generation
    have kept := composeLocked_recomposes one.readyToCompose one.generation
    have rekept := composeLocked_recomposes other.readyToCompose one.generation
    dsimp only
    rw [generation]
    cases first : one.readyToCompose.composeLocked one.generation with
    | mk left result =>
      cases second : other.readyToCompose.composeLocked one.generation with
      | mk right again =>
        rw [first, second] at answers composed
        rw [first] at kept
        rw [second] at rekept
        dsimp only at answers composed kept rekept ⊢
        rw [answers]
        cases result with
        | error status => exact ⟨_, _, _, rfl, rfl, composed⟩
        | ok _ =>
          refine ⟨_, _, _, rfl, rfl, ?_⟩
          have absent : ∀ id : UInt64, left.grants.grants[id]? = none := by
            intro id
            rw [kept.grants]
            simp [DaemonCore.readyToCompose, openStore_grants opening]
          have keyed : left.grants.Keyed := by
            intro id grant found
            rw [absent id] at found
            cases found
          have rebuilt : (left.grants.installAll left.snapshot (commitsOf right.recoveredRecords)).applyAll
                (statesOf right.recoveredRecords) =
              (left.grants.installAll left.snapshot (commitsOf left.recoveredRecords)).applyAll
                (statesOf left.recoveredRecords) := by
            have records : left.recoveredRecords = one.recoveredRecords := kept.recovered
            have rerecords : right.recoveredRecords = other.recoveredRecords := rekept.recovered
            rw [records, rerecords, openStore_recovered opening, openStore_recovered reopening]
            split
            · rfl
            · rw [Disk.replayed_whole, Disk.replayed_whole]
              exact rebuilt_twice keyed left.snapshot front rest
          refine ⟨?_, composed.ledger, composed.store⟩
          have registry : right.grants = left.grants := by
            have same := congrArg DaemonCore.grants composed.same
            exact same
          have snapshot : right.snapshot = left.snapshot := by
            have same := congrArg DaemonCore.snapshot composed.same
            exact same
          have moved : right.rebuild = { right with grants := left.rebuild.grants } := by
            unfold rebuild
            rw [registry, snapshot, rebuilt]
          have same := congrArg (fun core : DaemonCore => { core with grants := left.rebuild.grants }) composed.same
          rw [moved]
          exact same

/-- A log whose front part is there twice starts a process in the same state as the log that has it once. -/
theorem start_replays_once (config : DaemonConfig) (manifest : FileContent Meta) {front : List StoreRecord}
    (rest : List StoreRecord) (env : Env) (free : CollisionFree (evidenceOf front)) :
    ∃ once twice status,
      (create config).start { manifest := manifest, wal := some (front ++ rest) } env = (once, status) ∧
      (create config).start { manifest := manifest, wal := some (front ++ front ++ rest) } env = (twice, status) ∧
      twice.ledger.slots = once.ledger.slots ∧
      twice.generation = once.generation ∧
      twice.epoch = once.epoch ∧
      twice.lifecycle = once.lifecycle ∧
      twice.memberSetDigest = once.memberSetDigest ∧
      twice.snapshot = once.snapshot ∧
      twice.grants = once.grants := by
  obtain ⟨one, other, status, recovering, again, recovered⟩ := recover_twice config manifest rest env free
  have starts : ∀ disk : Disk, (create config).start disk env =
      match (starting config).recover disk env with
      | (core, .error status) => (core, .error status)
      | (core, .ok ()) => (core.revalidateGrants env.now, .ok ()) := by
    intro disk
    unfold start
    rw [if_neg (by simp [create])]
    rfl
  obtain ⟨once, twice, first, second, alike⟩ : ∃ once twice,
      (create config).start { manifest := manifest, wal := some (front ++ rest) } env = (once, status) ∧
      (create config).start { manifest := manifest, wal := some (front ++ front ++ rest) } env = (twice, status) ∧
      Alike once twice := by
    rw [starts, starts, recovering, again]
    cases status with
    | error status => exact ⟨_, _, rfl, rfl, recovered⟩
    | ok _ => exact ⟨_, _, rfl, rfl, @Alike.update _ _ recovered (fun core => core.revalidateGrants env.now)
        (fun _ _ _ => rfl)⟩
  refine ⟨once, twice, status, first, second, alike.ledger.slots, ?_⟩
  rw [alike.same]
  exact ⟨rfl, rfl, rfl, rfl, rfl, rfl⟩

/-- A rack that is opened for leases, takes a maintenance order and leases its whole. -/
def leasedRun : List Event :=
  [.start 0, .call 1 (.setLifecycle .active),
    .call 2 (.submitEvidence [{
      provenance := { source := 1, sequence := 1 }, payload := .maintenance ⟨.clear, .rack, 0, []⟩ }]),
    .call 3 (.acquire (wholeRack 1))]

theorem start_replays_lease_once :
    ((System.after loneRack leasedRun).log.map StoreRecord.code) = [4, 3, 7, 9] ∧
      ∃ once twice status,
        (create loneRack).start { wal := some ((System.after loneRack leasedRun).log ++ [.generation 9]) } { now := 4 } =
          (once, status) ∧
        (create loneRack).start { wal := some ((System.after loneRack leasedRun).log ++
          (System.after loneRack leasedRun).log ++ [.generation 9]) } { now := 4 } = (twice, status) ∧
        twice.generation = once.generation ∧ twice.grants = once.grants := by
  have free : CollisionFree (evidenceOf (System.after loneRack leasedRun).log) := by
    unfold CollisionFree
    decide +kernel
  refine ⟨by decide +kernel, ?_⟩
  obtain ⟨once, twice, status, first, second, -, generation, -, -, -, -, grants⟩ :=
    start_replays_once loneRack .absent [.generation 9] { now := 4 } free
  exact ⟨once, twice, status, first, second, generation, grants⟩

end DaemonCore

end RackFabric
