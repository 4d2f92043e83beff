import RackFabric.Authority.Bookkeeping
import RackFabric.Persist.Chart
import RackFabric.Runtime.Composing

/-!
The counters of the rack on the log and in a checkpoint. The log names the last generation, the last epoch and its
member set; each record moves them on, and a start that reads a checkpoint and the log after it must find the same.
-/

namespace RackFabric

/-- Records that name a generation. -/
def StoreRecord.counts : StoreRecord → Bool
  | .generation _ | .lifecycle _ => true
  | _ => false

def StoreRecord.isConfig : StoreRecord → Bool
  | .config _ => true
  | _ => false

/-- What is followed besides the epoch. -/
structure Tracked where
  generation : Prop
  members : Prop

namespace Counters

/-- A rack without members at its first generation and epoch. -/
def first : Counters :=
  ⟨0, 0, emptyMemberSet⟩

/-- What replaying a record does. -/
def apply (counters : Counters) : StoreRecord → Counters
  | .lifecycle body =>
    { counters with
      generation := if body.generation > counters.generation then body.generation else counters.generation
      epoch := if body.epoch > counters.epoch then body.epoch else counters.epoch }
  | .generation generation => { counters with generation := generation }
  | .epoch body => { counters with epoch := body.epoch, memberSet := body.memberSetDigest }
  | _ => counters

def after (counters : Counters) (records : List StoreRecord) : Counters :=
  records.foldl apply counters

@[simp] theorem after_snoc (counters : Counters) (records : List StoreRecord) (record : StoreRecord) :
    counters.after (records ++ [record]) = (counters.after records).apply record := by
  simp [after]

theorem after_append (counters : Counters) (first second : List StoreRecord) :
    counters.after (first ++ second) = (counters.after first).after second :=
  List.foldl_append

/-- The counters of a log. -/
abbrev logged (records : List StoreRecord) : Counters :=
  first.after records

theorem logged_snoc (records : List StoreRecord) (record : StoreRecord) :
    logged (records ++ [record]) = (logged records).apply record :=
  after_snoc first records record

/-- The same counters, as far as they are followed. -/
structure Agree (tracked : Tracked) (first second : Counters) : Prop where
  generation : tracked.generation → first.generation = second.generation
  epoch : first.epoch = second.epoch
  memberSet : tracked.members → first.memberSet = second.memberSet

/-- Earlier counters: an epoch has one member set. -/
structure Upto (tracked : Tracked) (first second : Counters) : Prop where
  generation : tracked.generation → first.generation ≤ second.generation
  epoch : first.epoch < second.epoch ∨
    first.epoch = second.epoch ∧ (tracked.members → first.memberSet = second.memberSet)

theorem Agree.upto {tracked : Tracked} {first second : Counters} (agree : first.Agree tracked second) :
    first.Upto tracked second := by
  refine ⟨?_, .inr ⟨agree.epoch, agree.memberSet⟩⟩
  intro follow
  rw [agree.generation follow]
  exact UInt64.le_refl _

theorem Upto.refl (tracked : Tracked) (counters : Counters) : counters.Upto tracked counters :=
  ⟨fun _ => UInt64.le_refl _, .inr ⟨rfl, fun _ => rfl⟩⟩

theorem Upto.trans {tracked : Tracked} {first second third : Counters} (earlier : first.Upto tracked second)
    (later : second.Upto tracked third) : first.Upto tracked third := by
  refine ⟨fun follow => UInt64.le_trans (earlier.generation follow) (later.generation follow), ?_⟩
  rcases earlier.epoch with before | ⟨same, members⟩
  · rcases later.epoch with next | ⟨equal, -⟩
    · exact .inl (UInt64.lt_trans before next)
    · exact .inl (equal ▸ before)
  · rcases later.epoch with next | ⟨equal, others⟩
    · exact .inl (same ▸ next)
    · exact .inr ⟨same.trans equal, fun follow => (members follow).trans (others follow)⟩

theorem Upto.epoch_le {tracked : Tracked} {first second : Counters} (upto : first.Upto tracked second) :
    first.epoch ≤ second.epoch := by
  rcases upto.epoch with before | ⟨same, -⟩
  · exact UInt64.le_of_lt before
  · rw [same]
    exact UInt64.le_refl _

/-- A record that a process appends while it stands at these counters. -/
inductive Admits (tracked : Tracked) (counters : Counters) : StoreRecord → Prop where
  | mute (record : StoreRecord) (mute : record.isMute = true) : Admits tracked counters record
  | commit (grant : Grant) (generation : tracked.generation → grant.generation ≤ counters.generation)
      (epoch : grant.epoch ≤ counters.epoch) : Admits tracked counters (.grantCommit grant)
  | mark (body : LifecycleRecord) (generation : tracked.generation → body.generation = counters.generation)
      (epoch : body.epoch = counters.epoch) : Admits tracked counters (.lifecycle body)
  | advance (generation : UInt64) (above : tracked.generation → counters.generation < generation) :
      Admits tracked counters (.generation generation)
  | enter (memberSet : Digest) (room : counters.epoch ≠ maxU64) :
      Admits tracked counters (.epoch ⟨counters.epoch + 1, memberSet⟩)

theorem apply_mute (counters : Counters) {record : StoreRecord} (mute : record.isMute = true) :
    counters.apply record = counters := by
  cases record <;> first | rfl | cases mute

theorem lt_succ {value : UInt64} (room : value ≠ maxU64) : value < value + 1 := by
  have other : value.toNat ≠ maxU64.toNat := fun same => room (UInt64.toNat_inj.mp same)
  have bound := value.toNat_lt
  have top : maxU64.toNat = 2 ^ 64 - 1 := rfl
  rw [UInt64.lt_iff_toNat_lt, GrantRegistry.toNat_succ (by omega)]
  omega

private theorem larger_self (value : UInt64) : (if value > value then value else value) = value := by
  split <;> rfl

/-- A lifecycle record repeats the counters it was written at. -/
theorem apply_mark {tracked : Tracked} {counters : Counters} {body : LifecycleRecord}
    (generation : tracked.generation → body.generation = counters.generation) (epoch : body.epoch = counters.epoch) :
    (counters.apply (.lifecycle body)).Agree tracked counters := by
  refine ⟨?_, ?_, fun _ => rfl⟩
  · intro follow
    simp only [apply, generation follow, larger_self]
  · simp only [apply, epoch, larger_self]

theorem Admits.upto {tracked : Tracked} {counters : Counters} {record : StoreRecord}
    (admits : counters.Admits tracked record) : counters.Upto tracked (counters.apply record) := by
  cases admits with
  | mute record mute =>
    rw [apply_mute counters mute]
    exact .refl tracked counters
  | commit grant generation epoch => exact .refl tracked counters
  | mark body generation epoch =>
    have same := apply_mark generation epoch
    exact Agree.upto ⟨fun follow => (same.generation follow).symm, same.epoch.symm, fun follow => (same.memberSet follow).symm⟩
  | advance generation above =>
    exact ⟨fun follow => UInt64.le_of_lt (above follow), .inr ⟨rfl, fun _ => rfl⟩⟩
  | enter memberSet room => exact ⟨fun _ => UInt64.le_refl _, .inl (lt_succ room)⟩

end Counters

/-- A stamp that the counters have reached. -/
structure Stamp.Within (tracked : Tracked) (counters : Counters) (stamp : Stamp) : Prop where
  generation : tracked.generation → stamp.generation ≤ counters.generation
  epoch : stamp.epoch ≤ counters.epoch

theorem Stamp.Within.upto {tracked : Tracked} {first second : Counters} {stamp : Stamp}
    (reached : stamp.Within tracked first) (upto : first.Upto tracked second) : stamp.Within tracked second :=
  ⟨fun follow => UInt64.le_trans (reached.generation follow) (upto.generation follow),
    UInt64.le_trans reached.epoch upto.epoch_le⟩

def Checkpoint.counters (checkpoint : Checkpoint) : Counters :=
  { generation := checkpoint.generation, epoch := checkpoint.epoch, memberSet := checkpoint.memberSetDigest }

/-- Replaying the rest of a log from saved counters finds the counters of the log. The saved generation may be behind
until the log names one again. -/
structure Counters.Resumes (tracked : Tracked) (saved : Counters) (covered rest : List StoreRecord) : Prop where
  behind : tracked.generation → (saved.after rest).generation ≤ (logged (covered ++ rest)).generation
  generation : tracked.generation → rest.any StoreRecord.counts = true →
    (saved.after rest).generation = (logged (covered ++ rest)).generation
  epoch : (saved.after rest).epoch = (logged (covered ++ rest)).epoch
  memberSet : tracked.members → (saved.after rest).memberSet = (logged (covered ++ rest)).memberSet

namespace Counters

/-- A lifecycle record brings a generation that is behind up to date. -/
theorem apply_mark_generation {found reached : Counters} {body : LifecycleRecord}
    (behind : found.generation ≤ reached.generation) (current : body.generation = reached.generation) :
    (found.apply (.lifecycle body)).generation = (reached.apply (.lifecycle body)).generation := by
  simp only [apply, current, larger_self]
  split
  · rfl
  · rename_i reversed
    exact UInt64.le_antisymm behind (UInt64.not_lt.mp reversed)

theorem Resumes.snoc {tracked : Tracked} {saved : Counters} {covered rest : List StoreRecord} {record : StoreRecord}
    (resumes : saved.Resumes tracked covered rest) (admits : (logged (covered ++ rest)).Admits tracked record) :
    saved.Resumes tracked covered (rest ++ [record]) := by
  have whole : logged (covered ++ (rest ++ [record])) = (logged (covered ++ rest)).apply record := by
    rw [← List.append_assoc, logged_snoc]
  have counts : (rest ++ [record]).any StoreRecord.counts = (rest.any StoreRecord.counts || record.counts) := by simp
  obtain ⟨behind, generation, epoch, memberSet⟩ := resumes
  constructor <;> rw [whole, after_snoc] <;> (try rw [counts]) <;>
    generalize logged (covered ++ rest) = reached at behind generation epoch memberSet admits ⊢ <;>
    generalize saved.after rest = found at behind generation epoch memberSet ⊢
  · intro follow
    cases admits with
    | mute record mute =>
      rw [apply_mute _ mute, apply_mute _ mute]
      exact behind follow
    | commit grant => exact behind follow
    | mark body current =>
      rw [apply_mark_generation (behind follow) (current follow)]
      exact UInt64.le_refl _
    | advance generation => exact UInt64.le_refl _
    | enter memberSet => exact behind follow
  · intro follow
    cases admits with
    | mute record mute =>
      have silent : record.counts = false := by cases record <;> first | rfl | cases mute
      rw [apply_mute _ mute, apply_mute _ mute, silent, Bool.or_false]
      exact generation follow
    | commit grant =>
      intro counted
      exact generation follow (by simpa [StoreRecord.counts] using counted)
    | mark body current => exact fun _ => apply_mark_generation (behind follow) (current follow)
    | advance generation => exact fun _ => rfl
    | enter memberSet =>
      intro counted
      exact generation follow (by simpa [StoreRecord.counts] using counted)
  · cases admits with
    | mute record mute =>
      rw [apply_mute _ mute, apply_mute _ mute]
      exact epoch
    | commit grant => exact epoch
    | mark body => simp only [apply, epoch]
    | advance generation => exact epoch
    | enter memberSet => rfl
  · intro follow
    cases admits with
    | mute record mute =>
      rw [apply_mute _ mute, apply_mute _ mute]
      exact memberSet follow
    | enter memberSet => rfl
    | commit | mark | advance => exact memberSet follow

/-- What the log and a checkpoint of it are held to: a condition on the counters that outlasts them, grants within
them, and saved counters from which they are found again. -/
def chart (tracked : Tracked) (held : Counters → Prop) : Chart where
  log records := held (logged records) ∧ (∀ grant ∈ commitsOf records, grant.stamp.Within tracked (logged records)) ∧
    ∀ record ∈ records, record.isConfig = false
  fits checkpoint covered rest := checkpoint.counters.Resumes tracked covered rest

/-- A condition on counters that holds of all later ones. -/
def Lasting (tracked : Tracked) (held : Counters → Prop) : Prop :=
  ∀ first second : Counters, first.Upto tracked second → held first → held second

theorem Admits.charted {tracked : Tracked} {held : Counters → Prop} (lasting : Lasting tracked held)
    {records : List StoreRecord} (sound : (chart tracked held).log records) {record : StoreRecord}
    (admits : (logged records).Admits tracked record) : (chart tracked held).Admits records record := by
  obtain ⟨holds, commits, configs⟩ := sound
  constructor
  · refine ⟨?_, ?_, ?_⟩
    · rw [logged_snoc]
      exact lasting _ _ admits.upto holds
    · intro grant member
      rw [logged_snoc]
      rw [commitsOf_append] at member
      rcases List.mem_append.mp member with member | member
      · exact (commits grant member).upto admits.upto
      · cases admits with
        | commit other generation epoch =>
          rw [List.mem_singleton.mp member]
          exact ⟨generation, epoch⟩
        | mute record mute =>
          have silent : commitsOf [record] = [] := by cases record <;> first | rfl | cases mute
          rw [silent] at member
          cases member
        | mark | advance | enter => cases member
    · intro other member
      rcases List.mem_append.mp member with member | member
      · exact configs other member
      · rw [List.mem_singleton.mp member]
        cases admits with
        | mute record mute => cases record <;> first | rfl | cases mute
        | commit | mark | advance | enter => rfl
  · intro checkpoint covered rest split resumes
    rw [split] at admits
    exact Resumes.snoc resumes admits

end Counters

end RackFabric
