import RackFabric.Authority.Standing
import RackFabric.Authority.Rebuild
import RackFabric.Foundation.Replay

/-!
The registry under a log whose front part is replayed twice: commits that were installed or refused stay so, ends
that were applied are applied again to the same effect, and remembered outcomes are overwritten by themselves.
-/

namespace RackFabric

open Foundation

namespace GrantRegistry

def installAll (registry : GrantRegistry) (snapshot : Snapshot) (commits : List Grant) : GrantRegistry :=
  commits.foldl (fun registry grant => (registry.installRecovered snapshot grant).1) registry

def applyAll (registry : GrantRegistry) (states : List GrantStateRecord) : GrantRegistry :=
  states.foldl (fun registry body => (registry.applyState body.id body.state body.reason).1) registry

/-- A commit that an install would refuse. -/
def Refuses (snapshot : Snapshot) (registry : GrantRegistry) (grant : Grant) : Prop :=
  snapshot.valid = false ∨ grant.id = 0 ∨ grant.id ∈ registry.grants ∨ registry.limits.maxLiveGrants ≤ registry.live

theorem installRecovered_refused {snapshot : Snapshot} {registry : GrantRegistry} {grant : Grant}
    (refused : Refuses snapshot registry grant) : (registry.installRecovered snapshot grant).1 = registry := by
  unfold installRecovered
  split
  · rfl
  · rename_i valid
    split
    · rfl
    · rename_i named
      split
      · rfl
      · rename_i fresh
        split
        · rfl
        · rename_i room
          rcases refused with invalid | zero | known | full
          · exact absurd invalid (by simpa using valid)
          · exact absurd zero (by simpa using named)
          · exact absurd known (by simpa using fresh)
          · exact absurd full room

/-- An install keeps every grant, never lowers the live count, and holds the grant unless it refuses it. -/
theorem installRecovered_grows (registry : GrantRegistry) (snapshot : Snapshot) (grant : Grant) :
    (registry.installRecovered snapshot grant).1.limits = registry.limits ∧
      registry.live ≤ (registry.installRecovered snapshot grant).1.live ∧
      (∀ id ∈ registry.grants, id ∈ (registry.installRecovered snapshot grant).1.grants) ∧
      (grant.id ∈ (registry.installRecovered snapshot grant).1.grants ∨ Refuses snapshot registry grant) := by
  by_cases refused : Refuses snapshot registry grant
  · rw [installRecovered_refused refused]
    exact ⟨rfl, Nat.le_refl _, fun _ member => member, .inr refused⟩
  · obtain ⟨valid, named, fresh, room⟩ : snapshot.valid = true ∧ grant.id ≠ 0 ∧ grant.id ∉ registry.grants ∧
        ¬ registry.limits.maxLiveGrants ≤ registry.live := by
      simpa [Refuses] using refused
    unfold installRecovered
    simp only [valid, Bool.not_true, Bool.false_eq_true, if_false, beq_iff_eq, named,
      Std.ExtTreeMap.contains_iff_mem, fresh, ge_iff_le, room]
    split
    · refine ⟨rfl, Nat.le_refl _, ?_, .inl ?_⟩
      · intro id member
        exact Std.ExtTreeMap.mem_insert.mpr (.inr member)
      · exact Std.ExtTreeMap.mem_insert_self
    · rename_i pool _
      have books := attach_sameBooks (registry.raiseFence grant.fence) snapshot (recoveredGrant grant pool)
      have grants : ((registry.raiseFence grant.fence).attach snapshot (recoveredGrant grant pool)).grants =
        registry.grants := books.grants
      have live : ((registry.raiseFence grant.fence).attach snapshot (recoveredGrant grant pool)).live =
        registry.live := books.live
      refine ⟨books.limits, ?_, ?_, .inl ?_⟩
      · simp only [reinstate, live]
        omega
      · intro id member
        simp only [reinstate, grants]
        exact Std.ExtTreeMap.mem_insert.mpr (.inr member)
      · exact Std.ExtTreeMap.mem_insert_self

/-- Commits that were offered before are refused when they are offered again. -/
theorem installAll_twice (registry : GrantRegistry) (snapshot : Snapshot) (commits : List Grant) :
    (registry.installAll snapshot commits).installAll snapshot commits = registry.installAll snapshot commits := by
  have stays : ∀ state : GrantRegistry, ∀ grant other, Refuses snapshot state grant →
      Refuses snapshot (state.installRecovered snapshot other).1 grant := by
    intro state grant other refused
    obtain ⟨limits, live, known, -⟩ := installRecovered_grows state snapshot other
    rcases refused with invalid | zero | held | full
    · exact .inl invalid
    · exact .inr (.inl zero)
    · exact .inr (.inr (.inl (known _ held)))
    · exact .inr (.inr (.inr (limits ▸ Nat.le_trans full live)))
  have made : ∀ state : GrantRegistry, ∀ grant, Refuses snapshot (state.installRecovered snapshot grant).1 grant := by
    intro state grant
    rcases (installRecovered_grows state snapshot grant).2.2.2 with held | refused
    · exact .inr (.inr (.inl held))
    · exact stays state grant grant refused
  have offered : ∀ grant ∈ commits, Refuses snapshot (registry.installAll snapshot commits) grant :=
    (@foldl_absorbed _ _ _ (fun _ => True) (Refuses snapshot) commits (fun _ _ _ _ => trivial)
      (fun state grant _ _ => made state grant) (fun state grant _ other _ _ => stays state grant other)
      commits (fun _ member => member) registry trivial).2
  exact foldl_of_absorbed (fun _ _ refused => installRecovered_refused refused) offered

theorem installAll_keyed {registry : GrantRegistry} (keyed : registry.Keyed) (snapshot : Snapshot)
    (commits : List Grant) : (registry.installAll snapshot commits).Keyed := by
  induction commits generalizing registry with
  | nil => exact keyed
  | cons grant rest ih => exact ih (installRecovered_keyed keyed snapshot grant)

end GrantRegistry

theorem Grant.mark_afterEnds (states : List GrantStateRecord) (grant : Grant) (state : GrantState) (reason : Text) :
    (grant.afterEnds states).mark state reason = grant.mark state reason := by
  induction states using List.reverseRecOn with
  | nil => rfl
  | append_singleton states last ih =>
    rw [Grant.afterEnds, List.foldl_append, List.foldl_cons, List.foldl_nil, Grant.applyEnd]
    split
    · exact ih
    · exact ih

theorem Grant.afterEnds_id (states : List GrantStateRecord) (grant : Grant) :
    (grant.afterEnds states).id = grant.id := by
  have same := congrArg Grant.id (Grant.mark_afterEnds states grant .fenced [])
  exact same

/-- Ends that are applied again leave a grant as they left it. -/
theorem Grant.afterEnds_twice (states : List GrantStateRecord) (grant : Grant) :
    (grant.afterEnds states).afterEnds states = grant.afterEnds states := by
  have snoc : ∀ (states : List GrantStateRecord) (last : GrantStateRecord) (grant : Grant),
      grant.afterEnds (states ++ [last]) = (grant.afterEnds states).applyEnd last := by
    intro states last grant
    simp [Grant.afterEnds]
  induction states using List.reverseRecOn with
  | nil => rfl
  | append_singleton states last ih =>
    by_cases ends : last.ends grant.id
    · have marks : ∀ other : Grant, other.id = grant.id →
          other.afterEnds (states ++ [last]) = other.mark last.state last.reason := by
        intro other same
        rw [snoc, Grant.applyEnd, if_pos (by rw [Grant.afterEnds_id, same]; exact ends), Grant.mark_afterEnds]
      rw [marks grant rfl, marks _ (by rfl)]
      rfl
    · have passes : ∀ other : Grant, other.id = grant.id →
          other.afterEnds (states ++ [last]) = other.afterEnds states := by
        intro other same
        rw [snoc, Grant.applyEnd, if_neg (by rw [Grant.afterEnds_id, same]; exact ends)]
      rw [passes grant rfl, passes _ (Grant.afterEnds_id states grant), ih]

namespace GrantRegistry

/-- No end of the list concerns a live grant any more. -/
def Spent (states : List GrantStateRecord) (registry : GrantRegistry) : Prop :=
  ∀ body ∈ states, isTerminalState body.state = true → ∀ grant, registry.grants[body.id]? = some grant →
    grant.isLive = false

/-- An end that concerns no live grant rewrites the grants alone. -/
theorem applyState_spent {registry : GrantRegistry} {body : GrantStateRecord}
    (spent : isTerminalState body.state = true → ∀ grant, registry.grants[body.id]? = some grant →
      grant.isLive = false) :
    ∃ grants, (registry.applyState body.id body.state body.reason).1 = { registry with grants := grants } := by
  unfold applyState
  split
  · exact ⟨registry.grants, rfl⟩
  · rename_i grant found
    split
    · rename_i terminal
      split
      · rename_i live
        rw [spent terminal grant found] at live
        cases live
      · exact ⟨_, rfl⟩
    · exact ⟨registry.grants, rfl⟩

/-- Once the ends of a list have been applied they concern no live grant. -/
theorem applyAll_spent (states : List GrantStateRecord) {registry : GrantRegistry} (keyed : registry.Keyed) :
    Spent states (registry.applyAll states) := by
  intro body member terminal grant found
  have entry := (foldl_applyState_swept keyed states).entries body.id
  rw [applyAll, entry] at found
  obtain ⟨original, stored, rfl⟩ := Option.map_eq_some_iff.mp found
  rcases Grant.afterEnds_cases states original with ⟨unended, -⟩ | ⟨last, -, ends, marked⟩
  · exact absurd ⟨(keyed body.id original stored).symm, terminal⟩ (unended body member)
  · rw [marked]
    exact isLive_of_terminal ends.2

/-- Ends that are applied again leave the registry as they left it. -/
theorem applyAll_twice (states : List GrantStateRecord) {registry : GrantRegistry} (keyed : registry.Keyed) :
    (registry.applyAll states).applyAll states = registry.applyAll states := by
  have first := foldl_applyState_swept keyed states
  have second := foldl_applyState_swept first.keyed states
  have alone : ∀ (rest : List GrantStateRecord) (registry : GrantRegistry), (∀ body ∈ rest, body ∈ states) →
      registry.Keyed → Spent states registry → ∃ grants, registry.applyAll rest = { registry with grants := grants } := by
    intro rest
    induction rest with
    | nil => exact fun registry _ _ _ => ⟨registry.grants, rfl⟩
    | cons body rest ih =>
      intro registry among keyed spent
      have swept := applyState_swept keyed body
      have still : Spent states (registry.applyState body.id body.state body.reason).1 := by
        intro other member terminal grant found
        rw [swept.entries other.id] at found
        obtain ⟨original, stored, rfl⟩ := Option.map_eq_some_iff.mp found
        have dead := spent other member terminal original stored
        unfold Grant.applyEnd
        split
        · rename_i ends
          exact isLive_of_terminal ends.2
        · exact dead
      obtain ⟨grants, applied⟩ := applyState_spent (spent body (among body (by simp)))
      obtain ⟨final, rewritten⟩ := ih _ (fun other member => among other (by simp [member])) swept.keyed still
      refine ⟨final, ?_⟩
      rw [applyAll, List.foldl_cons, ← applyAll, rewritten, applied]
  obtain ⟨grants, rewritten⟩ := alone states (registry.applyAll states) (fun _ member => member) first.keyed
    (applyAll_spent states keyed)
  have same : grants = (registry.applyAll states).grants := by
    apply Std.ExtTreeMap.ext_getElem?
    intro id
    have entry := second.entries id
    rw [← applyAll, ← applyAll, rewritten] at entry
    have before := first.entries id
    rw [← applyAll] at before
    rw [entry, before, Option.map_map]
    cases registry.grants[id]? with
    | none => rfl
    | some grant => exact congrArg some (Grant.afterEnds_twice states grant)
  rw [rewritten, same]

def rememberAll (registry : GrantRegistry) (bodies : List (RequestId × RequestOutcome)) : GrantRegistry :=
  bodies.foldl (fun registry body => registry.installOutcome body.1 body.2) registry

/-- The last outcome a list gives for a request. -/
def lastOutcome (request : RequestId) (bodies : List (RequestId × RequestOutcome)) : Option RequestOutcome :=
  bodies.foldl (fun last body => if body.1.isSet ∧ body.1 = request then some body.2 else last) none

/-- A request that an install can no longer add. -/
def Known (registry : GrantRegistry) (body : RequestId × RequestOutcome) : Prop :=
  body.1.isSet = true → body.1 ∈ registry.outcomes ∨
    registry.limits.maxRememberedRequests ≤ registry.outcomes.size

theorem installOutcome_cases (registry : GrantRegistry) (body : RequestId × RequestOutcome) :
    (body.1.isSet = true ∧ (body.1 ∈ registry.outcomes ∨
        registry.outcomes.size < registry.limits.maxRememberedRequests) ∧
      registry.installOutcome body.1 body.2 =
        { registry with outcomes := registry.outcomes.insert body.1 body.2 }) ∨
    ((body.1.isSet = false ∨ body.1 ∉ registry.outcomes ∧
        registry.limits.maxRememberedRequests ≤ registry.outcomes.size) ∧
      registry.installOutcome body.1 body.2 = registry) := by
  unfold installOutcome
  split
  · rename_i unset
    exact .inr ⟨.inl (by simpa using unset), rfl⟩
  · rename_i set_
    split
    · rename_i full
      simp only [ge_iff_le, Bool.and_eq_true, decide_eq_true_eq, Bool.not_eq_true'] at full
      have absent : body.1 ∉ registry.outcomes := by
        rw [← Std.ExtTreeMap.contains_iff_mem, full.2]
        simp
      exact .inr ⟨.inr ⟨absent, full.1⟩, rfl⟩
    · rename_i room
      refine .inl ⟨by simpa using set_, ?_, rfl⟩
      simp only [ge_iff_le, Bool.and_eq_true, decide_eq_true_eq, Bool.not_eq_true', not_and, Bool.not_eq_false] at room
      by_cases full : registry.limits.maxRememberedRequests ≤ registry.outcomes.size
      · exact .inl (Std.ExtTreeMap.contains_iff_mem.mp (room full))
      · exact .inr (by omega)

theorem installOutcome_known (registry : GrantRegistry) (body other : RequestId × RequestOutcome) :
    Known (registry.installOutcome body.1 body.2) body ∧
      (Known registry other → Known (registry.installOutcome body.1 body.2) other) := by
  rcases installOutcome_cases registry body with ⟨-, -, inserted⟩ | ⟨refused, same⟩
  · rw [inserted]
    refine ⟨fun _ => .inl Std.ExtTreeMap.mem_insert_self, ?_⟩
    intro known set_
    rcases known set_ with held | full
    · exact .inl (Std.ExtTreeMap.mem_insert.mpr (.inr held))
    · exact .inr (Nat.le_trans full Std.ExtTreeMap.size_le_size_insert)
  · rw [same]
    refine ⟨?_, id⟩
    intro set_
    rcases refused with unset | ⟨-, full⟩
    · rw [set_] at unset
      cases unset
    · exact .inr full

/-- A request whose outcome is held is held with the last one that was offered. -/
theorem rememberAll_last {bodies : List (RequestId × RequestOutcome)} {registry : GrantRegistry} {request : RequestId}
    {outcome : RequestOutcome} (last : lastOutcome request bodies = some outcome)
    (held : request ∈ (registry.rememberAll bodies).outcomes) :
    (registry.rememberAll bodies).outcomes[request]? = some outcome := by
  induction bodies using List.reverseRecOn with
  | nil => cases last
  | append_singleton bodies body ih =>
    rw [rememberAll, List.foldl_append, List.foldl_cons, List.foldl_nil, ← rememberAll] at held ⊢
    rw [lastOutcome, List.foldl_append, List.foldl_cons, List.foldl_nil, ← lastOutcome] at last
    rcases installOutcome_cases (registry.rememberAll bodies) body with ⟨set_, -, inserted⟩ | ⟨refused, same⟩
    · rw [inserted] at held ⊢
      by_cases own : body.1 = request
      · rw [if_pos ⟨set_, own⟩] at last
        rw [own, Std.ExtTreeMap.getElem?_insert_self, last]
      · rw [if_neg (fun both => own both.2)] at last
        have other : compare body.1 request ≠ .eq := fun same => own (Std.LawfulEqCmp.eq_of_compare same)
        rw [Std.ExtTreeMap.getElem?_insert, if_neg other]
        exact ih last ((Std.ExtTreeMap.mem_insert.mp held).resolve_left other)
    · rw [same] at held ⊢
      by_cases own : body.1.isSet ∧ body.1 = request
      · rcases refused with unset | ⟨absent, -⟩
        · rw [own.1] at unset
          cases unset
        · exact absurd (own.2 ▸ held) absent
      · rw [if_neg own] at last
        exact ih last held

/-- When every request of a list is held or there is no room, the list rewrites outcomes that are held. -/
theorem rememberAll_known {bodies : List (RequestId × RequestOutcome)} {registry : GrantRegistry}
    (known : ∀ body ∈ bodies, Known registry body) :
    ∃ outcomes, registry.rememberAll bodies = { registry with outcomes := outcomes } ∧
      outcomes.size = registry.outcomes.size ∧ (∀ request, request ∈ outcomes ↔ request ∈ registry.outcomes) ∧
      ∀ request, request ∈ registry.outcomes →
        outcomes[request]? = (lastOutcome request bodies).or registry.outcomes[request]? := by
  induction bodies using List.reverseRecOn with
  | nil => exact ⟨registry.outcomes, rfl, rfl, fun _ => Iff.rfl, fun _ _ => rfl⟩
  | append_singleton bodies body ih =>
    obtain ⟨outcomes, rewritten, size, keys, entries⟩ := ih (fun other member => known other (by simp [member]))
    have fold : registry.rememberAll (bodies ++ [body]) =
        (registry.rememberAll bodies).installOutcome body.1 body.2 := by
      simp [rememberAll]
    have last : ∀ request, lastOutcome request (bodies ++ [body]) =
        if body.1.isSet ∧ body.1 = request then some body.2 else lastOutcome request bodies := by
      intro request
      simp [lastOutcome]
    rw [fold, rewritten]
    rcases installOutcome_cases { registry with outcomes := outcomes } body with
      ⟨set_, room, inserted⟩ | ⟨refused, same⟩
    · have held : body.1 ∈ outcomes := by
        rcases room with held | room
        · exact held
        · rcases known body (by simp) set_ with held | full
          · exact (keys _).mpr held
          · change outcomes.size < registry.limits.maxRememberedRequests at room
            omega
      rw [inserted]
      refine ⟨_, rfl, ?_, ?_, ?_⟩
      · rw [Std.ExtTreeMap.size_insert, if_pos (Std.ExtTreeMap.contains_iff_mem.mpr held), size]
      · intro request
        rw [Std.ExtTreeMap.mem_insert, ← keys request]
        constructor
        · rintro (same | member)
          · exact Std.LawfulEqCmp.eq_of_compare same ▸ held
          · exact member
        · exact .inr
      · intro request member
        rw [last, Std.ExtTreeMap.getElem?_insert]
        by_cases own : body.1 = request
        · rw [if_pos (by rw [own]; exact Std.ReflCmp.compare_self), if_pos ⟨set_, own⟩, Option.some_or]
        · rw [if_neg (fun same => own (Std.LawfulEqCmp.eq_of_compare same)), if_neg (fun both => own both.2)]
          exact entries request member
    · rw [same]
      refine ⟨outcomes, rfl, size, keys, ?_⟩
      intro request member
      rw [last, if_neg]
      · exact entries request member
      · rintro ⟨set_, own⟩
        rcases refused with unset | ⟨absent, -⟩
        · rw [set_] at unset
          cases unset
        · exact absent ((keys _).mpr (own ▸ member))

/-- Outcomes that are installed again leave the memory of requests as they left it. -/
theorem rememberAll_twice (bodies : List (RequestId × RequestOutcome)) (registry : GrantRegistry) :
    (registry.rememberAll bodies).rememberAll bodies = registry.rememberAll bodies := by
  have known : ∀ body ∈ bodies, Known (registry.rememberAll bodies) body :=
    (@foldl_absorbed _ _ _ (fun _ => True) Known bodies (fun _ _ _ _ => trivial)
      (fun state body _ _ => (installOutcome_known state body body).1)
      (fun state body _ other _ _ => (installOutcome_known state other body).2)
      bodies (fun _ member => member) registry trivial).2
  obtain ⟨outcomes, rewritten, -, keys, entries⟩ := rememberAll_known known
  have same : outcomes = (registry.rememberAll bodies).outcomes := by
    apply Std.ExtTreeMap.ext_getElem?
    intro request
    by_cases held : request ∈ (registry.rememberAll bodies).outcomes
    · rw [entries request held]
      cases last : lastOutcome request bodies with
      | none => rfl
      | some outcome => rw [Option.some_or, rememberAll_last last held]
    · have absent : request ∉ outcomes := fun member => held ((keys request).mp member)
      rw [Std.ExtTreeMap.getElem?_eq_none absent, Std.ExtTreeMap.getElem?_eq_none held]
  rw [rewritten, same]

end GrantRegistry

end RackFabric
