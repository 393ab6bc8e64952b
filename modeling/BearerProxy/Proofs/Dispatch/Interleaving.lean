import Mathlib.Data.List.Dedup
import BearerProxy.Proofs.Dispatch.Failover
import BearerProxy.Proofs.Dispatch.Traffic

/-!
What holds at every point of the traffic on one rotation: the rotation stays in order, no selection goes
uncounted, and a member is in quarantine exactly if a preparation has put it there since the last reset.
-/

namespace BearerProxy

/-! The members in quarantine. -/

/-- At the given point of a history a preparation has called for the quarantine of a member, and there was
no reset since. -/
def Withdraws (history : List Call) (number : Nat) (member : Member) (before : List Call) : Prop :=
  ∃ after, history = before ++ .run number (.quarantine member) :: after ∧ .reset ∉ after

theorem withdraws_snoc {history before : List Call} {call : Call} {number : Nat} {member : Member} :
    Withdraws (history ++ [call]) number member before ↔
      (call = .run number (.quarantine member) ∧ before = history) ∨
      (call ≠ .reset ∧ Withdraws history number member before) := by
  constructor
  · rintro ⟨after, together, lasting⟩
    rcases split_snoc together with ⟨-, same, itself⟩ | ⟨others, behind, together⟩
    · exact .inl ⟨itself, same.symm⟩
    · rw [behind, List.mem_append, not_or, List.mem_singleton] at lasting
      exact .inr ⟨Ne.symm lasting.2, others, together, lasting.1⟩
  · rintro (⟨itself, same⟩ | ⟨noReset, after, together, lasting⟩)
    · exact ⟨[], by rw [itself, same], List.not_mem_nil⟩
    · refine ⟨after ++ [call], by simp [together], ?_⟩
      rw [List.mem_append, not_or, List.mem_singleton]
      exact ⟨lasting, Ne.symm noReset⟩

def withdraw (members : List Member) : Call → List Member
  | .run _ (.quarantine member) => members ++ [member]
  | .run _ (.select _) | .run _ (.mint _ _) => members
  | .reset => []

def withdrawn (history : List Call) : List Member :=
  history.foldl withdraw []

theorem withdrawn_snoc (history : List Call) (call : Call) :
    withdrawn (history ++ [call]) = withdraw (withdrawn history) call := by
  simp [withdrawn]

theorem positions_withdrawn (history : List Call) :
    (withdrawn history).map Member.position = Rotation.requested (rotationSteps history) := by
  induction history using List.reverseRecOn with
  | nil => rfl
  | append_singleton history call induction =>
      rw [withdrawn_snoc, rotationSteps_snoc]
      cases call with
      | reset => simp [Call.rotationStep?, Rotation.requested_snoc, Rotation.request, withdraw]
      | run number act =>
          cases act with
          | select | quarantine | mint =>
              simp [Call.rotationStep?, Act.rotationStep?, Rotation.requested_snoc,
                Rotation.request, withdraw, induction]

theorem mem_withdrawn_iff {history : List Call} {member : Member} :
    member ∈ withdrawn history ↔ ∃ number before, Withdraws history number member before := by
  induction history using List.reverseRecOn with
  | nil => simp [withdrawn, Withdraws]
  | append_singleton history call induction =>
      simp only [withdrawn_snoc, withdraws_snoc, exists_or, exists_and_left, ← induction]
      cases call with
      | reset => simp [withdraw]
      | run other act =>
          cases act with
          | select | mint => simp [withdraw]
          | quarantine removed => simp [withdraw, or_comm, eq_comm]

/-! What holds at every point. -/

section

variable {forwarder : Forwarder} {credentials : List Credential}

def rotationAfter (credentials : List Credential) (history : List Call) : Rotation :=
  (Rotation.ofMembers (Rotation.numberMembers 0 credentials)).run (rotationSteps history)

theorem consistent_rotationAfter (nonempty : credentials ≠ []) (history : List Call) :
    (rotationAfter credentials history).Consistent :=
  (Rotation.Consistent.ofMembers nonempty).run (rotationSteps history)

theorem members_rotationAfter (credentials : List Credential) (history : List Call) :
    (rotationAfter credentials history).members = Rotation.numberMembers 0 credentials :=
  Rotation.members_run _ (rotationSteps history)

theorem mem_quarantined_rotationAfter (nonempty : credentials ≠ []) (history : List Call)
    {member : Member} (inPool : member ∈ Rotation.numberMembers 0 credentials) :
    member ∈ (rotationAfter credentials history).quarantined ↔
      member.position ∈ (withdrawn history).map Member.position := by
  have start := Rotation.Consistent.ofMembers nonempty
  have holds := start.holds_run (Rotation.holds_ofMembers _) (rotationSteps history)
  rw [positions_withdrawn]
  apply holds member
  rw [Rotation.members_run]
  exact inPool

end

namespace Traffic

/-- What holds at every point of the traffic on a rotation over the credentials. -/
structure InOrder (credentials : List Credential) (traffic : Traffic) : Prop where
  rotation : traffic.rotation.InOrder credentials
  bounded : ∀ number, (actsOf number traffic.history).countP Act.isSelect ≤ 2 ∧
    (actsOf number traffic.history).countP Act.isQuarantine ≤ 1
  totalRequests : traffic.rotation.stats.totalRequests = traffic.history.countP Call.isServed
  quarantined : ∀ member, member ∈ traffic.rotation.quarantined ↔
    ∃ number before failure, Withdraws traffic.history number member before ∧
      actsOf number before = [.select (.ok member), .mint member (.error failure)]
  failed : traffic.rotation.stats.failed = (withdrawn traffic.history).dedup.length
  fallback : ∀ number first second before between after,
    traffic.history = before ++ .run number (.quarantine first) ::
      (between ++ .run number (.select (.ok second)) :: after) →
    second.position = first.position → .reset ∈ between

namespace Explained

variable {forwarder : Forwarder} {credentials : List Credential} {traffic : Traffic}
  (nonempty : credentials ≠ [])
  (explained : Explained forwarder
    (Rotation.ofMembers (Rotation.numberMembers 0 credentials)) traffic)
include nonempty explained

theorem selected_available
    {before after : List Call} {number : Nat} {member : Member}
    (together : traffic.history = before ++ .run number (.select (.ok member)) :: after) :
    member ∈ (rotationAfter credentials before).available := by
  have answer := explained.recorded.answer before number (.ok member) after together
  have consistent := consistent_rotationAfter nonempty before
  rw [rotationAfter] at consistent ⊢
  rcases consistent.next_answer with ⟨-, refused⟩ | ⟨under, found, selected⟩
  · rw [refused] at answer
    cases answer
  · rw [selected] at answer
    rw [Except.ok.inj answer]
    exact List.mem_of_getElem? found

theorem quarantined_inPool
    {before after : List Call} {number : Nat} {member : Member}
    (together : traffic.history = before ++ .run number (.quarantine member) :: after) :
    member ∈ Rotation.numberMembers 0 credentials := by
  have planned := explained.planned
  rw [together] at planned
  rcases planned.before_quarantine with ⟨failure, acts⟩
  have selected : .select (.ok member) ∈ actsOf number before := by simp [acts]
  rw [actsOf, List.mem_filterMap] at selected
  rcases selected with ⟨call, inBefore, act⟩
  have isSelect : call = .run number (.select (.ok member)) := by
    cases call with
    | reset => cases act
    | run other act' =>
        rw [Call.act?] at act
        split at act
        · rename_i same
          rw [same, Option.some.inj act]
        · cases act
  rcases List.append_of_mem inBefore with ⟨earlier, later, parts⟩
  rw [parts, isSelect, List.append_assoc] at together
  have inRotation := explained.selected_available nonempty together
  have ordered := (consistent_rotationAfter nonempty earlier).ordered
  rw [members_rotationAfter] at ordered
  exact ordered.subset inRotation

theorem mem_quarantined_iff (member : Member) :
    member ∈ traffic.rotation.quarantined ↔ member ∈ withdrawn traffic.history := by
  have consistent := consistent_rotationAfter nonempty traffic.history
  have members := members_rotationAfter credentials traffic.history
  have same : rotationAfter credentials traffic.history = traffic.rotation := explained.recorded.run
  have inPool : ∀ other ∈ withdrawn traffic.history,
      other ∈ Rotation.numberMembers 0 credentials := by
    intro other isWithdrawn
    rcases mem_withdrawn_iff.mp isWithdrawn with ⟨number, before, after, together, -⟩
    exact explained.quarantined_inPool nonempty together
  rw [← same]
  constructor
  · intro inQuarantine
    have isMember : member ∈ Rotation.numberMembers 0 credentials := by
      rw [← members]
      exact consistent.mem_members_iff.mpr (.inr inQuarantine)
    have asked := (mem_quarantined_rotationAfter nonempty traffic.history isMember).mp inQuarantine
    rcases List.mem_map.mp asked with ⟨other, isWithdrawn, position⟩
    have equal : other = member := by
      apply consistent.eq_of_member_position_eq _ _ position
      · rw [members]
        exact inPool other isWithdrawn
      · rw [members]
        exact isMember
    rw [← equal]
    exact isWithdrawn
  · intro isWithdrawn
    rw [mem_quarantined_rotationAfter nonempty traffic.history (inPool member isWithdrawn)]
    exact List.mem_map_of_mem isWithdrawn

/-- A member is in quarantine exactly if a preparation that has failed to mint for it has put it there since
the last reset. -/
theorem mem_quarantined_iff_withdraws (member : Member) :
    member ∈ traffic.rotation.quarantined ↔
      ∃ number before failure, Withdraws traffic.history number member before ∧
        actsOf number before = [.select (.ok member), .mint member (.error failure)] := by
  rw [explained.mem_quarantined_iff nonempty, mem_withdrawn_iff]
  constructor
  · rintro ⟨number, before, after, together, lasting⟩
    have planned := explained.planned
    rw [together] at planned
    rcases planned.before_quarantine with ⟨failure, acts⟩
    exact ⟨number, before, failure, ⟨after, together, lasting⟩, acts⟩
  · rintro ⟨number, before, -, withdraws, -⟩
    exact ⟨number, before, withdraws⟩

/-- The member that failed is selected again only if a reset has come between. -/
theorem reset_between {before between after : List Call} {number : Nat} {first second : Member}
    (together : traffic.history = before ++ .run number (.quarantine first) ::
      (between ++ .run number (.select (.ok second)) :: after))
    (samePosition : second.position = first.position) : .reset ∈ between := by
  by_contra lasting
  -- Without a reset the first member is still in quarantine when the second one is selected.
  have isMember := explained.quarantined_inPool nonempty together
  have isWithdrawn : first ∈ withdrawn (before ++ .run number (.quarantine first) :: between) :=
    mem_withdrawn_iff.mpr ⟨number, before, between, rfl, lasting⟩
  have inQuarantine := (mem_quarantined_rotationAfter nonempty _ isMember).mpr
    (List.mem_map_of_mem isWithdrawn)
  rw [← List.cons_append, ← List.append_assoc] at together
  have inRotation := explained.selected_available nonempty together
  have distinct := (consistent_rotationAfter nonempty
    (before ++ .run number (.quarantine first) :: between)).all_distinct
  rw [List.map_append, List.nodup_append] at distinct
  exact distinct.2.2 _ (List.mem_map_of_mem inRotation) _ (List.mem_map_of_mem inQuarantine)
    samePosition

theorem inOrder : traffic.InOrder credentials := by
  have consistent := consistent_rotationAfter nonempty traffic.history
  have members := members_rotationAfter credentials traffic.history
  have same : rotationAfter credentials traffic.history = traffic.rotation := explained.recorded.run
  rw [same] at consistent members
  constructor
  case rotation => exact consistent.inOrder members
  case bounded => exact explained.planned.bounded
  case totalRequests => exact explained.recorded.served.trans (Nat.zero_add _)
  case quarantined => exact explained.mem_quarantined_iff_withdraws nonempty
  case failed =>
    apply List.Perm.length_eq
    have distinct := consistent.all_distinct.of_map.of_append_right
    rw [List.perm_ext_iff_of_nodup distinct (List.nodup_dedup _)]
    intro member
    rw [explained.mem_quarantined_iff nonempty, List.mem_dedup]
  case fallback =>
    intro number first second before between after together
    exact explained.reset_between nonempty together

end Explained

/-- However the calls of preparations and resets come after each other, the rotation that they share stays
in order at every point. Each preparation follows the plan that, without a break, is the preparation of the
dispatcher. -/
theorem run_inOrder (dispatcher : Dispatcher τ) (credentials : List Credential)
    (nonempty : credentials ≠ []) :
    (∀ request state,
      (Plan.prepare dispatcher.forwarder request).execute dispatcher.source state =
        (dispatcher.prepare request state).value) ∧
    ∃ rotation, (Rotation.new credentials).value = .ok rotation ∧
      ∀ moves, ((start rotation).run dispatcher.forwarder moves).InOrder credentials := by
  refine ⟨Plan.execute_prepare dispatcher, _, Rotation.new_eq_ok nonempty, ?_⟩
  intro moves
  exact ((Explained.ofStart dispatcher.forwarder _).run moves).inOrder nonempty

theorem run_inOrder_outage :
    Rotation.alikeCredentials ≠ [] ∧
      (∀ request state,
        (Plan.prepare ({} : Forwarder) request).execute outage state =
          (Dispatcher.prepare ⟨outage, {}⟩ request state).value) ∧
      ∃ rotation, (Rotation.new Rotation.alikeCredentials).value = .ok rotation ∧
        ∀ moves, ((start rotation).run {} moves).InOrder Rotation.alikeCredentials :=
  have nonempty : Rotation.alikeCredentials ≠ [] := List.cons_ne_nil _ _
  ⟨nonempty, run_inOrder ⟨outage, {}⟩ Rotation.alikeCredentials nonempty⟩

/-- Two preparations select the only member one after the other and both fail on it. It is put into
quarantine by both and counted once. -/
example :
    let member : Member := ⟨0, { id := "north", secret := "secret", tenant := "north" }⟩
    let traffic := (start (.ofMembers [member])).run {}
      [.arrive greeting, .arrive greeting,
        .proceed 0 (.error .emptyPool), .proceed 1 (.error .emptyPool),
        .proceed 1 (.error .emptyPool), .proceed 0 (.error .emptyPool),
        .proceed 0 (.error .emptyPool), .proceed 1 (.error .emptyPool)]
    (traffic.history.length, traffic.rotation.stats.failed, (withdrawn traffic.history).length) =
      (6, 1, 2) := by
  decide +kernel

end Traffic

end BearerProxy
