import BearerProxy.Proofs.Rotation.Consistency

/-!
What a rotation says about itself, told from the calls made on it: a member is in quarantine exactly if its
quarantine was requested since the last reset, and every selection that succeeded has been counted.
-/

namespace BearerProxy.Rotation

/-! What one call does. -/

inductive Performed (rotation : Rotation) : Step → Rotation → Prop
  | exhausted (none : rotation.available[rotation.cursor]? = none) :
      Performed rotation .next rotation
  | selected (member : Member) (some : rotation.available[rotation.cursor]? = some member) :
      Performed rotation .next rotation.advance
  | ignored (handle : Member)
      (absent : ∀ member ∈ rotation.available, member.position ≠ handle.position) :
      Performed rotation (.quarantine handle) rotation
  | withdrawn (handle member : Member) (inRotation : member ∈ rotation.available)
      (same : member.position = handle.position) :
      Performed rotation (.quarantine handle) (rotation.withdraw member)
  | unrestored (none : rotation.quarantined = []) : Performed rotation .reset rotation
  | restored (some : rotation.quarantined ≠ []) : Performed rotation .reset rotation.restore

theorem performed (rotation : Rotation) (step : Step) :
    rotation.Performed step (rotation.perform step) := by
  cases step with
  | next =>
      rw [perform]
      cases found : rotation.available[rotation.cursor]? with
      | none =>
          rw [next_of_none rotation found]
          exact .exhausted found
      | some member =>
          rw [next_of_some rotation member found]
          exact .selected member found
  | quarantine handle =>
      rw [perform]
      cases found : rotation.available.find? fun candidate =>
          candidate.position == handle.position with
      | none =>
          rw [quarantine_of_none rotation handle found]
          apply Performed.ignored
          intro member inRotation
          simpa using List.find?_eq_none.mp found member inRotation
      | some member =>
          rw [quarantine_of_some rotation handle member found]
          have same : member.position = handle.position := by simpa using List.find?_some found
          exact .withdrawn handle member (List.mem_of_find?_eq_some found) same
  | reset =>
      rw [perform, reset_value]
      split
      · rename_i none
        exact .unrestored (List.isEmpty_iff.mp none)
      · rename_i some
        exact .restored fun none => some (List.isEmpty_iff.mpr none)

theorem members_perform (rotation : Rotation) (step : Step) :
    (rotation.perform step).members = rotation.members := by
  have performed := rotation.performed step
  generalize rotation.perform step = after at performed ⊢
  cases performed with
  | exhausted | selected | ignored | withdrawn | unrestored | restored => rfl

theorem members_run (rotation : Rotation) (steps : List Step) :
    (rotation.run steps).members = rotation.members := by
  induction steps generalizing rotation with
  | nil => rfl
  | cons step steps induction => exact (induction _).trans (rotation.members_perform step)

theorem run_append (rotation : Rotation) (steps more : List Step) :
    rotation.run (steps ++ more) = (rotation.run steps).run more :=
  List.foldl_append

/-! Selections. -/

theorem Consistent.next_answer {rotation : Rotation} (consistent : rotation.Consistent) :
    (rotation.available = [] ∧ rotation.next.value.1 = .error .rotationExhausted) ∨
    ∃ member, rotation.available[rotation.cursor]? = some member ∧
      rotation.next.value.1 = .ok member := by
  cases found : rotation.available[rotation.cursor]? with
  | none =>
      left
      rw [next_of_none rotation found]
      exact ⟨consistent.available_eq_nil_iff.mpr found, rfl⟩
  | some member =>
      right
      rw [next_of_some rotation member found]
      exact ⟨member, rfl, rfl⟩

def answer? (rotation : Rotation) : Step → Option (Except Failure Member)
  | .next => some rotation.next.value.1
  | .quarantine _ | .reset => none

def answers (rotation : Rotation) : List Step → List (Except Failure Member)
  | [] => []
  | step :: steps => (rotation.answer? step).toList ++ (rotation.perform step).answers steps

theorem served_perform (rotation : Rotation) (step : Step) :
    (rotation.perform step).served =
      rotation.served + (rotation.answer? step).toList.countP Except.isOk := by
  have performed := rotation.performed step
  generalize rotation.perform step = after at performed ⊢
  cases performed with
  | exhausted none => simp [answer?, next_of_none rotation none, Except.isOk, Except.toBool]
  | selected member some =>
      simp [answer?, next_of_some rotation member some, Except.isOk, Except.toBool, advance]
  | ignored | withdrawn | unrestored | restored => rfl

theorem served_run (rotation : Rotation) (steps : List Step) :
    (rotation.run steps).served =
      rotation.served + (rotation.answers steps).countP Except.isOk := by
  induction steps generalizing rotation with
  | nil => rfl
  | cons step steps induction =>
      have rest := induction (rotation.perform step)
      rw [served_perform] at rest
      rw [answers, List.countP_append, ← Nat.add_assoc]
      exact rest

/-! Requests for quarantine. -/

def request (positions : List Nat) : Step → List Nat
  | .next => positions
  | .quarantine handle => positions ++ [handle.position]
  | .reset => []

/-- The positions whose quarantine was requested since the last reset. One may have been requested more
than once, or be that of no member at all. -/
def requested (steps : List Step) : List Nat :=
  steps.foldl request []

theorem requested_snoc (steps : List Step) (step : Step) :
    requested (steps ++ [step]) = request (requested steps) step := by
  simp [requested]

def Holds (rotation : Rotation) (positions : List Nat) : Prop :=
  ∀ member ∈ rotation.members, member ∈ rotation.quarantined ↔ member.position ∈ positions

namespace Consistent

variable {rotation : Rotation}

theorem mem_members_iff (consistent : rotation.Consistent) {member : Member} :
    member ∈ rotation.members ↔ member ∈ rotation.available ∨ member ∈ rotation.quarantined := by
  rw [← consistent.partition.mem_iff, List.mem_append]

theorem eq_of_member_position_eq (consistent : rotation.Consistent) {left right : Member}
    (leftIn : left ∈ rotation.members) (rightIn : right ∈ rotation.members)
    (equal : left.position = right.position) : left = right :=
  List.inj_on_of_nodup_map consistent.distinct leftIn rightIn equal

theorem all_distinct (consistent : rotation.Consistent) :
    ((rotation.available ++ rotation.quarantined).map Member.position).Nodup :=
  (consistent.partition.map Member.position).nodup_iff.mpr consistent.distinct

theorem holds_perform (consistent : rotation.Consistent) {positions : List Nat}
    (holds : rotation.Holds positions) (step : Step) :
    (rotation.perform step).Holds (request positions step) := by
  have performed := rotation.performed step
  generalize rotation.perform step = after at performed ⊢
  cases performed with
  | exhausted | selected => exact holds
  | ignored handle absent =>
      intro member isMember
      rw [holds member isMember, request, List.mem_append, List.mem_singleton]
      constructor
      · exact .inl
      · rintro (earlier | same)
        · exact earlier
        · rw [← holds member isMember]
          rcases consistent.mem_members_iff.mp isMember with inRotation | inQuarantine
          · exact absurd same (absent member inRotation)
          · exact inQuarantine
  | withdrawn handle removed inRotation same =>
      intro member isMember
      have isRemoved : member = removed ↔ member.position = handle.position := by
        rw [← same]
        constructor
        · exact congrArg Member.position
        · exact consistent.eq_of_member_position_eq isMember
            (consistent.mem_members_iff.mpr (.inl inRotation))
      rw [request, List.mem_append, List.mem_singleton, ← holds member isMember, ← isRemoved,
        Rotation.withdraw, List.mem_append, List.mem_singleton]
  | unrestored none =>
      intro member _
      simp [none, request]
  | restored =>
      intro member _
      simp [Rotation.restore, request]

end Consistent

theorem Consistent.holds_run {rotation : Rotation} {positions : List Nat}
    (consistent : rotation.Consistent) (holds : rotation.Holds positions) (steps : List Step) :
    (rotation.run steps).Holds (steps.foldl request positions) := by
  induction steps generalizing rotation positions with
  | nil => exact holds
  | cons step steps induction =>
      exact induction (consistent.perform step) (consistent.holds_perform holds step)

theorem Consistent.failed_eq {rotation : Rotation} {positions : List Nat}
    (consistent : rotation.Consistent) (holds : rotation.Holds positions) :
    rotation.stats.failed =
      (rotation.members.filter fun member => positions.contains member.position).length := by
  apply List.Perm.length_eq
  have distinct := consistent.all_distinct.of_map
  rw [List.perm_ext_iff_of_nodup distinct.of_append_right
    (consistent.distinct.of_map.filter _)]
  intro member
  rw [List.mem_filter, List.contains_iff_mem]
  constructor
  · intro inQuarantine
    have isMember := consistent.mem_members_iff.mpr (.inr inQuarantine)
    exact ⟨isMember, (holds member isMember).mp inQuarantine⟩
  · rintro ⟨isMember, asked⟩
    exact (holds member isMember).mpr asked

/-! All together. -/

/-- What holds of every rotation over the credentials: each member is either available or in quarantine,
those available are in pool order, and the cursor stands on one of them. -/
structure InOrder (credentials : List Credential) (rotation : Rotation) : Prop where
  distinct : ((rotation.available ++ rotation.quarantined).map Member.position).Nodup
  partition : (rotation.available ++ rotation.quarantined).Perm (numberMembers 0 credentials)
  ordered : rotation.available.Sublist (numberMembers 0 credentials)
  cursor : if rotation.available = [] then rotation.cursor = 0
    else rotation.cursor < rotation.available.length
  next : (rotation.available = [] ∧ rotation.next.value.1 = .error .rotationExhausted) ∨
    ∃ member, rotation.available[rotation.cursor]? = some member ∧
      rotation.next.value.1 = .ok member
  total : rotation.stats.total = credentials.length

/-- What a rotation over the credentials says about itself after some calls, of which the selections have
given the answers. -/
structure Accounted (credentials : List Credential) (steps : List Step)
    (answers : List (Except Failure Member)) (rotation : Rotation) : Prop
    extends InOrder credentials rotation where
  failed : rotation.stats.failed =
    ((numberMembers 0 credentials).filter fun member =>
      (requested steps).contains member.position).length
  totalRequests : rotation.stats.totalRequests = answers.countP Except.isOk

theorem length_numberMembers (position : Nat) (credentials : List Credential) :
    (numberMembers position credentials).length = credentials.length := by
  have length := congrArg List.length (positions_numberMembers position credentials)
  simpa using length

theorem Consistent.inOrder {rotation : Rotation} {credentials : List Credential}
    (consistent : rotation.Consistent) (members : rotation.members = numberMembers 0 credentials) :
    rotation.InOrder credentials where
  distinct := consistent.all_distinct
  partition := by
    rw [← members]
    exact consistent.partition
  ordered := by
    rw [← members]
    exact consistent.ordered
  cursor := by
    rcases consistent.cursor with inside | ⟨empty, zero⟩
    · have nonempty : rotation.available ≠ [] :=
        List.ne_nil_of_length_pos (Nat.zero_lt_of_lt inside)
      rw [if_neg nonempty]
      exact inside
    · rw [if_pos empty]
      exact zero
  next := consistent.next_answer
  total := by
    have length := consistent.partition.length_eq
    rw [List.length_append, members, length_numberMembers] at length
    exact length

theorem new_eq_ok {credentials : List Credential} (nonempty : credentials ≠ []) :
    (new credentials).value = .ok (Rotation.ofMembers (numberMembers 0 credentials)) := by
  rw [new_value, if_neg fun empty => nonempty (List.isEmpty_iff.mp empty)]

theorem holds_ofMembers (members : List Member) : (Rotation.ofMembers members).Holds [] := by
  intro member _
  simp [Rotation.ofMembers]

/-- Whatever is called in whatever order, the rotation is in order and its accounts are right. -/
theorem new_accounted (credentials : List Credential) (nonempty : credentials ≠ []) :
    ∃ start, (new credentials).value = .ok start ∧
      ∀ steps, Accounted credentials steps (start.answers steps) (start.run steps) := by
  refine ⟨Rotation.ofMembers (numberMembers 0 credentials), new_eq_ok nonempty, ?_⟩
  intro steps
  have start := Consistent.ofMembers nonempty
  have consistent := start.run steps
  have members := members_run (Rotation.ofMembers (numberMembers 0 credentials)) steps
  have failed := consistent.failed_eq (start.holds_run (holds_ofMembers _) steps)
  have served := served_run (Rotation.ofMembers (numberMembers 0 credentials)) steps
  rw [members] at failed
  exact {
    consistent.inOrder members with
    failed
    totalRequests := served.trans (Nat.zero_add _) }

def alikeCredentials : List Credential :=
  [{ id := "same", secret := "same-secret", tenant := "north" },
    { id := "same", secret := "same-secret", tenant := "north" }]

theorem new_accounted_alike :
    alikeCredentials ≠ [] ∧
      ∃ start, (new alikeCredentials).value = .ok start ∧
        ∀ steps, Accounted alikeCredentials steps (start.answers steps) (start.run steps) :=
  have nonempty : alikeCredentials ≠ [] := List.cons_ne_nil _ _
  ⟨nonempty, new_accounted alikeCredentials nonempty⟩

end BearerProxy.Rotation
