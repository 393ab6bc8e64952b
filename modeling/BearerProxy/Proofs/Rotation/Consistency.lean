import Mathlib.Data.List.Nodup
import BearerProxy.Rotation

/-!
The states a rotation can be in. Whatever is called in whatever order, the available and the quarantined
members are the pool, the available ones are in pool order, and the cursor stands on one of them.
-/

namespace BearerProxy.Rotation

/-! What each operation does. -/

def advance (rotation : Rotation) : Rotation :=
  { rotation with
    served := rotation.served + 1
    cursor := (rotation.cursor + 1) % rotation.available.length }

def others (rotation : Rotation) (member : Member) : List Member :=
  rotation.available.filter fun kept => kept.position != member.position

def withdraw (rotation : Rotation) (member : Member) : Rotation :=
  { rotation with
    available := rotation.others member
    quarantined := rotation.quarantined ++ [member]
    cursor :=
      if (rotation.others member).isEmpty then 0
      else rotation.cursor % (rotation.others member).length }

def restore (rotation : Rotation) : Rotation :=
  { rotation with available := rotation.members, quarantined := [], cursor := 0 }

theorem next_of_none (rotation : Rotation) (none : rotation.available[rotation.cursor]? = none) :
    rotation.next.value = (.error .rotationExhausted, rotation) := by
  rw [next, none]
  rfl

theorem next_of_some (rotation : Rotation) (member : Member)
    (some : rotation.available[rotation.cursor]? = some member) :
    rotation.next.value = (.ok member, rotation.advance) := by
  rw [next, some]
  rfl

theorem quarantine_of_none (rotation : Rotation) (member : Member)
    (none : rotation.available.find? (fun candidate => candidate.position == member.position) = none) :
    (rotation.quarantine member).value = rotation := by
  rw [quarantine, none]
  rfl

theorem quarantine_of_some (rotation : Rotation) (member removed : Member)
    (found : rotation.available.find? (fun candidate => candidate.position == member.position) =
      some removed) :
    (rotation.quarantine member).value = rotation.withdraw removed := by
  have same : removed.position = member.position := by simpa using List.find?_some found
  rw [quarantine, found, withdraw, others, same]
  simp only [Reported.value_bind]
  split
  · rfl
  · rfl

theorem reset_value (rotation : Rotation) :
    rotation.reset.value = if rotation.quarantined.isEmpty then rotation else rotation.restore := by
  rw [reset]
  split
  · rfl
  · rfl

/-! The invariant. -/

/-- Members are told apart by their positions; each is either available or quarantined. -/
structure Consistent (rotation : Rotation) : Prop where
  distinct : (rotation.members.map Member.position).Nodup
  ordered : rotation.available.Sublist rotation.members
  partition : (rotation.available ++ rotation.quarantined).Perm rotation.members
  cursor : rotation.cursor < rotation.available.length ∨
    rotation.available = [] ∧ rotation.cursor = 0

namespace Consistent

variable {rotation : Rotation}

theorem available_distinct (consistent : rotation.Consistent) :
    (rotation.available.map Member.position).Nodup :=
  (consistent.ordered.map Member.position).nodup consistent.distinct

theorem eq_of_position_eq (consistent : rotation.Consistent) {left right : Member}
    (leftIn : left ∈ rotation.available) (rightIn : right ∈ rotation.available)
    (equal : left.position = right.position) : left = right :=
  List.inj_on_of_nodup_map consistent.available_distinct leftIn rightIn equal

theorem available_eq_nil_iff (consistent : rotation.Consistent) :
    rotation.available = [] ↔ rotation.available[rotation.cursor]? = none := by
  rw [List.getElem?_eq_none_iff]
  constructor
  · intro empty
    simp [empty]
  · intro behind
    rcases consistent.cursor with inside | ⟨empty, _⟩
    · omega
    · exact empty

theorem quarantine_of_mem (consistent : rotation.Consistent) {member : Member}
    (inRotation : member ∈ rotation.available) :
    (rotation.quarantine member).value = rotation.withdraw member := by
  apply quarantine_of_some
  cases found : rotation.available.find? fun candidate =>
      candidate.position == member.position with
  | none =>
      have absent := List.find?_eq_none.mp found member inRotation
      simp at absent
  | some removed =>
      have same : removed.position = member.position := by simpa using List.find?_some found
      rw [consistent.eq_of_position_eq (List.mem_of_find?_eq_some found) inRotation same]

theorem others_perm (consistent : rotation.Consistent) {member : Member}
    (inRotation : member ∈ rotation.available) :
    (rotation.others member ++ [member]).Perm rotation.available := by
  have erased : rotation.available.erase member = rotation.others member := by
    rw [(consistent.available_distinct.of_map _).erase_eq_filter, others]
    apply List.filter_congr
    intro kept keptIn
    by_cases same : kept.position = member.position
    · simp [consistent.eq_of_position_eq keptIn inRotation same]
    · have different : kept ≠ member := fun equal => same (congrArg Member.position equal)
      rw [bne_iff_ne.mpr different]
      exact (bne_iff_ne.mpr same).symm
  rw [← erased]
  exact (List.perm_append_singleton _ _).trans (List.perm_cons_erase inRotation).symm

theorem advance (consistent : rotation.Consistent) (nonempty : rotation.available ≠ []) :
    rotation.advance.Consistent where
  distinct := consistent.distinct
  ordered := consistent.ordered
  partition := consistent.partition
  cursor := .inl (Nat.mod_lt _ (List.length_pos_iff.mpr nonempty))

theorem withdraw (consistent : rotation.Consistent) {member : Member}
    (inRotation : member ∈ rotation.available) : (rotation.withdraw member).Consistent where
  distinct := consistent.distinct
  ordered := List.filter_sublist.trans consistent.ordered
  partition := by
    have moved := (consistent.others_perm inRotation).append_right rotation.quarantined
    have swapped : (rotation.others member ++ (rotation.quarantined ++ [member])).Perm
        (rotation.others member ++ [member] ++ rotation.quarantined) := by
      rw [List.append_assoc]
      exact List.perm_append_comm.append_left _
    exact (swapped.trans moved).trans consistent.partition
  cursor := by
    cases rest : rotation.others member with
    | nil => exact .inr ⟨rest, by simp [Rotation.withdraw, rest]⟩
    | cons head tail =>
        left
        simp only [Rotation.withdraw, rest, List.isEmpty_cons, Bool.false_eq_true, if_false]
        exact Nat.mod_lt _ (Nat.succ_pos _)

theorem restore (consistent : rotation.Consistent) (quarantined : rotation.quarantined ≠ []) :
    rotation.restore.Consistent where
  distinct := consistent.distinct
  ordered := List.Sublist.refl _
  partition := by simp [Rotation.restore]
  cursor := by
    left
    have total := consistent.partition.length_eq
    have some := List.length_pos_iff.mpr quarantined
    simp only [Rotation.restore, List.length_append] at total ⊢
    omega

end Consistent

/-! The states that are reached. -/

theorem positions_numberMembers (position : Nat) (credentials : List Credential) :
    (numberMembers position credentials).map Member.position =
      List.range' position credentials.length := by
  induction credentials generalizing position with
  | nil => rfl
  | cons credential credentials induction =>
      rw [numberMembers, List.map_cons, induction, List.length_cons, List.range'_succ]

theorem new_value (credentials : List Credential) :
    (new credentials).value =
      if credentials.isEmpty then .error .emptyPool
      else .ok (ofMembers (numberMembers 0 credentials)) := by
  rw [new]
  split
  · rfl
  · rfl

theorem Consistent.ofMembers {credentials : List Credential} (nonempty : credentials ≠ []) :
    (ofMembers (numberMembers 0 credentials)).Consistent where
  distinct := by
    rw [Rotation.ofMembers, positions_numberMembers]
    exact List.nodup_range'
  ordered := List.Sublist.refl _
  partition := by simp [Rotation.ofMembers]
  cursor := by
    left
    have length := congrArg List.length (positions_numberMembers 0 credentials)
    have some := List.length_pos_iff.mpr nonempty
    simp only [Rotation.ofMembers, List.length_map, List.length_range'] at length ⊢
    omega

inductive Step
  | next
  | quarantine (member : Member)
  | reset

def perform (rotation : Rotation) : Step → Rotation
  | .next => rotation.next.value.2
  | .quarantine member => (rotation.quarantine member).value
  | .reset => rotation.reset.value

def run (rotation : Rotation) (steps : List Step) : Rotation :=
  steps.foldl perform rotation

/-- The states that calls lead to from a new rotation. -/
def Reachable (rotation : Rotation) : Prop :=
  ∃ credentials start steps, (new credentials).value = .ok start ∧ start.run steps = rotation

theorem Reachable.ofMembers {credentials : List Credential} (nonempty : credentials ≠ []) :
    (ofMembers (numberMembers 0 credentials)).Reachable := by
  refine ⟨credentials, Rotation.ofMembers (numberMembers 0 credentials), [], ?_, rfl⟩
  have filled : ¬credentials.isEmpty := fun empty => nonempty (List.isEmpty_iff.mp empty)
  rw [new_value, if_neg filled]

theorem Consistent.perform {rotation : Rotation} (consistent : rotation.Consistent) (step : Step) :
    (rotation.perform step).Consistent := by
  cases step with
  | next =>
      rw [Rotation.perform]
      cases found : rotation.available[rotation.cursor]? with
      | none =>
          rw [next_of_none rotation found]
          exact consistent
      | some member =>
          rw [next_of_some rotation member found]
          apply consistent.advance
          intro empty
          simp [empty] at found
  | quarantine member =>
      rw [Rotation.perform]
      cases found : rotation.available.find? fun candidate =>
          candidate.position == member.position with
      | none =>
          rw [quarantine_of_none rotation member found]
          exact consistent
      | some removed =>
          rw [quarantine_of_some rotation member removed found]
          exact consistent.withdraw (List.mem_of_find?_eq_some found)
  | reset =>
      rw [Rotation.perform, reset_value]
      split
      · exact consistent
      · rename_i quarantined
        exact consistent.restore fun empty => quarantined (List.isEmpty_iff.mpr empty)

theorem Consistent.run {rotation : Rotation} (consistent : rotation.Consistent)
    (steps : List Step) : (rotation.run steps).Consistent := by
  induction steps generalizing rotation with
  | nil => exact consistent
  | cons step steps induction => exact induction (consistent.perform step)

theorem Reachable.consistent {rotation : Rotation} (reachable : rotation.Reachable) :
    rotation.Consistent := by
  rcases reachable with ⟨credentials, start, steps, new, reached⟩
  rw [new_value] at new
  split at new
  · cases new
  · rename_i nonempty
    cases new
    rw [← reached]
    exact (Consistent.ofMembers fun empty => nonempty (List.isEmpty_iff.mpr empty)).run steps

end BearerProxy.Rotation
