import Mathlib.Data.Int.CardIntervalMod
import BearerProxy.Proofs.Rotation.Accounting

/-!
Fairness of the rotation. With no quarantine and no reset in between, selections go around the members in
rotation from the cursor on, so that none of them is ever more than one selection ahead of another. Behind a
reset they go through the pool from its first member to its last.
-/

namespace BearerProxy.Rotation

def selections (count : Nat) : List Step :=
  List.replicate count .next

/-- The member at a distance from the cursor, counted around the members in rotation. -/
def ahead? (rotation : Rotation) (distance : Nat) : Option Member :=
  rotation.available[(rotation.cursor + distance) % rotation.available.length]?

def upcoming (rotation : Rotation) (count : Nat) : List Member :=
  (List.range count).filterMap rotation.ahead?

/-! What selections leave alone. -/

theorem partition_next (rotation : Rotation) :
    (rotation.perform .next).available = rotation.available ∧
      (rotation.perform .next).quarantined = rotation.quarantined := by
  have performed := rotation.performed .next
  generalize rotation.perform .next = after at performed ⊢
  cases performed with
  | exhausted | selected => exact ⟨rfl, rfl⟩

theorem partition_selections (rotation : Rotation) (count : Nat) :
    (rotation.run (selections count)).available = rotation.available ∧
      (rotation.run (selections count)).quarantined = rotation.quarantined := by
  induction count generalizing rotation with
  | zero => exact ⟨rfl, rfl⟩
  | succ count induction =>
      have rest := induction (rotation.perform .next)
      rw [rotation.partition_next.1, rotation.partition_next.2] at rest
      exact rest

/-! The order in which members are selected. -/

theorem ahead?_advance (rotation : Rotation) (distance : Nat) :
    rotation.advance.ahead? distance = rotation.ahead? (distance + 1) := by
  simp only [ahead?, advance]
  rw [Nat.mod_add_mod, Nat.add_assoc, Nat.add_comm 1]

theorem upcoming_succ (rotation : Rotation) (count : Nat) :
    rotation.upcoming (count + 1) =
      (rotation.ahead? 0).toList ++ rotation.advance.upcoming count := by
  have shifted : rotation.advance.upcoming count =
      (List.range count).filterMap (rotation.ahead? ∘ Nat.succ) := by
    rw [upcoming]
    congr 1
    funext distance
    exact rotation.ahead?_advance distance
  rw [shifted, upcoming, List.range_succ_eq_map, List.filterMap_cons, List.filterMap_map]
  cases rotation.ahead? 0 with
  | none => rfl
  | some member => rfl

namespace Consistent

variable {rotation : Rotation}

theorem cursor_inside (consistent : rotation.Consistent) (nonempty : rotation.available ≠ []) :
    rotation.cursor < rotation.available.length := by
  rcases consistent.cursor with inside | ⟨empty, _⟩
  · exact inside
  · exact absurd empty nonempty

theorem ahead?_zero (consistent : rotation.Consistent) (nonempty : rotation.available ≠ []) :
    rotation.ahead? 0 = rotation.available[rotation.cursor]? := by
  rw [ahead?, Nat.add_zero, Nat.mod_eq_of_lt (consistent.cursor_inside nonempty)]

end Consistent

theorem exists_ahead {rotation : Rotation} (nonempty : rotation.available ≠ []) (distance : Nat) :
    ∃ member, rotation.ahead? distance = some member := by
  have inside := Nat.mod_lt (rotation.cursor + distance) (List.length_pos_iff.mpr nonempty)
  exact ⟨_, List.getElem?_eq_getElem inside⟩

theorem map_some_upcoming {rotation : Rotation} (nonempty : rotation.available ≠ []) (count : Nat) :
    (rotation.upcoming count).map some = (List.range count).map rotation.ahead? := by
  induction count with
  | zero => rfl
  | succ count induction =>
      rcases exists_ahead nonempty count with ⟨member, found⟩
      rw [upcoming] at induction ⊢
      simp [List.range_succ, induction, found]

theorem length_upcoming {rotation : Rotation} (nonempty : rotation.available ≠ []) (count : Nat) :
    (rotation.upcoming count).length = count := by
  have lengths := congrArg List.length (map_some_upcoming nonempty count)
  simpa using lengths

theorem getElem?_upcoming {rotation : Rotation} (nonempty : rotation.available ≠ [])
    {turn count : Nat} (early : turn < count) :
    (rotation.upcoming count)[turn]? = rotation.ahead? turn := by
  have elements := congrArg (fun members => members[turn]?) (map_some_upcoming nonempty count)
  rcases exists_ahead nonempty turn with ⟨member, found⟩
  simpa [early, found] using elements

theorem mem_available_of_mem_upcoming {rotation : Rotation} {count : Nat} {member : Member}
    (isUpcoming : member ∈ rotation.upcoming count) : member ∈ rotation.available := by
  rcases List.mem_filterMap.mp isUpcoming with ⟨distance, _, found⟩
  exact List.mem_of_getElem? found

theorem Consistent.answers_selections {rotation : Rotation} (consistent : rotation.Consistent)
    (nonempty : rotation.available ≠ []) (count : Nat) :
    rotation.answers (selections count) = (rotation.upcoming count).map .ok := by
  induction count generalizing rotation with
  | zero => rfl
  | succ count induction =>
      rcases exists_ahead nonempty 0 with ⟨member, first⟩
      have under : rotation.available[rotation.cursor]? = some member := by
        rw [← consistent.ahead?_zero nonempty, first]
      have selected := next_of_some rotation member under
      have rest := induction (consistent.advance nonempty) nonempty
      rw [selections, List.replicate_succ, answers, answer?, Rotation.perform, selected, upcoming_succ, first]
      simp only [Option.toList_some, List.map_append, List.map_cons, List.map_nil]
      rw [← rest]
      rfl

/-! How often members are selected. -/

namespace Consistent

variable {rotation : Rotation}

/-- The distances of a member from the cursor are all the same, counted around the members in rotation. -/
theorem ahead?_eq_some_iff (consistent : rotation.Consistent) {member : Member} {position : Nat}
    (inside : position < rotation.available.length)
    (stands : rotation.available[position]? = some member) (distance : Nat) :
    rotation.ahead? distance = some member ↔
      distance ≡ position + (rotation.available.length - rotation.cursor)
        [MOD rotation.available.length] := by
  have nonempty : rotation.available ≠ [] := List.ne_nil_of_length_pos (Nat.zero_lt_of_lt inside)
  have turned := Nat.mod_lt (rotation.cursor + distance) (Nat.zero_lt_of_lt inside)
  have around : rotation.cursor + (position + (rotation.available.length - rotation.cursor)) =
      position + rotation.available.length := by
    have cursor := consistent.cursor_inside nonempty
    omega
  rw [ahead?, ← stands, List.getElem?_inj turned consistent.available_distinct.of_map]
  constructor
  · intro same
    apply Nat.ModEq.add_left_cancel' rotation.cursor
    rw [Nat.ModEq, around, Nat.add_mod_right, same, Nat.mod_eq_of_lt inside]
  · intro same
    have moved := same.add_left rotation.cursor
    rwa [Nat.ModEq, around, Nat.add_mod_right, Nat.mod_eq_of_lt inside] at moved

/-- A member is selected once in every full turn, and in the turn that is left over at most once. -/
theorem count_upcoming (consistent : rotation.Consistent) {member : Member}
    (inRotation : member ∈ rotation.available) (count : Nat) :
    count / rotation.available.length ≤ (rotation.upcoming count).count member ∧
      (rotation.upcoming count).count member ≤ count / rotation.available.length + 1 := by
  rcases List.getElem?_of_mem inRotation with ⟨position, stands⟩
  have inside := (List.getElem?_eq_some_iff.mp stands).1
  have counted : (rotation.upcoming count).count member =
      Nat.count (· ≡ position + (rotation.available.length - rotation.cursor)
        [MOD rotation.available.length]) count := by
    rw [upcoming, List.count_filterMap, Nat.count]
    apply List.countP_congr
    intro distance _
    rw [beq_iff_eq, decide_eq_true_eq]
    exact consistent.ahead?_eq_some_iff inside stands distance
  rw [counted, Nat.count_modEq_card count (Nat.zero_lt_of_lt inside)]
  split
  · omega
  · omega

end Consistent

/-! All together. -/

/-- What selections come to with nothing in between. -/
structure TakesTurns (rotation : Rotation) (count : Nat) (selected : List Member) : Prop where
  answers : rotation.answers (selections count) = selected.map .ok
  length : selected.length = count
  turn : ∀ turn < count, selected[turn]? =
    rotation.available[(rotation.cursor + turn) % rotation.available.length]?
  available : (rotation.run (selections count)).available = rotation.available
  quarantined : (rotation.run (selections count)).quarantined = rotation.quarantined
  balanced : ∀ one ∈ rotation.available, ∀ other ∈ rotation.available,
    selected.count one ≤ selected.count other + 1
  withheld : ∀ member ∈ rotation.quarantined, member ∉ selected

/-- What selections come to in a rotation over the credentials. -/
structure Fair (credentials : List Credential) (rotation : Rotation) : Prop where
  turns : rotation.available ≠ [] → ∀ count, ∃ selected, TakesTurns rotation count selected
  restored : rotation.quarantined ≠ [] →
    (rotation.perform .reset).answers (selections credentials.length) =
        (numberMembers 0 credentials).map .ok ∧
      (numberMembers 0 credentials).Nodup

namespace Consistent

variable {rotation : Rotation}

theorem takesTurns (consistent : rotation.Consistent) (nonempty : rotation.available ≠ [])
    (count : Nat) : TakesTurns rotation count (rotation.upcoming count) where
  answers := consistent.answers_selections nonempty count
  length := length_upcoming nonempty count
  turn _ early := getElem?_upcoming nonempty early
  available := (rotation.partition_selections count).1
  quarantined := (rotation.partition_selections count).2
  balanced one isAvailable other otherAvailable :=
    (consistent.count_upcoming isAvailable count).2.trans
      (Nat.add_le_add_right (consistent.count_upcoming otherAvailable count).1 1)
  withheld := by
    intro member inQuarantine isUpcoming
    have disjoint := List.disjoint_of_nodup_append consistent.all_distinct.of_map
    exact disjoint (mem_available_of_mem_upcoming isUpcoming) inQuarantine

end Consistent

theorem upcoming_full {rotation : Rotation} (first : rotation.cursor = 0) :
    rotation.upcoming rotation.available.length = rotation.available := by
  by_cases empty : rotation.available = []
  · simp [upcoming, empty]
  · apply List.ext_getElem?
    intro turn
    by_cases early : turn < rotation.available.length
    · rw [getElem?_upcoming empty early, ahead?, first, Nat.zero_add, Nat.mod_eq_of_lt early]
    · have late := Nat.le_of_not_lt early
      rw [List.getElem?_eq_none late, List.getElem?_eq_none]
      rwa [length_upcoming empty]

theorem Consistent.answers_restored {rotation : Rotation} (consistent : rotation.Consistent)
    (quarantined : rotation.quarantined ≠ []) :
    (rotation.perform .reset).answers (selections rotation.members.length) =
      rotation.members.map .ok := by
  have restored : rotation.perform .reset = rotation.restore := by
    rw [Rotation.perform, reset_value, if_neg fun none => quarantined (List.isEmpty_iff.mp none)]
  have back := consistent.restore quarantined
  have nonempty : rotation.restore.available ≠ [] := by
    have total := consistent.partition.length_eq
    have some := List.length_pos_iff.mpr quarantined
    apply List.ne_nil_of_length_pos
    rw [List.length_append] at total
    simp only [Rotation.restore]
    omega
  have full : rotation.restore.upcoming rotation.members.length = rotation.members :=
    upcoming_full rfl
  rw [restored, back.answers_selections nonempty, full]

/-- From every state that is reached, selections are fair. -/
theorem new_fair (credentials : List Credential) (nonempty : credentials ≠ []) :
    ∃ start, (new credentials).value = .ok start ∧ ∀ steps, Fair credentials (start.run steps) := by
  refine ⟨Rotation.ofMembers (numberMembers 0 credentials), new_eq_ok nonempty, ?_⟩
  intro steps
  have consistent := (Consistent.ofMembers nonempty).run steps
  have members := members_run (Rotation.ofMembers (numberMembers 0 credentials)) steps
  constructor
  case turns =>
    intro some count
    exact ⟨_, consistent.takesTurns some count⟩
  case restored =>
    intro quarantined
    have restored := consistent.answers_restored quarantined
    rw [members, Rotation.ofMembers, length_numberMembers] at restored
    exact ⟨restored, (Consistent.ofMembers nonempty).distinct.of_map⟩

theorem new_fair_alike :
    alikeCredentials ≠ [] ∧
      ∃ start, (new alikeCredentials).value = .ok start ∧
        ∀ steps, Fair alikeCredentials (start.run steps) :=
  have nonempty : alikeCredentials ≠ [] := List.cons_ne_nil _ _
  ⟨nonempty, new_fair alikeCredentials nonempty⟩

end BearerProxy.Rotation
