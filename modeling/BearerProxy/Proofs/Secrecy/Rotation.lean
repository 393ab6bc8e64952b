import BearerProxy.Proofs.Secrecy.SideBySide
import BearerProxy.Rotation
import BearerProxy.Token.Signature

/-!
Pools that differ in nothing but their secrets. Two rotations over such pools make the same choices and
report the same events.
-/

namespace BearerProxy

/-! Credentials. -/

/-- The credentials are the same but for their secrets, which are both blank or neither. -/
structure Credential.Alike (one other : Credential) : Prop where
  id : one.id = other.id
  tenant : one.tenant = other.tenant
  displayName : one.displayName = other.displayName
  blank : Text.isBlankText one.secret = Text.isBlankText other.secret

namespace Credential.Alike

variable {one other : Credential}

theorem label (alike : one.Alike other) : one.label = other.label := by
  rw [Credential.label, Credential.label, alike.displayName, alike.id]

theorem missingFields (alike : one.Alike other) : one.missingFields = other.missingFields := by
  simp only [Credential.missingFields, List.filter_cons, alike.id, alike.tenant, alike.blank]
  split
  · split
    · rfl
    · rfl
  · split
    · rfl
    · rfl

theorem inspect (alike : one.Alike other) : one.inspect = other.inspect := by
  rw [Credential.inspect, Credential.inspect, alike.id, alike.tenant, alike.displayName]

theorem inspectClaims (alike : one.Alike other) :
    (Claims.ofCredential one).inspect = (Claims.ofCredential other).inspect := by
  rw [Claims.inspect, Claims.inspect, Claims.ofCredential, Claims.ofCredential, alike.id,
    alike.tenant]

end Credential.Alike

structure Member.Alike (one other : Member) : Prop where
  position : one.position = other.position
  credential : one.credential.Alike other.credential

/-! Rotations. -/

structure Rotation.Alike (one other : Rotation) : Prop where
  members : List.Forall₂ Member.Alike one.members other.members
  available : List.Forall₂ Member.Alike one.available other.available
  quarantined : List.Forall₂ Member.Alike one.quarantined other.quarantined
  cursor : one.cursor = other.cursor
  served : one.served = other.served

namespace Rotation.Alike

variable {one other : Rotation}

theorem ofMembers {members others : List Member} (alike : List.Forall₂ Member.Alike members others) :
    (Rotation.ofMembers members).Alike (Rotation.ofMembers others) where
  members := alike
  available := alike
  quarantined := .nil
  cursor := rfl
  served := rfl

theorem numberMembers {credentials others : List Credential}
    (alike : List.Forall₂ Credential.Alike credentials others) (position : Nat) :
    List.Forall₂ Member.Alike (Rotation.numberMembers position credentials)
      (Rotation.numberMembers position others) := by
  induction alike generalizing position with
  | nil => exact .nil
  | cons head tail induction => exact .cons ⟨rfl, head⟩ (induction (position + 1))

theorem new {credentials others : List Credential}
    (alike : List.Forall₂ Credential.Alike credentials others) :
    Reported.Alike (Agree Rotation.Alike) (Rotation.new credentials) (Rotation.new others) := by
  rw [Rotation.new, Rotation.new, isEmpty_of_forall₂ alike]
  split
  · exact .after _ fun _ => .pure (.error _)
  · rw [alike.length_eq]
    exact .after _ fun _ => .pure (.ok (ofMembers (numberMembers alike 0)))

theorem stats (alike : one.Alike other) : one.stats = other.stats := by
  rw [Rotation.stats, Rotation.stats, alike.served, alike.available.length_eq,
    alike.quarantined.length_eq]

theorem inspectMembers {members others : List Member}
    (alike : List.Forall₂ Member.Alike members others) :
    Rotation.inspectMembers members = Rotation.inspectMembers others := by
  rw [Rotation.inspectMembers, Rotation.inspectMembers]
  exact congrArg Text.inspectList
    (map_of_forall₂ alike fun member other same => same.credential.inspect)

theorem inspect (alike : one.Alike other) : one.inspect = other.inspect := by
  rw [Rotation.inspect, Rotation.inspect, inspectMembers alike.members,
    inspectMembers alike.available, inspectMembers alike.quarantined, alike.cursor, alike.served]

theorem next (alike : one.Alike other) :
    Reported.Alike (Paired (Agree Member.Alike) Rotation.Alike) one.next other.next := by
  have under := getElem?_of_forall₂ alike.available one.cursor
  rw [Rotation.next, Rotation.next]
  rw [alike.cursor] at under ⊢
  generalize one.available[other.cursor]? = found at under ⊢
  generalize other.available[other.cursor]? = otherFound at under ⊢
  cases under with
  | none =>
      simp only [alike.quarantined.length_eq]
      exact .after _ fun _ => .pure ⟨.error _, alike⟩
  | some same =>
      simp only [same.credential.label, alike.served, alike.available.length_eq]
      apply Reported.Alike.after
      intro _
      exact .pure ⟨.ok same, { alike with cursor := rfl, served := rfl }⟩

theorem quarantine (alike : one.Alike other) {member otherMember : Member}
    (same : member.Alike otherMember) :
    Reported.Alike Rotation.Alike (one.quarantine member) (other.quarantine otherMember) := by
  have found := find?_of_forall₂ alike.available
    (fun candidate => candidate.position == member.position)
    (fun candidate => candidate.position == otherMember.position) (by
      intro candidate otherCandidate alike
      rw [alike.position, same.position])
  have kept := filter_of_forall₂ alike.available
    (fun candidate => candidate.position != member.position)
    (fun candidate => candidate.position != otherMember.position) (by
      intro candidate otherCandidate alike
      rw [alike.position, same.position])
  rw [Rotation.quarantine, Rotation.quarantine]
  generalize one.available.find? _ = removed at found ⊢
  generalize other.available.find? _ = otherRemoved at found ⊢
  cases found with
  | none =>
      simp only [same.credential.label]
      exact .after _ fun _ => .pure alike
  | some sameRemoved =>
      have quarantined := List.rel_append alike.quarantined (.cons sameRemoved .nil)
      simp only [same.credential.label, kept.length_eq, quarantined.length_eq, isEmpty_of_forall₂ kept,
        alike.cursor]
      apply Reported.Alike.after
      intro _
      split
      · apply Reported.Alike.after
        intro _
        exact .pure { alike with available := kept, quarantined, cursor := rfl }
      · exact .pure { alike with available := kept, quarantined, cursor := rfl }

theorem reset (alike : one.Alike other) :
    Reported.Alike Rotation.Alike one.reset other.reset := by
  rw [Rotation.reset, Rotation.reset, isEmpty_of_forall₂ alike.quarantined]
  split
  · exact .pure alike
  · rw [alike.quarantined.length_eq, alike.members.length_eq]
    apply Reported.Alike.after
    intro _
    exact .pure { alike with available := alike.members, quarantined := .nil, cursor := rfl }

end Rotation.Alike

end BearerProxy
