import BearerProxy.Credential.Pool

/-!
Round-robin rotation over the members of a pool. A member that fails is put into quarantine; a reset
brings all of them back. Members are told apart by identity, not by what their records hold.
-/

namespace BearerProxy

/-- A credential with its identity: its position in the pool. -/
structure Member where
  position : Nat
  credential : Credential
  deriving DecidableEq, Repr

/-- What an operator sees of a rotation. `totalRequests` is its count of what was served. -/
structure RotationStats where
  totalRequests : Nat
  available : Nat
  failed : Nat
  total : Nat
  deriving DecidableEq, Repr

def RotationStats.inspect (stats : RotationStats) : String :=
  Text.inspectFields "BalancerStats"
    [("total_requests", toString stats.totalRequests),
     ("available_count", toString stats.available),
     ("failed_count", toString stats.failed),
     ("total_count", toString stats.total)]

/-- `available` is in pool order; `quarantined` is in the order of quarantine. The cursor stands on the
member that is next. `served` is a count of 64 bits as long as it is below 2^64, which no run reaches. -/
structure Rotation where
  members : List Member
  available : List Member
  quarantined : List Member
  cursor : Nat
  served : Nat
  deriving Repr

namespace Rotation

def numberMembers (position : Nat) : List Credential → List Member
  | [] => []
  | credential :: credentials => ⟨position, credential⟩ :: numberMembers (position + 1) credentials

def ofMembers (members : List Member) : Rotation :=
  { members, available := members, quarantined := [], cursor := 0, served := 0 }

def new (credentials : List Credential) : Reported (Except Failure Rotation) :=
  if credentials.isEmpty then do
    errorEvent .rotation "cannot build a load balancer from an empty credential list"
    return .error .emptyPool
  else do
    infoEvent .rotation "load balancer initialised" [("count", .count credentials.length)]
    return .ok (ofMembers (numberMembers 0 credentials))

def ofPool (pool : Pool) : Reported (Except Failure Rotation) :=
  new pool.credentials

def next (rotation : Rotation) : Reported (Except Failure Member × Rotation) :=
  match rotation.available[rotation.cursor]? with
  | none => do
      errorEvent .rotation "no available credentials; reset quarantine to recover"
        [("quarantined", .count rotation.quarantined.length)]
      return (.error .rotationExhausted, rotation)
  | some member => do
      let served := rotation.served + 1
      infoEvent .rotation "selected credential"
        [("credential", .text member.credential.label),
         ("request", .count served),
         ("position", .count (rotation.cursor + 1)),
         ("available", .count rotation.available.length)]
      return (.ok member,
        { rotation with
          served
          cursor := (rotation.cursor + 1) % rotation.available.length })

/-- Takes a member out of rotation; a member that is not in rotation is left alone. The cursor stays
where it is unless that is now behind the end. -/
def quarantine (rotation : Rotation) (member : Member) : Reported Rotation :=
  match rotation.available.find? (fun candidate => candidate.position == member.position) with
  | none => do
      warnEvent .rotation "credential is not in rotation; ignoring quarantine"
        [("credential", .text member.credential.label)]
      return rotation
  | some removed => do
      let available := rotation.available.filter fun kept => kept.position != member.position
      let quarantined := rotation.quarantined ++ [removed]
      warnEvent .rotation "credential quarantined"
        [("credential", .text member.credential.label),
         ("available", .count available.length),
         ("quarantined", .count quarantined.length)]
      if available.isEmpty then
        errorEvent .alarm "all credentials are quarantined; service cannot authenticate requests"
          [("alarm", .flag true), ("quarantined", .count quarantined.length)]
      return { rotation with
        available
        quarantined
        cursor := if available.isEmpty then 0 else rotation.cursor % available.length }

/-- Brings every member back, in pool order, with the first one next. Without a quarantined member
nothing happens, and the cursor stays. -/
def reset (rotation : Rotation) : Reported Rotation :=
  if rotation.quarantined.isEmpty then return rotation
  else do
    infoEvent .rotation "quarantine reset"
      [("restored", .count rotation.quarantined.length),
       ("available", .count rotation.members.length)]
    return { rotation with available := rotation.members, quarantined := [], cursor := 0 }

def stats (rotation : Rotation) : RotationStats :=
  { totalRequests := rotation.served
    available := rotation.available.length
    failed := rotation.quarantined.length
    total := rotation.available.length + rotation.quarantined.length }

def inspectMembers (members : List Member) : String :=
  Text.inspectList (members.map fun member => member.credential.inspect)

def inspect (rotation : Rotation) : String :=
  let data := Text.inspectFields "PoolState"
    [("available", inspectMembers rotation.available),
     ("quarantined", inspectMembers rotation.quarantined),
     ("cursor", toString rotation.cursor),
     ("total_served", toString rotation.served)]
  Text.inspectFields "LoadBalancer"
    [("records", inspectMembers rotation.members),
     ("state", Text.inspectSomeFields "Mutex" [("data", data), ("poisoned", "false")])]

end Rotation

end BearerProxy
