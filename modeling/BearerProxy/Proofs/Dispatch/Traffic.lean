import Mathlib.Data.List.Induction
import BearerProxy.Proofs.Dispatch.Plan
import BearerProxy.Proofs.Rotation.Accounting

/-!
Preparations that take turns on one rotation. Each call on the rotation is one step, other preparations and
resets come between the calls of a preparation as they please, and a mint may end in any way. The rotation
is what the calls have made of it, and the calls of each preparation are the first ones of its plan.
-/

namespace BearerProxy

inductive Call
  | run (number : Nat) (act : Act)
  | reset

namespace Call

def rotationStep? : Call → Option Rotation.Step
  | .run _ act => act.rotationStep?
  | .reset => some .reset

def perform (call : Call) (rotation : Rotation) : Rotation :=
  rotation.run call.rotationStep?.toList

def act? (number : Nat) : Call → Option Act
  | .run other act => if other = number then some act else none
  | .reset => none

def isServed : Call → Bool
  | .run _ (.select answer) => answer.isOk
  | _ => false

end Call

def rotationSteps (history : List Call) : List Rotation.Step :=
  history.filterMap Call.rotationStep?

def actsOf (number : Nat) (history : List Call) : List Act :=
  history.filterMap (Call.act? number)

structure Preparation where
  request : InboundRequest
  rest : Plan (Except Rejection Prepared)

/-- Preparations by their numbers, the rotation that they share, and all calls so far. -/
structure Traffic where
  rotation : Rotation
  preparations : List Preparation
  history : List Call

/-- What can happen next: a request arrives, or a preparation makes its next call, with the given outcome
if that is a mint, or an operator resets the quarantine. -/
inductive Move
  | arrive (request : InboundRequest)
  | proceed (number : Nat) (outcome : Except Failure Token)
  | reset

namespace Traffic

def start (rotation : Rotation) : Traffic := ⟨rotation, [], []⟩

def call (traffic : Traffic) (call : Call) : Traffic :=
  { traffic with
    rotation := call.perform traffic.rotation
    history := traffic.history ++ [call] }

def proceed (traffic : Traffic) (number : Nat) (outcome : Except Failure Token) : Traffic :=
  match traffic.preparations[number]? with
  | none => traffic
  | some preparation =>
      match preparation.rest.step? traffic.rotation outcome with
      | none => traffic
      | some (act, rest) =>
          { traffic.call (.run number act) with
            preparations := traffic.preparations.set number { preparation with rest } }

def move (forwarder : Forwarder) (traffic : Traffic) : Move → Traffic
  | .arrive request =>
      { traffic with
        preparations := traffic.preparations ++ [⟨request, .prepare forwarder request⟩] }
  | .proceed number outcome => traffic.proceed number outcome
  | .reset => traffic.call .reset

def run (forwarder : Forwarder) (traffic : Traffic) (moves : List Move) : Traffic :=
  moves.foldl (move forwarder) traffic

end Traffic

/-! The history of the rotation. -/

structure Recorded (start : Rotation) (history : List Call) (rotation : Rotation) : Prop where
  run : start.run (rotationSteps history) = rotation
  answer : ∀ before number answer after, history = before ++ .run number (.select answer) :: after →
    answer = (start.run (rotationSteps before)).next.value.1
  served : rotation.served = start.served + history.countP Call.isServed

def Call.IsAnswered (rotation : Rotation) (call : Call) : Prop :=
  ∀ number answer, call = .run number (.select answer) → answer = rotation.next.value.1

theorem rotationSteps_snoc (history : List Call) (call : Call) :
    rotationSteps (history ++ [call]) = rotationSteps history ++ call.rotationStep?.toList := by
  rw [rotationSteps, rotationSteps, List.filterMap_append]
  cases step : call.rotationStep? with
  | none => simp [step]
  | some step => simp [step]

theorem split_snoc {α : Type u} {history before after : List α} {last middle : α}
    (together : history ++ [last] = before ++ middle :: after) :
    (after = [] ∧ history = before ∧ last = middle) ∨
      ∃ others, after = others ++ [last] ∧ history = before ++ middle :: others := by
  rcases List.eq_nil_or_concat after with none | ⟨others, final, some⟩
  · rw [none] at together
    have parts := List.append_inj' together rfl
    exact .inl ⟨none, parts.1, List.singleton_inj.mp parts.2⟩
  · rw [List.concat_eq_append] at some
    rw [some, ← List.cons_append, ← List.append_assoc] at together
    have parts := List.append_inj' together rfl
    rw [List.singleton_inj.mp parts.2]
    exact .inr ⟨others, some, parts.1⟩

theorem Call.served_perform {rotation : Rotation} {call : Call}
    (answered : call.IsAnswered rotation) :
    (call.perform rotation).served = rotation.served + [call].countP isServed := by
  have counted := rotation.served_run call.rotationStep?.toList
  rw [perform, counted]
  cases call with
  | reset => rfl
  | run number act =>
      cases act with
      | quarantine | mint => rfl
      | select answer =>
          have same := answered number answer rfl
          rw [same]
          rfl

namespace Recorded

variable {start rotation : Rotation} {history : List Call}

theorem ofStart (start : Rotation) : Recorded start [] start where
  run := rfl
  answer := by simp
  served := rfl

theorem call (recorded : Recorded start history rotation) {call : Call}
    (answered : call.IsAnswered rotation) :
    Recorded start (history ++ [call]) (call.perform rotation) where
  run := by
    rw [rotationSteps_snoc, Rotation.run_append, recorded.run]
    rfl
  answer := by
    intro before number answer after together
    -- Either the selection is the call itself, or it stood in the history already.
    rcases split_snoc together with ⟨-, same, itself⟩ | ⟨others, -, earlier⟩
    · rw [← same, recorded.run]
      exact answered number answer itself
    · exact recorded.answer before number answer others earlier
  served := by
    rw [Call.served_perform answered, recorded.served, List.countP_append, Nat.add_assoc]

end Recorded

/-! The courses of the preparations. -/

theorem actsOf_snoc (number : Nat) (history : List Call) (call : Call) :
    actsOf number (history ++ [call]) = actsOf number history ++ (call.act? number).toList := by
  rw [actsOf, actsOf, List.filterMap_append]
  cases act : call.act? number with
  | none => simp [act]
  | some act => simp [act]

/-- Each preparation has made the first calls of its plan, and no one else has made any. -/
structure Planned (forwarder : Forwarder) (preparations : List Preparation)
    (history : List Call) : Prop where
  path : ∀ number preparation, preparations[number]? = some preparation →
    (Plan.prepare forwarder preparation.request).Path (actsOf number history) preparation.rest
  unknown : ∀ number, preparations[number]? = none → actsOf number history = []

namespace Planned

variable {forwarder : Forwarder} {preparations : List Preparation} {history : List Call}

theorem ofStart (forwarder : Forwarder) : Planned forwarder [] [] where
  path := by simp
  unknown := by simp [actsOf]

theorem arrive (planned : Planned forwarder preparations history) (request : InboundRequest) :
    Planned forwarder (preparations ++ [⟨request, .prepare forwarder request⟩]) history where
  path := by
    intro number preparation found
    rw [List.getElem?_append] at found
    split at found
    · exact planned.path number preparation found
    · rename_i behind
      have none := planned.unknown number (List.getElem?_eq_none (Nat.le_of_not_lt behind))
      have arrived := List.mem_singleton.mp (List.mem_of_getElem? found)
      rw [none, arrived]
      exact .stay _
  unknown := by
    intro number none
    rw [List.getElem?_eq_none_iff, List.length_append] at none
    apply planned.unknown
    exact List.getElem?_eq_none (by omega)

theorem reset (planned : Planned forwarder preparations history) :
    Planned forwarder preparations (history ++ [.reset]) where
  path := by
    intro number preparation found
    rw [actsOf_snoc, Call.act?, Option.toList_none, List.append_nil]
    exact planned.path number preparation found
  unknown := by
    intro number none
    rw [actsOf_snoc, Call.act?, Option.toList_none, List.append_nil]
    exact planned.unknown number none

theorem run (planned : Planned forwarder preparations history) {number : Nat}
    {preparation : Preparation} (found : preparations[number]? = some preparation) {act : Act}
    {rest : Plan (Except Rejection Prepared)} (made : preparation.rest.Path [act] rest) :
    Planned forwarder (preparations.set number { preparation with rest })
      (history ++ [.run number act]) where
  path := by
    intro other changed stands
    rw [actsOf_snoc, Call.act?]
    by_cases same : number = other
    · subst same
      rw [List.getElem?_set_self (List.getElem?_eq_some_iff.mp found).1] at stands
      rw [← Option.some.inj stands, if_pos rfl]
      exact (planned.path number preparation found).append made
    · rw [List.getElem?_set_ne same] at stands
      rw [if_neg same, Option.toList_none, List.append_nil]
      exact planned.path other changed stands
  unknown := by
    intro other none
    have different : number ≠ other := by
      intro same
      rw [← same, List.getElem?_set_self (List.getElem?_eq_some_iff.mp found).1] at none
      cases none
    rw [List.getElem?_set_ne different] at none
    rw [actsOf_snoc, Call.act?, if_neg different, Option.toList_none, List.append_nil]
    exact planned.unknown other none

end Planned

theorem Planned.before_quarantine {forwarder : Forwarder} {preparations : List Preparation}
    {before after : List Call} {number : Nat} {member : Member}
    (planned : Planned forwarder preparations
      (before ++ .run number (.quarantine member) :: after)) :
    ∃ failure, actsOf number before = [.select (.ok member), .mint member (.error failure)] := by
  have acts : actsOf number (before ++ .run number (.quarantine member) :: after) =
      actsOf number before ++ .quarantine member :: actsOf number after := by
    simp [actsOf, Call.act?]
  cases found : preparations[number]? with
  | none =>
      have none := planned.unknown number found
      simp [acts] at none
  | some preparation =>
      have path := planned.path number preparation found
      rcases Plan.exists_wholeCourse path with ⟨more, whole⟩
      rw [acts, List.append_assoc] at whole
      exact whole.before_quarantine

theorem Planned.bounded {forwarder : Forwarder} {preparations : List Preparation}
    {history : List Call} (planned : Planned forwarder preparations history) (number : Nat) :
    (actsOf number history).countP Act.isSelect ≤ 2 ∧
      (actsOf number history).countP Act.isQuarantine ≤ 1 := by
  cases found : preparations[number]? with
  | none => simp [planned.unknown number found]
  | some preparation =>
      rcases Plan.exists_wholeCourse (planned.path number preparation found) with ⟨more, whole⟩
      have selects := whole.selects_le
      have quarantines := whole.quarantines_le
      rw [List.countP_append] at selects quarantines
      exact ⟨Nat.le_of_add_right_le selects, Nat.le_of_add_right_le quarantines⟩

/-! Both together, move by move. -/

namespace Traffic

/-- The rotation is what the calls have made of it, and the calls are those of the plans. -/
structure Explained (forwarder : Forwarder) (start : Rotation) (traffic : Traffic) : Prop where
  recorded : Recorded start traffic.history traffic.rotation
  planned : Planned forwarder traffic.preparations traffic.history

namespace Explained

variable {forwarder : Forwarder} {start : Rotation} {traffic : Traffic}

theorem ofStart (forwarder : Forwarder) (start : Rotation) :
    Explained forwarder start (Traffic.start start) where
  recorded := .ofStart start
  planned := .ofStart forwarder

theorem proceed (explained : Explained forwarder start traffic) (number : Nat)
    (outcome : Except Failure Token) :
    Explained forwarder start (traffic.proceed number outcome) := by
  cases found : traffic.preparations[number]? with
  | none =>
      simp only [Traffic.proceed, found]
      exact explained
  | some preparation =>
      cases made : preparation.rest.step? traffic.rotation outcome with
      | none =>
          simp only [Traffic.proceed, found, made]
          exact explained
      | some taken =>
          rcases taken with ⟨act, rest⟩
          simp only [Traffic.proceed, found, made]
          constructor
          · apply explained.recorded.call
            intro other answer same
            cases same
            exact Plan.answer_of_step? made
          · exact explained.planned.run found (Plan.path_of_step? made)

theorem move (explained : Explained forwarder start traffic) (move : Move) :
    Explained forwarder start (traffic.move forwarder move) := by
  cases move with
  | arrive request => exact ⟨explained.recorded, explained.planned.arrive request⟩
  | proceed number outcome => exact explained.proceed number outcome
  | reset =>
      constructor
      · apply explained.recorded.call
        intro number answer same
        cases same
      · exact explained.planned.reset

theorem run (explained : Explained forwarder start traffic) (moves : List Move) :
    Explained forwarder start (traffic.run forwarder moves) := by
  induction moves generalizing traffic with
  | nil => exact explained
  | cons move moves induction => exact induction (explained.move move)

end Explained

end Traffic

end BearerProxy
