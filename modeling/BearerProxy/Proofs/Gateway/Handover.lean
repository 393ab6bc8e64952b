import BearerProxy.Proofs.Dispatch.ClientPlan

/-!
The relay of a response and the client that reads it, in turns of any order. Between them stand a place for
the head and a channel that holds a limited number of pieces. As long as the client stays, nothing is lost
and nothing is passed by: what it has read, what stands in the channel and what is still to be sent make up
the whole.
-/

namespace BearerProxy

/-- A piece of a body on its way to the client, or the word that the body breaks off. -/
inductive Parcel
  | chunk (bytes : ByteArray)
  | broken (reason : String)
  deriving DecidableEq

inductive Reader
  | listening
  | finished (brokenOff : Option String)
  | left
  deriving DecidableEq

def Reader.parcels : Reader → List Parcel
  | .finished brokenOff => brokenOff.toList.map .broken
  | .listening | .left => []

theorem Parcel.eq_of_append_eq {read chunks : List ByteArray} {found brokenOff : Option String}
    {rest : List Parcel} (nothingBehind : found = none → rest = [])
    (same : read.map chunk ++ (found.toList.map broken ++ rest) =
      chunks.map chunk ++ brokenOff.toList.map broken) :
    read = chunks ∧ found = brokenOff := by
  induction read generalizing chunks with
  | nil =>
      cases chunks with
      | nil =>
          cases found with
          | none =>
              rw [nothingBehind rfl] at same
              cases brokenOff with
              | none => exact ⟨rfl, rfl⟩
              | some reason => cases same
          | some reason =>
              cases brokenOff with
              | none => cases same
              | some other =>
                  cases same
                  exact ⟨rfl, rfl⟩
      | cons bytes chunks =>
          cases found with
          | none =>
              rw [nothingBehind rfl] at same
              cases same
          | some reason => cases same
  | cons bytes read induction =>
      cases chunks with
      | nil =>
          cases brokenOff with
          | none => cases same
          | some reason => cases same
      | cons other chunks =>
          rcases List.cons_eq_cons.mp same with ⟨sameChunk, sameRest⟩
          rcases induction sameRest with ⟨sameChunks, sameBreak⟩
          cases sameChunk
          exact ⟨congrArg (bytes :: ·) sameChunks, sameBreak⟩

/-! Plans for a client that takes everything. -/

namespace ClientPlan

def result? : ClientPlan α → Option α
  | .done result => some result
  | _ => none

def heads : ClientPlan α → List (Nat × Http.Headers)
  | .done _ => []
  | .head status headers resume => (status, headers) :: (resume true).heads
  | .chunk _ resume => (resume true).heads
  | .abort _ rest => rest.heads

def parcels : ClientPlan α → List Parcel
  | .done _ => []
  | .head _ _ resume => (resume true).parcels
  | .chunk bytes resume => .chunk bytes :: (resume true).parcels
  | .abort failure rest => .broken failure.message :: rest.parcels

def length : ClientPlan α → Nat
  | .done _ => 0
  | .head _ _ resume => (resume true).length + 1
  | .chunk _ resume => (resume true).length + 1
  | .abort _ rest => rest.length + 1

/-- Plans that announce a body once and before anything else, or have nothing to do. -/
inductive AnnouncesOnce : ClientPlan α → Prop
  | done (result : α) : AnnouncesOnce (.done result)
  | head (status : Nat) (headers : Http.Headers) (resume : Bool → ClientPlan α)
      (once : (resume true).heads = []) : AnnouncesOnce (.head status headers resume)

theorem length_heads_of_announcesOnce {plan : ClientPlan α} (announces : plan.AnnouncesOnce) :
    plan.heads.length ≤ 1 := by
  cases announces with
  | done result => exact Nat.zero_le 1
  | head status headers resume once =>
      rw [heads, once]
      exact Nat.le_refl 1

theorem parcels_eq_nil_of_result {plan : ClientPlan α} (ends : plan.result?.isSome) :
    plan.parcels = [] := by
  cases plan with
  | done result => rfl
  | head status headers resume => cases ends
  | chunk bytes resume => cases ends
  | abort failure rest => cases ends

inductive Sends : ClientPlan α → Parcel → (Bool → ClientPlan α) → Prop
  | chunk (bytes : ByteArray) (resume : Bool → ClientPlan α) :
      Sends (.chunk bytes resume) (.chunk bytes) resume
  | abort (failure : ExchangeFailure) (rest : ClientPlan α) :
      Sends (.abort failure rest) (.broken failure.message) fun _ => rest

namespace Sends

variable {plan : ClientPlan α} {parcel : Parcel} {resume : Bool → ClientPlan α}

theorem result?_eq (sends : plan.Sends parcel resume) : plan.result? = none := by
  cases sends with
  | chunk | abort => rfl

theorem parcels_eq (sends : plan.Sends parcel resume) :
    plan.parcels = parcel :: (resume true).parcels := by
  cases sends with
  | chunk | abort => rfl

theorem heads_eq (sends : plan.Sends parcel resume) : plan.heads = (resume true).heads := by
  cases sends with
  | chunk | abort => rfl

theorem length_eq (sends : plan.Sends parcel resume) :
    plan.length = (resume true).length + 1 := by
  cases sends with
  | chunk | abort => rfl

theorem not_announcesOnce (sends : plan.Sends parcel resume) : ¬plan.AnnouncesOnce := by
  intro announces
  cases announces with
  | done | head => cases sends

end Sends

end ClientPlan

/-! Turns. -/

/-- Where the relay, the channel and the client stand. -/
structure Handover (α : Type u) where
  plan : ClientPlan α
  head : Option (Nat × Http.Headers) := none
  queue : List Parcel := []
  received : List ByteArray := []
  reader : Reader := .listening

/-- Who comes next: the relay with its next call, or the client, which reads a piece or goes away. -/
inductive Turn
  | work
  | read
  | leave
  deriving DecidableEq

namespace Handover

def capacity : Nat := 16

def announce (state : Handover α) (head : Nat × Http.Headers) (resume : Bool → ClientPlan α) :
    Handover α :=
  if state.reader = .left ∨ state.head.isSome then { state with plan := resume false }
  else { state with plan := resume true, head := some head }

/-- A piece is refused if the client has left. While the channel is full, the relay waits. -/
def push (state : Handover α) (parcel : Parcel) (resume : Bool → ClientPlan α) : Handover α :=
  if state.reader = .left then { state with plan := resume false }
  else if state.queue.length < capacity then
    { state with plan := resume true, queue := state.queue ++ [parcel] }
  else state

def work (state : Handover α) : Handover α :=
  match state.plan with
  | .done _ => state
  | .head status headers resume => state.announce (status, headers) resume
  | .chunk bytes resume => state.push (.chunk bytes) resume
  | .abort failure rest => state.push (.broken failure.message) fun _ => rest

def take (state : Handover α) : Handover α :=
  match state.queue with
  | .chunk bytes :: queue => { state with queue, received := state.received ++ [bytes] }
  | .broken reason :: queue => { state with queue, reader := .finished (some reason) }
  | [] => if state.plan.result?.isSome then { state with reader := .finished none } else state

def read (state : Handover α) : Handover α :=
  if state.reader = .listening ∧ state.head.isSome then state.take else state

def leave (state : Handover α) : Handover α :=
  if state.reader = .listening then { state with queue := [], reader := .left } else state

def step (state : Handover α) : Turn → Handover α
  | .work => state.work
  | .read => state.read
  | .leave => state.leave

def run (state : Handover α) (turns : List Turn) : Handover α :=
  turns.foldl step state

def start (plan : ClientPlan α) : Handover α := { plan }

/-! What every turn keeps. -/

def parcels (state : Handover α) : List Parcel :=
  state.received.map .chunk ++ (state.reader.parcels ++ (state.queue ++ state.plan.parcels))

structure Orderly (plan : ClientPlan α) (state : Handover α) : Prop where
  bounded : state.queue.length ≤ capacity
  inOrder : state.received.map .chunk <+: plan.parcels
  complete : state.reader ≠ .left → state.parcels = plan.parcels
  announced : state.reader ≠ .left → state.head.toList ++ state.plan.heads = plan.heads
  untouched : state.reader ≠ .left → state.head = none → state = start plan
  ended : state.reader = .finished none → state.queue = [] ∧ state.plan.result?.isSome

theorem Orderly.start (plan : ClientPlan α) : Orderly plan (start plan) where
  bounded := Nat.zero_le capacity
  inOrder := List.nil_prefix
  complete _ := rfl
  announced _ := rfl
  untouched _ _ := rfl
  ended finished := by cases finished

section

variable {plan : ClientPlan α} {state : Handover α}

theorem Orderly.inOrder_of_complete (complete : state.parcels = plan.parcels) :
    state.received.map .chunk <+: plan.parcels :=
  ⟨_, complete⟩

theorem Orderly.of_left (orderly : Orderly plan state) (left : state.reader = .left)
    (rest : ClientPlan α) : Orderly plan { state with plan := rest } where
  bounded := orderly.bounded
  inOrder := orderly.inOrder
  complete stays := absurd left stays
  announced stays := absurd left stays
  untouched stays := absurd left stays
  ended finished := by
    rw [left] at finished
    cases finished

theorem Orderly.head_eq_none (orderly : Orderly plan state) (announces : plan.AnnouncesOnce)
    (stays : state.reader ≠ .left) {status : Nat} {headers : Http.Headers}
    {resume : Bool → ClientPlan α} (next : state.plan = .head status headers resume) :
    state.head = none := by
  have atMostOne := ClientPlan.length_heads_of_announcesOnce announces
  rw [← orderly.announced stays, next, ClientPlan.heads] at atMostOne
  cases head : state.head with
  | none => rfl
  | some head =>
      rw [head] at atMostOne
      simp at atMostOne

theorem Orderly.announce (orderly : Orderly plan state) (announces : plan.AnnouncesOnce)
    {status : Nat} {headers : Http.Headers} {resume : Bool → ClientPlan α}
    (next : state.plan = .head status headers resume) :
    Orderly plan (state.announce (status, headers) resume) := by
  rw [Handover.announce]
  by_cases left : state.reader = .left
  · rw [if_pos (.inl left)]
    exact orderly.of_left left _
  · have noHead := orderly.head_eq_none announces left next
    have announced := orderly.announced left
    have complete := orderly.complete left
    rw [if_neg (by simp [left, noHead])]
    rw [parcels, next, ClientPlan.parcels] at complete
    constructor
    case bounded => exact orderly.bounded
    case inOrder => exact orderly.inOrder
    case complete =>
      intro _
      exact complete
    case announced =>
      intro _
      rw [← announced, noHead, next]
      rfl
    case untouched =>
      intro _ head
      cases head
    case ended =>
      intro finished
      have ends := (orderly.ended finished).2
      rw [next] at ends
      cases ends

theorem Orderly.head_isSome (orderly : Orderly plan state) (announces : plan.AnnouncesOnce)
    (stays : state.reader ≠ .left) {parcel : Parcel} {resume : Bool → ClientPlan α}
    (sends : state.plan.Sends parcel resume) : state.head.isSome := by
  cases head : state.head with
  | some head => rfl
  | none =>
      rw [orderly.untouched stays head] at sends
      exact absurd announces sends.not_announcesOnce

theorem Orderly.push (orderly : Orderly plan state) (announces : plan.AnnouncesOnce)
    {parcel : Parcel} {resume : Bool → ClientPlan α} (sends : state.plan.Sends parcel resume) :
    Orderly plan (state.push parcel resume) := by
  rw [Handover.push]
  by_cases left : state.reader = .left
  · rw [if_pos left]
    exact orderly.of_left left _
  · rw [if_neg left]
    by_cases room : state.queue.length < capacity
    · rw [if_pos room]
      constructor
      case bounded =>
        rw [List.length_append]
        exact room
      case inOrder => exact orderly.inOrder
      case complete =>
        intro _
        rw [← orderly.complete left, Handover.parcels, Handover.parcels, sends.parcels_eq]
        simp
      case announced =>
        intro _
        rw [← orderly.announced left, sends.heads_eq]
      case untouched =>
        intro _ head
        have announced := orderly.head_isSome announces left sends
        rw [head] at announced
        cases announced
      case ended =>
        intro finished
        have ends := (orderly.ended finished).2
        rw [sends.result?_eq] at ends
        cases ends
    · rw [if_neg room]
      exact orderly

theorem Orderly.work (orderly : Orderly plan state) (announces : plan.AnnouncesOnce) :
    Orderly plan state.work := by
  rw [Handover.work]
  split
  · exact orderly
  · rename_i next
    exact orderly.announce announces next
  · rename_i bytes resume next
    exact orderly.push announces (by rw [next]; exact .chunk bytes resume)
  · rename_i failure rest next
    exact orderly.push announces (by rw [next]; exact .abort failure rest)

theorem Orderly.take (orderly : Orderly plan state) (listening : state.reader = .listening)
    (announced : state.head.isSome) : Orderly plan state.take := by
  have stays : state.reader ≠ .left := by
    rw [listening]
    intro left
    cases left
  have complete := orderly.complete stays
  have bounded := orderly.bounded
  have touched (after : Handover α) (same : after.head = state.head) (none : after.head = none) :
      after = Handover.start plan := by
    rw [← same, none] at announced
    cases announced
  rw [parcels, listening] at complete
  rw [Handover.take]
  split
  · rename_i bytes queue filled
    rw [filled] at complete bounded
    have complete : { state with queue, received := state.received ++ [bytes] }.parcels =
        plan.parcels := by
      rw [← complete, parcels, listening]
      simp [Reader.parcels]
    exact
      { bounded := Nat.le_of_succ_le bounded
        inOrder := inOrder_of_complete complete
        complete := fun _ => complete
        announced := fun _ => orderly.announced stays
        untouched := fun _ => touched _ rfl
        ended := fun finished => by
          rw [listening] at finished
          cases finished }
  · rename_i reason queue filled
    rw [filled] at complete bounded
    exact
      { bounded := Nat.le_of_succ_le bounded
        inOrder := orderly.inOrder
        complete := fun _ => complete
        announced := fun _ => orderly.announced stays
        untouched := fun _ => touched _ rfl
        ended := fun finished => by cases finished }
  · rename_i empty
    split
    · rename_i ends
      exact
        { bounded
          inOrder := orderly.inOrder
          complete := fun _ => complete
          announced := fun _ => orderly.announced stays
          untouched := fun _ => touched _ rfl
          ended := fun _ => ⟨empty, ends⟩ }
    · exact orderly

theorem Orderly.read (orderly : Orderly plan state) : Orderly plan state.read := by
  rw [Handover.read]
  split
  · rename_i ready
    exact orderly.take ready.1 ready.2
  · exact orderly

theorem Orderly.leave (orderly : Orderly plan state) : Orderly plan state.leave := by
  rw [Handover.leave]
  split
  · exact
      { bounded := Nat.zero_le capacity
        inOrder := orderly.inOrder
        complete := fun stays => absurd rfl stays
        announced := fun stays => absurd rfl stays
        untouched := fun stays => absurd rfl stays
        ended := fun finished => by cases finished }
  · exact orderly

theorem Orderly.step (orderly : Orderly plan state) (announces : plan.AnnouncesOnce)
    (turn : Turn) : Orderly plan (state.step turn) := by
  cases turn with
  | work => exact orderly.work announces
  | read => exact orderly.read
  | leave => exact orderly.leave

theorem Orderly.run (orderly : Orderly plan state) (announces : plan.AnnouncesOnce)
    (turns : List Turn) : Orderly plan (state.run turns) := by
  induction turns generalizing state with
  | nil => exact orderly
  | cons turn turns induction => exact induction (orderly.step announces turn)

end

/-! The end. -/

def isSettled (state : Handover α) : Bool :=
  match state.head, state.reader with
  | some _, .finished _ => true
  | none, .listening => state.plan.result?.isSome
  | _, _ => false

/-- How much is left to do: every call of the plan fills a place of the channel that has to be emptied. -/
def remaining (state : Handover α) : Nat :=
  2 * state.plan.length + state.queue.length + if state.reader = .listening then 1 else 0

section

variable {plan : ClientPlan α} {state : Handover α}

theorem push_advances (stays : state.reader ≠ .left) (room : state.queue.length < capacity)
    {parcel : Parcel} {resume : Bool → ClientPlan α} (sends : state.plan.Sends parcel resume) :
    (state.push parcel resume).remaining < state.remaining ∧
      (state.push parcel resume).reader = state.reader := by
  rw [push, if_neg stays, if_pos room]
  refine ⟨?_, rfl⟩
  simp only [remaining, sends.length_eq, List.length_append, List.length_singleton]
  omega

theorem work_advances (stays : state.reader ≠ .left) (room : state.queue.length < capacity)
    (unfinished : state.plan.result? = none)
    (once : ∀ status headers resume, state.plan = .head status headers resume →
      state.head = none) :
    state.work.remaining < state.remaining ∧ state.work.reader = state.reader := by
  rw [work]
  split
  · rename_i result next
    rw [next] at unfinished
    cases unfinished
  · rename_i status headers resume next
    rw [announce, if_neg (by simp [stays, once status headers resume next])]
    refine ⟨?_, rfl⟩
    simp only [remaining, next, ClientPlan.length]
    omega
  · rename_i bytes resume next
    exact push_advances stays room (by rw [next]; exact .chunk bytes resume)
  · rename_i failure rest next
    exact push_advances stays room (by rw [next]; exact .abort failure rest)

theorem take_advances (listening : state.reader = .listening)
    (ready : state.queue ≠ [] ∨ state.plan.result?.isSome) :
    state.take.remaining < state.remaining ∧ state.take.reader ≠ .left := by
  rw [take]
  split
  · rename_i bytes queue filled
    simp only [remaining, filled, listening, List.length_cons]
    exact ⟨by omega, nofun⟩
  · rename_i reason queue filled
    have ended : Reader.finished (some reason) ≠ .listening := nofun
    refine ⟨?_, nofun⟩
    simp only [remaining, filled, List.length_cons, if_pos listening, if_neg ended]
    omega
  · rename_i empty
    have ended : Reader.finished none ≠ .listening := nofun
    rw [if_pos (ready.resolve_left (absurd empty))]
    refine ⟨?_, nofun⟩
    simp only [remaining, if_pos listening, if_neg ended]
    omega

/-- The relay and the client never wait for each other: as long as something is left to do, one of them
can go on. -/
theorem Orderly.advances (orderly : Orderly plan state) (announces : plan.AnnouncesOnce)
    (stays : state.reader ≠ .left) (unsettled : state.isSettled = false) :
    ∃ turn, turn ≠ .leave ∧ (state.step turn).remaining < state.remaining ∧
      (state.step turn).reader ≠ .left := by
  have once := fun status headers resume =>
    @Orderly.head_eq_none _ _ _ orderly announces stays status headers resume
  have works (room : state.queue.length < capacity) (unfinished : state.plan.result? = none) :
      ∃ turn, turn ≠ .leave ∧ (state.step turn).remaining < state.remaining ∧
        (state.step turn).reader ≠ .left := by
    rcases work_advances stays room unfinished once with ⟨less, same⟩
    refine ⟨.work, nofun, less, fun left => stays ?_⟩
    rw [← same]
    exact left
  rw [isSettled] at unsettled
  cases head : state.head with
  | none =>
      have same := orderly.untouched stays head
      rw [same] at unsettled
      refine works ?_ ?_
      · rw [same]
        exact Nat.succ_pos 15
      · rw [same]
        exact Option.isNone_iff_eq_none.mp (Option.isSome_eq_false_iff.mp unsettled)
  | some announced =>
      cases reader : state.reader with
      | left => exact absurd reader stays
      | finished brokenOff =>
          rw [head, reader] at unsettled
          cases unsettled
      | listening =>
          by_cases ready : state.queue ≠ [] ∨ state.plan.result?.isSome
          · have reads : state.step .read = state.take :=
              if_pos ⟨reader, Option.isSome_iff_exists.mpr ⟨announced, head⟩⟩
            refine ⟨.read, nofun, ?_⟩
            rw [reads]
            exact take_advances reader ready
          · rcases not_or.mp ready with ⟨empty, unfinished⟩
            refine works ?_ (Option.not_isSome_iff_eq_none.mp unfinished)
            rw [not_not.mp empty]
            exact Nat.succ_pos 15

/-- A client that stays gets all, after some more turns. -/
theorem Orderly.settles (orderly : Orderly plan state) (announces : plan.AnnouncesOnce)
    (stays : state.reader ≠ .left) :
    ∃ turns, (∀ turn ∈ turns, turn ≠ .leave) ∧ (state.run turns).reader ≠ .left ∧
      (state.run turns).isSettled := by
  induction amount : state.remaining using Nat.strongRecOn generalizing state with
  | ind amount induction =>
      cases settled : state.isSettled with
      | true => exact ⟨[], nofun, stays, settled⟩
      | false =>
          rcases orderly.advances announces stays settled with ⟨turn, remains, less, staysOn⟩
          rw [amount] at less
          rcases induction _ less (orderly.step announces turn) staysOn rfl with
            ⟨turns, remain, stay, settles⟩
          refine ⟨turn :: turns, ?_, stay, settles⟩
          intro other isOther
          rcases List.mem_cons.mp isOther with same | later
          · rw [same]
            exact remains
          · exact remain other later

end

end Handover

end BearerProxy
