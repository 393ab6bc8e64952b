/-!
Diagnostics. What a computation reports is part of its result: a `Reported` value carries the events
emitted on the way, the oldest first.
-/

namespace BearerProxy

inductive Severity
  | debug
  | info
  | warn
  | error
  deriving DecidableEq, Repr

namespace Severity

def name : Severity → String
  | .debug => "DEBUG"
  | .info => "INFO"
  | .warn => "WARN"
  | .error => "ERROR"

def rank : Severity → Nat
  | .error => 1
  | .warn => 2
  | .info => 3
  | .debug => 4

end Severity

inductive Scope
  | alarm
  | credentials
  | rotation
  | token
  | forward
  | filter
  | stream
  | dispatch
  | admin
  | exchange
  | backend
  | program
  deriving DecidableEq, Repr

def Scope.path : Scope → String
  | .alarm => "flow_proxy::alarm"
  | .credentials => "flow_proxy::credentials"
  | .rotation => "flow_proxy::balancer"
  | .token => "flow_proxy::auth::token"
  | .forward => "flow_proxy::forward"
  | .filter => "flow_proxy::forward::filter"
  | .stream => "flow_proxy::forward::stream"
  | .dispatch => "flow_proxy::dispatch"
  | .admin => "flow_proxy::gateway::admin"
  | .exchange => "flow_proxy::gateway::proxy"
  | .backend => "flow_proxy::upstream"
  | .program => "flow_proxy"

inductive Detail
  | text (value : String)
  | count (value : Nat)
  | flag (value : Bool)
  deriving DecidableEq, Repr

structure Event where
  severity : Severity
  scope : Scope
  message : String
  details : List (String × Detail)
  deriving DecidableEq, Repr

/-- A value together with the events emitted while it was computed. -/
structure Reported (α : Type u) where
  value : α
  events : List Event
  deriving DecidableEq, Repr

namespace Reported

protected def pure (value : α) : Reported α := ⟨value, []⟩

protected def bind (first : Reported α) (next : α → Reported β) : Reported β :=
  let second := next first.value
  ⟨second.value, first.events ++ second.events⟩

instance : Monad Reported where
  pure := Reported.pure
  bind := Reported.bind

instance : LawfulMonad Reported :=
  LawfulMonad.mk' _
    (by intro _ reported; simp [Functor.map, Reported.bind, Reported.pure])
    (by intros; simp [bind, pure, Reported.bind, Reported.pure])
    (by intros; simp [bind, Reported.bind])

def emit (event : Event) : Reported Unit := ⟨(), [event]⟩

@[simp] theorem value_pure (value : α) : (pure value : Reported α).value = value := rfl

@[simp] theorem events_pure (value : α) : (pure value : Reported α).events = [] := rfl

@[simp] theorem value_bind (first : Reported α) (next : α → Reported β) :
    (first >>= next).value = (next first.value).value := rfl

@[simp] theorem events_bind (first : Reported α) (next : α → Reported β) :
    (first >>= next).events = first.events ++ (next first.value).events := rfl

@[simp] theorem value_map (transform : α → β) (reported : Reported α) :
    (transform <$> reported).value = transform reported.value := rfl

@[simp] theorem value_emit (event : Event) : (emit event).value = () := rfl

@[simp] theorem events_emit (event : Event) : (emit event).events = [event] := rfl

end Reported

def debugEvent (scope : Scope) (message : String) (details : List (String × Detail) := []) :
    Reported Unit :=
  Reported.emit ⟨.debug, scope, message, details⟩

def infoEvent (scope : Scope) (message : String) (details : List (String × Detail) := []) :
    Reported Unit :=
  Reported.emit ⟨.info, scope, message, details⟩

def warnEvent (scope : Scope) (message : String) (details : List (String × Detail) := []) :
    Reported Unit :=
  Reported.emit ⟨.warn, scope, message, details⟩

def errorEvent (scope : Scope) (message : String) (details : List (String × Detail) := []) :
    Reported Unit :=
  Reported.emit ⟨.error, scope, message, details⟩

end BearerProxy
