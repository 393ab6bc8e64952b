import Mathlib.Data.List.Forall2
import BearerProxy.Journal

/-!
Two computations side by side. They report the same events and come to related values if their steps do.
-/

namespace BearerProxy

/-- Both report the same events and come to related values. -/
structure Reported.Alike (Related : α → β → Prop) (one : Reported α) (other : Reported β) : Prop where
  value : Related one.value other.value
  events : one.events = other.events

inductive Agree (Related : α → β → Prop) : Except ε α → Except ε β → Prop
  | error (failure : ε) : Agree Related (.error failure) (.error failure)
  | ok (related : Related one other) : Agree Related (.ok one) (.ok other)

theorem Agree.imp {Related Further : α → β → Prop} {one : Except ε α} {other : Except ε β}
    (agree : Agree Related one other)
    (further : ∀ one other, Related one other → Further one other) : Agree Further one other := by
  cases agree with
  | error failure => exact .error failure
  | ok related => exact .ok (further _ _ related)

structure Paired (Related : α → β → Prop) (Further : γ → δ → Prop) (one : α × γ) (other : β × δ) :
    Prop where
  first : Related one.1 other.1
  second : Further one.2 other.2

namespace Reported.Alike

variable {Related : α → β → Prop} {Result : γ → δ → Prop}

theorem pure {one : α} {other : β} (related : Related one other) :
    Alike Related (Pure.pure one) (Pure.pure other) where
  value := related
  events := rfl

theorem bind {first : Reported α} {second : Reported β} {next : α → Reported γ}
    {otherNext : β → Reported δ} (start : Alike Related first second)
    (continued : ∀ one other, Related one other → Alike Result (next one) (otherNext other)) :
    Alike Result (first >>= next) (second >>= otherNext) where
  value := (continued _ _ start.value).value
  events := by
    rw [events_bind, events_bind, start.events, (continued _ _ start.value).events]

theorem after (first : Reported α) {next : α → Reported γ} {otherNext : α → Reported δ}
    (continued : ∀ value, Alike Result (next value) (otherNext value)) :
    Alike Result (first >>= next) (first >>= otherNext) where
  value := (continued _).value
  events := by rw [events_bind, events_bind, (continued _).events]

end Reported.Alike

/-! Lists that are related element by element. -/

section

variable {Related : α → β → Prop} {items : List α} {others : List β}

theorem getElem?_of_forall₂ (related : List.Forall₂ Related items others) (index : Nat) :
    Option.Rel Related items[index]? others[index]? := by
  induction related generalizing index with
  | nil => exact .none
  | cons head tail induction =>
      cases index with
      | zero => exact .some head
      | succ index => exact induction index

theorem isEmpty_of_forall₂ (related : List.Forall₂ Related items others) :
    items.isEmpty = others.isEmpty := by
  cases related with
  | nil => rfl
  | cons head tail => rfl

theorem find?_of_forall₂ (related : List.Forall₂ Related items others) (sought : α → Bool)
    (otherSought : β → Bool)
    (same : ∀ item other, Related item other → sought item = otherSought other) :
    Option.Rel Related (items.find? sought) (others.find? otherSought) := by
  induction related with
  | nil => exact .none
  | @cons item other items others head tail induction =>
      rw [List.find?_cons, List.find?_cons, same item other head]
      cases otherSought other with
      | true => exact .some head
      | false => exact induction

theorem filter_of_forall₂ (related : List.Forall₂ Related items others) (kept : α → Bool)
    (otherKept : β → Bool) (same : ∀ item other, Related item other → kept item = otherKept other) :
    List.Forall₂ Related (items.filter kept) (others.filter otherKept) := by
  apply List.rel_filter _ related
  intro item other alike
  simp only [same item other alike]

theorem map_of_forall₂ (related : List.Forall₂ Related items others) {shown : α → γ}
    {otherShown : β → γ}
    (same : ∀ item other, Related item other → shown item = otherShown other) :
    items.map shown = others.map otherShown := by
  induction related with
  | nil => rfl
  | @cons item other items others head tail induction =>
      rw [List.map_cons, List.map_cons, same item other head, induction]

end

end BearerProxy
