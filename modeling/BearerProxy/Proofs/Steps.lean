/-! What is known of steps of which each can fail, once the outcome of all together is. -/

namespace BearerProxy

variable {first : Except ε α} {next : α → Except ε β}

theorem exists_of_bind_eq_ok {result : β} (done : first >>= next = .ok result) :
    ∃ value, first = .ok value ∧ next value = .ok result := by
  cases first with
  | error _ => cases done
  | ok value => exact ⟨value, rfl, done⟩

theorem bind_eq_error {failure : ε} (failed : first >>= next = .error failure) :
    first = .error failure ∨ ∃ value, first = .ok value ∧ next value = .error failure := by
  cases first with
  | error _ =>
      cases failed
      exact .inl rfl
  | ok value => exact .inr ⟨value, rfl, failed⟩

theorem unguarded_of_eq_ok {condition : Prop} [Decidable condition] {fault : ε}
    {behind : Unit → Except ε α} {value : α}
    (run : (if condition then throw fault >>= behind else behind ()) = .ok value) :
    ¬condition ∧ behind () = .ok value := by
  split at run
  · cases run
  · exact ⟨‹¬condition›, run⟩

theorem exists_of_mem_mapM {transform : α → Option β} {inputs : List α} {outputs : List β}
    (transforms : inputs.mapM transform = some outputs) {input : α} (member : input ∈ inputs) :
    ∃ output ∈ outputs, transform input = some output := by
  induction inputs generalizing outputs with
  | nil => cases member
  | cons head tail induction =>
      rw [List.mapM_cons] at transforms
      rcases Option.bind_eq_some_iff.mp transforms with ⟨first, transformsHead, transforms⟩
      rcases Option.bind_eq_some_iff.mp transforms with ⟨others, transformsTail, together⟩
      rw [← Option.some.inj together]
      rcases List.mem_cons.mp member with isHead | inTail
      · rw [isHead]
        exact ⟨first, List.mem_cons_self, transformsHead⟩
      · rcases induction transformsTail inTail with ⟨output, isOutput, transformsInput⟩
        exact ⟨output, List.mem_cons_of_mem _ isOutput, transformsInput⟩

end BearerProxy
