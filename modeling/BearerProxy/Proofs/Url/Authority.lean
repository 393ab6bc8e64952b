import BearerProxy.Proofs.Steps
import BearerProxy.Proofs.Url.DomainName
import BearerProxy.Url.Basic

/-!
Host and port of an authority: what they are read from, and that an authority which ends in a control or in
white space has none.
-/

namespace BearerProxy.Url

def hostText (authority : List Char) : List Char × List Char :=
  splitHost false (splitUserinfo authority).2

def portBehind (scheme : String) : List Char → Except Fault (Option Nat)
  | ':' :: port => readPort true scheme port
  | _ => .ok none

/-- Host and port depend on the text of the authority alone, whatever follows it. -/
theorem readAuthority_eq_ok {scheme : String} {isFollowed : Bool} {text : List Char}
    {authority : Authority} (read : readAuthority scheme true isFollowed text = .ok authority) :
    (hostText text).1 ≠ [] ∧ ∃ host, Host.ofSpecialText (hostText text).1 = .ok host ∧
      portBehind scheme (hostText text).2 = .ok authority.port ∧ authority.host = some host := by
  rw [hostText]
  cases parts : splitUserinfo text with
  | mk userinfo hostAndPort =>
      cases cut : splitHost false hostAndPort with
      | mk hostText afterHost =>
          cases lone : (userinfo = some [] && hostAndPort.isEmpty && isFollowed : Bool) with
          | true =>
              simp only [readAuthority, parts, lone, if_true] at read
              cases read
          | false =>
              cases hostText with
              | nil =>
                  simp only [readAuthority, parts, cut, lone, Bool.false_eq_true, if_false,
                    List.isEmpty_nil, Bool.and_true, if_true] at read
                  cases read
              | cons head tail =>
                  simp only [readAuthority, parts, cut, lone, Bool.false_eq_true, if_false,
                    List.isEmpty_cons, Bool.and_false, Bool.false_and, if_true,
                    Option.isNone_some] at read
                  rcases exists_of_bind_eq_ok read with ⟨host, hostRead, read⟩
                  refine ⟨List.cons_ne_nil head tail, host, hostRead, ?_⟩
                  split at read
                  · rename_i port
                    rcases exists_of_bind_eq_ok read with ⟨value, portRead, read⟩
                    cases read
                    exact ⟨portRead, rfl⟩
                  · rename_i notPort
                    cases read
                    exact ⟨by rw [portBehind]; exact notPort, rfl⟩

theorem readAuthority_of_other {scheme : String} {isFollowed : Bool} {text : List Char}
    {authority : Authority} (read : readAuthority scheme true isFollowed text = .ok authority)
    (other : Bool) : readAuthority scheme true other text = .ok authority := by
  have someHost : (hostText text).1 ≠ [] := (readAuthority_eq_ok read).1
  have inAuthority : (splitUserinfo text).2 ≠ [] := by
    intro empty
    rw [hostText, empty] at someHost
    exact someHost rfl
  have lone (followed : Bool) : ((splitUserinfo text).1 = some [] &&
      (splitUserinfo text).2.isEmpty && followed : Bool) = false := by
    simp [inAuthority]
  rw [readAuthority] at read ⊢
  simp only [lone] at read ⊢
  exact read

theorem readPort_ne_default {scheme : String} {text : List Char} {port : Nat}
    (read : readPort true scheme text = .ok (some port)) : defaultPort? scheme ≠ some port := by
  rw [readPort] at read
  split at read
  · cases read
  · split at read
    · cases read
    · split at read
      · cases read
      · rename_i written
        intro implied
        apply written
        cases read
        simp [implied]

theorem portBehind_ne_default {scheme : String} {text : List Char} {port : Nat}
    (read : portBehind scheme text = .ok (some port)) : defaultPort? scheme ≠ some port := by
  rw [portBehind.eq_def] at read
  split at read
  · exact readPort_ne_default read
  · cases read

/-! The last character of an authority. -/

theorem splitUserinfo_snoc {last : Char} (notAt : last ≠ '@') (front : List Char) :
    ∃ behind, (splitUserinfo (front ++ [last])).2 = behind ++ [last] := by
  have reversed : (front ++ [last]).reverse = last :: front.reverse := by simp
  have notSeparator : (last == '@') = false := beq_false_of_ne notAt
  rw [splitUserinfo, Text.splitLast?, reversed, Text.splitFirst]
  cases Text.splitFirst (· == '@') front.reverse with
  | mk behind before =>
      cases before with
      | none => exact ⟨front, by simp [notSeparator]⟩
      | some before => exact ⟨behind.reverse, by simp [notSeparator]⟩

theorem splitHost_append (insideBrackets : Bool) (characters : List Char) :
    (splitHost insideBrackets characters).1 ++ (splitHost insideBrackets characters).2 =
      characters := by
  fun_induction splitHost insideBrackets characters with
  | case1 => rfl
  | case2 insideBrackets character rest colon => rfl
  | case3 insideBrackets character rest noColon inside host after cut induction =>
      rw [cut] at induction
      exact congrArg (character :: ·) induction

theorem splitHost_colon (insideBrackets : Bool) (characters : List Char) :
    (splitHost insideBrackets characters).2 = [] ∨
      ∃ port, (splitHost insideBrackets characters).2 = ':' :: port := by
  fun_induction splitHost insideBrackets characters with
  | case1 => exact .inl rfl
  | case2 insideBrackets character rest colon =>
      simp only [Bool.and_eq_true, beq_iff_eq] at colon
      exact .inr ⟨rest, by rw [colon.1]⟩
  | case3 insideBrackets character rest noColon inside host after cut induction =>
      rw [cut] at induction
      exact induction

theorem readPort_snoc {last : Char} (notDigit : last.isDigit = false) (scheme : String)
    (front : List Char) : readPort true scheme (front ++ [last]) = .error .illegalPort := by
  have behind : ((front ++ [last]).dropWhile Char.isDigit).isEmpty = false := by
    rw [List.dropWhile_append]
    split
    · simp [notDigit]
    · simp
  rw [readPort]
  split
  · rfl
  · simp [behind]

def IsFiller (character : Char) : Prop := character.toNat ≤ 0x20 ∨ Text.isBlank character

instance (character : Char) : Decidable (IsFiller character) :=
  inferInstanceAs (Decidable (character.toNat ≤ 0x20 ∨ Text.isBlank character))

theorem ne_of_filler {filler other : Char} (isFiller : IsFiller filler) (visible : ¬IsFiller other) :
    filler ≠ other := by
  intro equal
  exact visible (equal ▸ isFiller)

theorem isDigit_of_filler {filler : Char} (isFiller : IsFiller filler) : filler.isDigit = false := by
  by_cases isControl : filler.toNat ≤ 0x20
  · have notDecimal := not_le_of_control isControl '0' (by decide)
    have below : ¬filler.val ≥ '0'.val := fun order => notDecimal (Char.le_def.mpr order)
    rw [Char.isDigit, decide_eq_false below, Bool.false_and]
  · have beyond := beyond_of_blank (isFiller.resolve_left isControl) isControl
    have notDecimal := not_le_of_beyond beyond '9' (by decide)
    have above : ¬filler.val ≤ '9'.val := fun order => notDecimal (Char.le_def.mpr order)
    rw [Char.isDigit, decide_eq_false above, Bool.and_false]

theorem Host.ofSpecialText_snoc {filler : Char} (isFiller : IsFiller filler)
    (front : List Char) (host : Host) : Host.ofSpecialText (front ++ [filler]) ≠ .ok host := by
  intro read
  by_cases bracketed : (front ++ [filler]).head? = some '['
  · have notBracket : filler ≠ ']' := ne_of_filler isFiller (by decide)
    have unclosed : (front ++ [filler]).getLast? ≠ some ']' := by simp [notBracket]
    rw [Host.ofSpecialText, if_pos bracketed, Host.ofBrackets, if_neg unclosed] at read
    cases read
  · by_cases isControl : filler.toNat ≤ 0x20
    · rw [ofSpecialText_of_control isControl (front ++ [filler]) (by simp) bracketed] at read
      cases read
    · have isBlank := isFiller.resolve_left isControl
      rw [ofSpecialText_of_blank isBlank (beyond_of_blank isBlank isControl) front bracketed] at read
      cases read

theorem readAuthority_of_filler {filler : Char} (isFiller : IsFiller filler)
    {scheme : String} {isFollowed : Bool} (front : List Char) (authority : Authority) :
    readAuthority scheme true isFollowed (front ++ [filler]) ≠ .ok authority := by
  intro read
  rcases readAuthority_eq_ok read with ⟨_, host, hostRead, portRead, _⟩
  have notAt : filler ≠ '@' := ne_of_filler isFiller (by decide)
  rcases splitUserinfo_snoc notAt front with ⟨behind, hostAndPort⟩
  rw [hostText, hostAndPort] at hostRead portRead
  have whole := splitHost_append false (behind ++ [filler])
  rcases splitHost_colon false (behind ++ [filler]) with noPort | ⟨port, colon⟩
  · rw [noPort, List.append_nil] at whole
    rw [whole] at hostRead
    exact Host.ofSpecialText_snoc isFiller behind host hostRead
  · rw [colon] at whole portRead
    rcases List.eq_nil_or_concat port with empty | ⟨digits, last, port⟩
    · have same : ':' = filler := by simpa [empty] using congrArg List.getLast? whole
      exact ne_of_filler isFiller (by decide : ¬IsFiller ':') same.symm
    · rw [List.concat_eq_append] at port
      have split : (splitHost false (behind ++ [filler])).1 ++ ':' :: digits ++ [last] =
          behind ++ [filler] := by
        rw [List.append_assoc, List.cons_append, ← port]
        exact whole
      have same : last = filler := List.singleton_inj.mp (List.append_inj' split rfl).2
      rw [port, same, portBehind, readPort_snoc (isDigit_of_filler isFiller)] at portRead
      cases portRead

end BearerProxy.Url
