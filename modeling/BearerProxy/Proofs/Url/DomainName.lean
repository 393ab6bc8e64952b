import BearerProxy.Proofs.Steps
import BearerProxy.Proofs.Text.Digits
import BearerProxy.Proofs.Text.Pieces
import BearerProxy.Proofs.Text.Utf8
import BearerProxy.Url.Host

/-!
Controls and white space cannot be hidden in a host name: no step on the way from the text of a host to its
name drops one, and the name may not hold any.
-/

namespace BearerProxy.Url

variable {control : Char}

theorem ne_of_control (isControl : control.toNat ≤ 0x20) (other : Char)
    (visible : 0x20 < other.toNat) : control ≠ other := by
  intro equal
  rw [equal] at isControl
  omega

theorem not_le_of_control (isControl : control.toNat ≤ 0x20) (other : Char)
    (visible : 0x20 < other.toNat) : ¬other ≤ control := by
  intro order
  have ordered : other.toNat ≤ control.toNat := UInt32.le_iff_toNat_le.mp (Char.le_def.mp order)
  omega

theorem digitValue?_of_control (isControl : control.toNat ≤ 0x20) :
    Text.digitValue? 16 control = none := by
  apply Text.digitValue?_of_not_isAlphanum
  rw [Text.isAlphanum_iff]
  omega

theorem mem_percentDecode (isControl : control.toNat ≤ 0x20) (characters : List Char)
    (member : control ∈ characters) :
    UInt8.ofNat control.toNat ∈ percentDecode characters := by
  have notPercent := ne_of_control isControl '%' (by decide)
  fun_induction percentDecode characters with
  | case1 => cases member
  | case2 high low rest highValue lowValue isLow isHigh induction =>
      have notHigh : control ≠ high := by
        intro equal
        rw [← equal, digitValue?_of_control isControl] at isHigh
        cases isHigh
      have notLow : control ≠ low := by
        intro equal
        rw [← equal, digitValue?_of_control isControl] at isLow
        cases isLow
      have inRest : control ∈ rest := by simpa [notPercent, notHigh, notLow] using member
      exact List.mem_cons_of_mem _ (induction inRest)
  | case3 high low rest notBoth induction =>
      have inRest : control ∈ high :: low :: rest := by simpa [notPercent] using member
      exact List.mem_cons_of_mem _ (induction inRest)
  | case4 character rest notEscape induction =>
      rw [List.mem_append]
      rcases List.mem_cons.mp member with equal | inRest
      · left
        subst equal
        have single : String.utf8EncodeChar control = [UInt8.ofNat control.toNat] := by
          have small : control.val.toNat ≤ 0x7F := Nat.le_trans isControl (by decide)
          rw [String.utf8EncodeChar, if_pos small]
          rfl
        rw [Text.toList_toUTF8]
        simp [single]
      · right
        exact induction inRest

theorem percentDecode_cons {character : Char} {rest : List Char}
    (notEscape : ∀ high low behind, character = '%' → rest ≠ high :: low :: behind) :
    percentDecode (character :: rest) =
      String.utf8EncodeChar character ++ percentDecode rest := by
  rw [percentDecode, Text.toList_toUTF8]
  · simp
  · exact notEscape

theorem percentDecode_snoc {last : Char} (notPercent : last ≠ '%') (notDigit : Text.digitValue? 16 last = none)
    (characters : List Char) :
    ∃ front, percentDecode (characters ++ [last]) = front ++ String.utf8EncodeChar last := by
  fun_induction percentDecode characters with
  | case1 =>
      refine ⟨[], ?_⟩
      rw [List.nil_append, percentDecode_cons fun _ _ _ percent => absurd percent notPercent]
      exact List.append_nil _
  | case2 high low rest highValue lowValue isLow isHigh induction =>
      rcases induction with ⟨front, decoded⟩
      refine ⟨UInt8.ofNat (highValue * 16 + lowValue) :: front, ?_⟩
      simp only [List.cons_append, percentDecode, isHigh, isLow, decoded]
  | case3 high low rest notBoth induction =>
      rcases induction with ⟨front, decoded⟩
      refine ⟨0x25 :: front, ?_⟩
      simp only [List.cons_append, percentDecode] at decoded ⊢
      rw [decoded]
  | case4 character rest notEscape induction =>
      rcases induction with ⟨front, decoded⟩
      refine ⟨String.utf8EncodeChar character ++ front, ?_⟩
      rw [List.append_assoc, ← decoded]
      cases rest with
      | nil => exact percentDecode_cons (by simp)
      | cons high others =>
          cases others with
          | nil =>
              by_cases percent : character = '%'
              · have percentByte : String.utf8EncodeChar '%' = [0x25] := by decide
                rw [percent, percentByte]
                simp only [List.cons_append, List.nil_append, percentDecode, notDigit]
                cases Text.digitValue? 16 high with
                | none => rfl
                | some value => rfl
              · exact percentDecode_cons fun _ _ _ isPercent => absurd isPercent percent
          | cons low others =>
              exact percentDecode_cons fun _ _ _ percent =>
                absurd rfl (notEscape high low others percent)

/-! White space beyond ASCII. -/

theorem beyond_of_blank {blank : Char} (isBlank : Text.isBlank blank)
    (notControl : ¬blank.toNat ≤ 0x20) : 0x80 ≤ blank.toNat := by
  simp only [Text.isBlank, Bool.or_eq_true, Bool.and_eq_true, decide_eq_true_eq, beq_iff_eq] at isBlank
  omega

theorem not_le_of_beyond {blank : Char} (beyond : 0x80 ≤ blank.toNat) (other : Char)
    (ascii : other.toNat < 0x80) : ¬blank ≤ other := by
  intro order
  have ordered : blank.toNat ≤ other.toNat := UInt32.le_iff_toNat_le.mp (Char.le_def.mp order)
  omega

theorem digitValue?_of_beyond {blank : Char} (beyond : 0x80 ≤ blank.toNat) :
    Text.digitValue? 16 blank = none := by
  apply Text.digitValue?_of_not_isAlphanum
  rw [Text.isAlphanum_iff]
  omega

namespace DomainName

/-! Each step of the way to the final form keeps controls and spaces. -/

theorem foldName?_of_control (isControl : control.toNat ≤ 0x20) :
    foldName? control = some [control] := by
  have ascii : isAscii control := decide_eq_true (by omega)
  have notLarge := not_le_of_control isControl 'A' (by decide)
  have lower : control.toLower = control :=
    dif_neg fun letter => notLarge (Char.le_def.mpr letter.1)
  rw [foldName?, if_pos ascii, lower]

theorem compositions_visible : ∀ entry ∈ compositions.toList, 0x20 < entry.1 := by
  decide +kernel

theorem compose?_of_control (isControl : control.toNat ≤ 0x20) (mark : Char) :
    compose? control mark = none := by
  rw [compose?]
  split
  · rfl
  · rw [Option.map_eq_none_iff, Array.find?_eq_none]
    intro entry member found
    have visible := compositions_visible entry (Array.mem_toList_iff.mpr member)
    simp only [Bool.and_eq_true, beq_iff_eq] at found
    omega

theorem compose?_with_control (isControl : control.toNat ≤ 0x20) (base : Char) :
    compose? base control = none := by
  rw [compose?, if_pos (by omega)]

theorem mem_composeFrom (isControl : control.toNat ≤ 0x20) (base : Char)
    (characters : List Char) (member : control ∈ base :: characters) :
    control ∈ composeFrom base characters := by
  induction characters generalizing base with
  | nil => exact member
  | cons mark rest induction =>
      rw [composeFrom]
      cases composed : compose? base mark with
      | some character =>
          have notBase : control ≠ base := by
            intro equal
            rw [← equal, compose?_of_control isControl] at composed
            cases composed
          have notMark : control ≠ mark := by
            intro equal
            rw [← equal, compose?_with_control isControl] at composed
            cases composed
          have inRest : control ∈ rest := by simpa [notBase, notMark] using member
          exact induction character (List.mem_cons_of_mem _ inRest)
      | none =>
          rcases List.mem_cons.mp member with equal | later
          · rw [equal]
            exact List.mem_cons_self
          · exact List.mem_cons_of_mem _ (induction mark later)

theorem mem_composeCharacters (isControl : control.toNat ≤ 0x20) (characters : List Char)
    (member : control ∈ characters) : control ∈ composeCharacters characters := by
  cases characters with
  | nil => cases member
  | cons head tail => exact mem_composeFrom isControl head tail member

theorem mem_encode (isControl : control.toNat ≤ 0x20) (label : List Char)
    (member : control ∈ label) : control ∈ Punycode.encode label := by
  have basic : control ∈ label.filter fun character => character.toNat < 128 :=
    List.mem_filter.mpr ⟨member, decide_eq_true (by omega)⟩
  have nonempty : (label.filter fun character => decide (character.toNat < 128)).isEmpty = false :=
    List.isEmpty_eq_false_iff.mpr (List.ne_nil_of_mem basic)
  rw [Punycode.encode]
  simp only [nonempty]
  exact List.mem_append_left _ basic

theorem encodeAsciiLabel?_eq_some {label encoded : List Char}
    (encodes : encodeAsciiLabel? label = some encoded) : encoded = label := by
  rw [encodeAsciiLabel?] at encodes
  split at encodes
  · exact (Option.some.inj encodes).symm
  · rename_i rest _
    rcases Option.bind_eq_some_iff.mp encodes with ⟨decoded, _, checked⟩
    split at checked
    · exact (Option.some.inj checked).symm
    · cases checked

theorem mem_encodeLabel? (isControl : control.toNat ≤ 0x20) {label encoded : List Char}
    (encodes : encodeLabel? label = some encoded) (member : control ∈ label) :
    control ∈ encoded := by
  rw [encodeLabel?] at encodes
  split at encodes
  · rw [encodeAsciiLabel?_eq_some encodes]
    exact member
  · split at encodes
    · rw [← Option.some.inj encodes]
      exact List.mem_append_right _ (mem_encode isControl label member)
    · cases encodes

/-- No name with a control or a space is the name of a domain. -/
theorem toAscii?_of_control (isControl : control.toNat ≤ 0x20) (name : List Char)
    (member : control ∈ name) : toAscii? name = none := by
  cases final : toAscii? name with
  | none => rfl
  | some ascii =>
      rcases Option.bind_eq_some_iff.mp final with ⟨folded, folds, final⟩
      rcases Option.bind_eq_some_iff.mp final with ⟨labels, encodes, final⟩
      rcases exists_of_mem_mapM folds member with ⟨kept, inFolded, keeps⟩
      rw [foldName?_of_control isControl] at keeps
      have inFlat : control ∈ folded.flatten :=
        List.mem_flatten.mpr ⟨kept, inFolded, by simp [← Option.some.inj keeps]⟩
      have composed := mem_composeCharacters isControl _ inFlat
      have notDot := ne_of_control isControl '.' (by decide)
      rcases Text.exists_piece notDot composed with ⟨label, isLabel, inLabel⟩
      rcases exists_of_mem_mapM encodes isLabel with ⟨encoded, isEncoded, encodesLabel⟩
      have inEncoded := mem_encodeLabel? isControl encodesLabel inLabel
      have inName : control ∈ Text.joinPieces '.' labels := Text.mem_joinPieces isEncoded inEncoded
      have forbidden : isForbidden control = true := by simp [isForbidden, isControl]
      have refused : (Text.joinPieces '.' labels).any isForbidden = true :=
        List.any_eq_true.mpr ⟨control, inName, forbidden⟩
      simp only [refused, if_true] at final
      cases final

theorem toAscii?_of_blank {blank : Char} (isBlank : Text.isBlank blank) (beyond : 0x80 ≤ blank.toNat)
    (name : List Char) (member : blank ∈ name) : toAscii? name = none := by
  cases final : toAscii? name with
  | none => rfl
  | some ascii =>
      rcases Option.bind_eq_some_iff.mp final with ⟨folded, folds, -⟩
      rcases exists_of_mem_mapM folds member with ⟨kept, -, keeps⟩
      have notAscii : isAscii blank = false := decide_eq_false (by omega)
      have notIgnored : isIgnored blank = false := by
        simp only [Text.isBlank, Bool.or_eq_true, Bool.and_eq_true, decide_eq_true_eq,
          beq_iff_eq] at isBlank
        simp only [isIgnored, Bool.or_eq_false_iff, Bool.and_eq_false_iff, decide_eq_false_iff_not,
          beq_eq_false_iff_ne]
        omega
      have disallowed : isDisallowed blank = true := by simp [isDisallowed, isBlank]
      rw [foldName?, notAscii, notIgnored, disallowed] at keeps
      cases keeps

end DomainName

theorem Host.ofSpecialText_of_unnamed {characters : List Char}
    (unbracketed : characters.head? ≠ some '[')
    (unnamed : ∀ text : String, text.toUTF8.toList = percentDecode characters →
      DomainName.toAscii? text.toList = none) :
    Host.ofSpecialText characters = .error .illegalDomainName := by
  rw [Host.ofSpecialText, if_neg unbracketed]
  have noName : (String.fromUTF8? ⟨(percentDecode characters).toArray⟩).bind
      (fun text => DomainName.toAscii? text.toList) = none := by
    cases decoded : String.fromUTF8? ⟨(percentDecode characters).toArray⟩ with
    | none => rfl
    | some text =>
        apply unnamed
        rw [Text.toUTF8_of_fromUTF8? decoded, Text.toList_eq_data]
  simp only [noName]

/-- No text with a control or a space, brackets apart, is the text of a host. -/
theorem Host.ofSpecialText_of_control (isControl : control.toNat ≤ 0x20) (characters : List Char)
    (member : control ∈ characters) (unbracketed : characters.head? ≠ some '[') :
    Host.ofSpecialText characters = .error .illegalDomainName := by
  apply Host.ofSpecialText_of_unnamed unbracketed
  intro text bytes
  have decodedByte := mem_percentDecode isControl characters member
  have byteValue : (UInt8.ofNat control.toNat).toNat = control.toNat := by
    rw [UInt8.toNat_ofNat']
    omega
  rw [← bytes] at decodedByte
  rcases Text.exists_of_mem_toUTF8 decodedByte (by omega) with ⟨hidden, inText, same⟩
  exact DomainName.toAscii?_of_control (by omega) text.toList inText

theorem Host.ofSpecialText_of_blank {blank : Char} (isBlank : Text.isBlank blank)
    (beyond : 0x80 ≤ blank.toNat) (front : List Char)
    (unbracketed : (front ++ [blank]).head? ≠ some '[') :
    Host.ofSpecialText (front ++ [blank]) = .error .illegalDomainName := by
  apply Host.ofSpecialText_of_unnamed unbracketed
  intro text bytes
  have notPercent : blank ≠ '%' := by
    intro percent
    rw [percent] at beyond
    exact absurd beyond (by decide)
  rcases percentDecode_snoc notPercent (digitValue?_of_beyond beyond) front with ⟨before, decoded⟩
  rw [decoded] at bytes
  exact DomainName.toAscii?_of_blank isBlank beyond text.toList (Text.mem_of_toUTF8_eq_append bytes)

end BearerProxy.Url
