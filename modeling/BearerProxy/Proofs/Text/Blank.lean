import Mathlib.Data.List.TakeWhile
import BearerProxy.Text

/-! White space at the end of a text, and texts without any. -/

namespace BearerProxy.Text

theorem dropWhile_append_mark {drops : Char → Bool} {mark : Char} (stays : drops mark = false)
    (front behind : List Char) :
    (front ++ mark :: behind).dropWhile drops = front.dropWhile drops ++ mark :: behind := by
  rw [List.dropWhile_append]
  split
  · rename_i nothing
    rw [List.isEmpty_iff.mp nothing, List.dropWhile_cons_of_neg (by simp [stays])]
    rfl
  · rfl

theorem exists_trimEnd_append (characters : List Char) :
    ∃ blanks, characters = trimEnd characters ++ blanks ∧
      ∀ character ∈ blanks, isBlank character := by
  refine ⟨(characters.reverse.takeWhile isBlank).reverse, ?_, ?_⟩
  · rw [trimEnd, ← List.reverse_append, List.takeWhile_append_dropWhile, List.reverse_reverse]
  · intro character member
    exact List.all_eq_true.mp List.all_takeWhile character (List.mem_reverse.mp member)

theorem trimEnd_append_blanks (characters : List Char) {blanks : List Char}
    (blank : ∀ character ∈ blanks, isBlank character) :
    trimEnd (characters ++ blanks) = trimEnd characters := by
  rw [trimEnd, trimEnd, List.reverse_append, List.dropWhile_append_of_pos]
  intro character member
  exact blank character (List.mem_reverse.mp member)

theorem trimEnd_cons {head : Char} (visible : ¬isBlank head) (tail : List Char) :
    trimEnd (head :: tail) = head :: trimEnd tail := by
  rw [trimEnd, trimEnd, List.reverse_cons, List.dropWhile_append]
  by_cases nothing : (tail.reverse.dropWhile isBlank).isEmpty
  · rw [if_pos nothing, List.isEmpty_iff.mp nothing, List.dropWhile_cons_of_neg visible]
    rfl
  · rw [if_neg nothing, List.reverse_append]
    rfl

theorem trimEnd_append_visible {before : List Char} (visible : ∀ character ∈ before, ¬isBlank character)
    (characters : List Char) : trimEnd (before ++ characters) = before ++ trimEnd characters := by
  induction before with
  | nil => rfl
  | cons head tail induction =>
      rw [List.cons_append, trimEnd_cons (visible head List.mem_cons_self),
        induction fun character member => visible character (List.mem_cons_of_mem _ member),
        List.cons_append]

theorem trimCharacters_cons {head : Char} (visible : ¬isBlank head) (tail : List Char) :
    trimCharacters (head :: tail) = head :: trimEnd tail := by
  rw [trimCharacters, trimStart, List.dropWhile_cons_of_neg visible, trimEnd_cons visible]

theorem exists_trimCharacters_between (characters : List Char) :
    ∃ before after, characters = before ++ trimCharacters characters ++ after ∧
      (∀ character ∈ before, isBlank character) ∧ ∀ character ∈ after, isBlank character := by
  rcases exists_trimEnd_append (trimStart characters) with ⟨after, together, blankAfter⟩
  refine ⟨characters.takeWhile isBlank, after, ?_, ?_, blankAfter⟩
  · rw [trimCharacters, List.append_assoc, ← together, trimStart, List.takeWhile_append_dropWhile]
  · exact fun character member => List.all_eq_true.mp List.all_takeWhile character member

theorem trimStart_of_trimCharacters {characters : List Char} (trimmed : trimCharacters characters = characters) :
    trimStart characters = characters := by
  rcases exists_trimEnd_append (trimStart characters) with ⟨blanks, together, -⟩
  rw [← trimCharacters, trimmed] at together
  exact (List.dropWhile_suffix isBlank).eq_of_length_le (by rw [← trimStart, together, List.length_append]; omega)

theorem mem_of_mem_trimCharacters {characters : List Char} {character : Char}
    (member : character ∈ trimCharacters characters) : character ∈ characters := by
  rcases exists_trimCharacters_between characters with ⟨before, after, together, -⟩
  rw [together]
  exact List.mem_append_left after (List.mem_append_right before member)

theorem mem_of_mem_trim {text : String} {character : Char} (member : character ∈ (trim text).toList) :
    character ∈ text.toList := by
  rw [trim, String.toList_ofList] at member
  exact mem_of_mem_trimCharacters member

theorem trimStart_of_visible {characters : List Char}
    (visible : ∀ character ∈ characters, ¬isBlank character) : trimStart characters = characters := by
  cases characters with
  | nil => rfl
  | cons head tail => exact List.dropWhile_cons_of_neg (visible head List.mem_cons_self)

theorem trimEnd_of_visible {characters : List Char}
    (visible : ∀ character ∈ characters, ¬isBlank character) : trimEnd characters = characters := by
  have kept : trimEnd (characters ++ []) = characters ++ trimEnd [] := trimEnd_append_visible visible []
  rw [List.append_nil] at kept
  exact kept.trans (List.append_nil characters)

theorem trimCharacters_of_visible {characters : List Char}
    (visible : ∀ character ∈ characters, ¬isBlank character) : trimCharacters characters = characters := by
  rw [trimCharacters, trimStart_of_visible visible, trimEnd_of_visible visible]

theorem trim_of_visible {text : String} (visible : ∀ character ∈ text.toList, ¬isBlank character) :
    trim text = text := by
  rw [trim, trimCharacters_of_visible visible, String.ofList_toList]

/-- A beginning that does not end in white space does not reach into white space behind a text. -/
theorem isPrefixOf_append_blanks {beginning base blanks : List Char}
    (trimmed : trimEnd beginning = beginning) (blank : ∀ character ∈ blanks, isBlank character) :
    beginning.isPrefixOf (base ++ blanks) = beginning.isPrefixOf base := by
  rw [Bool.eq_iff_iff, List.isPrefixOf_iff_prefix, List.isPrefixOf_iff_prefix]
  constructor
  · intro begins
    rcases List.prefix_or_prefix_of_prefix begins (List.prefix_append base blanks) with
      inside | ⟨rest, whole⟩
    · exact inside
    · rw [← whole, List.prefix_append_right_inj] at begins
      have cut : trimEnd (base ++ rest) = trimEnd base :=
        trimEnd_append_blanks base fun character member => blank character (begins.subset member)
      rw [whole, trimmed] at cut
      rcases exists_trimEnd_append base with ⟨others, together, -⟩
      exact ⟨others, by rw [cut, ← together]⟩
  · intro begins
    exact begins.trans (List.prefix_append base blanks)

/-! White space around a text that is not blank. -/

theorem not_isBlankText_iff (text : String) :
    ¬isBlankText text ↔ ∃ character ∈ text.toList, ¬isBlank character := by
  rw [isBlankText, List.all_eq_true, Classical.not_forall]
  simp only [Classical.not_imp]

theorem trimStart_blanks_append {blanks : List Char} (blank : ∀ character ∈ blanks, isBlank character)
    (characters : List Char) : trimStart (blanks ++ characters) = trimStart characters :=
  List.dropWhile_append_of_pos blank

theorem trimStart_append {characters : List Char}
    (visible : ∃ character ∈ characters, ¬isBlank character) (others : List Char) :
    trimStart (characters ++ others) = trimStart characters ++ others := by
  rw [trimStart, trimStart, List.dropWhile_append, if_neg]
  intro nothing
  rcases visible with ⟨character, member, isVisible⟩
  exact isVisible (List.dropWhile_eq_nil_iff.mp (List.isEmpty_iff.mp nothing) character member)

theorem trimEnd_append {characters : List Char}
    (visible : ∃ character ∈ characters, ¬isBlank character) (others : List Char) :
    trimEnd (others ++ characters) = others ++ trimEnd characters := by
  rcases visible with ⟨character, member, isVisible⟩
  have reversed := trimStart_append ⟨character, List.mem_reverse.mpr member, isVisible⟩ others.reverse
  rw [trimStart, trimStart] at reversed
  rw [trimEnd, trimEnd, List.reverse_append, reversed, List.reverse_append, List.reverse_reverse]

theorem trimCharacters_append_mark {mark : Char} (visible : ¬isBlank mark) (front behind : List Char) :
    trimCharacters (front ++ mark :: behind) = trimStart front ++ mark :: trimEnd behind := by
  rw [trimCharacters, trimStart, dropWhile_append_mark (by simpa using visible), ← trimStart,
    trimEnd_append ⟨mark, List.mem_cons_self, visible⟩, trimEnd_cons visible]

theorem exists_visible_trimEnd {characters : List Char}
    (visible : ∃ character ∈ characters, ¬isBlank character) :
    ∃ character ∈ trimEnd characters, ¬isBlank character := by
  rcases visible with ⟨character, member, isVisible⟩
  rcases exists_trimEnd_append characters with ⟨blanks, together, blank⟩
  rw [together] at member
  rcases List.mem_append.mp member with inside | behind
  · exact ⟨character, inside, isVisible⟩
  · exact absurd (blank character behind) isVisible

theorem trimCharacters_of_blank {characters : List Char}
    (blank : ∀ character ∈ characters, isBlank character) : trimCharacters characters = [] := by
  rw [trimCharacters, trimStart, List.dropWhile_eq_nil_iff.mpr blank]
  rfl

theorem trimCharacters_append_blanks (characters : List Char) {blanks : List Char}
    (blank : ∀ character ∈ blanks, isBlank character) :
    trimCharacters (characters ++ blanks) = trimCharacters characters := by
  by_cases visible : ∃ character ∈ characters, ¬isBlank character
  · rw [trimCharacters, trimStart_append visible, trimEnd_append_blanks _ blank]
    rfl
  · simp only [not_exists, not_and, Classical.not_not] at visible
    rw [trimCharacters_of_blank visible, trimCharacters_of_blank]
    exact fun character member => (List.mem_append.mp member).elim (visible character) (blank character)

theorem trimCharacters_surrounded {before after : List Char}
    (blankBefore : ∀ character ∈ before, isBlank character)
    (blankAfter : ∀ character ∈ after, isBlank character) (characters : List Char) :
    trimCharacters (before ++ characters ++ after) = trimCharacters characters := by
  rw [trimCharacters_append_blanks _ blankAfter, trimCharacters, trimStart_blanks_append blankBefore]
  rfl

theorem trimCharacters_between {first last : Char} (visibleFirst : ¬isBlank first)
    (visibleLast : ¬isBlank last) (inner : List Char) :
    trimCharacters (first :: (inner ++ [last])) = first :: (inner ++ [last]) := by
  rw [trimCharacters_cons visibleFirst, trimEnd_append ⟨last, List.mem_cons_self, visibleLast⟩,
    trimEnd_cons visibleLast]
  rfl

theorem trimCharacters_trimEnd (characters : List Char) :
    trimCharacters (trimEnd characters) = trimCharacters characters := by
  rcases exists_trimEnd_append characters with ⟨blanks, together, blank⟩
  have same := trimCharacters_append_blanks (trimEnd characters) blank
  rw [← together] at same
  exact same.symm

theorem trim_ne_empty {text : String} (visible : ¬isBlankText text) : trim text ≠ "" := by
  rcases (not_isBlankText_iff text).mp visible with ⟨character, member, isVisible⟩
  have started : ∃ other ∈ trimStart text.toList, ¬isBlank other := by
    refine ⟨character, ?_, isVisible⟩
    rw [← List.takeWhile_append_dropWhile (p := isBlank) (l := text.toList)] at member
    rcases List.mem_append.mp member with front | rest
    · exact absurd (List.all_eq_true.mp List.all_takeWhile character front) isVisible
    · exact rest
  rcases exists_visible_trimEnd started with ⟨other, member, -⟩
  intro empty
  have nothing : trimCharacters text.toList = [] := by
    rw [← String.toList_ofList (l := trimCharacters text.toList), ← trim, empty]
    rfl
  rw [← trimCharacters, nothing] at member
  cases member

end BearerProxy.Text
