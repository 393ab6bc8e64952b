import BearerProxy.Text

/-! Cutting a text at a separator undoes putting it together there, and putting the pieces together undoes the
cut. -/

namespace BearerProxy.Text

theorem splitFirst_append (isSeparator : Char → Bool) (before after : List Char)
    (separator : Char) (separates : isSeparator separator = true)
    (clear : ∀ character ∈ before, isSeparator character = false) :
    splitFirst isSeparator (before ++ separator :: after) = (before, some after) := by
  induction before with
  | nil => simp [splitFirst, separates]
  | cons head tail induction =>
      have headClear := clear head List.mem_cons_self
      have tailClear := induction fun character member =>
        clear character (List.mem_cons_of_mem head member)
      rw [List.cons_append, splitFirst, tailClear]
      simp [headClear]

theorem splitFirst_before (isSeparator : Char → Bool) (characters : List Char) :
    (splitFirst isSeparator characters).1 =
      characters.takeWhile fun character => !isSeparator character := by
  induction characters with
  | nil => rfl
  | cons head tail induction =>
      rw [splitFirst]
      cases separates : isSeparator head with
      | true => simp [separates]
      | false => simp [separates, induction]

theorem splitFirst_of_not_mem {separator : Char} {characters : List Char}
    (clear : separator ∉ characters) :
    splitFirst (· == separator) characters = (characters, none) := by
  induction characters with
  | nil => rfl
  | cons head tail induction =>
      rw [List.mem_cons, not_or] at clear
      rw [splitFirst, induction clear.2]
      simp [Ne.symm clear.1]

theorem splitFirst_append_cons {separator : Char} {before : List Char} (clear : separator ∉ before)
    (after : List Char) :
    splitFirst (· == separator) (before ++ separator :: after) = (before, some after) := by
  refine splitFirst_append (· == separator) before after separator BEq.rfl fun character member => ?_
  exact beq_false_of_ne fun same => clear (same ▸ member)

theorem splitFirst_cases (separator : Char) (characters : List Char) :
    (separator ∉ characters ∧ splitFirst (· == separator) characters = (characters, none)) ∨
      ∃ before after, separator ∉ before ∧ characters = before ++ separator :: after ∧
        splitFirst (· == separator) characters = (before, some after) := by
  by_cases member : separator ∈ characters
  · rcases List.eq_append_cons_of_mem member with ⟨before, after, together, clear⟩
    refine .inr ⟨before, after, clear, together, ?_⟩
    rw [together, splitFirst_append_cons clear]
  · exact .inl ⟨member, splitFirst_of_not_mem member⟩

theorem splitLast?_append (isSeparator : Char → Bool) (before after : List Char)
    (separator : Char) (separates : isSeparator separator = true)
    (clear : ∀ character ∈ after, isSeparator character = false) :
    splitLast? isSeparator (before ++ separator :: after) = some (before, after) := by
  have reversed : (before ++ separator :: after).reverse =
      after.reverse ++ separator :: before.reverse := by simp
  have cut := splitFirst_append isSeparator after.reverse before.reverse separator separates
    fun character member => clear character (List.mem_reverse.mp member)
  simp [splitLast?, reversed, cut]

/-! Pieces and their separators. -/

theorem pieces_eq_splitOn (separator : Char) (characters : List Char) :
    pieces separator characters = characters.splitOn separator := by
  induction characters with
  | nil => rfl
  | cons head tail induction =>
      rw [pieces, List.splitOn_cons_eq_if_modifyHead, ← induction]
      by_cases separates : head = separator
      · simp [separates]
      · cases cut : pieces separator tail with
        | nil =>
            rw [induction] at cut
            exact absurd cut (List.splitOn_ne_nil separator tail)
        | cons piece others => simp [separates]

theorem joinPieces_eq_intercalate (separator : Char) (items : List (List Char)) :
    joinPieces separator items = [separator].intercalate items := by
  fun_induction joinPieces separator items with
  | case1 => rfl
  | case2 piece => simp
  | case3 piece next others induction =>
      rw [induction, List.intercalate_cons_cons]
      simp

theorem pieces_joinPieces {separator : Char} {items : List (List Char)} (nonempty : items ≠ [])
    (clear : ∀ item ∈ items, separator ∉ item) :
    pieces separator (joinPieces separator items) = items := by
  rw [pieces_eq_splitOn, joinPieces_eq_intercalate]
  exact List.splitOn_intercalate separator clear nonempty

theorem joinPieces_pieces (separator : Char) (characters : List Char) :
    joinPieces separator (pieces separator characters) = characters := by
  rw [pieces_eq_splitOn, joinPieces_eq_intercalate, List.intercalate_splitOn]

theorem pieces_append_cons {separator : Char} {piece : List Char} (clear : separator ∉ piece)
    (rest : List Char) :
    pieces separator (piece ++ separator :: rest) = piece :: pieces separator rest := by
  induction piece with
  | nil => simp [pieces]
  | cons head tail induction =>
      rw [List.mem_cons, not_or] at clear
      rw [List.cons_append, pieces, induction clear.2, if_neg (Ne.symm clear.1)]

theorem pieces_of_not_mem {separator : Char} {piece : List Char} (clear : separator ∉ piece) :
    pieces separator piece = [piece] := by
  induction piece with
  | nil => rfl
  | cons head tail induction =>
      rw [List.mem_cons, not_or] at clear
      rw [pieces, induction clear.2, if_neg (Ne.symm clear.1)]

theorem pieces_ne_nil (separator : Char) (characters : List Char) :
    pieces separator characters ≠ [] := by
  rw [pieces_eq_splitOn]
  exact List.splitOn_ne_nil separator characters

theorem not_mem_of_mem_pieces {separator : Char} {characters piece : List Char}
    (isPiece : piece ∈ pieces separator characters) : separator ∉ piece := by
  fun_induction pieces separator characters generalizing piece with
  | case1 =>
      rw [List.mem_singleton.mp isPiece]
      exact List.not_mem_nil
  | case2 rest induction =>
      rcases List.mem_cons.mp isPiece with first | later
      · rw [first]
        exact List.not_mem_nil
      · exact induction later
  | case3 character rest different cut induction =>
      rw [List.mem_singleton.mp isPiece, List.mem_singleton]
      exact Ne.symm different
  | case4 character rest different first others cut induction =>
      rw [cut] at induction
      rcases List.mem_cons.mp isPiece with extended | later
      · rw [extended, List.mem_cons, not_or]
        exact ⟨Ne.symm different, induction List.mem_cons_self⟩
      · exact induction (List.mem_cons_of_mem _ later)

theorem exists_piece {separator character : Char} (different : character ≠ separator)
    {characters : List Char} (member : character ∈ characters) :
    ∃ piece ∈ pieces separator characters, character ∈ piece := by
  induction characters with
  | nil => cases member
  | cons head tail induction =>
      rw [pieces]
      by_cases separates : head = separator
      · have inTail : character ∈ tail := by simpa [separates, different] using member
        rcases induction inTail with ⟨piece, isPiece, inPiece⟩
        rw [if_pos separates]
        exact ⟨piece, List.mem_cons_of_mem _ isPiece, inPiece⟩
      · rw [if_neg separates]
        cases cut : pieces separator tail with
        | nil =>
            have inTail : character ∉ tail := by
              intro inTail
              rcases induction inTail with ⟨piece, isPiece, _⟩
              rw [cut] at isPiece
              cases isPiece
            have isHead : character = head := by simpa [inTail] using member
            exact ⟨[head], List.mem_singleton.mpr rfl, List.mem_singleton.mpr isHead⟩
        | cons piece others =>
            rcases List.mem_cons.mp member with isHead | inTail
            · rw [isHead]
              exact ⟨head :: piece, List.mem_cons_self, List.mem_cons_self⟩
            · rcases induction inTail with ⟨found, isPiece, inPiece⟩
              rw [cut] at isPiece
              rcases List.mem_cons.mp isPiece with equal | later
              · rw [← equal]
                exact ⟨head :: found, List.mem_cons_self, List.mem_cons_of_mem _ inPiece⟩
              · exact ⟨found, List.mem_cons_of_mem _ later, inPiece⟩

theorem mem_joinPieces {separator character : Char} {pieces : List (List Char)}
    {piece : List Char} (isPiece : piece ∈ pieces) (member : character ∈ piece) :
    character ∈ joinPieces separator pieces := by
  fun_induction joinPieces separator pieces with
  | case1 => cases isPiece
  | case2 only =>
      rw [← List.mem_singleton.mp isPiece]
      exact member
  | case3 first next others induction =>
      rcases List.mem_cons.mp isPiece with equal | later
      · rw [← equal]
        exact List.mem_append_left _ member
      · exact List.mem_append_right _ (List.mem_cons_of_mem _ (induction later))

theorem prefix_append_mark_iff {beginning front behind : List Char} {mark : Char}
    (noMark : mark ∉ beginning) : beginning <+: front ++ mark :: behind ↔ beginning <+: front := by
  constructor
  · intro begins
    rcases List.prefix_or_prefix_of_prefix begins (List.prefix_append front _) with
      inside | ⟨rest, whole⟩
    · exact inside
    · rw [← whole, List.prefix_append_right_inj] at begins
      rw [← whole] at noMark ⊢
      cases rest with
      | nil => simp
      | cons head tail =>
          have same : head = mark := (List.cons_prefix_cons.mp begins).1
          rw [same] at noMark
          exact absurd (List.mem_append_right _ List.mem_cons_self) noMark
  · intro begins
    exact begins.trans (List.prefix_append front _)

theorem dropPrefix?_eq_some_iff (beginning characters rest : List Char) :
    dropPrefix? beginning characters = some rest ↔ characters = beginning ++ rest := by
  induction beginning generalizing characters with
  | nil => rw [dropPrefix?, Option.some.injEq, List.nil_append]
  | cons expected beginning induction =>
      cases characters with
      | nil => simp [dropPrefix?]
      | cons character characters =>
          rw [dropPrefix?]
          split
          · rename_i same
            rw [induction, same, List.cons_append, List.cons.injEq]
            simp
          · rename_i different
            simp [Ne.symm different]

end BearerProxy.Text
