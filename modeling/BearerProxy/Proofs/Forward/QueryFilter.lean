import BearerProxy.Forward.Rule
import BearerProxy.Proofs.Text.Pieces

/-!
The query that a rule filters. A path is laid out as the text before its first question mark and the pieces
between the ampersands behind it, in one way only. Filtering takes out the pieces with a listed key and leaves
the text and the other pieces as they are, so that filtering again changes nothing, and filtering by one list
after another is filtering by both at once.
-/

namespace BearerProxy

/-! Keys of pieces. -/

inductive HasKey : List Char → List Char → Prop
  | bare (key : List Char) (noSign : '=' ∉ key) : HasKey key key
  | valued (key value : List Char) (noSign : '=' ∉ key) : HasKey (key ++ '=' :: value) key

def IsListed (names : List String) (piece : List Char) : Prop :=
  ∃ key, HasKey piece key ∧
    ∃ name ∈ names, Text.lowerAscii name = Text.lowerAscii (String.ofList key)

theorem exists_hasKey (piece : List Char) : ∃ key, HasKey piece key := by
  by_cases signed : '=' ∈ piece
  · rcases List.eq_append_cons_of_mem signed with ⟨key, value, whole, noSign⟩
    rw [whole]
    exact ⟨key, .valued key value noSign⟩
  · exact ⟨piece, .bare piece signed⟩

theorem pieceKey_of_hasKey {piece key : List Char} (hasKey : HasKey piece key) :
    pieceKey piece = String.ofList key := by
  cases hasKey with
  | bare _ noSign => rw [pieceKey, Text.splitFirst_of_not_mem noSign]
  | valued _ value noSign =>
      rw [pieceKey, Text.splitFirst_append_cons noSign]

theorem isListed_iff (names : List String) (piece : List Char) :
    isListed names piece ↔ IsListed names piece := by
  simp only [isListed, List.any_eq_true, Text.equalIgnoringCase, beq_iff_eq]
  constructor
  · intro listed
    rcases exists_hasKey piece with ⟨key, hasKey⟩
    rw [pieceKey_of_hasKey hasKey] at listed
    exact ⟨key, hasKey, listed⟩
  · rintro ⟨key, hasKey, listed⟩
    rw [pieceKey_of_hasKey hasKey]
    exact listed

instance (names : List String) (piece : List Char) : Decidable (IsListed names piece) :=
  decidable_of_iff _ (isListed_iff names piece)

theorem isListed_append_iff (names others : List String) (piece : List Char) :
    IsListed (names ++ others) piece ↔ IsListed names piece ∨ IsListed others piece := by
  simp only [← isListed_iff, isListed, List.any_append, Bool.or_eq_true]

/-! The pieces that stay. -/

def unlistedPieces (names : List String) (items : List (List Char)) : List (List Char) :=
  items.filter fun item => ¬IsListed names item

theorem unlistedPieces_append (names others : List String) (items : List (List Char)) :
    unlistedPieces (names ++ others) items = unlistedPieces others (unlistedPieces names items) := by
  rw [unlistedPieces, unlistedPieces, unlistedPieces, List.filter_filter]
  apply List.filter_congr
  intro item _
  simp [isListed_append_iff, Bool.and_comm]

theorem unlistedPieces_congr {names others : List String} (same : ∀ name, name ∈ names ↔ name ∈ others)
    (items : List (List Char)) : unlistedPieces names items = unlistedPieces others items := by
  apply List.filter_congr
  intro item _
  rw [decide_eq_decide]
  simp only [IsListed, same]

theorem unlistedPieces_nil (items : List (List Char)) : unlistedPieces [] items = items := by
  apply List.filter_eq_self.mpr
  intro item _
  simp [IsListed]

/-! Layout of a path. -/

def queryText : List (List Char) → List Char
  | [] => []
  | item :: items => '?' :: Text.joinPieces '&' (item :: items)

/-- A path as the text before its first question mark and the pieces of its query. -/
structure PathLayout (path : String) (base : List Char) (items : List (List Char)) : Prop where
  noMark : '?' ∉ base
  noSeparator : ∀ item ∈ items, '&' ∉ item
  text : path.toList = base ++ queryText items

namespace PathLayout

variable {path : String} {base query : List Char} {items : List (List Char)}

theorem of_noMark (noMark : '?' ∉ path.toList) : PathLayout path path.toList [] :=
  ⟨noMark, nofun, (List.append_nil _).symm⟩

theorem queryText_pieces (query : List Char) : queryText (Text.pieces '&' query) = '?' :: query := by
  have whole := Text.joinPieces_pieces '&' query
  cases cut : Text.pieces '&' query with
  | nil => exact absurd cut (Text.pieces_ne_nil '&' query)
  | cons item items => rw [queryText, ← cut, whole]

theorem of_query (text : path.toList = base ++ '?' :: query) (noMark : '?' ∉ base) :
    PathLayout path base (Text.pieces '&' query) :=
  ⟨noMark, fun _ isPiece => Text.not_mem_of_mem_pieces isPiece, by rw [queryText_pieces, text]⟩

theorem exists_layout (path : String) : ∃ base items, PathLayout path base items := by
  by_cases marked : '?' ∈ path.toList
  · rcases List.eq_append_cons_of_mem marked with ⟨base, query, text, noMark⟩
    exact ⟨base, _, of_query text noMark⟩
  · exact ⟨_, _, of_noMark marked⟩

theorem eq_of_layout {other : String} (one : PathLayout path base items)
    (two : PathLayout other base items) : path = other :=
  String.toList_inj.mp (one.text.trans two.text.symm)

theorem cut (layout : PathLayout path base items) :
    Text.splitFirst (· == '?') path.toList =
        (base, if items = [] then none else some (Text.joinPieces '&' items)) ∧
      (items ≠ [] → Text.pieces '&' (Text.joinPieces '&' items) = items) := by
  refine ⟨?_, fun nonempty => Text.pieces_joinPieces nonempty layout.noSeparator⟩
  rw [layout.text]
  cases items with
  | nil => rw [queryText, List.append_nil, Text.splitFirst_of_not_mem layout.noMark, if_pos rfl]
  | cons item items =>
      rw [queryText, Text.splitFirst_append_cons layout.noMark, if_neg (List.cons_ne_nil item items)]

theorem unique {otherBase : List Char} {others : List (List Char)} (one : PathLayout path base items)
    (two : PathLayout path otherBase others) : base = otherBase ∧ items = others := by
  rcases Prod.mk.inj (one.cut.1.symm.trans two.cut.1) with ⟨sameBase, sameQuery⟩
  refine ⟨sameBase, ?_⟩
  cases items with
  | nil =>
      cases others with
      | nil => rfl
      | cons other others => simp at sameQuery
  | cons item items =>
      cases others with
      | nil => simp at sameQuery
      | cons other others =>
          have sameText := Option.some.inj sameQuery
          rw [← one.cut.2 (List.cons_ne_nil item items), sameText,
            two.cut.2 (List.cons_ne_nil other others)]

theorem mark_mem_iff (layout : PathLayout path base items) : '?' ∈ path.toList ↔ items ≠ [] := by
  rw [layout.text]
  cases items with
  | nil => simp [queryText, layout.noMark]
  | cons item items => simp [queryText]

theorem filtered (layout : PathLayout path base items) (names : List String) :
    PathLayout (withoutParameters names path) base (unlistedPieces names items) where
  noMark := layout.noMark
  noSeparator item kept := layout.noSeparator item (List.mem_filter.mp kept).1
  text := by
    have unlisted : (fun item => !isListed names item) = fun item => decide ¬IsListed names item := by
      funext item
      simp [← isListed_iff]
    rw [withoutParameters, layout.cut.1]
    cases items with
    | nil => exact layout.text
    | cons item items =>
        rw [if_neg (List.cons_ne_nil item items)]
        dsimp only
        rw [layout.cut.2 (List.cons_ne_nil item items), unlisted, ← unlistedPieces]
        by_cases noNames : names.isEmpty
        · rw [if_pos noNames, List.isEmpty_iff.mp noNames, unlistedPieces_nil]
          exact layout.text
        · rw [if_neg noNames]
          cases unlistedPieces names (item :: items) with
          | nil => simp [queryText]
          | cons kept others => simp [queryText]

end PathLayout

/-! Filtering. -/

theorem filterQuery_value (names : List String) (path : String) :
    (filterQuery names path).value = withoutParameters names path := by
  rw [filterQuery]
  split <;> rfl

theorem withoutParameters_append (names others : List String) (path : String) :
    withoutParameters others (withoutParameters names path) = withoutParameters (names ++ others) path := by
  rcases PathLayout.exists_layout path with ⟨base, items, layout⟩
  have together := layout.filtered (names ++ others)
  rw [unlistedPieces_append] at together
  exact ((layout.filtered names).filtered others).eq_of_layout together

theorem withoutParameters_congr {names others : List String}
    (same : ∀ name, name ∈ names ↔ name ∈ others) (path : String) :
    withoutParameters names path = withoutParameters others path := by
  rcases PathLayout.exists_layout path with ⟨base, items, layout⟩
  have filtered := layout.filtered others
  rw [← unlistedPieces_congr same] at filtered
  exact (layout.filtered names).eq_of_layout filtered

theorem withoutParameters_eq_self {names : List String} {path : String}
    (nothing : '?' ∉ path.toList ∨ names = []) : withoutParameters names path = path := by
  rcases PathLayout.exists_layout path with ⟨base, items, layout⟩
  apply (layout.filtered names).eq_of_layout
  rcases nothing with noMark | noNames
  · have noItems : items = [] := Classical.not_not.mp (mt layout.mark_mem_iff.mpr noMark)
    rw [noItems] at layout ⊢
    exact layout
  · rw [noNames, unlistedPieces_nil]
    exact layout

/-- What it means that filtering keeps exactly the parameters that are not listed. -/
structure KeepsUnlisted (names : List String) (path : String) : Prop where
  laidOut : ∃ base items, PathLayout path base items
  kept : ∀ base items, PathLayout path base items →
    PathLayout (filterQuery names path).value base (unlistedPieces names items)
  marked : ∀ base items, PathLayout path base items →
    ('?' ∈ (filterQuery names path).value.toList ↔ unlistedPieces names items ≠ [])
  recovered : ∀ base items query, PathLayout path base items →
    (filterQuery names path).value.toList = base ++ '?' :: query →
    Text.pieces '&' query = unlistedPieces names items
  unchanged : '?' ∉ path.toList ∨ names = [] → (filterQuery names path).value = path
  composed : ∀ others,
    (filterQuery others (filterQuery names path).value).value =
      (filterQuery (names ++ others) path).value
  idempotent : (filterQuery names (filterQuery names path).value).value =
    (filterQuery names path).value
  unordered : ∀ others, (∀ name, name ∈ names ↔ name ∈ others) →
    (filterQuery others path).value = (filterQuery names path).value

/-- Whatever the path, filtering keeps the parameters that are not listed, and nothing else. -/
theorem filterQuery_keepsUnlisted (names : List String) (path : String) :
    KeepsUnlisted names path where
  laidOut := PathLayout.exists_layout path
  kept base items layout := by
    rw [filterQuery_value]
    exact layout.filtered names
  marked base items layout := by
    rw [filterQuery_value]
    exact (layout.filtered names).mark_mem_iff
  recovered base items query layout written := by
    rw [filterQuery_value] at written
    have again := PathLayout.of_query written layout.noMark
    exact (again.unique (layout.filtered names)).2
  unchanged nothing := by
    rw [filterQuery_value]
    exact withoutParameters_eq_self nothing
  composed others := by
    simp only [filterQuery_value]
    exact withoutParameters_append names others path
  idempotent := by
    simp only [filterQuery_value, withoutParameters_append]
    exact withoutParameters_congr (by simp) path
  unordered others same := by
    simp only [filterQuery_value]
    exact (withoutParameters_congr same path).symm

/-- A key is listed in either case, with a value or without one; empty pieces and further question marks
stay. -/
example :
    (filterQuery ["Debug"] "/v1?a=1&&DEBUG&b?=2&debug=x=y").value = "/v1?a=1&&b?=2" ∧
      (filterQuery ["debug"] "/v1?debug").value = "/v1" := by
  decide +kernel

end BearerProxy
