import BearerProxy.Proofs.Text.Blank
import BearerProxy.Proofs.Url.Place

/-!
What is written behind a URL cannot change the place that it names, as long as a slash comes first. Blanks
at the end of the URL, which do not count there, count in front of the slash, but then nothing is named.
-/

namespace BearerProxy.Url

/-! The text is cleaned in parts. -/

def cleanFront (front : List Char) : List Char :=
  (front.dropWhile isControlOrSpace).filter fun character => !isLayout character

def cleanEnd (behind : List Char) : List Char :=
  (behind.reverse.dropWhile isControlOrSpace).reverse.filter fun character => !isLayout character

theorem isLayout_of_visible {mark : Char} (visible : ¬mark.toNat ≤ 0x20) : isLayout mark = false := by
  rw [isLayout, Bool.or_eq_false_iff, Bool.or_eq_false_iff, beq_eq_false_iff_ne, beq_eq_false_iff_ne,
    beq_eq_false_iff_ne]
  refine ⟨⟨?_, ?_⟩, ?_⟩
  all_goals
    intro layout
    rw [layout] at visible
    exact visible (by decide)

theorem reverse_dropWhile_append_mark {mark : Char} (visible : ¬mark.toNat ≤ 0x20)
    (front behind : List Char) :
    ((front ++ mark :: behind).reverse.dropWhile isControlOrSpace).reverse =
      front ++ mark :: (behind.reverse.dropWhile isControlOrSpace).reverse := by
  have reversed : (front ++ mark :: behind).reverse = behind.reverse ++ mark :: front.reverse := by simp
  rw [reversed, Text.dropWhile_append_mark (decide_eq_false visible)]
  simp

theorem clean_append_mark {mark : Char} (visible : ¬mark.toNat ≤ 0x20) (front behind : List Char) :
    clean (front ++ mark :: behind) = cleanFront front ++ mark :: cleanEnd behind := by
  rw [clean, Text.dropWhile_append_mark (decide_eq_false visible), reverse_dropWhile_append_mark visible,
    cleanFront, cleanEnd, List.filter_append,
    List.filter_cons_of_pos (by simp [isLayout_of_visible visible])]

theorem cleanEnd_append_mark {mark : Char} (visible : ¬mark.toNat ≤ 0x20) (front behind : List Char) :
    cleanEnd (front ++ mark :: behind) =
      (front.filter fun character => !isLayout character) ++ mark :: cleanEnd behind := by
  rw [cleanEnd, reverse_dropWhile_append_mark visible, cleanEnd, List.filter_append,
    List.filter_cons_of_pos (by simp [isLayout_of_visible visible])]

theorem mem_of_mem_cleanEnd {behind : List Char} {character : Char}
    (member : character ∈ cleanEnd behind) : character ∈ behind := by
  have remaining := List.mem_reverse.mp (List.mem_filter.mp member).1
  exact List.mem_reverse.mp ((List.dropWhile_sublist isControlOrSpace).subset remaining)

theorem exists_cleanEnd_append (behind : List Char) :
    ∃ controls, (behind.filter fun character => !isLayout character) = cleanEnd behind ++ controls ∧
      ∀ character ∈ controls, character.toNat ≤ 0x20 := by
  refine ⟨(behind.reverse.takeWhile isControlOrSpace).reverse.filter
    fun character => !isLayout character, ?_, ?_⟩
  · rw [cleanEnd, ← List.filter_append, ← List.reverse_append, List.takeWhile_append_dropWhile,
      List.reverse_reverse]
  · intro character member
    have taken := List.mem_reverse.mp (List.mem_filter.mp member).1
    exact of_decide_eq_true (List.all_eq_true.mp List.all_takeWhile character taken)

theorem cleanFront_eq (front : List Char) :
    ∃ controls, cleanFront front = clean front ++ controls ∧
      ∀ character ∈ controls, character.toNat ≤ 0x20 :=
  exists_cleanEnd_append (front.dropWhile isControlOrSpace)

/-! Scheme and authority of a text that goes on. -/

theorem takeWhile_append_of_dropWhile {keeps : Char → Bool} {stem behind : List Char} {mark : Char}
    (cut : stem.dropWhile keeps = mark :: behind) (added : List Char) :
    (stem ++ added).takeWhile keeps = stem.takeWhile keeps := by
  rw [List.takeWhile_append, if_neg]
  intro whole
  have parts := congrArg List.length (List.takeWhile_append_dropWhile (p := keeps) (l := stem))
  rw [cut, List.length_append, List.length_cons] at parts
  omega

theorem dropWhile_append_of_dropWhile {keeps : Char → Bool} {stem behind : List Char} {mark : Char}
    (cut : stem.dropWhile keeps = mark :: behind) (added : List Char) :
    (stem ++ added).dropWhile keeps = mark :: (behind ++ added) := by
  rw [List.dropWhile_append, cut]
  rfl

theorem splitScheme?_eq_some_iff {characters rest : List Char} {scheme : String} :
    splitScheme? characters = some (scheme, rest) ↔
      (∃ first others, characters.takeWhile isSchemeCharacter = first :: others ∧
        isLetter first ∧ String.ofList ((first :: others).map Char.toLower) = scheme) ∧
      characters.dropWhile isSchemeCharacter = ':' :: rest := by
  rw [splitScheme?]
  constructor
  · intro split
    split at split
    · rename_i first others behind read cut
      split at split
      · rename_i letter
        cases split
        exact ⟨⟨first, others, read, letter, by rw [read]⟩, cut⟩
      · cases split
    · cases split
  · rintro ⟨⟨first, others, read, letter, named⟩, cut⟩
    rw [read, cut]
    simp only [letter, if_true, named]

/-- The scheme of a text is that of any other with the same beginning, up to slashes at the end. -/
theorem splitScheme?_append {stem slashes rest : List Char} {scheme : String}
    (onlySlashes : ∀ character ∈ slashes, character = '/')
    (split : splitScheme? (stem ++ slashes) = some (scheme, rest)) :
    ∃ behind, rest = behind ++ slashes ∧
      ∀ added, splitScheme? (stem ++ added) = some (scheme, behind ++ added) := by
  rcases splitScheme?_eq_some_iff.mp split with ⟨named, colon⟩
  cases cut : stem.dropWhile isSchemeCharacter with
  | nil =>
      rw [List.dropWhile_append, cut] at colon
      have inSlashes : ':' ∈ slashes := by
        apply (List.dropWhile_sublist isSchemeCharacter).subset
        rw [show slashes.dropWhile isSchemeCharacter = ':' :: rest from colon]
        exact List.mem_cons_self
      exact absurd (onlySlashes ':' inSlashes) (by decide)
  | cons mark behind =>
      rw [dropWhile_append_of_dropWhile cut] at colon
      rcases List.cons.inj colon with ⟨isColon, remaining⟩
      refine ⟨behind, remaining.symm, fun added => splitScheme?_eq_some_iff.mpr ⟨?_, ?_⟩⟩
      · rw [takeWhile_append_of_dropWhile cut] at named ⊢
        exact named
      · rw [dropWhile_append_of_dropWhile cut, isColon]

theorem dropWhile_isSlash_append {stem : List Char} (more : stem.dropWhile isSlash ≠ [])
    (added : List Char) :
    (stem ++ added).dropWhile isSlash = stem.dropWhile isSlash ++ added := by
  rw [List.dropWhile_append, if_neg fun empty => more (List.isEmpty_iff.mp empty)]

theorem authorityText_append_mark {mark : Char} (ends : endsAuthority true mark = true)
    (stem behind : List Char) : authorityText (stem ++ mark :: behind) = authorityText stem := by
  rw [authorityText, authorityText, List.takeWhile_append]
  split
  · rename_i whole
    have same := (List.takeWhile_prefix (fun character => !endsAuthority true character)
      (l := stem)).eq_of_length whole
    rw [same, List.takeWhile_cons_of_neg (by simp [ends])]
    exact List.append_nil stem
  · rfl

/-- Controls and white space either come too late to count, or end the authority. -/
theorem authorityText_append_fillers (stem fillers : List Char)
    (areFillers : ∀ character ∈ fillers, IsFiller character) :
    authorityText (stem ++ fillers) = authorityText stem ∨
      ∃ front filler, IsFiller filler ∧ authorityText (stem ++ fillers) = front ++ [filler] := by
  rw [authorityText, authorityText, List.takeWhile_append]
  split
  · rename_i whole
    have same := (List.takeWhile_prefix (fun character => !endsAuthority true character)
      (l := stem)).eq_of_length whole
    have kept : fillers.takeWhile (fun character => !endsAuthority true character) = fillers := by
      rw [List.takeWhile_eq_self_iff]
      intro character member
      have isFiller := areFillers character member
      have slash : character ≠ '/' := ne_of_filler isFiller (by decide)
      have question : character ≠ '?' := ne_of_filler isFiller (by decide)
      have hash : character ≠ '#' := ne_of_filler isFiller (by decide)
      have backslash : character ≠ '\\' := ne_of_filler isFiller (by decide)
      simp [endsAuthority, slash, question, hash, backslash]
    rw [kept]
    rcases List.eq_nil_or_concat fillers with none | ⟨front, filler, last⟩
    · left
      rw [none, same]
      exact List.append_nil stem
    · right
      rw [List.concat_eq_append] at last
      have isFiller := areFillers filler (by rw [last]; simp)
      exact ⟨stem ++ front, filler, isFiller, by rw [last, List.append_assoc]⟩
  · left
    rfl

theorem authorityText_append_slashes (stem slashes : List Char)
    (onlySlashes : ∀ character ∈ slashes, character = '/') :
    authorityText (stem ++ slashes) = authorityText stem := by
  cases slashes with
  | nil => rw [List.append_nil]
  | cons slash behind =>
      rw [onlySlashes slash List.mem_cons_self]
      exact authorityText_append_mark (by decide) stem behind

theorem ne_nil_of_readHierarchy {scheme : String} {rest : List Char} {url : Url}
    (read : readHierarchy scheme true rest = .ok url) : rest ≠ [] := by
  intro empty
  rw [empty] at read
  rcases readHierarchy_eq_ok read with ⟨_, _, authorityRead, _⟩
  exact (readAuthority_eq_ok authorityRead).1 rfl

/-- A URL that begins as another one, with a slash behind it, names the same place. -/
theorem samePlace_of_extension {baseText text : String} {base url : Url}
    {stem slashes blanks behind : List Char}
    (baseClean : clean baseText.toList = stem ++ slashes)
    (onlySlashes : ∀ character ∈ slashes, character = '/')
    (textClean : clean text.toList = stem ++ (blanks ++ '/' :: behind))
    (controls : ∀ character ∈ blanks, character.toNat ≤ 0x20)
    (baseParsed : parse baseText = .ok base) (web : IsWeb base.scheme)
    (parsed : parse text = .ok url) : SamePlace url base := by
  rcases readHierarchy_of_parse baseParsed web with ⟨rest, split, baseRead⟩
  rw [baseClean] at split
  rcases splitScheme?_append onlySlashes split with ⟨hierarchy, remaining, splits⟩
  have textSplit := splits (blanks ++ '/' :: behind)
  rw [← textClean] at textSplit
  rw [parse_of_special textSplit web.special] at parsed
  have more : hierarchy.dropWhile isSlash ≠ [] := by
    intro none
    apply ne_nil_of_readHierarchy baseRead
    have slashesDropped : slashes.dropWhile isSlash = [] :=
      List.dropWhile_eq_nil_iff.mpr fun character member => by
        rw [onlySlashes character member]
        decide
    rw [remaining, List.dropWhile_append, none, slashesDropped]
    rfl
  rw [remaining, dropWhile_isSlash_append more] at baseRead
  rw [dropWhile_isSlash_append more] at parsed
  have baseAuthority := authorityText_append_slashes (hierarchy.dropWhile isSlash) slashes onlySlashes
  have authority : authorityText (hierarchy.dropWhile isSlash ++ (blanks ++ '/' :: behind)) =
      authorityText (hierarchy.dropWhile isSlash ++ blanks) := by
    rw [← List.append_assoc, authorityText_append_mark (by decide)]
  have areFillers : ∀ character ∈ blanks, IsFiller character :=
    fun character member => .inl (controls character member)
  rcases authorityText_append_fillers (hierarchy.dropWhile isSlash) blanks areFillers with
    same | ⟨front, filler, isFiller, ends⟩
  · exact samePlace_of_authorityText parsed baseRead
      (authority.trans (same.trans baseAuthority.symm))
  · rcases readHierarchy_eq_ok parsed with ⟨_, read, authorityRead, _⟩
    rw [authority, ends] at authorityRead
    exact absurd authorityRead (readAuthority_of_filler isFiller front read)

end BearerProxy.Url
