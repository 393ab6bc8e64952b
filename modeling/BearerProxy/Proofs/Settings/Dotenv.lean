import BearerProxy.Proofs.Keyed.Order
import BearerProxy.Proofs.Text.Blank
import BearerProxy.Proofs.Text.Pieces
import BearerProxy.Settings.Environment

/-!
Variables written down in a dotenv text are read back. A line gives a quoted value to a name or says nothing. The
white space around it, the word `export` in front of it, the kind of quotes and the kind of line ends are free, and
so is the order of the lines.
-/

namespace BearerProxy

namespace Dotenv

/-! What can be written down. -/

/-- The name is one word without an equals sign that does not look like a comment, and the value is one line that
says something. -/
structure Writable (name value : String) : Prop where
  nonempty : name ≠ ""
  visible : ∀ character ∈ name.toList, ¬Text.isBlank character
  noEquals : '=' ∉ name.toList
  noComment : name.toList.head? ≠ some '#'
  notBlank : ¬Text.isBlankText value
  oneLine : '\n' ∉ value.toList

instance (name value : String) : Decidable (Writable name value) :=
  letI : Decidable (∀ character ∈ name.toList, ¬Text.isBlank character) :=
    List.decidableBAll (fun character => ¬Text.isBlank character) name.toList
  decidable_of_iff
    (name ≠ "" ∧ (∀ character ∈ name.toList, ¬Text.isBlank character) ∧ '=' ∉ name.toList ∧
      name.toList.head? ≠ some '#' ∧ ¬Text.isBlankText value ∧ '\n' ∉ value.toList)
    ⟨fun ⟨nonempty, visible, noEquals, noComment, notBlank, oneLine⟩ =>
        ⟨nonempty, visible, noEquals, noComment, notBlank, oneLine⟩,
      fun ⟨nonempty, visible, noEquals, noComment, notBlank, oneLine⟩ =>
        ⟨nonempty, visible, noEquals, noComment, notBlank, oneLine⟩⟩

def IsPadding (characters : List Char) : Prop :=
  ∀ character ∈ characters, Text.isBlank character ∧ character ≠ '\n'

instance (characters : List Char) : Decidable (IsPadding characters) :=
  List.decidableBAll (fun character => Text.isBlank character ∧ character ≠ '\n') characters

inductive QuoteMark
  | single
  | double

def QuoteMark.character : QuoteMark → Char
  | .single => '\''
  | .double => '"'

/-- How an assignment is laid out: what surrounds it, and the white space behind the word `export` if there is
one. -/
structure Layout where
  before : List Char
  exported : Option (List Char)
  mark : QuoteMark
  after : List Char
  beforePadding : IsPadding before
  exportedPadding : IsPadding (exported.getD [])
  afterPadding : IsPadding after

def Layout.exportWord (layout : Layout) : List Char :=
  match layout.exported with
  | none => []
  | some gap => "export ".toList ++ gap

theorem Layout.exportedPadding_of_eq {layout : Layout} {gap : List Char}
    (exported : layout.exported = some gap) : IsPadding gap := by
  have padding := layout.exportedPadding
  rw [exported] at padding
  exact padding

/-- Lines that say nothing: comments, lines without an equals sign, of which blank ones are some, and assignments
of nothing. -/
inductive Idle : List Char → Prop
  | comment (before text : List Char) (padding : IsPadding before) (oneLine : '\n' ∉ text) :
      Idle (before ++ '#' :: text)
  | unassigned (text : List Char) (noEquals : '=' ∉ text) (oneLine : '\n' ∉ text) : Idle text
  | unset (front behind : List Char) (noEquals : '=' ∉ front) (oneLine : '\n' ∉ front)
      (padding : IsPadding behind) : Idle (front ++ '=' :: behind)
  | blank (front before inside after : List Char) (mark : QuoteMark) (noEquals : '=' ∉ front)
      (oneLine : '\n' ∉ front) (padding : IsPadding before ∧ IsPadding inside ∧ IsPadding after) :
      Idle (front ++ '=' :: (before ++ (mark.character :: (inside ++ [mark.character])) ++ after))

inductive Line
  | assignment (name value : String) (writable : Writable name value) (layout : Layout)
  | idle (characters : List Char) (idle : Idle characters)

namespace Line

def characters : Line → List Char
  | .assignment name value _ layout =>
      (layout.before ++ layout.exportWord ++ name.toList) ++
        '=' :: (layout.mark.character :: (value.toList ++ [layout.mark.character]) ++ layout.after)
  | .idle characters _ => characters

def assigned? : Line → Option (String × String)
  | .assignment name value _ _ => some (name, value)
  | .idle _ _ => none

end Line

inductive LineEnd
  | feed
  | returnAndFeed

def LineEnd.beforeFeed : LineEnd → List Char
  | .feed => []
  | .returnAndFeed => ['\r']

/-- Lines with their ends, and a last line without one, which may be empty. -/
structure Document where
  lines : List (Line × LineEnd)
  last : Line

namespace Document

def characters (document : Document) : List Char :=
  document.lines.foldr (fun line behind => line.1.characters ++ line.2.beforeFeed ++ '\n' :: behind)
    document.last.characters

def text (document : Document) : String :=
  String.ofList document.characters

def assigned (document : Document) : List (String × String) :=
  (document.lines.map Prod.fst ++ [document.last]).filterMap Line.assigned?

end Document

/-! Paddings and quotes. -/

theorem IsPadding.blank {padding : List Char} (isPadding : IsPadding padding) :
    ∀ character ∈ padding, Text.isBlank character :=
  fun character member => (isPadding character member).1

theorem IsPadding.oneLine {padding : List Char} (isPadding : IsPadding padding) : '\n' ∉ padding :=
  fun member => (isPadding '\n' member).2 rfl

theorem QuoteMark.visible (mark : QuoteMark) : ¬Text.isBlank mark.character := by
  cases mark <;> decide

theorem QuoteMark.ne_feed (mark : QuoteMark) : '\n' ≠ mark.character := by
  cases mark <;> decide

theorem unquote_quoted (mark : QuoteMark) (inside : List Char) :
    unquote (mark.character :: (inside ++ [mark.character])) = inside := by
  cases mark with
  | single => simp [unquote, between?, QuoteMark.character]
  | double => simp [unquote, between?, QuoteMark.character]

theorem trimCharacters_quoted (mark : QuoteMark) {before after : List Char}
    (beforePadding : IsPadding before) (afterPadding : IsPadding after) (inside : List Char) :
    Text.trimCharacters (before ++ (mark.character :: (inside ++ [mark.character])) ++ after) =
      mark.character :: (inside ++ [mark.character]) := by
  rw [Text.trimCharacters_surrounded beforePadding.blank afterPadding.blank,
    Text.trimCharacters_between mark.visible mark.visible]

/-! One line. -/

theorem mem_dropExport {line : List Char} {character : Char}
    (member : character ∈ dropExport line) : character ∈ line := by
  rw [dropExport] at member
  split at member
  · exact member
  · rename_i rest dropped
    rw [(Text.dropPrefix?_eq_some_iff _ _ _).mp dropped]
    exact List.mem_append_right _ ((List.dropWhile_sublist Text.isBlank).subset member)

theorem dropExport_append (front behind : List Char) :
    dropExport (front ++ '=' :: behind) = dropExport front ++ '=' :: behind := by
  rw [dropExport, dropExport]
  cases dropped : Text.dropPrefix? "export ".toList front with
  | some rest =>
      have whole := (Text.dropPrefix?_eq_some_iff _ _ _).mp dropped
      have droppedToo : Text.dropPrefix? "export ".toList (front ++ '=' :: behind) =
          some (rest ++ '=' :: behind) := by
        rw [Text.dropPrefix?_eq_some_iff, whole, List.append_assoc]
      rw [droppedToo]
      exact Text.dropWhile_append_mark (by decide) rest behind
  | none =>
      cases droppedToo : Text.dropPrefix? "export ".toList (front ++ '=' :: behind) with
      | none => rfl
      | some rest =>
          have begins : "export ".toList <+: front ++ '=' :: behind :=
            ⟨rest, ((Text.dropPrefix?_eq_some_iff _ _ _).mp droppedToo).symm⟩
          rcases (Text.prefix_append_mark_iff (by decide)).mp begins with ⟨others, whole⟩
          rw [(Text.dropPrefix?_eq_some_iff _ _ others).mpr whole.symm] at dropped
          cases dropped

theorem assignment?_append {front : List Char} (noEquals : '=' ∉ front) (behind : List Char) :
    assignment? (front ++ '=' :: behind) =
      if (Text.trimStart front).head? = some '#' then none
      else
        let name := Text.trimCharacters (dropExport (Text.trimStart front))
        let value := unquote (Text.trimCharacters behind)
        if name.isEmpty || value.all Text.isBlank then none
        else some (String.ofList name, String.ofList value) := by
  have started : '=' ∉ Text.trimStart front := fun member =>
    noEquals ((List.dropWhile_sublist Text.isBlank).subset member)
  have head : (Text.trimStart front ++ '=' :: Text.trimEnd behind).head? = some '#' ↔
      (Text.trimStart front).head? = some '#' := by
    cases Text.trimStart front with
    | nil => simp
    | cons first rest => rfl
  have dropped : '=' ∉ dropExport (Text.trimStart front) := fun member =>
    started (mem_dropExport member)
  rw [assignment?, Text.trimCharacters_append_mark (by decide)]
  simp only [head, dropExport_append, Text.splitFirst_append_cons dropped,
    Text.trimCharacters_trimEnd]

theorem assignment?_append_blanks (line : List Char) {blanks : List Char}
    (blank : ∀ character ∈ blanks, Text.isBlank character) :
    assignment? (line ++ blanks) = assignment? line := by
  rw [assignment?, assignment?, Text.trimCharacters_append_blanks line blank]

theorem assignment?_of_idle {line : List Char} (idle : Idle line) : assignment? line = none := by
  cases idle with
  | comment before text padding oneLine =>
      have nothing : Text.trimStart before = [] := List.dropWhile_eq_nil_iff.mpr padding.blank
      rw [assignment?, Text.trimCharacters_append_mark (by decide), nothing]
      rfl
  | unassigned text noEquals oneLine =>
      have noEquals : '=' ∉ dropExport (Text.trimCharacters line) := fun member =>
        noEquals (Text.mem_of_mem_trimCharacters (mem_dropExport member))
      rw [assignment?]
      simp only [Text.splitFirst_of_not_mem noEquals]
      exact ite_self none
  | unset front behind noEquals oneLine padding =>
      have nothing : unquote (Text.trimCharacters behind) = [] := by
        rw [Text.trimCharacters_of_blank padding.blank]
        rfl
      rw [assignment?_append noEquals, nothing]
      simp
  | blank front before inside after mark noEquals oneLine padding =>
      have nothing : inside.all Text.isBlank := List.all_eq_true.mpr padding.2.1.blank
      rw [assignment?_append noEquals, trimCharacters_quoted mark padding.1 padding.2.2,
        unquote_quoted]
      simp only [nothing, Bool.or_true, if_true, ite_self]

/-! The assignment of a variable. -/

namespace Writable

variable {name value : String}

theorem exists_head (writable : Writable name value) :
    ∃ first rest, name.toList = first :: rest ∧ ¬Text.isBlank first ∧ first ≠ '#' := by
  cases letters : name.toList with
  | nil => exact absurd (String.toList_eq_nil_iff.mp letters) writable.nonempty
  | cons first rest =>
      have visible := writable.visible first (letters ▸ List.mem_cons_self)
      have noComment := writable.noComment
      rw [letters] at noComment
      exact ⟨first, rest, rfl, visible, fun same => noComment (congrArg some same)⟩

theorem trimStart_front (writable : Writable name value) (layout : Layout) :
    Text.trimStart (layout.before ++ layout.exportWord ++ name.toList) =
      layout.exportWord ++ name.toList := by
  rcases writable.exists_head with ⟨first, rest, letters, visible, -⟩
  rw [List.append_assoc, Text.trimStart_blanks_append layout.beforePadding.blank, Layout.exportWord]
  cases layout.exported with
  | none =>
      rw [letters]
      exact List.dropWhile_cons_of_neg visible
  | some gap => rfl

theorem head?_front (writable : Writable name value) (layout : Layout) :
    (layout.exportWord ++ name.toList).head? ≠ some '#' := by
  rcases writable.exists_head with ⟨first, rest, letters, -, noComment⟩
  rw [Layout.exportWord]
  cases layout.exported with
  | none =>
      rw [letters]
      exact fun same => noComment (Option.some.inj same)
  | some gap => exact fun same => absurd (Option.some.inj same) (by decide)

theorem dropExport_front (writable : Writable name value) (layout : Layout) :
    dropExport (layout.exportWord ++ name.toList) = name.toList := by
  rw [Layout.exportWord]
  cases exported : layout.exported with
  | none =>
      rw [List.nil_append, dropExport]
      cases dropped : Text.dropPrefix? "export ".toList name.toList with
      | none => rfl
      | some rest =>
          have whole := (Text.dropPrefix?_eq_some_iff _ _ _).mp dropped
          have space : ' ' ∈ name.toList := by
            rw [whole]
            exact List.mem_append_left _ (by decide)
          exact absurd (by decide) (writable.visible ' ' space)
  | some gap =>
      have padding : IsPadding gap := layout.exportedPadding_of_eq exported
      rcases writable.exists_head with ⟨first, rest, letters, visible, -⟩
      have dropped : Text.dropPrefix? "export ".toList ("export ".toList ++ gap ++ name.toList) =
          some (gap ++ name.toList) := by
        rw [Text.dropPrefix?_eq_some_iff, List.append_assoc]
      rw [dropExport, dropped]
      change Text.trimStart (gap ++ name.toList) = name.toList
      rw [Text.trimStart_blanks_append padding.blank, letters]
      exact List.dropWhile_cons_of_neg visible

theorem mem_front (layout : Layout) {character : Char}
    (member : character ∈ layout.before ++ layout.exportWord ++ name.toList) :
    (Text.isBlank character ∧ character ≠ '\n') ∨ character ∈ "export".toList ∨
      character ∈ name.toList := by
  rcases List.mem_append.mp member with front | inName
  · rcases List.mem_append.mp front with before | word
    · exact .inl (layout.beforePadding character before)
    · rw [Layout.exportWord] at word
      cases exported : layout.exported with
      | none =>
          rw [exported] at word
          cases word
      | some gap =>
          rw [exported, show "export ".toList = "export".toList ++ [' '] by decide] at word
          rcases List.mem_append.mp word with marked | inGap
          · rcases List.mem_append.mp marked with inWord | isSpace
            · exact .inr (.inl inWord)
            · rw [List.mem_singleton.mp isSpace]
              exact .inl (by decide)
          · exact .inl (layout.exportedPadding_of_eq exported character inGap)
  · exact .inr (.inr inName)

theorem noEquals_front (writable : Writable name value) (layout : Layout) :
    '=' ∉ layout.before ++ layout.exportWord ++ name.toList := by
  intro member
  rcases mem_front layout member with ⟨blank, -⟩ | inWord | inName
  · exact absurd blank (by decide)
  · exact absurd inWord (by decide)
  · exact writable.noEquals inName

theorem oneLine_front (writable : Writable name value) (layout : Layout) :
    '\n' ∉ layout.before ++ layout.exportWord ++ name.toList := by
  intro member
  rcases mem_front layout member with ⟨-, noFeed⟩ | inWord | inName
  · exact noFeed rfl
  · exact absurd inWord (by decide)
  · exact writable.visible '\n' inName (by decide)

theorem assignment?_line (writable : Writable name value) (layout : Layout) :
    assignment? (Line.assignment name value writable layout).characters = some (name, value) := by
  have read : Text.trimCharacters (layout.mark.character ::
      (value.toList ++ [layout.mark.character]) ++ layout.after) =
        layout.mark.character :: (value.toList ++ [layout.mark.character]) :=
    @trimCharacters_quoted layout.mark [] _ nofun layout.afterPadding value.toList
  have nonempty : name.toList.isEmpty = false := by
    rcases writable.exists_head with ⟨first, rest, letters, -, -⟩
    rw [letters]
    rfl
  have visible : value.toList.all Text.isBlank = false := by
    simpa [Text.isBlankText] using writable.notBlank
  rw [Line.characters, assignment?_append (writable.noEquals_front layout),
    writable.trimStart_front layout, if_neg (writable.head?_front layout),
    writable.dropExport_front layout, Text.trimCharacters_of_visible writable.visible, read, unquote_quoted]
  simp only [nonempty, visible, Bool.or_self, Bool.false_eq_true, if_false, String.ofList_toList]

end Writable

/-! Whole documents. -/

theorem QuoteMark.oneLine (mark : QuoteMark) {inside : List Char} (oneLine : '\n' ∉ inside) :
    '\n' ∉ mark.character :: (inside ++ [mark.character]) := by
  simp [oneLine, mark.ne_feed]

theorem Idle.oneLine {line : List Char} (idle : Idle line) : '\n' ∉ line := by
  cases idle with
  | comment before text padding oneLine => simp [padding.oneLine, oneLine]
  | unassigned text noEquals oneLine => exact oneLine
  | unset front behind noEquals oneLine padding => simp [padding.oneLine, oneLine]
  | blank front before inside after mark noEquals oneLine padding =>
      have quoted := mark.oneLine padding.2.1.oneLine
      simp only [List.mem_append, List.mem_cons, not_or] at quoted ⊢
      exact ⟨oneLine, by decide, ⟨padding.1.oneLine, quoted⟩, padding.2.2.oneLine⟩

namespace Line

theorem oneLine (line : Line) : '\n' ∉ line.characters := by
  cases line with
  | assignment name value writable layout =>
      have quoted := layout.mark.oneLine writable.oneLine
      have front := writable.oneLine_front layout
      rw [characters]
      intro member
      rcases List.mem_append.mp member with inFront | behind
      · exact front inFront
      · rcases List.mem_cons.mp behind with isEquals | behind
        · cases isEquals
        · exact (List.mem_append.mp behind).elim quoted layout.afterPadding.oneLine
  | idle characters idle => exact idle.oneLine

theorem assignment?_characters (line : Line) (lineEnd : LineEnd) :
    assignment? (line.characters ++ lineEnd.beforeFeed) = line.assigned? := by
  have blank : ∀ character ∈ lineEnd.beforeFeed, Text.isBlank character := by
    cases lineEnd with
    | feed => exact fun character member => absurd member List.not_mem_nil
    | returnAndFeed => exact List.forall_mem_singleton.mpr rfl
  rw [assignment?_append_blanks _ blank]
  cases line with
  | assignment name value writable layout => exact writable.assignment?_line layout
  | idle characters idle => exact assignment?_of_idle idle

end Line

namespace Document

theorem pieces_characters (document : Document) :
    Text.pieces '\n' document.characters =
      document.lines.map (fun line => line.1.characters ++ line.2.beforeFeed) ++
        [document.last.characters] := by
  rcases document with ⟨lines, last⟩
  induction lines with
  | nil => exact Text.pieces_of_not_mem last.oneLine
  | cons line lines induction =>
      have oneLine : '\n' ∉ line.1.characters ++ line.2.beforeFeed := by
        rw [List.mem_append, not_or]
        exact ⟨line.1.oneLine, by cases line.2 <;> decide⟩
      have first := Text.pieces_append_cons oneLine (Document.mk lines last).characters
      rw [induction] at first
      exact first

theorem assignments_text (document : Document) : assignments document.text = document.assigned := by
  have last := document.last.assignment?_characters .feed
  rw [LineEnd.beforeFeed, List.append_nil] at last
  have terminated : (assignment? ∘ fun line : Line × LineEnd =>
      line.1.characters ++ line.2.beforeFeed) = Line.assigned? ∘ Prod.fst :=
    funext fun line => line.1.assignment?_characters line.2
  rw [assignments, text, String.toList_ofList, pieces_characters, assigned, List.filterMap_append,
    List.filterMap_append, List.filterMap_map, List.filterMap_map, terminated]
  simp only [List.filterMap_cons, List.filterMap_nil, last]

end Document

/-- The text sets these variables and no others, whatever those of the process are. -/
structure Sets (text : String) (entries : List (String × String)) : Prop where
  mem_iff : ∀ entry, entry ∈ parse text ↔ entry ∈ entries
  inOrder : Keyed.Sorted (parse text)
  given : ∀ entry ∈ entries, ∀ process,
    (Environment.ofDotenv text process).get? entry.1 = some entry.2
  others : ∀ name, (∀ entry ∈ entries, entry.1 ≠ name) → ∀ process,
    (Environment.ofDotenv text process).get? name =
      (Keyed.lookup? name process).filter fun value => !Text.isBlankText value

namespace Document

theorem notBlank_of_mem_assigned {document : Document} {entry : String × String}
    (isVariable : entry ∈ document.assigned) : ¬Text.isBlankText entry.2 := by
  rcases List.mem_filterMap.mp isVariable with ⟨line, -, assigned⟩
  cases line with
  | assignment name value writable layout =>
      cases assigned
      exact writable.notBlank
  | idle characters idle => cases assigned

/-- Whatever is written down is read back. -/
theorem sets_text (document : Document) (distinct : (document.assigned.map Prod.fst).Nodup) :
    Sets document.text document.assigned := by
  have read : parse document.text = Keyed.ofList document.assigned := by
    rw [parse, document.assignments_text]
  have override (name : String) (process : List (String × String)) :
      (Environment.ofDotenv document.text process).get? name =
        ((Keyed.lookup? name document.assigned).or (Keyed.lookup? name process)).filter fun value =>
          !Text.isBlankText value := by
    rw [Environment.get?, Environment.ofDotenv, read, Keyed.lookup?_ofList distinct]
    cases Keyed.lookup? name document.assigned with
    | none => rfl
    | some value => rfl
  constructor
  case mem_iff =>
    rw [read]
    exact Keyed.mem_ofList_iff distinct
  case inOrder =>
    rw [read]
    exact Keyed.sorted_ofList _
  case given =>
    intro entry isVariable process
    have visible := notBlank_of_mem_assigned isVariable
    rw [override, Keyed.lookup?_of_mem distinct isVariable]
    simp [visible]
  case others =>
    intro name other process
    rw [override, (Keyed.lookup?_eq_none_iff name _).mpr other]
    rfl

def crowded : Document where
  lines :=
    [(.idle _ (.comment [' '] " TOKEN=old".toList (by decide) (by decide)), .returnAndFeed),
      (.assignment "TOKEN" "'\"=#\r" (by decide)
        ⟨[' ', '\t'], some [' '], .single, ['\t'], by decide, by decide, by decide⟩, .returnAndFeed),
      (.idle _ (.unassigned [] (by decide) (by decide)), .feed),
      (.idle _ (.unset "export TOKEN".toList [] (by decide) (by decide) (by decide)), .feed),
      (.assignment "export" " it's\"" (by decide)
        ⟨[], none, .double, [], by decide, by decide, by decide⟩, .feed)]
  last := .idle _ (.blank "TOKEN".toList [] [' '] [] .double (by decide) (by decide) (by decide))

theorem sets_text_crowded :
    crowded.text =
      " # TOKEN=old\r\n \texport  TOKEN=''\"=#\r'\t\r\n\nexport TOKEN=\nexport=\" it's\"\"\nTOKEN=\" \"" ∧
    crowded.assigned = [("TOKEN", "'\"=#\r"), ("export", " it's\"")] ∧
    (crowded.assigned.map Prod.fst).Nodup ∧ Sets crowded.text crowded.assigned := by
  have distinct : (crowded.assigned.map Prod.fst).Nodup := by decide
  exact ⟨by decide +kernel, rfl, distinct, crowded.sets_text distinct⟩

end Document

end Dotenv

end BearerProxy
