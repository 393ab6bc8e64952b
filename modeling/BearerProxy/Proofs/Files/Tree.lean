import BearerProxy.Credential.Pool
import BearerProxy.Files.Tree
import BearerProxy.Proofs.Text.Pieces
import Mathlib.Data.List.Infix

/-!
A file that was added to a tree is read by its path, and what lies elsewhere in the tree stays as it was.
-/

namespace BearerProxy

namespace FileTree

variable {tree : FileTree} {place : List String}

/-! Adding a node. -/

theorem lookup_directories (places : List (List String)) (other : List String) :
    (places.map (·, FileNode.directory)).lookup other =
      if other ∈ places then some .directory else none := by
  split
  · rename_i member
    exact List.lookup_graph (fun _ => FileNode.directory) member
  · rename_i absent
    rw [List.lookup_eq_none_iff]
    rintro _ entry
    rcases List.mem_map.mp entry with ⟨listed, member, rfl⟩
    exact bne_iff_ne.mpr fun same => absent (same ▸ member)

theorem mem_ancestors {other : List String} :
    other ∈ (List.range place.length).map place.take ↔ other <+: place ∧ other ≠ place := by
  rw [List.mem_map]
  constructor
  · rintro ⟨count, shorter, rfl⟩
    refine ⟨List.take_prefix count place, fun same => ?_⟩
    have lengths := congrArg List.length same
    rw [List.length_take, Nat.min_eq_left (List.mem_range.mp shorter).le] at lengths
    exact (List.mem_range.mp shorter).ne lengths
  · rintro ⟨isPrefix, different⟩
    refine ⟨other.length, List.mem_range.mpr ?_, (List.prefix_iff_eq_take.mp isPrefix).symm⟩
    exact isPrefix.length_le.lt_of_ne fun same => different (isPrefix.eq_of_length same)

/-- Behind an addition the node is at its place, directories lead to it, and nothing else is different. -/
theorem node?_add (nonempty : place ≠ []) (node : FileNode) (other : List String) :
    (tree.add place node).node? other =
      if other = place then some node
      else if other <+: place then some ((tree.node? other).getD .directory)
      else tree.node? other := by
  by_cases root : other = []
  · rw [if_neg (root ▸ nonempty.symm), if_pos (root ▸ List.nil_prefix)]
    simp [node?, root]
  · have notRoot : other.isEmpty = false := by simpa using root
    simp only [node?, notRoot, Bool.false_eq_true, if_false, add, List.cons_append]
    rw [List.lookup_cons]
    by_cases same : other = place
    · simp [same]
    · rw [beq_false_of_ne same, if_neg same, List.lookup_append, lookup_directories]
      simp only [List.mem_filter, mem_ancestors]
      by_cases isPrefix : other <+: place
      · cases tree.nodes.lookup other <;> simp [isPrefix, same, notRoot]
      · simp [isPrefix]

/-! Finding a node by its path. -/

structure IsName (name : String) : Prop where
  nonempty : name ≠ ""
  notHere : name ≠ "."
  notAbove : name ≠ ".."
  short : name.utf8ByteSize ≤ longestName
  whole : '/' ∉ name.toList
  legal : '\x00' ∉ name.toList

theorem walk_names {names : List String} (named : ∀ name ∈ names, IsName name)
    (through : ∀ before, before <+: names → before ≠ names → tree.node? (place ++ before) = some .directory)
    (found : (tree.node? (place ++ names)).isSome) :
    tree.walk place names = .ok (place ++ names) := by
  -- On the names that are left, from whatever place has been reached.
  induction names generalizing place with
  | nil => rw [walk, List.append_nil]
  | cons name names induction =>
      have here := through [] List.nil_prefix (List.cons_ne_nil name names).symm
      rw [List.append_nil] at here
      have isName := named name List.mem_cons_self
      have next : (tree.node? (place ++ [name])).isSome := by
        cases names with
        | nil => exact found
        | cons other others =>
            rw [through [name] (by simp) (by simp)]
            rfl
      rw [walk, if_neg (not_not.mpr here), if_neg (by simp [isName.nonempty, isName.notHere]),
        if_neg isName.notAbove, if_neg (Nat.not_lt.mpr isName.short), if_pos next,
        induction (fun other member => named other (List.mem_cons_of_mem name member)) ?_ ?_]
      · rw [List.append_assoc, List.singleton_append]
      · intro before shorter different
        rw [List.append_assoc, List.singleton_append]
        exact through (name :: before) ((List.prefix_cons_inj name).mpr shorter) (by simpa using different)
      · rw [List.append_assoc, List.singleton_append]
        exact found

theorem pieces_pathOf (named : ∀ name ∈ place, IsName name) (nonempty : place ≠ []) :
    Text.pieces '/' (pathOf place).toList = [] :: place.map String.toList := by
  have joined : (pathOf place).toList = Text.joinPieces '/' ([] :: place.map String.toList) := by
    rw [Text.joinPieces_eq_intercalate, pathOf, String.toList_append, String.toList_intercalate,
      List.intercalate_cons_of_ne_nil (by simpa using nonempty)]
    rfl
  rw [joined, Text.pieces_joinPieces (List.cons_ne_nil _ _)]
  intro piece member
  rcases List.mem_cons.mp member with rfl | listed
  · exact List.not_mem_nil
  · rcases List.mem_map.mp listed with ⟨name, isName, rfl⟩
    exact (named name isName).whole

theorem not_mem_pathOf (named : ∀ name ∈ place, IsName name) (nonempty : place ≠ []) :
    '\x00' ∉ (pathOf place).toList := by
  intro member
  have notSlash : '\x00' ≠ '/' := by decide
  rcases Text.exists_piece notSlash member with ⟨piece, isPiece, inPiece⟩
  rw [pieces_pathOf named nonempty] at isPiece
  rcases List.mem_cons.mp isPiece with rfl | listed
  · cases inPiece
  · rcases List.mem_map.mp listed with ⟨name, isName, rfl⟩
    exact (named name isName).legal inPiece

theorem isAbsolute_pathOf (place : List String) : Path.isAbsolute (pathOf place) = true := by
  simp [Path.isAbsolute, Text.startsWith, pathOf]

theorem find_pathOf (named : ∀ name ∈ place, IsName name) (nonempty : place ≠ [])
    (short : (pathOf place).utf8ByteSize ≤ longestPath)
    (through : ∀ before, before <+: place → before ≠ place → tree.node? before = some .directory)
    (found : (tree.node? place).isSome) :
    tree.find (pathOf place) = .ok place := by
  have notEmpty : (pathOf place).isEmpty = false := by
    simp [pathOf]
  have legal : (pathOf place).toList.contains '\x00' = false := by
    simpa using not_mem_pathOf named nonempty
  have names : (Text.pieces '/' (pathOf place).toList).map String.ofList = "" :: place := by
    simp [pieces_pathOf named nonempty]
  rw [find, notEmpty, legal, names, isAbsolute_pathOf, if_neg Bool.false_ne_true, if_neg Bool.false_ne_true,
    if_neg (Nat.not_lt.mpr short), if_pos rfl]
  -- The empty name in front of the first slash leads nowhere.
  rw [walk, if_neg (by simp [node?]), if_pos (by simp)]
  exact walk_names named through found

/-- A place that a path can name and that nothing but directories can lead to. -/
structure Admits (tree : FileTree) (place : List String) : Prop where
  nonempty : place ≠ []
  named : ∀ name ∈ place, IsName name
  short : (pathOf place).utf8ByteSize ≤ longestPath
  through : ∀ before, before <+: place → before ≠ place → (tree.node? before).getD .directory = .directory

theorem find_add (admits : tree.Admits place) (node : FileNode) :
    (tree.add place node).find (pathOf place) = .ok place := by
  refine find_pathOf admits.named admits.nonempty admits.short (fun before isPrefix different => ?_) ?_
  · rw [node?_add admits.nonempty, if_neg different, if_pos isPrefix, admits.through before isPrefix different]
  · rw [node?_add admits.nonempty, if_pos rfl]
    rfl

theorem read_add (admits : tree.Admits place) (bytes : ByteArray) :
    (tree.add place (.file bytes)).read (pathOf place) = .ok bytes := by
  have here : (tree.add place (.file bytes)).node? place = some (.file bytes) := by
    rw [node?_add admits.nonempty, if_pos rfl]
  simp only [read, find_add admits, bind, Except.bind, here]
  rfl

end FileTree

/-- Credentials are those of the document that was put where the settings say. -/
theorem Pool.loadFile_add {tree : FileTree} {place : List String} (admits : tree.Admits place)
    (document : ByteArray) (base : Option String) :
    (Id.run (Pool.loadFile (tree.add place (.file document)).fileSystem (FileTree.pathOf place) base)).value =
      (Pool.load document).value := by
  have found : Id.run ((tree.add place (.file document)).fileSystem.pathExists (FileTree.pathOf place)) = true := by
    simp only [FileTree.fileSystem, FileTree.find_add admits, Except.isOk]
    rfl
  have contents : Id.run ((tree.add place (.file document)).fileSystem.read (FileTree.pathOf place)) =
      .ok document :=
    FileTree.read_add admits document
  simp only [loadFile, FileSystem.locate, FileTree.isAbsolute_pathOf, if_true, Id.run_bind, Id.run_pure, found,
    readFile, contents, Reported.value_bind]

end BearerProxy
