import Astrogation.Storage.Documents

/-!
# What is saved can be loaded

In a tree of files (`Files.IsTree`) what is above a directory is a directory. Writing, moving and
removing files leave the directories alone (`Files.SameDirectories`), so paths lead where they
did before. Hence a configuration that has been saved is found in its file
(`Config.read_of_save`).
-/

namespace Astrogation

namespace Files

variable {f f' : Files} {p source target : Path} {text : String} {node : FileNode}
  {directory place other : List String} {names : List String}

/-! ## Nodes -/

theorem lookup_filter {α β : Type} [BEq α] [LawfulBEq α] (keep : α → Bool) (key : α)
    (nodes : List (α × β)) :
    (nodes.filter fun n => keep n.1).lookup key = if keep key then nodes.lookup key else none := by
  induction nodes with
  | nil => exact (ite_self _).symm
  | cons n nodes ih =>
    obtain ⟨k, value⟩ := n
    by_cases same : key = k
    · subst same
      cases kept : keep key with
      | true => rw [List.filter_cons_of_pos (by exact kept), List.lookup_cons_self, if_pos rfl,
          List.lookup_cons_self]
      | false => rw [List.filter_cons_of_neg (by simp [kept]), ih, kept]; rfl
    · have other : (key == k) = false := beq_false_of_ne same
      have skipped : ((k, value) :: nodes).lookup key = nodes.lookup key := by
        rw [List.lookup_cons, other]
      rw [skipped, ← ih]
      cases kept : keep k with
      | true =>
        rw [List.filter_cons_of_pos (by exact kept), List.lookup_cons, other]
      | false => rw [List.filter_cons_of_neg (by simp [kept])]

@[simp]
theorem node?_nil (f : Files) : f.node? [] = some .directory := rfl

/-- Something below a place is gone with it. -/
theorem node?_without (nonempty : other ≠ []) :
    (f.without place).node? other = if place <+: other then none else f.node? other := by
  have some_name : other.isEmpty = false := List.isEmpty_eq_false_iff.2 nonempty
  have found : (f.without place).nodes.lookup other =
      if !place.isPrefixOf other then f.nodes.lookup other else none :=
    lookup_filter (fun other => !place.isPrefixOf other) other f.nodes
  rw [node?, node?, some_name, if_neg Bool.false_ne_true, if_neg Bool.false_ne_true, found]
  by_cases below : place <+: other
  · rw [if_pos below, List.isPrefixOf_iff_prefix.2 below]
    rfl
  · rw [if_neg below, Bool.eq_false_iff.2 fun h => below (List.isPrefixOf_iff_prefix.1 h)]
    rfl

theorem node?_withNode_self (nonempty : place ≠ []) :
    (f.withNode place node).node? place = some node := by
  rw [node?, List.isEmpty_eq_false_iff.2 nonempty, if_neg Bool.false_ne_true, withNode]
  simp

theorem node?_withNode_of_ne (nonempty : other ≠ []) (away : other ≠ place) :
    (f.withNode place node).node? other = (f.without place).node? other := by
  rw [node?, node?, List.isEmpty_eq_false_iff.2 nonempty, if_neg Bool.false_ne_true,
    if_neg Bool.false_ne_true, withNode, List.lookup_cons, beq_false_of_ne away]

/-! ## Directories -/

/-- A tree of files: what is above a directory is a directory, and one is in a directory. -/
structure IsTree (f : Files) : Prop where
  home : f.node? f.home = some .directory
  above : ∀ place below, place <+: below → f.node? below = some .directory →
    f.node? place = some .directory

/-- The same directories, whatever the files. -/
structure SameDirectories (f f' : Files) : Prop where
  home : f'.home = f.home
  directories : ∀ place, f'.node? place = some .directory ↔ f.node? place = some .directory

theorem SameDirectories.isTree (h : SameDirectories f f') (tree : f.IsTree) : f'.IsTree where
  home := by
    rw [h.home, h.directories]
    exact tree.home
  above place below above here :=
    (h.directories place).2 (tree.above place below above ((h.directories below).1 here))

theorem SameDirectories.trans {f'' : Files} (h : SameDirectories f f')
    (h' : SameDirectories f' f'') : SameDirectories f f'' where
  home := h'.home.trans h.home
  directories place := (h'.directories place).trans (h.directories place)

/-- Paths lead through the directories. -/
theorem SameDirectories.follow? (h : SameDirectories f f') (directory names : List String) :
    f'.follow? directory names = f.follow? directory names := by
  induction names generalizing directory with
  | nil => rfl
  | cons name rest ih =>
    have same : (f'.node? (directory ++ [name]) == some .directory) =
        (f.node? (directory ++ [name]) == some .directory) := by
      rw [Bool.eq_iff_iff, beq_iff_eq, beq_iff_eq, h.directories]
    rw [Files.follow?, Files.follow?, ih, ih, same]

theorem SameDirectories.place? (h : SameDirectories f f') (p : Path) :
    f'.place? p = f.place? p := by
  rw [Files.place?, Files.place?, origin, origin, h.home, h.follow?]

/-- What is no directory has no directories below, so it can be removed without them. -/
theorem IsTree.without (tree : f.IsTree) (file : f.node? place ≠ some .directory) :
    SameDirectories f (f.without place) where
  home := rfl
  directories other := by
    by_cases root : other = []
    · subst root
      exact Iff.rfl
    · rw [node?_without root]
      split
      · next below => exact ⟨fun h => (nomatch h), fun h => absurd (tree.above _ _ below h) file⟩
      · exact Iff.rfl

theorem IsTree.withFile (tree : f.IsTree) (file : f.node? place ≠ some .directory)
    (text : String) : SameDirectories f (f.withNode place (.file text)) where
  home := rfl
  directories other := by
    by_cases root : other = []
    · subst root
      exact Iff.rfl
    · by_cases here : other = place
      · subst here
        rw [node?_withNode_self root]
        exact ⟨fun h => (nomatch h), fun h => absurd h file⟩
      · rw [node?_withNode_of_ne root here]
        exact (tree.without file).directories other

theorem IsTree.withDirectory (tree : f.IsTree) (above : f.node? place.dropLast = some .directory)
    (absent : f.node? place = none) : (f.withNode place .directory).IsTree := by
  have nonempty : place ≠ [] := fun root => by rw [root] at absent; cases absent
  have file : f.node? place ≠ some .directory := fun h => by rw [absent] at h; cases h
  have directories : ∀ other, (f.withNode place .directory).node? other = some .directory ↔
      other = place ∨ f.node? other = some .directory := by
    intro other
    by_cases here : other = place
    · subst here
      rw [node?_withNode_self nonempty]
      exact ⟨fun _ => .inl rfl, fun _ => rfl⟩
    · rw [or_iff_right here]
      by_cases root : other = []
      · subst root
        exact Iff.rfl
      · rw [node?_withNode_of_ne root here]
        exact (tree.without file).directories other
  refine ⟨(directories _).2 (.inr tree.home), fun upper lower prefixed here => (directories _).2 ?_⟩
  rcases (directories _).1 here with rfl | here
  · -- Above the new directory is its parent, or what is above that.
    rw [← List.dropLast_concat_getLast nonempty, List.prefix_concat_iff,
      List.dropLast_concat_getLast nonempty] at prefixed
    exact prefixed.imp_right fun h => tree.above _ _ h above
  · exact .inr (tree.above _ _ prefixed here)

theorem IsTree.parent (tree : f.IsTree) (h : f.node? place = some .directory) :
    f.node? place.dropLast = some .directory :=
  tree.above _ _ (List.dropLast_prefix place) h

/-- A path leads to something in a directory. -/
theorem IsTree.follow? (tree : f.IsTree) (here : f.node? directory = some .directory)
    (h : f.follow? directory names = some place) : f.node? place.dropLast = some .directory := by
  induction names generalizing directory with
  | nil => exact Option.some.inj h ▸ tree.parent here
  | cons name rest ih =>
    rw [Files.follow?] at h
    split at h
    · exact ih (tree.parent here) h
    · split at h
      · obtain rfl := Option.some.inj h
        rw [List.dropLast_concat]
        exact here
      · split at h
        · next found => exact ih (eq_of_beq found) h
        · cases h

theorem IsTree.place? (tree : f.IsTree) (h : f.place? p = some place) :
    f.node? place.dropLast = some .directory := by
  refine tree.follow? ?_ h
  rw [origin]
  split
  · rfl
  · exact tree.home

theorem IsTree.makeDirectoriesFrom (tree : f.IsTree) (here : f.node? directory = some .directory)
    (h : f.makeDirectoriesFrom directory names = .ok f') : f'.IsTree := by
  induction names generalizing f directory with
  | nil => exact Except.ok.inj h ▸ tree
  | cons name rest ih =>
    rw [Files.makeDirectoriesFrom] at h
    split at h
    · exact ih tree (tree.parent here) h
    · dsimp only at h
      split at h
      · cases h
      · next found => exact ih tree found h
      · next absent =>
        have made := tree.withDirectory (by rwa [List.dropLast_concat]) absent
        exact ih made (node?_withNode_self (by simp)) h

theorem IsTree.makeDirectories (tree : f.IsTree) (h : f.makeDirectories p = .ok f') :
    f'.IsTree := by
  refine tree.makeDirectoriesFrom ?_ h
  rw [origin]
  split
  · rfl
  · exact tree.home

/-! ## Files -/

/-- A path leads to a file with this text. -/
theorem lookup?_eq_file_iff : f.lookup? p = some (.file text) ↔
    ∃ place, f.place? p = some place ∧ f.node? place = some (.file text) ∧
      p.isDirectory = false := by
  rw [lookup?.eq_def]
  cases hplace : f.place? p with
  | none => exact ⟨fun h => (nomatch h), fun ⟨_, h, _⟩ => (nomatch h)⟩
  | some place =>
    simp only [Option.bind_some, Option.some.injEq, exists_eq_left']
    cases f.node? place with
    | none => exact ⟨fun h => (nomatch h), fun h => (nomatch h.1)⟩
    | some node =>
      cases node with
      | directory => exact ⟨fun h => (nomatch h), fun h => (nomatch h.1)⟩
      | file text' =>
        cases p.isDirectory with
        | true => exact ⟨fun h => (nomatch h), fun h => (nomatch h.2)⟩
        | false => exact ⟨fun h => ⟨h, rfl⟩, fun h => h.1⟩

theorem read_eq_ok_iff : f.read p = .ok text ↔ f.lookup? p = some (.file text) := by
  rw [read]
  split
  · next found => rw [found, Except.ok.injEq, Option.some.injEq, FileNode.file.injEq]
  · next other => exact ⟨fun h => (nomatch h), fun h => absurd h (other text)⟩

theorem write_eq_ok_iff : f.write p text = .ok f' ↔
    ∃ place, f.place? p = some place ∧ p.isDirectory = false ∧
      f.node? place ≠ some .directory ∧ f' = f.withNode place (.file text) := by
  rw [write]
  cases f.place? p with
  | none => exact ⟨fun h => (nomatch h), fun ⟨_, h, _⟩ => (nomatch h)⟩
  | some place =>
    dsimp only
    split
    · next refused =>
      refine ⟨fun h => (nomatch h), ?_⟩
      rintro ⟨_, ⟨⟩, file, absent, -⟩
      rw [file, Bool.false_or, beq_iff_eq] at refused
      exact absurd refused absent
    · next free =>
      simp only [Bool.or_eq_true, beq_iff_eq, not_or, Bool.not_eq_true] at free
      constructor
      · rintro ⟨⟩
        exact ⟨place, rfl, free.1, free.2, rfl⟩
      · rintro ⟨_, ⟨⟩, -, -, rfl⟩
        rfl

/-- A file which has been written is a file at the place where the path leads. -/
theorem IsTree.write (tree : f.IsTree) (h : f.write p text = .ok f') :
    SameDirectories f f' ∧ f'.lookup? p = some (.file text) := by
  obtain ⟨place, hplace, file, absent, rfl⟩ := write_eq_ok_iff.1 h
  have same := tree.withFile absent text
  refine ⟨same, lookup?_eq_file_iff.2 ⟨place, (same.place? p).trans hplace, ?_, file⟩⟩
  refine node?_withNode_self ?_
  rintro rfl
  exact absent rfl

theorem move_of_read (found : f.read source = .ok text) :
    f.move source target = (f.write target text).bind fun moved =>
      match f.place? source, f.place? target with
      | some old, some new => .ok (if old == new then moved else moved.without old)
      | _, _ => .error .file := by
  rw [Files.move, found]
  rfl

/-- A file which has been moved is where it was moved to. -/
theorem IsTree.move (tree : f.IsTree) (found : f.lookup? source = some (.file text))
    (h : f.move source target = .ok f') :
    SameDirectories f f' ∧ f'.lookup? target = some (.file text) := by
  obtain ⟨old, hold, hfile, -⟩ := lookup?_eq_file_iff.1 found
  rw [move_of_read (read_eq_ok_iff.2 found)] at h
  cases hmoved : f.write target text with
  | error reason =>
    rw [hmoved] at h
    cases h
  | ok moved =>
    obtain ⟨new, hnew, file, -, -⟩ := write_eq_ok_iff.1 hmoved
    obtain ⟨same, there⟩ := tree.write hmoved
    rw [hmoved, hold, hnew] at h
    obtain rfl := Except.ok.inj h
    split
    · exact ⟨same, there⟩
    · next apart =>
      have fileThere : f.node? old ≠ some .directory := fun h => by rw [hfile] at h; cases h
      have removed := (same.isTree tree).without fun h => fileThere ((same.directories old).1 h)
      have whole := same.trans removed
      obtain ⟨place, hplace, hnode, -⟩ := lookup?_eq_file_iff.1 there
      obtain rfl : place = new :=
        Option.some.inj (hplace.symm.trans ((same.place? target).trans hnew))
      refine ⟨whole, lookup?_eq_file_iff.2 ⟨place, (whole.place? target).trans hnew, ?_, file⟩⟩
      have nonempty : place ≠ [] := by
        rintro rfl
        cases hnode
      -- The place is in a directory, so it is not below the file which is removed.
      have away : ¬old <+: place := by
        intro below
        rw [← List.dropLast_concat_getLast nonempty, List.prefix_concat_iff,
          List.dropLast_concat_getLast nonempty] at below
        rcases below with same | below
        · exact apart (beq_iff_eq.2 same)
        · exact fileThere (tree.above _ _ below (tree.place? hnew))
      rw [node?_without nonempty, if_neg away]
      exact hnode

end Files

namespace Config

/-- A configuration which has been saved is what is found in its file. -/
theorem read_of_save {p : Path} {c : Config} {f f' : Files} (tree : f.IsTree)
    (h : save p c f = (.ok (), f')) :
    f'.IsTree ∧ f'.lookup? p = some (.file c.text) := by
  rw [save] at h
  split at h
  · cases h
  · next made hmade =>
    have tree := tree.makeDirectories hmade
    split at h
    · cases h
    · next drafted hdrafted =>
      obtain ⟨same, found⟩ := tree.write hdrafted
      split at h
      · cases h
      · next moved hmoved =>
        cases h
        obtain ⟨same', found'⟩ := (same.isTree tree).move found hmoved
        exact ⟨same'.isTree (same.isTree tree), found'⟩

end Config

end Astrogation
