import Mathlib.Data.List.Basic
import Varlink.Proofs.Outcome
import Varlink.Run
import Varlink.World.Folder

/-!
# What a tree shows along its paths

A tree is told by what its names lead to. This is its view: for every list of names the file, socket
or directory that is there, where directories are shown without their entries, since these have names
of their own. Following a path depends on the view alone, and a tree that shows all that another one
shows, and directories where that one has them, leads every path to the same place.

Putting something without entries into a directory, where nothing or a file was before, changes the
view at this one place.
-/

namespace Varlink

namespace Node

variable {root root' new : Node} {place names : List String} {name : String}

/-- The node without its entries. -/
def shell : Node → Node
  | directory _ => directory []
  | other => other

/-- What the names lead to, without its entries. -/
def view (root : Node) (names : List String) : Option Node :=
  (root.follow? names).map shell

theorem lookup_cons_eq_if (name other : String) (node : Node) (entries : List (String × Node)) :
    ((name, node) :: entries).lookup other =
      if other = name then some node else entries.lookup other := by
  rw [List.lookup_cons]
  by_cases same : other = name
  · rw [if_pos same, beq_iff_eq.mpr same]
  · rw [if_neg same, beq_eq_false_iff_ne.mpr same]

theorem lookup_setEntry (name other : String) (node : Node) (entries : List (String × Node)) :
    (setEntry name node entries).lookup other =
      if other = name then some node else entries.lookup other := by
  induction entries with
  | nil => exact lookup_cons_eq_if name other node []
  | cons entry entries ih =>
      obtain ⟨first, old⟩ := entry
      rw [setEntry, lookup_cons_eq_if]
      by_cases isFirst : first = name
      · subst isFirst
        rw [if_pos rfl, lookup_cons_eq_if]
        split_ifs <;> rfl
      · rw [if_neg isFirst, lookup_cons_eq_if, ih]
        split_ifs with isOther isName
        · exact absurd (isOther.symm.trans isName) isFirst
        · rfl
        · rfl
        · rfl

theorem follow?_append (root : Node) (names more : List String) :
    root.follow? (names ++ more) = (root.follow? names).bind (·.follow? more) := by
  induction names generalizing root with
  | nil => rfl
  | cons name names ih =>
      rw [List.cons_append, follow?, follow?]
      cases root.entries.lookup name with
      | none => rfl
      | some child => exact ih child

theorem view_cons (root : Node) (name : String) (names : List String) :
    root.view (name :: names) = (root.entries.lookup name).bind (·.view names) := by
  rw [view, follow?]
  cases root.entries.lookup name <;> rfl

/-- Setting an entry of a directory changes what is shown under its name. -/
theorem view_setEntry (name other : String) (child : Node) (entries : List (String × Node))
    (rest : List String) : (directory (setEntry name child entries)).view (other :: rest) =
      if other = name then child.view rest else (directory entries).view (other :: rest) := by
  rw [view_cons, view_cons]
  show ((setEntry name child entries).lookup other).bind _ = _
  rw [lookup_setEntry]
  split_ifs <;> rfl

theorem view_eq_directory {names : List String} :
    root.view names = some (directory []) ↔
      ∃ entries, root.follow? names = some (directory entries) := by
  rw [view, Option.map_eq_some_iff]
  constructor
  · rintro ⟨node, found, isShell⟩
    cases node with
    | directory entries => exact ⟨entries, found⟩
    | file content => cases isShell
    | socket replies => cases isShell
  · rintro ⟨entries, found⟩
    exact ⟨_, found, rfl⟩

/-- A node without entries shows itself and nothing else. -/
theorem view_of_entries_nil (leaf : new.entries = []) :
    new.view names = if names = [] then some new.shell else none := by
  cases names with
  | nil => rfl
  | cons name names => simp [view_cons, leaf]

/-- Nothing is shown below an entry that has no entries of its own. -/
theorem view_below_leaf {next : String} {rest : List String}
    (leaf : ∀ old, root.follow? [name] = some old → old.entries = []) :
    root.view (name :: next :: rest) = none := by
  rw [view_cons]
  cases found : root.entries.lookup name with
  | none => rfl
  | some old =>
      have isLeaf : old.entries = [] := by
        apply leaf
        rw [follow?, found]
        rfl
      rw [Option.bind_some, view_of_entries_nil isLeaf, if_neg (List.cons_ne_nil _ _)]

/-- A change at one place below an entry is one at this place below the directory. -/
theorem view_setEntry_of_changed {child : Node} {entries : List (String × Node)} {shown : Option Node}
    (changed : ∀ rest, child.view rest =
      if rest = place then shown else (directory entries).view (name :: rest))
    (names : List String) : (directory (setEntry name child entries)).view names =
      if names = name :: place then shown else (directory entries).view names := by
  cases names with
  | nil => rfl
  | cons first rest =>
      rw [view_setEntry, changed]
      by_cases isName : first = name
      · subst isName
        simp
      · rw [if_neg isName, if_neg (fun same => isName (List.cons.inj same).1)]

/-- Putting a node without entries into a directory, in place of nothing or of another node without
entries, changes what is there and nothing else. -/
theorem view_put (parent : root.view place = some (directory []))
    (hole : ∀ old, root.follow? (place ++ [name]) = some old → old.entries = [])
    (leaf : new.entries = []) (names : List String) :
    (put new (place ++ [name]) root).view names =
      if names = place ++ [name] then some new.shell else root.view names := by
  induction place generalizing root names with
  | nil =>
      obtain ⟨entries, h⟩ := view_eq_directory.mp parent
      obtain rfl : root = directory entries := Option.some.inj h
      show (directory (setEntry name new entries)).view names = _
      refine view_setEntry_of_changed (fun rest => ?_) names
      rw [view_of_entries_nil leaf]
      cases rest with
      | nil => rfl
      | cons next rest =>
          rw [if_neg (List.cons_ne_nil _ _), if_neg (List.cons_ne_nil _ _)]
          exact (view_below_leaf hole).symm
  | cons first place ih =>
      rw [view_cons] at parent
      obtain ⟨child, isChild, isParent⟩ := Option.bind_eq_some_iff.mp parent
      have below : ∀ old, child.follow? (place ++ [name]) = some old → old.entries = [] := by
        intro old found
        apply hole
        rw [List.cons_append, follow?, isChild]
        exact found
      obtain ⟨entries, rfl⟩ : ∃ entries, root = directory entries := by
        cases root with
        | directory entries => exact ⟨entries, rfl⟩
        | file content => cases isChild
        | socket replies => cases isChild
      have isPut : put new (first :: place ++ [name]) (directory entries) =
          directory (setEntry first (put new (place ++ [name]) child) entries) := by
        rw [List.cons_append, put, isChild]
        rfl
      rw [isPut]
      refine view_setEntry_of_changed (fun rest => ?_) names
      rw [ih isParent below rest, view_cons, isChild, Option.bind_some, List.append_eq]

/-- One tree shows all that the other one shows, and directories where that one has them. -/
structure Keeps (root root' : Node) : Prop where
  shows : ∀ names, (root.view names).isSome → (root'.view names).isSome
  directories : ∀ names, root.view names = some (directory []) →
    root'.view names = some (directory [])

theorem Keeps.refl (root : Node) : Keeps root root := ⟨fun _ h => h, fun _ h => h⟩

theorem Keeps.trans {root'' : Node} (first : Keeps root root') (second : Keeps root' root'') :
    Keeps root root'' :=
  ⟨fun names h => second.shows names (first.shows names h),
    fun names h => second.directories names (first.directories names h)⟩

end Node

namespace Path

open Node

variable {root root' : Node} {here names more place : List String} {name : String}

theorem walk_append (root : Node) (here names more : List String) :
    walk root here (names ++ more) = walk root here names >>= fun place => walk root place more := by
  induction names generalizing here with
  | nil => rfl
  | cons name names ih =>
      rw [List.cons_append, walk, walk]
      cases root.follow? here with
      | none => rfl
      | some node =>
          cases node with
          | directory entries =>
              dsimp only
              split_ifs
              · exact ih here
              · exact ih here.dropLast
              · rfl
              · cases entries.lookup name with
                | none => rfl
                | some child => exact ih (here ++ [name])
          | file content => rfl
          | socket replies => rfl

/-- A step of a way starts at a directory, and a name that is not made of dots stands in it. -/
theorem walk_cons_eq_ok : walk root here (name :: names) = .ok place ↔
    root.view here = some (directory []) ∧
      if name = "." then walk root here names = .ok place
      else if name = ".." then walk root here.dropLast names = .ok place
      else name.utf8ByteSize ≤ maxName ∧ (root.view (here ++ [name])).isSome ∧
        walk root (here ++ [name]) names = .ok place := by
  have child (entries : List (String × Node)) (h : root.follow? here = some (directory entries)) :
      (root.view (here ++ [name])).isSome ↔ (entries.lookup name).isSome := by
    have found : (directory entries).follow? [name] = entries.lookup name := by
      rw [follow?, Node.entries]
      cases entries.lookup name <;> rfl
    rw [view, follow?_append, h, Option.bind_some, found, Option.isSome_map]
  rw [walk, view_eq_directory]
  cases isHere : root.follow? here with
  | none => simp
  | some node =>
      cases node with
      | file content => simp
      | socket replies => simp
      | directory entries =>
          have exists_entries : ∃ others, some (directory entries) = some (directory others) :=
            ⟨entries, rfl⟩
          rw [and_iff_right exists_entries]
          dsimp only
          split_ifs with dot dots long
          · rfl
          · rfl
          · simp [Nat.not_le_of_lt long]
          · rw [and_iff_right (Nat.le_of_not_lt long), child entries isHere]
            cases entries.lookup name with
            | none => simp
            | some child => simp

/-- A way that leads somewhere leads to the same place in a tree that keeps all that is there. -/
theorem walk_of_keeps (keeps : Keeps root root') (h : walk root here names = .ok place) :
    walk root' here names = .ok place := by
  induction names generalizing here with
  | nil => exact h
  | cons name names ih =>
      rw [walk_cons_eq_ok] at h ⊢
      obtain ⟨isDirectory, h⟩ := h
      refine ⟨keeps.directories _ isDirectory, ?_⟩
      split_ifs at h ⊢ with dot dots
      · exact ih h
      · exact ih h
      · exact ⟨h.1, keeps.shows _ h.2.1, ih h.2.2⟩

theorem walk_dot : walk root here (names ++ ["."]) = .ok place ↔
    walk root here names = .ok place ∧ root.view place = some (directory []) := by
  rw [walk_append, bind_eq_ok]
  constructor
  · rintro ⟨last, found, h⟩
    obtain ⟨isDirectory, h⟩ := walk_cons_eq_ok.mp h
    rw [if_pos rfl] at h
    obtain rfl : last = place := Except.ok.inj h
    exact ⟨found, isDirectory⟩
  · rintro ⟨found, isDirectory⟩
    refine ⟨place, found, walk_cons_eq_ok.mpr ⟨isDirectory, ?_⟩⟩
    rw [if_pos rfl]
    rfl

/-- What is at a path is at the place that its names lead to. -/
theorem find_eq_ok {path : String} {node : Node} : find root here path = .ok node ↔
    ∃ first place, start here path = .ok first ∧
      walk root first (namesOfTarget path) = .ok place ∧ root.follow? place = some node := by
  unfold find
  rw [bind_eq_ok]
  constructor
  · rintro ⟨first, begins, h⟩
    obtain ⟨place, reached, h⟩ := bind_eq_ok.mp h
    refine ⟨first, place, begins, reached, ?_⟩
    cases there : root.follow? place with
    | none =>
        rw [there] at h
        cases h
    | some other =>
        rw [there] at h
        obtain rfl : other = node := Except.ok.inj h
        rfl
  · rintro ⟨first, place, begins, reached, there⟩
    refine ⟨first, begins, bind_eq_ok.mpr ⟨place, reached, ?_⟩⟩
    rw [there]
    rfl

/-- The path leads to a directory, at this place. -/
def Leads (root : Node) (here : List String) (path : String) (place : List String) : Prop :=
  ∃ first, start here path = .ok first ∧ walk root first (Path.names path ++ ["."]) = .ok place

theorem Leads.view {path : String} (leads : Leads root here path place) :
    root.view place = some (directory []) := by
  obtain ⟨_, _, h⟩ := leads
  exact (walk_dot.mp h).2

theorem Leads.of_keeps {path : String} (leads : Leads root here path place)
    (keeps : Keeps root root') : Leads root' here path place := by
  obtain ⟨first, begins, h⟩ := leads
  exact ⟨first, begins, walk_of_keeps keeps h⟩

theorem Leads.unique {path : String} {other : List String} (leads : Leads root here path place)
    (leads' : Leads root here path other) : place = other := by
  obtain ⟨first, begins, h⟩ := leads
  obtain ⟨first', begins', h'⟩ := leads'
  obtain rfl := Except.ok.inj (begins.symm.trans begins')
  exact Except.ok.inj (h.symm.trans h')

/-- A name seen from the path stands in a directory at this place. From the empty path, which leads
nowhere by itself, names are seen as from the working directory. -/
def SeenFrom (root : Node) (here : List String) (path : String) (place : List String) : Prop :=
  Leads root here (if path = "" then "." else path) place

theorem names_append (before after : String) :
    Path.names (before ++ "/" ++ after) = Path.names before ++ Path.names after := by
  have cut : (before ++ "/" ++ after).toList = before.toList ++ '/' :: after.toList := by
    simp
  rw [Path.names, cut, List.splitOn_append_cons_self, List.map_append, List.filter_append]
  rfl

theorem names_of_noSlash {name : String} (nonempty : name ≠ "") (noSlash : '/' ∉ name.toList) :
    Path.names name = [name] := by
  rw [Path.names, List.splitOn_eq_singleton noSlash]
  simp [nonempty]

theorem endsWith_slash_iff (path : String) :
    path.endsWith "/" = true ↔ ∃ base, path = base ++ "/" := by
  rw [← String.endsWith_toSlice, String.Slice.endsWith_string_iff, String.copy_toSlice]
  constructor
  · rintro ⟨base, covered⟩
    refine ⟨String.ofList base, ?_⟩
    rw [← String.toList_inj, ← covered]
    simp
  · rintro ⟨base, rfl⟩
    exact ⟨base.toList, by simp⟩

theorem isAbsolute_iff (path : String) :
    isAbsolute path = true ↔ path.toList.head? = some '/' := by
  rw [isAbsolute, String.startsWith_string_iff]
  show ['/'] <+: path.toList ↔ _
  cases path.toList with
  | nil => simp
  | cons c rest => simp [eq_comm]

theorem not_startsWith_slash {name : String} (noSlash : '/' ∉ name.toList) :
    ¬ name.startsWith "/" = true := by
  rw [String.startsWith_string_iff]
  intro within
  exact noSlash (within.subset (List.mem_singleton_self _))

/-- A name is set off from the directory by one slash, which may be the directory's own. -/
theorem exists_joinPath {directory name : String} (isPath : directory ≠ "")
    (noSlash : '/' ∉ name.toList) :
    ∃ base, (directory = base ∨ directory = base ++ "/") ∧
      Run.joinPath directory name = base ++ "/" ++ name := by
  rw [Run.joinPath, if_neg (not_startsWith_slash noSlash)]
  have nonempty : directory.isEmpty = false := by simpa using isPath
  rw [nonempty, Bool.false_or]
  split_ifs with slash
  · obtain ⟨base, rfl⟩ := (endsWith_slash_iff directory).mp slash
    exact ⟨base, .inr rfl, rfl⟩
  · exact ⟨directory, .inl rfl, rfl⟩

theorem joinPath_empty {name : String} (noSlash : '/' ∉ name.toList) :
    Run.joinPath "" name = name := by
  rw [Run.joinPath, if_neg (not_startsWith_slash noSlash), if_pos (by simp), String.empty_append]

/-- A name seen from a directory is the last name of its path. -/
theorem names_joinPath {directory name : String} (nonempty : name ≠ "")
    (noSlash : '/' ∉ name.toList) :
    Path.names (Run.joinPath directory name) = Path.names directory ++ [name] := by
  by_cases isPath : directory = ""
  · rw [isPath, joinPath_empty noSlash, names_of_noSlash nonempty noSlash]
    rfl
  obtain ⟨base, isBase, joined⟩ := exists_joinPath isPath noSlash
  rw [joined, names_append, names_of_noSlash nonempty noSlash]
  obtain rfl | rfl := isBase
  · rfl
  · have same := names_append base ""
    rw [String.append_empty] at same
    rw [same]
    simp [Path.names]

/-- A name without a slash stands behind what depends on the directory alone. -/
theorem joinPath_eq_append (directory : String) {name : String} (noSlash : '/' ∉ name.toList) :
    Run.joinPath directory name = Run.joinPath directory "" ++ name := by
  rw [Run.joinPath, Run.joinPath, if_neg (not_startsWith_slash noSlash),
    if_neg (not_startsWith_slash (by simp))]
  split_ifs <;> simp

theorem joinPath_inj {directory first second : String} (noSlash : '/' ∉ first.toList)
    (noSlash' : '/' ∉ second.toList)
    (same : Run.joinPath directory first = Run.joinPath directory second) : first = second := by
  rw [joinPath_eq_append directory noSlash, joinPath_eq_append directory noSlash'] at same
  have sameChars := congrArg String.toList same
  simp only [String.toList_append] at sameChars
  exact String.toList_inj.mp (List.append_cancel_left sameChars)

theorem not_endsWith_joinPath {directory name : String} (nonempty : name ≠ "")
    (noSlash : '/' ∉ name.toList) : ¬ (Run.joinPath directory name).endsWith "/" = true := by
  intro slash
  obtain ⟨base, isBase⟩ := (endsWith_slash_iff _).mp slash
  rw [joinPath_eq_append directory noSlash] at isBase
  have lastChar := congrArg (fun path => path.toList.getLast?) isBase
  simp only [String.toList_append] at lastChar
  rw [List.getLast?_append_of_ne_nil _ (mt String.toList_eq_nil_iff.mp nonempty)] at lastChar
  exact noSlash (List.mem_of_getLast? (lastChar.trans (by simp)))

theorem start_eq_ok {path : String} {first : List String} :
    start here path = .ok first ↔ '\x00' ∉ path.toList ∧ path ≠ "" ∧
      path.utf8ByteSize ≤ maxLength ∧ first = if isAbsolute path then [] else here := by
  rw [start]
  by_cases nul : '\x00' ∈ path.toList
  · simp [nul]
  by_cases empty : path = ""
  · simp [empty]
  by_cases long : maxLength < path.utf8ByteSize
  · simp [nul, empty, long, Nat.not_le_of_lt long]
  · have begins : (Except.ok (if isAbsolute path then [] else here) : Except SystemError _) =
        .ok first ↔ first = if isAbsolute path then [] else here := by
      rw [Except.ok.injEq]
      exact eq_comm
    simp [nul, empty, long, Nat.le_of_not_lt long, begins]

/-- A path begins where its directory does. -/
theorem start_joinPath {directory name : String} (isPath : directory ≠ "")
    (noSlash : '/' ∉ name.toList) {first : List String}
    (h : start here (Run.joinPath directory name) = .ok first) :
    start here directory = .ok first := by
  obtain ⟨base, isBase, joined⟩ := exists_joinPath isPath noSlash
  rw [joined] at h
  obtain ⟨noNul, -, short, rfl⟩ := start_eq_ok.mp h
  have chars : directory.toList <+: (base ++ "/" ++ name).toList := by
    obtain rfl | rfl := isBase <;> simp
  have size : directory.utf8ByteSize ≤ (base ++ "/" ++ name).utf8ByteSize := by
    obtain rfl | rfl := isBase
    · simp only [String.utf8ByteSize_append]
      omega
    · simp only [String.utf8ByteSize_append]
      omega
  have sameHead : (base ++ "/" ++ name).toList.head? = directory.toList.head? := by
    obtain ⟨rest, covered⟩ := chars
    obtain ⟨c, text, isText⟩ := List.exists_cons_of_ne_nil (mt String.toList_eq_nil_iff.mp isPath)
    rw [← covered, isText]
    rfl
  have sameStart : isAbsolute (base ++ "/" ++ name) = isAbsolute directory := by
    rw [Bool.eq_iff_iff, isAbsolute_iff, isAbsolute_iff, sameHead]
  rw [sameStart]
  exact start_eq_ok.mpr
    ⟨fun inside => noNul (chars.subset inside), isPath, Nat.le_trans size short, rfl⟩

theorem findParent_of_concat {path : String} {before : List String}
    (isLast : Path.names path = before ++ [name]) :
    findParent root here path = (do
      let first ← start here path
      let parent ← walk root first (before ++ ["."])
      if name = "." ∨ name = ".." then pure (parent, none)
      else if maxName < name.utf8ByteSize then throw .nameTooLong
      else pure (parent, some name)) := by
  unfold findParent
  simp only [isLast, List.getLast?_concat, List.dropLast_concat, Bool.or_eq_true,
    decide_eq_true_eq]

/-- The last name of a path that something could have, and the directory it stands in. -/
theorem findParent_eq_ok {path : String} : findParent root here path = .ok (place, some name) ↔
    ∃ first before, start here path = .ok first ∧ Path.names path = before ++ [name] ∧
      walk root first (before ++ ["."]) = .ok place ∧ name ≠ "." ∧ name ≠ ".." ∧
        name.utf8ByteSize ≤ maxName := by
  obtain isEmpty | ⟨before, last, isLast⟩ := List.eq_nil_or_concat (Path.names path)
  · unfold findParent
    rw [bind_eq_ok]
    simp [isEmpty, pure, Except.pure]
  · rw [List.concat_eq_append] at isLast
    rw [findParent_of_concat isLast, bind_eq_ok]
    simp only [isLast, bind_eq_ok]
    constructor
    · rintro ⟨first, begins, parent, found, h⟩
      split_ifs at h with dots long
      · cases h
      · obtain ⟨rfl, isName⟩ := Prod.mk.inj (Except.ok.inj h)
        obtain rfl := Option.some.inj isName
        obtain ⟨dot, dots⟩ := not_or.mp dots
        exact ⟨first, before, begins, rfl, found, dot, dots, Nat.le_of_not_lt long⟩
    · rintro ⟨first, _, begins, same, found, dot, dots, short⟩
      obtain ⟨rfl, sameLast⟩ := List.append_inj' same rfl
      obtain ⟨rfl, -⟩ := List.cons.inj sameLast
      refine ⟨first, begins, place, found, ?_⟩
      rw [if_neg (not_or.mpr ⟨dot, dots⟩), if_neg (Nat.not_lt_of_le short)]
      rfl

theorem findParent_of_keeps {path : String} (keeps : Keeps root root')
    (h : findParent root here path = .ok (place, some name)) :
    findParent root' here path = .ok (place, some name) := by
  obtain ⟨first, before, begins, isLast, found, rest⟩ := findParent_eq_ok.mp h
  exact findParent_eq_ok.mpr ⟨first, before, begins, isLast, walk_of_keeps keeps found, rest⟩

/-- What is looked for under a name in a directory has this name and stands in this directory. -/
theorem seenFrom_of_findParent_joinPath {directory name other : String} (nonempty : name ≠ "")
    (noSlash : '/' ∉ name.toList)
    (h : findParent root here (Run.joinPath directory name) = .ok (place, some other)) :
    other = name ∧ SeenFrom root here directory place := by
  obtain ⟨first, before, begins, isLast, found, -⟩ := findParent_eq_ok.mp h
  rw [names_joinPath nonempty noSlash] at isLast
  obtain ⟨rfl, same⟩ := List.append_inj' isLast rfl
  refine ⟨(List.cons.inj same).1.symm, ?_⟩
  by_cases isPath : directory = ""
  · obtain rfl : first = here := by
      rw [isPath, joinPath_empty noSlash] at begins
      obtain ⟨-, -, -, isFirst⟩ := start_eq_ok.mp begins
      rwa [isAbsolute, if_neg (not_startsWith_slash noSlash)] at isFirst
    have beginsHere : start first "." = .ok first := by
      refine start_eq_ok.mpr ⟨by decide, by decide, by decide +kernel, ?_⟩
      rw [isAbsolute, if_neg (not_startsWith_slash (by decide))]
    rw [isPath] at found
    rw [SeenFrom, if_pos isPath]
    exact ⟨first, beginsHere, walk_dot.mpr ⟨found, (walk_dot.mp found).2⟩⟩
  · rw [SeenFrom, if_neg isPath]
    exact ⟨first, start_joinPath isPath noSlash begins, found⟩

/-- A directory stands in the directory that its path is found in. -/
theorem findParent_of_leads {path : String} (leads : Leads root here path place) :
    ∃ parent name?, findParent root here path = .ok (parent, name?) ∧
      ∀ name ∈ name?, parent ++ [name] = place := by
  obtain ⟨first, begins, h⟩ := leads
  obtain isEmpty | ⟨before, last, isLast⟩ := List.eq_nil_or_concat (Path.names path)
  · refine ⟨first, none, ?_, by simp⟩
    unfold findParent
    rw [begins, isEmpty]
    rfl
  · rw [List.concat_eq_append] at isLast
    rw [isLast] at h
    obtain ⟨h, -⟩ := walk_dot.mp h
    rw [walk_append, bind_eq_ok] at h
    obtain ⟨parent, found, step⟩ := h
    obtain ⟨isDirectory, step⟩ := walk_cons_eq_ok.mp step
    have inParent := walk_dot.mpr ⟨found, isDirectory⟩
    rw [findParent_of_concat isLast, begins]
    by_cases dots : last = "." ∨ last = ".."
    · refine ⟨parent, none, ?_, by simp⟩
      refine bind_eq_ok.mpr ⟨first, rfl, bind_eq_ok.mpr ⟨parent, inParent, ?_⟩⟩
      rw [if_pos dots]
      rfl
    · obtain ⟨notDot, notDots⟩ := not_or.mp dots
      rw [if_neg notDot, if_neg notDots] at step
      obtain ⟨short, -, reached⟩ := step
      refine ⟨parent, some last, ?_, ?_⟩
      · refine bind_eq_ok.mpr ⟨first, rfl, bind_eq_ok.mpr ⟨parent, inParent, ?_⟩⟩
        rw [if_neg dots, if_neg (Nat.not_lt_of_le short)]
        rfl
      · rintro _ ⟨⟩
        exact Except.ok.inj reached

end Path

end Varlink
