import VariableBridge.Files.Tree

/-!
# Making directories and writing files

Main statements: a change that keeps the directories keeps the ways; making directories keeps
every file and makes the way that it is asked for; and a file that is written is found.
-/

namespace VariableBridge.Files

namespace Tree

variable {t u : Tree} {p place goal : Place} {node : Node}

/-- What was put at a place lies there, whatever lay there before. -/
@[simp] theorem at?_put_self (t : Tree) (place : Place) (node : Node) :
    (t.put place node).at? place = some node := by
  simp [at?, put]

/-- To leave out the nodes of one place changes nothing of what is found at another one. -/
theorem lookup_filter_ne (nodes : List (Place × Node)) (h : p ≠ place) :
    (nodes.filter fun n => n.1 != place).lookup p = nodes.lookup p := by
  induction nodes with
  | nil => rfl
  | cons n nodes ih =>
    obtain ⟨q, node⟩ := n
    by_cases hq : q = place
    · subst hq
      rw [List.filter_cons_of_neg (by simp), List.lookup_cons, beq_false_of_ne h]
      exact ih
    · rw [List.filter_cons_of_pos (by simpa using hq), List.lookup_cons, List.lookup_cons, ih]

/-- What is put at one place changes nothing of what lies at another one. -/
theorem at?_put_of_ne (t : Tree) (h : p ≠ place) (node : Node) :
    (t.put place node).at? p = t.at? p := by
  unfold at? put
  rw [List.lookup_cons, beq_false_of_ne h]
  dsimp only
  rw [lookup_filter_ne t.nodes h]

/-- A place with a directory is one that a way can lead through. -/
theorem isDirectory_of_at? {mode : Nat} (h : t.at? p = some (.directory mode)) :
    t.isDirectory p = true := by
  unfold isDirectory
  rw [h]

/-- A place with a file is none that a way can lead through, since only directories are. -/
theorem not_isDirectory_of_at? {content : Option String} {mode : Nat}
    (h : t.at? p = some (.file content mode)) : t.isDirectory p = false := by
  unfold isDirectory
  rw [h]

/-- A node of the same kind keeps the directories, so every way that could be gone can still be
gone. -/
theorem isDirectory_put (h : (t.put place node).isDirectory place = t.isDirectory place)
    (p : Place) : (t.put place node).isDirectory p = t.isDirectory p := by
  by_cases hp : p = place
  · rw [hp, h]
  · unfold isDirectory
    rw [at?_put_of_ne t hp]

/-- Where there are more directories, a way still leads to its place. -/
theorem follow_mono (h : ∀ p, t.isDirectory p = true → u.isDirectory p = true)
    {parts : List String} (hfollow : t.follow place parts = some goal) :
    u.follow place parts = some goal := by
  induction parts generalizing place with
  | nil => exact hfollow
  | cons part rest ih =>
    rw [follow] at hfollow ⊢
    split at hfollow
    next hstep =>
      rw [Bool.and_eq_true] at hstep
      rw [h place hstep.1, hstep.2]
      exact ih hfollow
    next => cases hfollow

/-- A way that leads to a place leads there still if no directory was taken away. -/
theorem locate_mono (h : ∀ p, t.isDirectory p = true → u.isDirectory p = true) {path : String}
    (hlocate : t.locate path = some goal) : u.locate path = some goal := by
  unfold locate at hlocate ⊢
  split at hlocate
  next => cases hlocate
  next hpath =>
    rw [if_neg hpath]
    exact follow_mono h hlocate

/-- A file stays where it is found if directories and the file stay. -/
theorem find?_of_locate {path : String} (hlocate : t.locate path = some goal)
    (hnode : t.at? goal = some node) : t.find? path = some node := by
  unfold find?
  rw [hlocate]
  exact hnode

/-- A node is found by its path if the way leads to a place and the node lies there. -/
theorem exists_of_find? {path : String} (h : t.find? path = some node) :
    ∃ goal, t.locate path = some goal ∧ t.at? goal = some node :=
  Option.bind_eq_some_iff.mp h

/-- Making the directories of a way keeps what is there, because only missing ones are put. -/
theorem at?_makeWay {parts : List String} (h : t.at? p = some node) :
    (t.makeWay place parts).2.at? p = some node := by
  induction parts generalizing t place with
  | nil => exact h
  | cons part rest ih =>
    rw [makeWay]
    split
    · exact h
    · split
      next => exact h
      next => exact ih h
      next hnone =>
        have hne : p ≠ place.step part := by
          rintro rfl
          rw [h] at hnone
          cases hnone
        exact ih (by rw [at?_put_of_ne t hne, h])

/-- To make the directories of a way takes no directory away that was there before. -/
theorem isDirectory_makeWay (parts : List String) (h : t.isDirectory p = true) :
    (t.makeWay place parts).2.isDirectory p = true := by
  unfold isDirectory at h
  split at h
  next mode hnode => exact isDirectory_of_at? (at?_makeWay hnode)
  next => cases h

/-- A way that is complete goes on from a directory after each part. -/
theorem exists_of_makeWay_cons {part : String} {rest : List String}
    (hcomplete : (t.makeWay place (part :: rest)).1 = true) :
    ∃ made : Tree, t.makeWay place (part :: rest) = made.makeWay (place.step part) rest ∧
      made.isDirectory (place.step part) = true ∧ part.utf8ByteSize ≤ nameLimit := by
  rw [makeWay] at hcomplete ⊢
  split at hcomplete
  next => cases hcomplete
  next hlong =>
    rw [if_neg hlong]
    split at hcomplete
    next => cases hcomplete
    next mode hnode => exact ⟨t, rfl, isDirectory_of_at? hnode, Nat.le_of_not_lt hlong⟩
    next => exact ⟨_, rfl, isDirectory_of_at? (at?_put_self t _ _), Nat.le_of_not_lt hlong⟩

/-- The way that was made leads to a directory, if it begins in one. -/
theorem follow_makeWay {parts : List String} (hcomplete : (t.makeWay place parts).1 = true)
    (hstart : (t.makeWay place parts).2.isDirectory place = true) :
    ∃ goal, (t.makeWay place parts).2.follow place parts = some goal ∧
      (t.makeWay place parts).2.isDirectory goal = true := by
  induction parts generalizing t place with
  | nil => exact ⟨place, rfl, hstart⟩
  | cons part rest ih =>
    obtain ⟨made, hmake, hstep, hlimit⟩ := exists_of_makeWay_cons hcomplete
    rw [hmake] at hcomplete hstart ⊢
    obtain ⟨goal, hfollow, hgoal⟩ := ih hcomplete (isDirectory_makeWay rest hstep)
    refine ⟨goal, ?_, hgoal⟩
    rw [follow, hstart, decide_eq_true hlimit]
    exact hfollow

end Tree

/-- A path that is not empty has parts, so it leads to some place. -/
theorem Route.parts_ne_nil {path : String} (h : path ≠ "") : (Route.ofPath path).parts ≠ [] := by
  unfold Route.ofPath
  rw [if_neg h]
  simpa [Text.splitAt] using Text.piecesOf_ne_nil (· == '/') path.toList

/-- A way begins in a directory, if it leads anywhere: in the root or in the working directory. -/
theorem Tree.isDirectory_start {t : Tree} {path : String} {goal : Place}
    (h : t.locate path = some goal) : t.isDirectory (Route.ofPath path).start = true := by
  unfold Tree.locate at h
  split at h
  next => cases h
  next hpath =>
    obtain ⟨part, rest, hparts⟩ :=
      List.exists_cons_of_ne_nil (Route.parts_ne_nil fun hempty => hpath (.inl hempty))
    rw [hparts, Tree.follow] at h
    split at h
    next hstep => exact (Bool.and_eq_true _ _ ▸ hstep).1
    next => cases h

/-- The first of several pieces is empty if the text begins with a separator; else it begins
like the text. -/
theorem head_of_piecesOf {separates : Char → Bool} {cs piece : List Char}
    {rest : List (List Char)} (h : Text.piecesOf separates cs = piece :: rest)
    (hrest : rest ≠ []) :
    ∃ c, cs.head? = some c ∧
      (piece = [] ∧ separates c = true ∨ piece.head? = some c ∧ separates c = false) := by
  cases cs with
  | nil => exact absurd (List.cons.inj h).2.symm hrest
  | cons c cs =>
    refine ⟨c, rfl, ?_⟩
    rw [Text.piecesOf_cons] at h
    unfold Text.extendPieces at h
    split at h
    next hc => exact .inl ⟨(List.cons.inj h).1.symm, hc⟩
    next hc =>
      refine .inr ⟨?_, by simpa using hc⟩
      split at h
      · rw [← (List.cons.inj h).1]
        rfl
      · rw [← (List.cons.inj h).1]
        rfl

/-- Does a path begin with this piece, or with a slash if the piece is empty? -/
def BeginsWith (first path : String) : Prop :=
  first = "" ∧ path.toList.head? = some '/' ∨
    first ≠ "" ∧ path.toList.head? = first.toList.head?

/-- Paths that begin with the same piece begin with the same character, so that both are absolute or
neither is. -/
theorem BeginsWith.head_eq {first path path' : String} (h : BeginsWith first path)
    (h' : BeginsWith first path') : path.toList.head? = path'.toList.head? := by
  rcases h with ⟨hempty, h⟩ | ⟨hne, h⟩
  · rcases h' with ⟨_, h'⟩ | ⟨hne, _⟩
    · rw [h, h']
    · exact absurd hempty hne
  · rcases h' with ⟨hempty, _⟩ | ⟨_, h'⟩
    · exact absurd hempty hne
    · rw [h, h']

/-- A path of several pieces begins with the first of them, or with a slash if that one is empty. -/
theorem beginsWith_of_splitAt {path first : String} {rest : List String}
    (h : Text.splitAt '/' path = first :: rest) (hrest : rest ≠ []) : BeginsWith first path := by
  obtain ⟨piece, pieces, hpieces, rfl, hmap⟩ := List.map_eq_cons_iff.mp h
  have hmore : pieces ≠ [] := by
    rintro rfl
    exact hrest hmap.symm
  obtain ⟨c, hc, ⟨rfl, hslash⟩ | ⟨hhead, _⟩⟩ := head_of_piecesOf hpieces hmore
  · obtain rfl : c = '/' := beq_iff_eq.mp hslash
    exact .inl ⟨rfl, hc⟩
  · refine .inr ⟨?_, ?_⟩
    · intro hempty
      rw [String.ofList_eq_empty_iff.mp hempty] at hhead
      cases hhead
    · rw [String.toList_ofList, hc, hhead]

/-- Pieces that are joined by slashes begin with the first of them, or with a slash if that one is
empty. -/
theorem beginsWith_intercalate {first : String} {kept : List String}
    (h : first = "" → kept ≠ []) : BeginsWith first ("/".intercalate (first :: kept)) := by
  unfold BeginsWith
  rw [String.toList_intercalate, List.map_cons]
  by_cases hfirst : first = ""
  · obtain ⟨next, more, rfl⟩ := List.exists_cons_of_ne_nil (h hfirst)
    refine .inl ⟨hfirst, ?_⟩
    rw [hfirst, List.map_cons, List.intercalate_cons_cons]
    rfl
  · refine .inr ⟨hfirst, ?_⟩
    have hne : first.toList ≠ [] := by simpa using hfirst
    obtain ⟨c, cs, hcs⟩ := List.exists_cons_of_ne_nil hne
    cases kept with
    | nil => rw [List.map_nil, List.intercalate_singleton]
    | cons next more =>
      rw [List.map_cons, List.intercalate_cons_cons, hcs]
      rfl

/-- The directory of a path begins like the path, if it is named at all. -/
theorem head_of_parentPath {path directory : String} (h : parentPath? path = some directory)
    (hne : directory ≠ "") : directory.toList.head? = path.toList.head? := by
  unfold parentPath? at h
  split at h
  next => cases h
  next first rest hsplit =>
    dsimp only at h
    split at h
    next =>
      split at h
      next => cases h
      next => exact absurd (Option.some.inj h).symm hne
    next hnames =>
      have hrest : rest ≠ [] := by
        rintro rfl
        exact hnames rfl
      have hpath := beginsWith_of_splitAt hsplit hrest
      split at h
      next =>
        obtain rfl := Option.some.inj h
        exact BeginsWith.head_eq (.inl ⟨rfl, rfl⟩) hpath
      next hother =>
        obtain rfl := Option.some.inj h
        exact (beginsWith_intercalate hother).head_eq hpath

/-- The way to the directory of a path begins where the way of the path begins. -/
theorem start_of_parentPath {path directory : String} (h : parentPath? path = some directory)
    (hne : directory ≠ "") : (Route.ofPath directory).start = (Route.ofPath path).start := by
  unfold Route.start Route.ofPath
  rw [head_of_parentPath h hne]

namespace Tree

variable {t : Tree} {path directory : String} {place goal : Place}

/-- The directories of a path that could be made are there, if the way begins in one. -/
theorem exists_locate_makeDirectories (hcomplete : (t.makeDirectories directory).1 = true)
    (hne : directory ≠ "")
    (hstart : (t.makeDirectories directory).2.isDirectory (Route.ofPath directory).start = true) :
    ∃ place, (t.makeDirectories directory).2.locate directory = some place ∧
      (t.makeDirectories directory).2.isDirectory place = true := by
  unfold makeDirectories at hcomplete hstart ⊢
  split at hcomplete
  next => cases hcomplete
  next hlimit =>
    rw [if_neg hlimit] at hstart ⊢
    obtain ⟨place, hfollow, hplace⟩ := follow_makeWay hcomplete hstart
    refine ⟨place, ?_, hplace⟩
    unfold locate
    rw [if_neg fun h => h.elim hne hlimit]
    exact hfollow

/-- After all directories of a path were made, the path itself leads to a directory. -/
theorem isDirectory_of_makeDirectories (hcomplete : (t.makeDirectories directory).1 = true)
    (hplace : (t.makeDirectories directory).2.locate directory = some place) :
    (t.makeDirectories directory).2.isDirectory place = true := by
  have hne : directory ≠ "" := by
    rintro rfl
    cases hplace
  obtain ⟨place', hplace', hdirectory⟩ :=
    exists_locate_makeDirectories hcomplete hne (isDirectory_start hplace)
  rw [hplace] at hplace'
  rw [Option.some.inj hplace']
  exact hdirectory

/-- Making the directories of a path keeps what is there, also if a file is in the way. -/
theorem at?_makeDirectories {node : Node} (h : t.at? place = some node) :
    (t.makeDirectories directory).2.at? place = some node := by
  unfold makeDirectories
  split
  · exact h
  · exact at?_makeWay h

/-- Making directories keeps every file where it is found, with its content and mode. -/
theorem find?_makeDirectories (directory : String) {content : Option String} {mode : Nat}
    (h : t.find? path = some (.file content mode)) :
    (t.makeDirectories directory).2.find? path = some (.file content mode) := by
  obtain ⟨goal, hlocate, hnode⟩ := exists_of_find? h
  refine find?_of_locate (locate_mono (fun p hp => ?_) hlocate) (at?_makeDirectories hnode)
  unfold makeDirectories
  split
  · exact hp
  · exact isDirectory_makeWay _ hp

/-- A new mode of a directory keeps the ways: modes do not decide where a path leads. -/
theorem locate_put_directory (hplace : t.isDirectory place = true) (mode : Nat)
    (h : t.locate path = some goal) :
    (t.put place (.directory mode)).locate path = some goal := by
  have hsame : (t.put place (.directory mode)).isDirectory place = t.isDirectory place := by
    rw [hplace]
    exact isDirectory_of_at? (at?_put_self t place _)
  refine locate_mono (fun p hp => ?_) h
  rw [isDirectory_put hsame, hp]

/-- A new mode of a directory keeps every file where it is found. -/
theorem find?_put_directory (hplace : t.isDirectory place = true) (dirMode : Nat)
    {content : Option String} {mode : Nat} (h : t.find? path = some (.file content mode)) :
    (t.put place (.directory dirMode)).find? path = some (.file content mode) := by
  obtain ⟨goal, hlocate, hnode⟩ := exists_of_find? h
  have hne : goal ≠ place := by
    rintro rfl
    rw [not_isDirectory_of_at? hnode] at hplace
    cases hplace
  refine find?_of_locate (locate_put_directory hplace dirMode hlocate) ?_
  rw [at?_put_of_ne t hne, hnode]

/-- Where no directory lies, a file can be written, and then it is found. -/
theorem find?_writeFile (hlocate : t.locate path = some goal)
    (hgoal : t.isDirectory goal = false) (content : String) (mode : Nat) :
    ∃ written kept, t.writeFile path content mode = some written ∧
      written.find? path = some (.file (some content) kept) := by
  have hfound (kept : Nat) : (t.put goal (.file (some content) kept)).find? path =
      some (.file (some content) kept) := by
    have hnode := at?_put_self t goal (.file (some content) kept)
    have hsame : (t.put goal (.file (some content) kept)).isDirectory goal =
        t.isDirectory goal := by
      rw [hgoal, not_isDirectory_of_at? hnode]
    refine find?_of_locate (locate_mono (fun p hp => ?_) hlocate) hnode
    rw [isDirectory_put hsame, hp]
  unfold writeFile
  rw [hlocate]
  dsimp only
  split
  next hnode =>
    rw [isDirectory_of_at? hnode] at hgoal
    cases hgoal
  next old _ => exact ⟨_, old, rfl, hfound old⟩
  next => exact ⟨_, mode, rfl, hfound mode⟩

/-- Can a file be written at a path once the directories above it have been made? All directories
of a tree belong to the user who writes. -/
def IsWritable (t : Tree) (path : String) : Prop :=
  ∃ directory goal, parentPath? path = some directory ∧
    (t.makeDirectories directory).1 = true ∧
    (t.makeDirectories directory).2.locate path = some goal ∧
    (t.makeDirectories directory).2.isDirectory goal = false

end Tree

end VariableBridge.Files
