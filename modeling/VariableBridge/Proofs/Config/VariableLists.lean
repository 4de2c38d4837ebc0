import VariableBridge.CommandLine.Parsing
import VariableBridge.Proofs.Text.Joining
import VariableBridge.Proofs.Text.Trimming

/-!
# Lists of variables

A list of variables is given as an option or in the environment, with commas between its
entries. Main statements: an entry is a name with blanks around it, or blank; what a list sets
is what its entries spell, whichever way it is given; and every way to spell the names of a
list sets these names again.
-/

namespace VariableBridge.VariableList

open CommandLine (Options Progress)
open Text (IsBlankText IsTrimmed)

/-- Are these the entries of a list, from comma to comma? -/
structure IsCut (list : String) (entries : List String) : Prop where
  /-- There is at least one entry. -/
  ne_nil : entries ≠ []
  /-- No entry holds a comma. -/
  comma_free : ∀ entry ∈ entries, ',' ∉ entry.toList
  /-- The entries with commas between them are the list. -/
  joined : ",".intercalate entries = list

/-- A list has entries: its pieces between commas are a cut of it, and there is at least one. -/
theorem isCut_splitAt (list : String) : IsCut list (Text.splitAt ',' list) where
  ne_nil := by simpa [Text.splitAt] using Text.piecesOf_ne_nil (· == ',') list.toList
  comma_free := by
    intro entry hentry hcomma
    obtain ⟨piece, hpiece, rfl⟩ := List.mem_map.mp hentry
    rw [String.toList_ofList] at hcomma
    have hnot := Text.not_separates_of_mem_piecesOf hpiece ',' hcomma
    exact absurd hnot (by decide)
  joined := by
    rw [← String.toList_inj, String.toList_intercalate]
    unfold Text.splitAt
    rw [List.map_map]
    simpa using Text.intercalate_piecesOf ',' list.toList

/-- A list has no other entries than its pieces between commas, so a cut is unique. -/
theorem IsCut.eq_splitAt {list : String} {entries : List String} (h : IsCut list entries) :
    entries = Text.splitAt ',' list := by
  have hpieces : Text.piecesOf (· == ',') list.toList = entries.map String.toList := by
    rw [← h.joined, String.toList_intercalate]
    refine Text.piecesOf_intercalate (by decide) (by simpa using h.ne_nil) ?_
    intro cs hcs c hc
    obtain ⟨entry, hentry, rfl⟩ := List.mem_map.mp hcs
    have hne : c ≠ ',' := fun heq => h.comma_free entry hentry (heq ▸ hc)
    simpa using hne
  unfold Text.splitAt
  rw [hpieces, List.map_map]
  simp

/-- Can the text stand for a variable in a list? -/
structure IsName (name : String) : Prop where
  /-- The name is not empty. -/
  ne_empty : name ≠ ""
  /-- It holds no comma. -/
  comma_free : ',' ∉ name.toList
  /-- It has no blanks at its ends. -/
  trimmed : IsTrimmed name

/-- Do these entries spell these names? Each name is spelt by one entry, in their order, with
blanks around it; the other entries are blank. -/
inductive Spells : List String → List String → Prop where
  /-- Nothing is spelt. -/
  | nil : Spells [] []
  /-- A blank entry spells nothing. -/
  | blank {entry : String} {entries names : List String} (h : IsBlankText entry)
    (rest : Spells entries names) : Spells (entry :: entries) names
  /-- An entry spells a name. -/
  | name {before name after : String} {entries names : List String} (hb : IsBlankText before)
    (ha : IsBlankText after) (rest : Spells entries names) :
    Spells ((before ++ name ++ after) :: entries) (name :: names)

/-- The empty text is blank, so that an entry may be followed by a comma without a blank. -/
theorem isBlankText_empty : IsBlankText "" := by
  intro c hc
  cases hc

/-- The empty text is trimmed, since it has neither a first nor a last character that could be
blank. -/
theorem isTrimmed_empty : IsTrimmed "" where
  first := fun _ hc => nomatch hc
  last := fun _ hc => nomatch hc

/-- Names without anything around them spell themselves, so a plain list is one of the spellings. -/
theorem spells_self (names : List String) : Spells names names := by
  induction names with
  | nil => exact .nil
  | cons name names ih =>
    have hname : Spells (("" ++ name ++ "") :: names) (name :: names) :=
      .name isBlankText_empty isBlankText_empty ih
    rwa [String.empty_append, String.append_empty] at hname

/-- A blank text is empty when it is trimmed, which is why it does not set a name. -/
theorem trim_of_isBlankText {s : String} (h : IsBlankText s) : Text.trim s = "" := by
  have hpadded := Text.trim_padded h isBlankText_empty isTrimmed_empty
  simpa using hpadded

/-- Entries spell what is left when they are trimmed and the empty ones are left out. -/
theorem spells_cleanNames (entries : List String) : Spells entries (cleanNames entries) := by
  induction entries with
  | nil => exact .nil
  | cons entry entries ih =>
    obtain ⟨before, after, hb, ha, hentry⟩ := Text.exists_padding entry
    by_cases hempty : Text.trim entry = ""
    · have hblank : IsBlankText entry := by
        rw [hentry, hempty]
        intro c hc
        simp only [String.append_empty, String.toList_append, List.mem_append] at hc
        exact hc.elim (hb c) (ha c)
      have hclean : cleanNames (entry :: entries) = cleanNames entries := by
        simp [cleanNames, hempty]
      rw [hclean]
      exact .blank hblank ih
    · have hclean : cleanNames (entry :: entries) = Text.trim entry :: cleanNames entries := by
        simp [cleanNames, hempty]
      have hname : Spells ((before ++ Text.trim entry ++ after) :: entries)
          (Text.trim entry :: cleanNames entries) := .name hb ha ih
      rw [hclean]
      rwa [← hentry] at hname

/-- What entries spell is found again, if all of it are names: blanks around them and blank entries
are dropped. -/
theorem Spells.cleanNames_eq {entries names : List String} (h : Spells entries names)
    (hnames : ∀ name ∈ names, IsName name) : cleanNames entries = names := by
  induction h with
  | nil => rfl
  | blank hblank _ ih =>
    rw [← ih hnames]
    simp [cleanNames, trim_of_isBlankText hblank]
  | @name before name after entries names hb ha _ ih =>
    have hname := hnames name List.mem_cons_self
    have hrest := ih fun n hn => hnames n (List.mem_cons_of_mem _ hn)
    have htrim := Text.trim_padded hb ha hname.trimmed
    unfold cleanNames at hrest ⊢
    rw [List.map_cons, htrim, List.filter_cons_of_pos (by simpa using hname.ne_empty), hrest]

example : cleanNames (Text.splitAt ',' " level,, peak hold\u3000,") = ["level", "peak hold"] := by
  decide +kernel

/-- Blanks are no commas, so a blank text is never cut in two. -/
theorem comma_notMem_of_isBlankText {s : String} (h : IsBlankText s) : ',' ∉ s.toList := by
  intro hcomma
  have hblank := h ',' hcomma
  revert hblank
  decide

/-- Entries that spell names hold no commas, so joining them by commas and cutting again gives them
back. -/
theorem Spells.comma_free {entries names : List String} (h : Spells entries names)
    (hnames : ∀ name ∈ names, IsName name) : ∀ entry ∈ entries, ',' ∉ entry.toList := by
  induction h with
  | nil => exact fun _ hentry => absurd hentry List.not_mem_nil
  | blank hblank _ ih =>
    exact List.forall_mem_cons.mpr ⟨comma_notMem_of_isBlankText hblank, ih hnames⟩
  | @name before name after entries names hb ha _ ih =>
    refine List.forall_mem_cons.mpr
      ⟨?_, ih fun n hn => hnames n (List.mem_cons_of_mem _ hn)⟩
    have hname := (hnames name List.mem_cons_self).comma_free
    simp only [String.toList_append, List.mem_append, not_or]
    exact ⟨⟨comma_notMem_of_isBlankText hb, hname⟩, comma_notMem_of_isBlankText ha⟩

/-- What is left of the pieces of a list are names: trimmed, not empty and without commas. -/
theorem isName_of_mem_cleanNames {list : String} {entries : List String}
    (hcut : IsCut list entries) : ∀ name ∈ cleanNames entries, IsName name := by
  intro name hname
  obtain ⟨htrimmed, hne⟩ := List.mem_filter.mp hname
  obtain ⟨entry, hentry, rfl⟩ := List.mem_map.mp htrimmed
  refine ⟨by simpa using hne, ?_, Text.isTrimmed_trim entry⟩
  intro hcomma
  obtain ⟨before, after, _, _, hpadded⟩ := Text.exists_padding entry
  apply hcut.comma_free entry hentry
  rw [hpadded]
  simp [hcomma]

/-- Are these the names that a list sets, whichever way it is given? -/
structure Sets (list : String) (names : List String) : Prop where
  /-- The names of the option whose values are the entries of the list. -/
  as_option : ∀ (options : Options) (entries : List String) (c : Configuration),
    IsCut list entries → options.vars = some entries → (options.override c).bridge.vars = names
  /-- The names of the environment with this list. -/
  in_environment : ∀ (env : Environment) (c : Configuration),
    env.get? "VARSTREAM_VARS" = some list → (env.override c).bridge.vars = names

/-- A list sets what is left of its entries, in a variable of the environment as on the command
line. -/
theorem IsCut.sets {list : String} {entries : List String} (hcut : IsCut list entries) :
    Sets list (cleanNames entries) where
  as_option := by
    intro options other c hother hoptions
    rw [hcut.eq_splitAt, ← hother.eq_splitAt]
    simp only [Options.override, hoptions, Option.map_some, Option.getD_some]
  in_environment := by
    intro env c henv
    rw [hcut.eq_splitAt]
    simp only [Environment.override, henv, Option.map_some, Option.getD_some]
    rfl

/-- Any spelling of names sets the names, with whatever blanks and empty entries it has. -/
theorem Spells.sets {entries names : List String} (h : Spells entries names)
    (hnames : ∀ name ∈ names, IsName name) : Sets (",".intercalate entries) names := by
  by_cases hnone : entries = []
  · -- the empty list still has one entry, which is blank
    subst hnone
    cases h
    have hcut : IsCut "" [""] := ⟨by simp, by simp, by simp⟩
    exact hcut.sets
  · have hcut : IsCut (",".intercalate entries) entries := ⟨hnone, h.comma_free hnames, rfl⟩
    have hsets := hcut.sets
    rwa [h.cleanNames_eq hnames] at hsets

/-- A list that is attached to the option is read as its entries. -/
theorem IsCut.parse_attached {list : String} {entries : List String} (hcut : IsCut list entries) :
    CommandLine.parse ["--vars=" ++ list] = .ok { Options.none with vars := some entries } := by
  have htext : ("--vars=" ++ list).toList =
      '-' :: '-' :: 'v' :: 'a' :: 'r' :: 's' :: '=' :: list.toList := by
    rw [String.toList_append]
    rfl
  have hlong : Progress.start.takeLong ('v' :: 'a' :: 'r' :: 's' :: '=' :: list.toList) =
      Progress.start.takeOption .vars (some (String.ofList list.toList)) := rfl
  have htake : Progress.start.take ("--vars=" ++ list) =
      .ok { Progress.start with options := { Options.none with vars := some entries } } := by
    unfold Progress.take
    rw [htext]
    change Progress.start.takeLong ('v' :: 'a' :: 'r' :: 's' :: '=' :: list.toList) = _
    rw [hlong, String.ofList_toList, hcut.eq_splitAt]
    rfl
  unfold CommandLine.parse
  rw [List.foldlM_cons, htake]
  rfl

/-- A text without blanks is a name, if it is not empty and holds no comma. -/
theorem isName_of_not_isBlank {name : String} (hne : name ≠ "") (hcomma : ',' ∉ name.toList)
    (hblank : ∀ c ∈ name.toList, Text.isBlank c = false) : IsName name where
  ne_empty := hne
  comma_free := hcomma
  trimmed := Text.isTrimmed_of_not_isBlank hblank

/-- A list sets the same names as an option and in the environment. All of them are names, and
the entries of the list spell them in this order; whatever spells them sets them again. And
names without blanks are set by the list of just these names. -/
theorem sets_normal_form :
    (∀ list : String, ∃ entries names : List String,
      IsCut list entries ∧
      CommandLine.parse ["--vars=" ++ list] = .ok { Options.none with vars := some entries } ∧
      Sets list names ∧
      (∀ name ∈ names, IsName name) ∧
      Spells entries names ∧
      ∀ spelling, Spells spelling names → Sets (",".intercalate spelling) names) ∧
    ∀ names : List String,
      (∀ name ∈ names, name ≠ "" ∧ ',' ∉ name.toList ∧
        ∀ c ∈ name.toList, Text.isBlank c = false) →
      Sets (",".intercalate names) names := by
  constructor
  · intro list
    have hcut := isCut_splitAt list
    have hnames := isName_of_mem_cleanNames hcut
    refine ⟨Text.splitAt ',' list, cleanNames (Text.splitAt ',' list), hcut, hcut.parse_attached,
      hcut.sets, hnames, spells_cleanNames _, ?_⟩
    intro spelling hspelling
    exact hspelling.sets hnames
  · intro names hfree
    refine (spells_self names).sets fun name hname => ?_
    obtain ⟨hne, hcomma, hblank⟩ := hfree name hname
    exact isName_of_not_isBlank hne hcomma hblank

end VariableBridge.VariableList
