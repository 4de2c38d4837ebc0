import VariableBridge.Config.Storage
import VariableBridge.Proofs.Config.Reading
import VariableBridge.Proofs.Files.Writing

/-!
# A saved configuration loads back

Main statements: a configuration that is saved at a path with a directory loads back as it
is, whatever was there; at a path without a directory it is never saved; and a save that
fails keeps every file.
-/

namespace VariableBridge

open Files (Tree)
open Toml (FloatReadsBack)

/-- Is no variable set that overrides a part of the configuration? -/
def Environment.OverridesNothing (env : Environment) : Prop :=
  ∀ n ∈ env, ¬"VARSTREAM_".toList <+: n.1.toList

/-- An environment that overrides nothing has no variable with the prefix that overrides use. -/
theorem Environment.OverridesNothing.get?_eq_none {env : Environment} (h : env.OverridesNothing)
    {name : String} (hname : "VARSTREAM_".toList <+: name.toList) : env.get? name = none := by
  refine List.lookup_eq_none_iff.mpr fun n hn => ?_
  rw [bne_iff_ne]
  rintro rfl
  exact h n hn hname

/-- An environment that overrides nothing leaves every configuration as it was read. -/
theorem Environment.OverridesNothing.override_eq {env : Environment} (h : env.OverridesNothing)
    (c : Configuration) : env.override c = c := by
  have hvars : env.get? "VARSTREAM_VARS" = none := h.get?_eq_none (by decide)
  have hsource : env.get? "VARSTREAM_SOURCE_ID" = none := h.get?_eq_none (by decide)
  have hskip : env.get? "VARSTREAM_SKIP" = none := h.get?_eq_none (by decide)
  have hport : env.get? "VARSTREAM_WS_PORT" = none := h.get?_eq_none (by decide)
  unfold Environment.override Environment.number?
  rw [hvars, hsource, hskip, hport]
  rfl

namespace Configuration

variable {t : Tree} {path : String}

/-- A path without a directory is given up when the mode of the directory is to be set. -/
theorem prepareDirectory_of_bare (h : Files.parentPath? path = some "") :
    prepareDirectory t path = (.error .permissions, t) := by
  unfold prepareDirectory
  rw [h]
  rfl

/-- The directory above a writable path is made, if the path names one. -/
theorem prepareDirectory_of_writable (h : t.IsWritable path)
    (hnamed : Files.parentPath? path ≠ some "") :
    ∃ made goal, prepareDirectory t path = (.ok (), made) ∧ made.locate path = some goal ∧
      made.isDirectory goal = false := by
  obtain ⟨directory, goal, hparent, hcomplete, hlocate, hgoal⟩ := h
  have hne : directory ≠ "" := by
    rintro rfl
    exact hnamed hparent
  have hstart := Tree.isDirectory_start hlocate
  rw [← Files.start_of_parentPath hparent hne] at hstart
  obtain ⟨place, hplace, hdirectory⟩ := Tree.exists_locate_makeDirectories hcomplete hne hstart
  have hprepared : prepareDirectory t path =
      (.ok (), (t.makeDirectories directory).2.put place (.directory privateDirectoryMode)) := by
    unfold prepareDirectory
    rw [hparent]
    dsimp only
    rw [if_pos hcomplete, hplace]
  refine ⟨_, goal, hprepared, Tree.locate_put_directory hdirectory _ hlocate, ?_⟩
  have hsame : ((t.makeDirectories directory).2.put place
      (.directory privateDirectoryMode)).isDirectory place =
        (t.makeDirectories directory).2.isDirectory place := by
    rw [hdirectory]
    exact Tree.isDirectory_of_at? (Tree.at?_put_self _ _ _)
  rw [Tree.isDirectory_put hsame, hgoal]

/-- Preparing the directory of a path keeps every file, also if it fails on the way. -/
theorem find?_prepareDirectory {file : String} {content : Option String} {mode : Nat}
    (h : t.find? file = some (.file content mode)) :
    (prepareDirectory t path).2.find? file = some (.file content mode) := by
  unfold prepareDirectory
  split
  next => exact h
  next directory _ =>
    have hmade := Tree.find?_makeDirectories directory h
    dsimp only
    split
    next hcomplete =>
      split
      next => exact hmade
      next place hplace =>
        have hdirectory := Tree.isDirectory_of_makeDirectories hcomplete hplace
        exact Tree.find?_put_directory hdirectory _ hmade
    next => exact hmade

/-- A text that can be written is saved, once the directory is there and the file can be written. -/
theorem save_of_write {c : Configuration} {made saved : Tree} {text : String}
    (hprepared : prepareDirectory t path = (.ok (), made)) (htext : c.write = some text)
    (hsaved : made.writeFile path text privateFileMode = some saved) :
    c.save t path = (.ok (), saved) := by
  unfold save
  rw [hprepared, htext]
  dsimp only
  rw [hsaved]

/-- Without a text nothing happens after the directory has been prepared. -/
theorem save_of_no_text {c : Configuration} {made : Tree}
    (hprepared : prepareDirectory t path = (.ok (), made)) (hnone : c.write = none) :
    c.save t path = (.error .serialize, made) := by
  unfold save
  rw [hprepared, hnone]

/-- If the directory cannot be prepared, a save ends with that error: the text is not made, and no
file is written. -/
theorem save_of_unprepared {c : Configuration} {error : StorageError} {made : Tree}
    (hprepared : prepareDirectory t path = (.error error, made)) :
    c.save t path = (.error error, made) := by
  unfold save
  rw [hprepared]

/-- A configuration that has no text is never saved: whatever the path is, one of the steps
fails. -/
theorem exists_error_of_no_text {c : Configuration} (hnone : c.write = none) :
    ∃ error, (c.save t path).1 = .error error := by
  obtain ⟨⟨result, made⟩, hprepared⟩ : ∃ prepared, prepareDirectory t path = prepared := ⟨_, rfl⟩
  cases result with
  | error error => exact ⟨error, by rw [save_of_unprepared hprepared]⟩
  | ok done => exact ⟨.serialize, by rw [save_of_no_text hprepared hnone]⟩

/-- A save that fails leaves the files that preparing the directory left. -/
theorem save_of_error {c : Configuration} {error : StorageError}
    (h : (c.save t path).1 = .error error) : (c.save t path).2 = (prepareDirectory t path).2 := by
  unfold save at h ⊢
  -- the text is no matter here, and whether there is one need not be computed
  generalize c.write = written at h ⊢
  generalize prepareDirectory t path = prepared at h ⊢
  obtain ⟨result, made⟩ := prepared
  cases result with
  | error e => rfl
  | ok done =>
    cases written with
    | none => rfl
    | some text =>
      dsimp only at h ⊢
      cases hsaved : made.writeFile path text privateFileMode with
      | none => rfl
      | some saved =>
        rw [hsaved] at h
        cases h

/-- A save that fails keeps every file with its content and mode. Directories may have been made. -/
theorem find?_save_of_error {c : Configuration} {error : StorageError}
    (herror : (c.save t path).1 = .error error) {file : String} {content : Option String}
    {mode : Nat} (h : t.find? file = some (.file content mode)) :
    (c.save t path).2.find? file = some (.file content mode) := by
  rw [save_of_error herror]
  exact find?_prepareDirectory h

/-- A configuration with a 64-bit count above the integers of the format has no text. -/
theorem write_eq_none {c : Configuration}
    (h : 9223372036854775808 ≤ c.demo.cycles.toNat ∨
      9223372036854775808 ≤ c.demo.reallocEvery.toNat) : c.write = none := by
  refine if_neg fun hwritable => ?_
  obtain ⟨hcycles, hrealloc⟩ := DemoSettings.isWritable_iff.mp hwritable
  unfold Toml.integerBound at hcycles hrealloc
  omega

/-- A configuration whose 64-bit counts are integers of the format has a text. -/
theorem exists_write {c : Configuration} (hcycles : c.demo.cycles.toNat < 9223372036854775808)
    (hrealloc : c.demo.reallocEvery.toNat < 9223372036854775808) :
    ∃ text, c.write = some text := by
  refine ⟨_, if_pos (DemoSettings.isWritable_iff.mpr ⟨?_, ?_⟩)⟩
  · unfold Toml.integerBound
    omega
  · unfold Toml.integerBound
    omega

/-- A float that is a number equals itself, also if it is a zero with a sign or an infinity. -/
theorem sameNumber_self {x : Number.Double} (h : x.datum ≠ .nan) : x.sameNumber x = true := by
  unfold Number.Double.sameNumber
  split
  next heq => exact absurd heq h
  next heq _ => exact absurd heq h
  next => rfl
  next => exact beq_self_eq_true x

/-- A configuration with a rate that is a number is equal to itself. -/
theorem same_self {c : Configuration} (h : c.demo.sampleRate.datum ≠ .nan) :
    c.same c = true := by
  unfold same DemoSettings.same
  rw [sameNumber_self h, decide_eq_true rfl, decide_eq_true rfl]
  rfl

/-- A configuration that fits and whose rate reads back is saved where a path names a directory. -/
theorem exists_save {c : Configuration} {env : Environment} (hwritable : t.IsWritable path)
    (hnamed : Files.parentPath? path ≠ some "")
    (hcycles : c.demo.cycles.toNat < 9223372036854775808)
    (hrealloc : c.demo.reallocEvery.toNat < 9223372036854775808)
    (hrate : FloatReadsBack c.demo.sampleRate) (henv : env.OverridesNothing) :
    ∃ saved, c.save t path = (.ok (), saved) ∧ load saved env path = .ok (some c) := by
  obtain ⟨made, goal, hprepared, hlocate, hgoal⟩ := prepareDirectory_of_writable hwritable hnamed
  obtain ⟨text, htext⟩ := exists_write hcycles hrealloc
  obtain ⟨saved, mode, hwritten, hfound⟩ := Tree.find?_writeFile hlocate hgoal text privateFileMode
  have hread := read_of_write hrate htext
  refine ⟨saved, save_of_write hprepared htext hwritten, ?_⟩
  unfold load
  rw [hfound]
  dsimp only
  rw [hread]
  dsimp only
  rw [henv.override_eq]

/-- A saved configuration loads back, or nothing is overwritten. At a writable path, a
configuration whose numbers fit and whose rate reads back is saved and loads back as it is,
whatever file was there, exactly if the path names a directory, which belongs to the user as all
nodes of a tree do. At a path without a directory no configuration is ever saved, and nothing
changes. A configuration whose numbers do not fit has no
text, so that no save of it succeeds and every file keeps its content. -/
theorem saved_configuration_loads_back (c : Configuration) (t : Tree) (path : String) :
    (∀ env : Environment, t.IsWritable path →
      c.demo.cycles.toNat < 9223372036854775808 →
      c.demo.reallocEvery.toNat < 9223372036854775808 →
      c.demo.sampleRate.datum ≠ .nan → FloatReadsBack c.demo.sampleRate →
      env.OverridesNothing →
      ((∃ saved, c.save t path = (.ok (), saved) ∧ load saved env path = .ok (some c) ∧
        c.same c = true) ↔ Files.parentPath? path ≠ some "")) ∧
    (Files.parentPath? path = some "" → c.save t path = (.error .permissions, t)) ∧
    (9223372036854775808 ≤ c.demo.cycles.toNat ∨
        9223372036854775808 ≤ c.demo.reallocEvery.toNat →
      (t.IsWritable path → Files.parentPath? path ≠ some "" →
        (c.save t path).1 = .error .serialize) ∧
      (∃ error, (c.save t path).1 = .error error) ∧
      ∀ file content mode, t.find? file = some (.file content mode) →
        (c.save t path).2.find? file = some (.file content mode)) := by
  have hbare : Files.parentPath? path = some "" → c.save t path = (.error .permissions, t) :=
    fun h => save_of_unprepared (prepareDirectory_of_bare h)
  refine ⟨?_, hbare, ?_⟩
  · intro env hwritable hcycles hrealloc hnumber hrate henv
    constructor
    · rintro ⟨saved, hsaved, -⟩ h
      rw [hbare h] at hsaved
      cases hsaved
    · intro hnamed
      obtain ⟨saved, hsaved, hload⟩ := exists_save hwritable hnamed hcycles hrealloc hrate henv
      exact ⟨saved, hsaved, hload, same_self hnumber⟩
  · intro hlarge
    have hnone := write_eq_none hlarge
    have hfails : ∃ error, (c.save t path).1 = .error error := exists_error_of_no_text hnone
    refine ⟨fun hwritable hnamed => ?_, hfails, ?_⟩
    · obtain ⟨made, _, hprepared, _⟩ := prepareDirectory_of_writable hwritable hnamed
      rw [save_of_no_text hprepared hnone]
    · obtain ⟨error, herror⟩ := hfails
      intro file content mode hfile
      exact find?_save_of_error herror hfile

/-- Names with quotes, backslashes and line breaks are saved over a file that is no text. A
number that does not fit leaves that file as it is. -/
theorem quoted_names_load_back :
    let names := ["say \"a\"", "C:\\b\r\n", "\u0000é'"]
    let c : Configuration := ⟨{ Settings.default with vars := names }, .default⟩
    let large : Configuration :=
      ⟨.default, { DemoSettings.default with cycles := 9223372036854775808 }⟩
    let t : Tree := ⟨[(⟨false, ["x.toml"]⟩, .file none 0o644)]⟩
    let env : Environment := [("HOME", "/root")]
    (∃ saved, c.save t "./x.toml" = (.ok (), saved) ∧ load saved env "./x.toml" = .ok (some c) ∧
      c.same c = true) ∧
    c.save t "x.toml" = (.error .permissions, t) ∧
    (large.save t "./x.toml").1 = .error .serialize ∧
    (large.save t "./x.toml").2.find? "./x.toml" = some (.file none 0o644) := by
  intro names c large t env
  have hwritable : t.IsWritable "./x.toml" :=
    ⟨".", ⟨false, ["x.toml"]⟩, by decide +kernel, by decide +kernel, by decide +kernel,
      by decide +kernel⟩
  have hnamed : Files.parentPath? "./x.toml" ≠ some "" := by decide +kernel
  have hrate : FloatReadsBack c.demo.sampleRate := by decide +kernel
  have henv : env.OverridesNothing := by
    intro n hn
    rw [List.mem_singleton.mp hn]
    decide
  have hsaved := ((saved_configuration_loads_back c t "./x.toml").1 env hwritable (by decide)
    (by decide) (by decide +kernel) hrate henv).mpr hnamed
  have hbare := (saved_configuration_loads_back c t "x.toml").2.1 (by decide +kernel)
  obtain ⟨hserialize, -, hkept⟩ :=
    (saved_configuration_loads_back large t "./x.toml").2.2 (Or.inl (by decide))
  exact ⟨hsaved, hbare, hserialize hwritable hnamed,
    hkept "./x.toml" none 0o644 (by decide +kernel)⟩

/-- A path without a directory is writable, and yet no configuration is saved there. -/
theorem not_every_writable_path_is_saved :
    ¬∀ (c : Configuration) (t : Tree) (env : Environment) (path : String),
      t.IsWritable path →
      c.demo.cycles.toNat < 9223372036854775808 →
      c.demo.reallocEvery.toNat < 9223372036854775808 →
      c.demo.sampleRate.datum ≠ .nan → FloatReadsBack c.demo.sampleRate →
      env.OverridesNothing →
      ∃ saved, c.save t path = (.ok (), saved) ∧ load saved env path = .ok (some c) ∧
        c.same c = true := by
  intro hall
  have hbare : Files.parentPath? "x.toml" = some "" := by decide +kernel
  have hwritable : Tree.empty.IsWritable "x.toml" :=
    ⟨"", ⟨false, ["x.toml"]⟩, hbare, by decide +kernel, by decide +kernel, by decide +kernel⟩
  have hrate : FloatReadsBack Configuration.default.demo.sampleRate := by decide +kernel
  have henv : Environment.OverridesNothing [] := fun n hn => absurd hn List.not_mem_nil
  obtain ⟨saved, hsaved, -, -⟩ := hall .default .empty [] "x.toml" hwritable (by decide)
    (by decide) (by decide +kernel) hrate henv
  have hfails : Configuration.default.save .empty "x.toml" = (.error .permissions, .empty) :=
    save_of_unprepared (prepareDirectory_of_bare hbare)
  rw [hfails] at hsaved
  cases hsaved

end Configuration

end VariableBridge
