import TemplateEngine.Proofs.Engine.Failure
import TemplateEngine.Proofs.Engine.Repertoire
import TemplateEngine.Proofs.FileTree.Shape

/-!
# Settings that name different default directories

Settings that differ in the default directory give engines that differ in it, if both directories
can be used, and once it is replaced the same templates are found. A directory that cannot be used
keeps an engine from being built, although another one would take its place.

## Main definitions

* `Settings.namedDirectory`: the default directory that settings name.
* `Settings.directoryFault?`: why the default directory that settings name cannot be used.
* `Surroundings.Rivals`: settings that differ in the default directory that they name.
* `Stage.Rivals`: engines that differ in their default directories.

## Main results

* `Stage.Rivals.fromDocument`: engines from settings that differ in the default directory.
* `Stage.error_fromDocument`: a default directory that cannot be used.
* `Stage.repertoire_of_shape`: what can be looked up in trees of one shape.
-/

namespace TemplateEngine

namespace Settings

/-! ### What settings name -/

/-- The default directory that a mapping names, unless the surroundings name another one. -/
def namedDirectory (w : Surroundings) (path : Option Path) (entries : Dictionary Value) :
    Except Fault (Option Path) :=
  directoryOf w.home w.here (base w path) w.templates ((entries.value? "directory").getD .null)

/-- What a mapping sets besides the default directory. -/
def withDirectory (home : String → Option String) (base : Path) (entries : Dictionary Value)
    (directory : Option Path) : Except Fault Settings :=
  let value (key : String) : Value := (entries.value? key).getD .null
  match value "folders" with
  | .dict described => (foldersOf home base described).map fun folders =>
    { directory := directory, fileExtension := value "file_extension"
      batchSeparator := value "batch_separator", folders := folders, data := value "data"
      others := entries.filter fun entry => !keys.contains entry.1 }
  | _ => .error .missingAttribute

/-- Why the default directory that settings name cannot be used, if they can be read: it is no path,
or there is no such directory. -/
def directoryFault? (w : Surroundings) (path : Option Path) : Option Fault :=
  match read w path with
  | .error _ => none
  | .ok entries =>
    match namedDirectory w path entries >>= checkDirectory w.files with
    | .error fault => some fault
    | .ok _ => none

/-- Settings that differ at most in the default directory and in what the engine makes no use of. -/
structure SameElsewhere (a b : Settings) : Prop where
  fileExtension_eq : b.fileExtension = a.fileExtension
  batchSeparator_eq : b.batchSeparator = a.batchSeparator
  folders_eq : b.folders = a.folders
  data_eq : b.data = a.data

/-- Two mappings have the same under every key but that of the default directory. -/
def AgreeElsewhere (entries entries' : Dictionary Value) : Prop :=
  ∀ key, key ≠ "directory" → entries'.value? key = entries.value? key

theorem ofEntries_eq (w : Surroundings) (path : Option Path) (entries : Dictionary Value) :
    ofEntries w (base w path) entries =
      namedDirectory w path entries >>= withDirectory w.home (base w path) entries := by
  unfold ofEntries namedDirectory
  dsimp only
  cases directoryOf w.home w.here (base w path) w.templates
      ((entries.value? "directory").getD .null) with
  | error fault => rfl
  | ok directory =>
    change _ = withDirectory w.home (base w path) entries directory
    unfold withDirectory
    dsimp only
    cases (entries.value? "folders").getD .null with
    | dict described =>
      dsimp only
      cases foldersOf w.home (base w path) described <;> rfl
    | _ => rfl

/-- Settings are loaded by reading them, finding the default directory that they name, and then all
the rest. -/
theorem load_eq (w : Surroundings) (path : Option Path) :
    load w path = read w path >>= fun entries =>
      namedDirectory w path entries >>= withDirectory w.home (base w path) entries := by
  rw [load_eq_read]
  exact congrArg (read w path >>= ·) (funext (ofEntries_eq w path))

/-- Besides the default directory, mappings that agree elsewhere set the same. -/
theorem matches_withDirectory (home : String → Option String) (base : Path)
    {entries entries' : Dictionary Value} (h : AgreeElsewhere entries entries')
    (directory directory' : Option Path) :
    Matches (fun settings settings' => SameElsewhere settings settings' ∧
        settings.directory = directory ∧ settings'.directory = directory')
      (withDirectory home base entries directory)
      (withDirectory home base entries' directory') := by
  have hfolders := h "folders" (by decide)
  have hextension := h "file_extension" (by decide)
  have hseparator := h "batch_separator" (by decide)
  have hdata := h "data" (by decide)
  unfold withDirectory
  simp only [hfolders, hextension, hseparator, hdata]
  split
  · cases foldersOf home base _ with
    | error fault => exact .error fault
    | ok folders => exact .ok ⟨⟨rfl, rfl, rfl, rfl⟩, rfl, rfl⟩
  · exact .error _

end Settings

/-! ### Rival settings -/

/-- Two surroundings have the same home directory, name the same document to use if none is given,
and have file trees of one shape. What is read as settings differs at most in the default directory,
and either of the two may name another one. -/
structure Surroundings.Rivals (path : Option Path) (w w' : Surroundings) : Prop where
  home_eq : w'.home = w.home
  configuration_eq : w'.configuration = w.configuration
  shape : w.files.SameShape w'.files
  read : Matches Settings.AgreeElsewhere (Settings.read w path) (Settings.read w' path)

namespace Surroundings.Rivals

open Settings

variable {w w' : Surroundings} {path : Option Path}

theorem base_eq (h : w.Rivals path w') : base w' path = base w path := by
  have hhere : w'.here = w.here := congrArg (Path.mk .single) h.shape.here_eq
  rw [base, base, h.configuration_eq, hhere]

/-- A default directory without a fault is named and there. -/
theorem named_of_directoryFault? {entries : Dictionary Value}
    (hread : Settings.read w path = .ok entries) (h : directoryFault? w path = none) :
    ∃ directory, namedDirectory w path entries = .ok directory ∧
      ∃ found, checkDirectory w.files directory = .ok found := by
  simp only [directoryFault?, hread] at h
  split at h
  · cases h
  · next hchecked =>
    obtain ⟨directory, hnamed, hcheck⟩ := exists_of_bind_ok hchecked
    exact ⟨directory, hnamed, _, hcheck⟩

/-- Rival settings whose default directories can be used are the same elsewhere, or have the same
fault. -/
theorem load (h : w.Rivals path w') (hfault : directoryFault? w path = none)
    (hfault' : directoryFault? w' path = none) :
    Matches (fun settings settings' => SameElsewhere settings settings' ∧
        (∃ found, checkDirectory w.files settings.directory = .ok found) ∧
        ∃ found, checkDirectory w'.files settings'.directory = .ok found)
      (Settings.load w path) (Settings.load w' path) := by
  rw [load_eq, load_eq, h.base_eq, h.home_eq]
  rcases h.read.cases with ⟨fault, hread, hread'⟩ | ⟨entries, entries', hread, hread', hentries⟩
  · rw [hread, hread']
    exact .error fault
  · obtain ⟨directory, hnamed, hcheck⟩ := named_of_directoryFault? hread hfault
    obtain ⟨directory', hnamed', hcheck'⟩ := named_of_directoryFault? hread' hfault'
    simp only [hread, hread', bind, Except.bind, hnamed, hnamed']
    rcases (matches_withDirectory w.home (base w path) hentries directory directory').cases with
      ⟨fault, hload, hload'⟩ | ⟨settings, settings', hload, hload', hsame, rfl, rfl⟩
    · rw [hload, hload']
      exact .error fault
    · rw [hload, hload']
      exact .ok ⟨hsame, hcheck, hcheck'⟩

/-- If the default directory of settings cannot be used and rival settings can be loaded, it is not
there, or it keeps the settings from being loaded. -/
theorem load_of_directoryFault? (h : w.Rivals path w') {fault : Fault}
    (hfault : directoryFault? w path = some fault) {settings' : Settings}
    (hload' : Settings.load w' path = .ok settings') :
    Settings.load w path = .error fault ∨ ∃ settings, Settings.load w path = .ok settings ∧
      checkDirectory w.files settings.directory = .error fault := by
  rw [load_eq, h.base_eq, h.home_eq] at hload'
  obtain ⟨entries', hread', hrest⟩ := exists_of_bind_ok hload'
  obtain ⟨directory', hnamed', hset'⟩ := exists_of_bind_ok hrest
  rcases h.read.cases with ⟨other, -, hother⟩ | ⟨entries, other, hread, hother, hentries⟩
  · rw [hread'] at hother
    cases hother
  · obtain rfl : entries' = other := Except.ok.inj (hread'.symm.trans hother)
    simp only [directoryFault?, hread] at hfault
    simp only [load_eq, hread, bind, Except.bind] at hfault ⊢
    cases hnamed : namedDirectory w path entries with
    | error named =>
      simp only [hnamed, Option.some.injEq] at hfault
      exact .inl (hfault ▸ rfl)
    | ok directory =>
      simp only [hnamed] at hfault
      rcases (matches_withDirectory w.home (base w path) hentries directory directory').cases with
        ⟨other, -, hother⟩ | ⟨settings, other, hset, -, -, rfl, -⟩
      · rw [hset'] at hother
        cases hother
      · refine .inr ⟨settings, hset, ?_⟩
        split at hfault
        · next hcheck =>
          cases hfault
          exact hcheck
        · cases hfault

end Surroundings.Rivals

namespace Stage

/-! ### Rival engines -/

/-- Two stages with file trees of one shape, whose engines differ at most in their default
directories. -/
structure Rivals (s s' : Stage) : Prop where
  engine_eq : s'.engine = { s.engine with directory := s'.engine.directory }
  shape : s.files.SameShape s'.files

namespace Rivals

open Settings

variable {s s' : Stage}

/-- Folders are added to rivals alike. -/
theorem addFolders (h : s.Rivals s') (folders : List Folder) :
    EndAlike Rivals (s.addFolders folders) (s'.addFolders folders) := by
  induction folders generalizing s s' with
  | nil => exact ⟨rfl, h⟩
  | cons folder rest ih =>
    have hadd : s'.engine.folders.add s'.files folder = s.engine.folders.add s.files folder := by
      rw [h.engine_eq, Folders.add, Folders.add, h.shape.isDirectory_eq]
    unfold Stage.addFolders Stage.addFolder
    rw [hadd]
    cases s.engine.folders.add s.files folder with
    | error fault => exact ⟨rfl, h⟩
    | ok added =>
      refine ih ⟨?_, h.shape⟩
      simp only [engine_emit]
      rw [h.engine_eq]

/-- Data is added to rivals alike. -/
theorem addSettingsData (h : s.Rivals s') (v : Value) :
    EndAlike Rivals (s.addSettingsData v) (s'.addSettingsData v) := by
  unfold Stage.addSettingsData
  split
  · split
    · refine ⟨rfl, ?_, h.shape⟩
      simp only [addData]
      rw [h.engine_eq]
    · exact ⟨rfl, h⟩
  · exact ⟨rfl, h⟩
  · exact ⟨rfl, h⟩

/-- Settings that are the same elsewhere make rivals, if their default directories are there. -/
theorem applySettings (h : s.Rivals s') {settings settings' : Settings}
    (hsame : SameElsewhere settings settings') {found found' : Option Path}
    (hcheck : checkDirectory s.files settings.directory = .ok found)
    (hcheck' : checkDirectory s'.files settings'.directory = .ok found') :
    EndAlike Rivals (s.applySettings settings) (s'.applySettings settings') := by
  have hmade : Rivals
      { s with engine := { directory := found, fileExtension := settings.fileExtension
                           batchSeparator := settings.batchSeparator } }
      { s' with engine := { directory := found', fileExtension := settings.fileExtension
                            batchSeparator := settings.batchSeparator } } := ⟨rfl, h.shape⟩
  unfold Stage.applySettings Engine.create?
  simp only [hcheck, hcheck', Except.map, hsame.fileExtension_eq, hsame.batchSeparator_eq,
    hsame.folders_eq, hsame.data_eq]
  obtain ⟨left, left', hleft, ⟨fault, hadded, hadded'⟩ | ⟨⟨⟩, hadded, hadded'⟩⟩ :=
    (hmade.addFolders settings.folders).cases
  · rw [hadded, hadded']
    exact ⟨rfl, hleft⟩
  · rw [hadded, hadded']
    exact hleft.addSettingsData settings.data

/-- Rival settings whose default directories can be used make rivals. -/
theorem fromDocument (h : s.Rivals s') {w w' : Surroundings} {path : Option Path}
    (hw : w.Rivals path w') (hfiles : s.files = w.files) (hfiles' : s'.files = w'.files)
    (hfault : directoryFault? w path = none) (hfault' : directoryFault? w' path = none) :
    EndAlike Rivals (s.fromDocument w path) (s'.fromDocument w' path) := by
  unfold Stage.fromDocument
  rcases (hw.load hfault hfault').cases with
    ⟨fault, hload, hload'⟩ | ⟨settings, settings', hload, hload', hsame, ⟨_, hcheck⟩, _, hcheck'⟩
  · rw [hload, hload']
    exact ⟨rfl, h⟩
  · rw [← hfiles] at hcheck
    rw [← hfiles'] at hcheck'
    simp only [hload, hload']
    obtain ⟨left, left', hleft, ⟨fault, happlied, happlied'⟩ | ⟨⟨⟩, happlied, happlied'⟩⟩ :=
      (h.applySettings hsame hcheck hcheck').cases
    · rw [happlied, happlied']
      exact ⟨rfl, hleft⟩
    · rw [happlied, happlied']
      exact ⟨rfl, hleft.engine_eq, hleft.shape⟩

/-- If the default directories of rivals are replaced, nothing is left in which the engines
differ. -/
theorem setDirectory (h : s.Rivals s') (directory : Option Path) :
    EndAlike Rivals (s.setDirectory directory) (s'.setDirectory directory) ∧
      ((s.setDirectory directory).1 = .ok () →
        (s'.setDirectory directory).2.engine = (s.setDirectory directory).2.engine) := by
  have hcheck : checkDirectory s'.files directory = checkDirectory s.files directory := by
    cases directory with
    | none => rfl
    | some path => rw [checkDirectory, checkDirectory, h.shape.isDirectory_eq]
  unfold Stage.setDirectory
  rw [hcheck]
  cases checkDirectory s.files directory with
  | error fault => exact ⟨⟨rfl, h⟩, nofun⟩
  | ok found =>
    have hengine : { s'.engine with directory := found } =
        { s.engine with directory := found } := by
      rw [h.engine_eq]
    exact ⟨⟨rfl, hengine, h.shape⟩, fun _ => hengine⟩

end Rivals

/-- A default directory that cannot be used keeps an engine from being built that can be built from
rival settings. -/
theorem error_fromDocument {s s' : Stage} {w w' : Surroundings} {path : Option Path}
    (hw : w.Rivals path w') (hfiles : s.files = w.files) {fault : Fault}
    (hfault : Settings.directoryFault? w path = some fault)
    (hdone : (s'.fromDocument w' path).1 = .ok ()) :
    s.fromDocument w path = (.error fault, s) := by
  have hloaded' : ∃ settings', Settings.load w' path = .ok settings' := by
    unfold fromDocument at hdone
    split at hdone
    · cases hdone
    · exact ⟨_, ‹_›⟩
  obtain ⟨settings', hload'⟩ := hloaded'
  unfold fromDocument
  rcases hw.load_of_directoryFault? hfault hload' with hload | ⟨settings, hload, hcheck⟩
  · rw [hload]
  · rw [← hfiles] at hcheck
    simp only [hload, applySettings, Engine.create?, hcheck, Except.map]

/-! ### What rivals look up -/

variable {s s' : Stage}

/-- With the same engine, the same templates are found in trees of one shape. -/
theorem resolvePath_of_shape (hengine : s'.engine = s.engine)
    (hshape : s.files.SameShape s'.files) : s'.resolvePath = s.resolvePath := by
  have hfirst (paths : List Path) :
      TemplateName.firstFile s'.files paths = TemplateName.firstFile s.files paths := by
    induction paths with
    | nil => rfl
    | cons path rest ih => rw [TemplateName.firstFile, TemplateName.firstFile, hshape.isFile_eq, ih]
  funext name
  unfold resolvePath TemplateName.locate
  simp only [hengine, hfirst]

/-- With the same host and engine, the same can be looked up in trees of one shape, if the files
that are found have the same texts. -/
theorem repertoire_of_shape (hhost : s'.host = s.host) (hengine : s'.engine = s.engine)
    (hshape : s.files.SameShape s'.files)
    (htexts : ∀ name path, s.resolvePath name = .ok (some path) →
      s'.files.readText path = s.files.readText path) :
    s'.repertoire = s.repertoire := by
  refine repertoire_ext hhost (by rw [hengine]) (by rw [hengine]) (by rw [hengine])
    (by rw [hengine]) (resolvePath_of_shape hengine hshape) fun name path hpath => ?_
  rw [compiledFile_fst, compiledFile_fst, freshlyCompiled, freshlyCompiled, hhost, hengine,
    htexts name path hpath]

end Stage

end TemplateEngine
