import TemplateEngine.Document.Standard
import TemplateEngine.Proofs.Engine.Described

/-!
# Engines that settings describe

An engine is built from settings if the directories that they name are there, and it has these
directories. So documents that spell their folders in different ways build the same engine, and an
engine does not depend on the working directory unless its default directory is named from there.

## Main definitions

* `Settings.IsRealizedBy`: an engine is as settings say.
* `Stage.Builds`: an engine is built from a document.

## Main results

* `Stage.applySettings_ok_iff`: the engine that settings describe.
* `Stage.builds_iff`: the engine that a document describes.
* `Stage.exists_builds_iff`: whether there is one.
* `Stage.builds_as_described`: what it depends on.
-/

namespace TemplateEngine

namespace Folders

theorem isSome_named?_iff (folders : Folders) (name : String) :
    (folders.named? name).isSome = true ↔ name ∈ folders.map Folder.name := by
  induction folders with
  | nil => simp [named?]
  | cons folder rest ih =>
    rw [named?, List.map_cons, List.mem_cons]
    split
    · next h => simp [h]
    · next h => simp [ih, Ne.symm h]

end Folders

namespace Settings

/-! ### What settings describe -/

/-- The data that an engine shares with all templates: what is set, unless it counts as false. -/
inductive SharesData : Value → SharedData → Prop
  | data {v : Value} {data : Dictionary Value} (htruth : v.truth = .ok true)
    (h : v.asDictionary = .ok data) : SharesData v (SharedData.share {} data)
  | none {v : Value} (htruth : v.truth = .ok false) : SharesData v {}

/-- The directories that settings name are there, and the names of their folders are distinct. -/
structure IsPlaced (files : FileTree) (settings : Settings) : Prop where
  directory : ∀ directory, settings.directory = some directory →
    files.isDirectory directory = .ok true
  folders : ∀ folder ∈ settings.folders, files.isDirectory folder.path = .ok true
  nodup : (settings.folders.map Folder.name).Nodup

/-- An engine is as settings say, whose directories are there: it has their default directory and
their folders and shares their data, and nothing was registered. -/
structure IsRealizedBy (files : FileTree) (settings : Settings) (engine : Engine) : Prop where
  placed : settings.IsPlaced files
  engine_eq : ∃ shared, SharesData settings.data shared ∧ engine =
    { directory := settings.directory, fileExtension := settings.fileExtension
      batchSeparator := settings.batchSeparator, folders := settings.folders
      sharedData := shared }

section Realized

variable {settings : Settings} {files files' : FileTree} {engine : Engine}

/-- Realizing settings is about their directories, and not about what the engine makes no use of. -/
theorem IsRealizedBy.of_isDirectory (h : settings.IsRealizedBy files engine)
    (hdirectory : ∀ path, settings.directory = some path →
      files'.isDirectory path = files.isDirectory path)
    (hfolders : ∀ folder ∈ settings.folders,
      files'.isDirectory folder.path = files.isDirectory folder.path)
    (others : Dictionary Value) :
    { settings with others := others }.IsRealizedBy files' engine where
  placed :=
    { directory := fun path hpath => (hdirectory path hpath).trans (h.placed.directory path hpath)
      folders := fun folder hfolder =>
        (hfolders folder hfolder).trans (h.placed.folders folder hfolder)
      nodup := h.placed.nodup }
  engine_eq := h.engine_eq

end Realized

end Settings

namespace Stage

open Settings

variable {s s' : Stage} {settings : Settings} {engine : Engine} {w w' : Surroundings}
  {path : Option Path} {outside : Option String}

theorem checkDirectory_ok_iff {files : FileTree} {directory found : Option Path} :
    checkDirectory files directory = .ok found ↔
      found = directory ∧ ∀ path, directory = some path → files.isDirectory path = .ok true := by
  rw [@eq_comm _ found]
  cases directory with
  | none => simp [checkDirectory]
  | some path =>
    rcases h : files.isDirectory path with fault | _ | _ <;>
      simp [checkDirectory, h, bind, Except.bind, pure, Except.pure]

theorem addFolder_ok_iff {folder : Folder} {left : Stage} :
    s.addFolder folder = (.ok (), left) ↔
      folder.name ∉ s.engine.folders.map Folder.name ∧ s.files.isDirectory folder.path = .ok true ∧
      left = { s with engine := { s.engine with folders := s.engine.folders ++ [folder] } }.emit
        (.folderAdded folder.name folder.path folder.fallback) := by
  rw [← Folders.isSome_named?_iff]
  unfold addFolder Folders.add
  by_cases hname : (s.engine.folders.named? folder.name).isSome = true
  · simp [hname]
  · rcases s.files.isDirectory folder.path with fault | _ | _ <;>
      simp [hname, bind, Except.bind, pure, Except.pure, eq_comm]

/-- Beside folders of distinct names others are added if all names are distinct and their
directories are there. -/
theorem addFolders_ok_iff (hnodup : (s.engine.folders.map Folder.name).Nodup)
    (folders : List Folder) :
    (s.addFolders folders).1 = .ok () ↔
      (∀ folder ∈ folders, s.files.isDirectory folder.path = .ok true) ∧
      ((s.engine.folders ++ folders).map Folder.name).Nodup := by
  induction folders generalizing s with
  | nil => simp [addFolders, hnodup]
  | cons folder rest ih =>
    rw [addFolders, List.forall_mem_cons]
    rcases hadded : s.addFolder folder with ⟨outcome, left⟩
    cases outcome with
    | ok =>
      obtain ⟨hfree, hdirectory, rfl⟩ := addFolder_ok_iff.mp hadded
      have hnodup' : ((s.engine.folders ++ [folder]).map Folder.name).Nodup := by
        rw [List.map_append, List.map_singleton, List.nodup_append]
        refine ⟨hnodup, by simp, fun name hname other hother => ?_⟩
        rw [List.mem_singleton.mp hother]
        exact fun h => hfree (h ▸ hname)
      refine (ih hnodup').trans ?_
      simp [emit, hdirectory]
    | error fault =>
      refine iff_of_false (fun h => by cases h) ?_
      rintro ⟨⟨hdirectory, -⟩, hall⟩
      have hfree : folder.name ∉ s.engine.folders.map Folder.name := by
        rw [List.map_append, List.map_cons] at hall
        exact fun hmem => (List.nodup_append.mp hall).2.2 _ hmem _ List.mem_cons_self rfl
      have hadded' := addFolder_ok_iff.mpr ⟨hfree, hdirectory, rfl⟩
      rw [hadded] at hadded'
      cases hadded'

theorem addFolders_engine {folders : List Folder} (h : (s.addFolders folders).1 = .ok ()) :
    (s.addFolders folders).2.engine =
      { s.engine with folders := s.engine.folders ++ folders } := by
  induction folders generalizing s with
  | nil => simp [addFolders]
  | cons folder rest ih =>
    rw [addFolders] at h ⊢
    rcases hadded : s.addFolder folder with ⟨outcome, left⟩
    rw [hadded] at h
    cases outcome with
    | ok =>
      obtain ⟨-, -, rfl⟩ := addFolder_ok_iff.mp hadded
      refine (ih h).trans ?_
      simp [emit]
    | error fault => cases h

/-- The data of settings is added to an engine that shares none. -/
theorem addSettingsData_ok_iff (hshared : s.engine.sharedData = {}) (v : Value) :
    ((s.addSettingsData v).1 = .ok () ∧ (s.addSettingsData v).2.engine = engine) ↔
      ∃ shared, SharesData v shared ∧ engine = { s.engine with sharedData := shared } := by
  unfold addSettingsData
  constructor
  · rintro ⟨hdone, rfl⟩
    split at hdone
    · next htruth =>
      split at hdone
      · next data hdata =>
        refine ⟨_, .data htruth hdata, ?_⟩
        simp [addData, hshared]
      · cases hdone
    · next htruth =>
      refine ⟨_, .none htruth, ?_⟩
      rw [← hshared]
    · cases hdone
  · rintro ⟨shared, hshares, rfl⟩
    cases hshares with
    | data htruth h => simp [htruth, h, addData, hshared]
    | none htruth =>
      simp only [htruth, true_and]
      rw [← hshared]

/-- An engine is set up from settings if they are placed, and it realizes them. -/
theorem applySettings_ok_iff :
    ((s.applySettings settings).1 = .ok () ∧ (s.applySettings settings).2.engine = engine) ↔
      settings.IsRealizedBy s.files engine := by
  have hrealized : settings.IsRealizedBy s.files engine ↔ settings.IsPlaced s.files ∧
      ∃ shared, SharesData settings.data shared ∧ engine =
        { directory := settings.directory, fileExtension := settings.fileExtension
          batchSeparator := settings.batchSeparator, folders := settings.folders
          sharedData := shared } := ⟨fun h => ⟨h.placed, h.engine_eq⟩, fun h => ⟨h.1, h.2⟩⟩
  have hplaced : settings.IsPlaced s.files ↔
      (∀ path, settings.directory = some path → s.files.isDirectory path = .ok true) ∧
      (∀ folder ∈ settings.folders, s.files.isDirectory folder.path = .ok true) ∧
      (settings.folders.map Folder.name).Nodup :=
    ⟨fun h => ⟨h.directory, h.folders, h.nodup⟩, fun h => ⟨h.1, h.2.1, h.2.2⟩⟩
  rw [hrealized, hplaced]
  unfold applySettings Engine.create?
  cases hcheck : checkDirectory s.files settings.directory with
  | error fault =>
    refine iff_of_false (by simp [Except.map]) fun h => ?_
    have hfound := checkDirectory_ok_iff.mpr ⟨rfl, h.1.1⟩
    rw [hcheck] at hfound
    cases hfound
  | ok found =>
    obtain ⟨rfl, hdirectory⟩ := checkDirectory_ok_iff.mp hcheck
    simp only [Except.map]
    generalize hmade : ({ s with engine := _ } : Stage) = made
    have hfolders : made.engine.folders = [] := by rw [← hmade]
    have hadds := addFolders_ok_iff (s := made) (by simp [hfolders]) settings.folders
    have hfiles : made.files = s.files := by rw [← hmade]
    rw [hfolders, hfiles, List.nil_append] at hadds
    rcases hadded : made.addFolders settings.folders with ⟨outcome, left⟩
    rw [hadded] at hadds
    cases outcome with
    | error fault =>
      refine iff_of_false (by simp) fun h => ?_
      cases hadds.mpr h.1.2
    | ok =>
      have hleft : left.engine = { made.engine with folders := settings.folders } := by
        have hengine := addFolders_engine (congrArg Prod.fst hadded)
        rwa [hadded, hfolders, List.nil_append] at hengine
      refine (addSettingsData_ok_iff (by rw [hleft, ← hmade]) settings.data).trans ?_
      rw [and_iff_right ⟨hdirectory, hadds.mp rfl⟩, hleft, ← hmade]

/-- An engine is built from a document of settings. -/
def Builds (s : Stage) (w : Surroundings) (path : Option Path) (engine : Engine) : Prop :=
  (s.fromDocument w path).1 = .ok () ∧ (s.fromDocument w path).2.engine = engine

/-- The engine that is built realizes what the document sets. -/
theorem builds_iff (houtside : w.templates = Path.ofOutside? outside) :
    s.Builds w path engine ↔ ∃ entries settings, Settings.read w path = .ok entries ∧
      Says w.home w.here (Settings.base w path) outside entries settings ∧
      settings.IsRealizedBy s.files engine := by
  have hload {settings : Settings} : Settings.load w path = .ok settings ↔
      ∃ entries, Settings.read w path = .ok entries ∧
        Says w.home w.here (Settings.base w path) outside entries settings :=
    load_ok_iff houtside
  unfold Builds fromDocument
  constructor
  · rintro ⟨hdone, rfl⟩
    split at hdone
    · cases hdone
    · next settings hsettings =>
      obtain ⟨entries, hread, hsaid⟩ := hload.mp hsettings
      refine ⟨entries, settings, hread, hsaid, ?_⟩
      rw [← applySettings_ok_iff]
      split at hdone
      · cases hdone
      · next left happlied => simp [happlied]
  · rintro ⟨entries, settings, hread, hsaid, hrealized⟩
    obtain ⟨hdone, rfl⟩ := applySettings_ok_iff.mpr hrealized
    rw [hload.mpr ⟨entries, hread, hsaid⟩]
    rcases happlied : s.applySettings settings with ⟨outcome, left⟩
    rw [happlied] at hdone
    cases hdone
    simp [happlied]

/-! ### What engines do not depend on -/

/-- Documents that spell their folders in different ways build the same engines. -/
theorem builds_respelled_iff (h : w.Respelled path w') (hfiles : s.files = w.files)
    (hfiles' : s'.files = w'.files) (houtside : w.templates = Path.ofOutside? outside) :
    s'.Builds w' path engine ↔ s.Builds w path engine := by
  have hhere : w'.here = w.here := congrArg (Path.mk .single) h.shape.here_eq
  have hbase : Settings.base w' path = Settings.base w path := by
    rw [Settings.base, Settings.base, h.configuration_eq, hhere]
  have hisDirectory (path : Path) : s'.files.isDirectory path = s.files.isDirectory path := by
    rw [hfiles, hfiles', h.shape.isDirectory_eq]
  rw [builds_iff houtside, builds_iff (h.templates_eq.trans houtside), h.home_eq, hhere, hbase]
  rcases h.read.cases with ⟨fault, hread, hread'⟩ | ⟨entries, entries', hread, hread', hentries⟩
  · simp [hread, hread']
  · simp only [hread, hread', Except.ok.injEq, exists_and_left, exists_eq_left']
    constructor
    · rintro ⟨settings, hsettings, hrealized⟩
      exact ⟨_, hsettings.of_agree (fun key hkey hne => (hentries.others key hkey hne).symm)
          (hentries.namesFolders_iff.mp hsettings.folders),
        hrealized.of_isDirectory (fun _ _ => (hisDirectory _).symm)
          (fun _ _ => (hisDirectory _).symm) _⟩
    · rintro ⟨settings, hsettings, hrealized⟩
      exact ⟨_, hsettings.of_agree hentries.others
          (hentries.namesFolders_iff.mpr hsettings.folders),
        hrealized.of_isDirectory (fun _ _ => hisDirectory _) (fun _ _ => hisDirectory _) _⟩

/-- From an absolute path the same engines are built in every working directory, unless a default
directory is given from outside. -/
theorem builds_withHere_iff (houtside : w.templates = Path.ofOutside? outside)
    (hempty : ∀ given, outside = some given → given = "") {source : Path}
    (hsource : path.or w.configuration = some source) (h : source.isAbsolute = true)
    (here : List String) :
    { s with files := { s.files with here := here } }.Builds (w.withHere here) path engine ↔
      s.Builds w path engine := by
  have hbase' : Settings.base (w.withHere here) path = source.parent := by
    rw [Settings.base, Surroundings.withHere, hsource, Option.elim_some]
  have hbase : Settings.base w path = source.parent := by
    rw [Settings.base, hsource, Option.elim_some]
  have hparent : source.parent.isAbsolute = true := h
  have houtside' : (w.withHere here).templates = Path.ofOutside? outside := houtside
  rw [builds_iff houtside, builds_iff houtside', hbase', hbase, Settings.read_withHere hsource h]
  constructor
  · rintro ⟨entries, settings, hread, hsaid, hrealized⟩
    refine ⟨entries, settings, hread, hsaid.withHere hempty _, ?_⟩
    exact hrealized.of_isDirectory
      (fun _ hpath => (s.files.isDirectory_from here
        (hsaid.directory_isAbsolute hempty hparent hpath)).symm)
      (fun _ hfolder => (s.files.isDirectory_from here
        (hsaid.folders_isAbsolute hparent hfolder)).symm) settings.others
  · rintro ⟨entries, settings, hread, hsaid, hrealized⟩
    refine ⟨entries, settings, hread, hsaid.withHere hempty _, ?_⟩
    exact hrealized.of_isDirectory
      (fun _ hpath => s.files.isDirectory_from here
        (hsaid.directory_isAbsolute hempty hparent hpath))
      (fun _ hfolder => s.files.isDirectory_from here
        (hsaid.folders_isAbsolute hparent hfolder)) settings.others

/-! ### What is built -/

/-- An engine can be built iff all directories that are named are there, no two folders have the
same name, and the data can be shared. -/
theorem exists_builds_iff (houtside : w.templates = Path.ofOutside? outside) :
    (∃ engine, s.Builds w path engine) ↔ ∃ entries directory described,
      Settings.read w path = .ok entries ∧
      NamesDirectory w.home w.here (Settings.base w path) outside (setting entries "directory")
        directory ∧
      (∀ place, directory = some place → s.files.isDirectory place = .ok true) ∧
      setting entries "folders" = .dict described ∧ (described.map Prod.fst).Nodup ∧
      (∀ entry ∈ described, ∃ folder,
        NamesFolder w.home (Settings.base w path) entry.1 entry.2 folder ∧
          s.files.isDirectory folder.path = .ok true) ∧
      ∃ shared, SharesData (setting entries "data") shared := by
  simp only [builds_iff houtside]
  constructor
  · rintro ⟨engine, entries, settings, hread, hsaid, hplaced, shared, hshares, -⟩
    obtain ⟨described, hdescribed, hfolders⟩ := hsaid.folders
    refine ⟨entries, settings.directory, described, hread, hsaid.directory, hplaced.directory,
      hdescribed, ?_, ?_, shared, hsaid.data_eq ▸ hshares⟩
    · rw [← names_of_namesFolders hfolders]
      exact hplaced.nodup
    · exact exists_forall₂_iff.mp ⟨_, forall₂_and_right.mpr ⟨hfolders, hplaced.folders⟩⟩
  · rintro ⟨entries, directory, described, hread, hdirectory, hthere, hdescribed, hnodup, hnamed,
      shared, hshares⟩
    obtain ⟨folders, hfolders⟩ := exists_forall₂_iff.mpr hnamed
    obtain ⟨hfolders, hplaced⟩ := forall₂_and_right.mp hfolders
    refine ⟨_, entries,
      { directory := directory, fileExtension := setting entries "file_extension"
        batchSeparator := setting entries "batch_separator", folders := folders
        data := setting entries "data"
        others := entries.filter fun entry => !keys.contains entry.1 },
      hread, ⟨hdirectory, ⟨described, hdescribed, hfolders⟩, rfl, rfl, rfl, rfl⟩,
      ⟨hthere, hplaced, ?_⟩, shared, hshares, rfl⟩
    rw [names_of_namesFolders hfolders]
    exact hnodup

/-- The engine that a document builds is the one that the document describes, with the default
directory given from outside in place of the one that is set. It can be built iff all directories
are there that are named, no two folders have the same name, and the data can be shared. It is the
same however folders are spelled. What is absolute is not named from another directory, and neither
is what stands behind a tilde, if the home directory that the tilde stands for is absolute. From an
absolute path, with nothing given from outside, the engine does not depend on the working
directory. -/
theorem builds_as_described (s : Stage) (w : Surroundings) (path : Option Path)
    {outside : Option String} (houtside : w.templates = Path.ofOutside? outside) :
    (∀ engine, s.Builds w path engine ↔ ∃ entries settings,
      Settings.read w path = .ok entries ∧
      Says w.home w.here (Settings.base w path) outside entries settings ∧
      settings.IsRealizedBy s.files engine) ∧
    ((∃ engine, s.Builds w path engine) ↔ ∃ entries directory described,
      Settings.read w path = .ok entries ∧
      NamesDirectory w.home w.here (Settings.base w path) outside (setting entries "directory")
        directory ∧
      (∀ place, directory = some place → s.files.isDirectory place = .ok true) ∧
      setting entries "folders" = .dict described ∧ (described.map Prod.fst).Nodup ∧
      (∀ entry ∈ described, ∃ folder,
        NamesFolder w.home (Settings.base w path) entry.1 entry.2 folder ∧
          s.files.isDirectory folder.path = .ok true) ∧
      ∃ shared, SharesData (setting entries "data") shared) ∧
    (∀ (s' : Stage) (w' : Surroundings), w.Respelled path w' → s.files = w.files →
      s'.files = w'.files → ∀ engine, s'.Builds w' path engine ↔ s.Builds w path engine) ∧
    (∀ base q, (∀ p : Path, p.isAbsolute = true → (Path.Names w.home base p q ↔ q = p)) ∧
      ∀ user rest, Path.Names w.home base ⟨.relative, ("~" ++ user) :: rest⟩ q ↔
        ∃ text, w.home user = some text ∧ text.toList.head? ≠ some '~' ∧
          q = base.join ((Path.ofHome text).onward rest)) ∧
    ((∀ given, outside = some given → given = "") →
      ∀ source, path.or w.configuration = some source → source.isAbsolute = true →
      ∀ here engine,
        { s with files := { s.files with here := here } }.Builds (w.withHere here) path engine ↔
          s.Builds w path engine) := by
  refine ⟨fun engine => builds_iff houtside, exists_builds_iff houtside,
    fun s' w' h hfiles hfiles' engine => builds_respelled_iff h hfiles hfiles' houtside,
    fun base q => ⟨fun p hp => Path.names_of_isAbsolute hp,
      fun user rest => Path.names_home_iff user rest⟩,
    fun hempty source hsource h here engine => ?_⟩
  exact builds_withHere_iff houtside hempty hsource h here

/-- Surroundings with directories and a document of settings, which holds one entry, with a home
directory, and with a directory that may be given from outside. -/
def surroundingsWith (home : String) (directories : List (List String)) (text key : String)
    (v : Value) (outside : Option String) : Surroundings where
  files :=
    { here := ["t"]
      entries := (["t", "c", "a.yaml"], .file text) ::
        directories.map fun place => (place, .directory) }
  documents := { read := fun _ => .ok (.dict [(key, v)]), merge := Document.mergeOver }
  home user := if user = "" then some home else none
  templates := Path.ofOutside? outside

/-- The path of the document of settings. -/
def pathOfDocument : Path := Path.ofText "/t/c/a.yaml"

/-- Surroundings with a document for a folder, which is there. -/
def surroundingsWithMail (text : String) (mail : Value) (outside : Option String) : Surroundings :=
  surroundingsWith "/home/user" [["t"], ["t", "views"], ["t", "c"], ["t", "c", "mail"]] text
    "folders" (.dict [("m", mail)]) outside

/-- A folder as its path. -/
def surroundingsWithPlainMail : Option String → Surroundings :=
  surroundingsWithMail "folders:\n  m: mail\n" (.str "mail")

/-- The same folder as a mapping. -/
def surroundingsWithMappedMail : Option String → Surroundings :=
  surroundingsWithMail "folders:\n  m:\n    path: mail\n    fallback: false\n"
    (.dict [("path", .str "mail"), ("fallback", .bool false)])

theorem read_withPlainMail (outside : Option String) :
    Settings.read (surroundingsWithPlainMail outside) (some pathOfDocument) =
      .ok (Settings.defaults.put "folders" (.dict [("m", .str "mail")])) := rfl

theorem read_withMappedMail (outside : Option String) :
    Settings.read (surroundingsWithMappedMail outside) (some pathOfDocument) =
      .ok (Settings.defaults.put "folders"
        (.dict [("m", .dict [("path", .str "mail"), ("fallback", .bool false)])])) := rfl

/-- A stage with the files of surroundings. -/
def ofSurroundings (w : Surroundings) : Stage where
  files := w.files

/-- An engine with the folder. -/
def engineWithMail (directory : Option Path) : Engine where
  directory := directory
  folders := [⟨"m", Path.ofText "/t/c/mail", false⟩]

theorem respelled_withMail (outside : Option String) :
    (surroundingsWithPlainMail outside).Respelled (some pathOfDocument)
      (surroundingsWithMappedMail outside) where
  home_eq := rfl
  configuration_eq := rfl
  templates_eq := rfl
  shape := by
    refine ⟨rfl, rfl, fun place => ?_⟩
    simp only [surroundingsWithPlainMail, surroundingsWithMappedMail, surroundingsWithMail,
      surroundingsWith, List.map_cons, List.map_nil, FileTree.entryAt, FileTree.find?]
    (repeat' split) <;> constructor <;> constructor
  read := by
    rw [read_withPlainMail, read_withMappedMail]
    refine .ok ⟨fun key _ hkey => ?_, _, _, rfl, rfl, .cons ⟨rfl, .spelled rfl rfl⟩ .nil⟩
    simp only [setting, Dictionary.value?_put, if_neg hkey.symm]

/-- With a directory given from outside, an engine is built in which this is the default directory,
whereas the folder is named from the directory of the document on. The same engine is built if the
folder is spelled as a mapping. With nothing from outside an engine without a default directory is
built, from another working directory as well. -/
theorem builds_as_described_mail :
    (ofSurroundings (surroundingsWithPlainMail (some "views"))).Builds
      (surroundingsWithPlainMail (some "views")) (some pathOfDocument)
      (engineWithMail (some (Path.ofText "/t/views"))) ∧
    (ofSurroundings (surroundingsWithMappedMail (some "views"))).Builds
      (surroundingsWithMappedMail (some "views")) (some pathOfDocument)
      (engineWithMail (some (Path.ofText "/t/views"))) ∧
    (ofSurroundings (surroundingsWithPlainMail none)).Builds (surroundingsWithPlainMail none)
      (some pathOfDocument) (engineWithMail none) ∧
    (ofSurroundings ((surroundingsWithPlainMail none).withHere ["t", "views"])).Builds
      ((surroundingsWithPlainMail none).withHere ["t", "views"]) (some pathOfDocument)
      (engineWithMail none) := by
  have hdescribed (outside : Option String) := builds_as_described
    (ofSurroundings (surroundingsWithPlainMail outside)) (surroundingsWithPlainMail outside)
    (some pathOfDocument) (show _ = Path.ofOutside? outside from rfl)
  have hbuilds (outside : Option String) (directory : Option Path)
      (hdirectory : NamesDirectory (surroundingsWithPlainMail outside).home (Path.ofText "/t")
        (Path.ofText "/t/c") outside .null directory)
      (hthere : ∀ place, directory = some place →
        (surroundingsWithPlainMail outside).files.isDirectory place = .ok true) :
      (ofSurroundings (surroundingsWithPlainMail outside)).Builds
        (surroundingsWithPlainMail outside) (some pathOfDocument) (engineWithMail directory) := by
    refine ((hdescribed outside).1 _).mpr ⟨_, { directory := directory, folders := [_] },
      read_withPlainMail outside,
      ⟨hdirectory, ⟨_, rfl, .cons (.text (Path.names_iff.mpr rfl)) .nil⟩, rfl, rfl, rfl, rfl⟩,
      ⟨hthere, ?_, by simp⟩, _, .none rfl, rfl⟩
    rw [List.forall_mem_singleton]
    rfl
  have hviews := hbuilds (some "views") (some (Path.ofText "/t/views"))
    (.outside rfl (by decide) (Path.names_iff.mpr rfl)) (by rintro _ ⟨rfl⟩; rfl)
  have hnone := hbuilds none none (.none nofun) nofun
  refine ⟨hviews, ?_, hnone, ?_⟩
  · exact ((hdescribed _).2.2.1 _ _ (respelled_withMail _) rfl rfl _).mpr hviews
  · exact ((hdescribed none).2.2.2.2 nofun pathOfDocument rfl rfl ["t", "views"] _).mpr hnone

/-- Surroundings with a document that sets a default directory. -/
def surroundingsNaming (home directory : String) : Surroundings :=
  surroundingsWith home
    [["t"], ["t", "c"], ["t", "c", "~"], ["t", "c", "~", "views"], ["t", "c", "rel"],
      ["t", "c", "rel", "views"], ["home"], ["home", "user"], ["home", "user", "views"]]
    ("directory: " ++ directory ++ "\n") "directory" (.str directory) none

/-- A tilde is a home directory behind a step that stays where it is as well, although the directory
of the document has a directory of this name. A home directory that is not absolute is named from
the directory of the document on. -/
theorem builds_joins_home :
    (surroundingsNaming "/home/user" "./~/views").files.isDirectory
      (Path.ofText "/t/c/~/views") = .ok true ∧
    ¬(ofSurroundings (surroundingsNaming "/home/user" "./~/views")).Builds
      (surroundingsNaming "/home/user" "./~/views") (some pathOfDocument)
      { directory := some (Path.ofText "/t/c/~/views") } ∧
    (ofSurroundings (surroundingsNaming "/home/user" "./~/views")).Builds
      (surroundingsNaming "/home/user" "./~/views") (some pathOfDocument)
      { directory := some (Path.ofText "/home/user/views") } ∧
    (ofSurroundings (surroundingsNaming "rel" "~/views")).Builds
      (surroundingsNaming "rel" "~/views") (some pathOfDocument)
      { directory := some (Path.ofText "/t/c/rel/views") } := by
  have hhome : (ofSurroundings (surroundingsNaming "/home/user" "./~/views")).Builds
      (surroundingsNaming "/home/user" "./~/views") (some pathOfDocument)
      { directory := some (Path.ofText "/home/user/views") } := ⟨rfl, rfl⟩
  refine ⟨rfl, fun hjoined => ?_, hhome, ⟨rfl, rfl⟩⟩
  have hsame := congrArg Engine.directory (hjoined.2.symm.trans hhome.2)
  exact absurd hsame (by decide)

end Stage

end TemplateEngine
