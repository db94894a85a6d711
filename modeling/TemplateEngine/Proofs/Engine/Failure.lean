import TemplateEngine.Engine.Configuration

/-!
# Engines that cannot be built

An engine is built from a document of settings that is put over defaults. Each fault that keeps it
from being built has a cause: the document is not there, cannot be read, put over the defaults or
settled, or is of a shape that sets nothing; a directory that it names is not there, or a name is
given to two folders.

## Main definitions

* `FailsBy`: an outcome whose fault, if it is one, is as stated.
* `Surroundings.DocumentFault`: why it is not known what a document holds.
* `Settings.read`: the mapping from which settings are taken.
* `Settings.LoadFault`, `Stage.BuildFault`: the causes.

## Main results

* `Settings.failsBy_load`: the settings from a document.
* `Stage.failsBy_fromDocument`: an engine from a document.
-/

namespace TemplateEngine

/-! ### Outcomes -/

/-- If an outcome is a fault, it is as stated. -/
def FailsBy {α : Type} (faults : Fault → Prop) (outcome : Except Fault α) : Prop :=
  ∀ fault, outcome = .error fault → faults fault

namespace FailsBy

variable {α β : Type} {faults faults' : Fault → Prop} {outcome : Except Fault α} {fault : Fault}

theorem ok (a : α) : FailsBy faults (.ok a) := nofun

theorem error (h : faults fault) : FailsBy faults (.error fault : Except Fault α) := by
  rintro _ ⟨rfl⟩
  exact h

theorem mono (h : FailsBy faults outcome) (himp : ∀ fault, faults fault → faults' fault) :
    FailsBy faults' outcome := fun fault hfault => himp fault (h fault hfault)

theorem map (h : FailsBy faults outcome) (f : α → β) : FailsBy faults (outcome.map f) := by
  cases outcome with
  | ok a => exact .ok _
  | error fault => exact .error (h fault rfl)

theorem bind (h : FailsBy faults outcome) {f : α → Except Fault β}
    (hf : ∀ a, outcome = .ok a → FailsBy faults (f a)) : FailsBy faults (outcome >>= f) := by
  cases outcome with
  | ok a => exact hf a rfl
  | error fault => exact .error (h fault rfl)

end FailsBy

/-- A question about the files has no answer only if the look-up is refused. -/
theorem FileTree.failsBy_answer {α : Type} (t : FileTree) (p : Path) (a : α) :
    FailsBy (fun fault => ∃ refusal : Refusal, fault = refusal.fault) (t.answer p a) :=
  fun _ => exists_of_answer_error

/-! ### Documents -/

/-- Why it is not known what a document holds: looking for it is refused, or it is there but cannot
be read. -/
inductive Surroundings.DocumentFault (w : Surroundings) (path : Path) (fault : Fault) : Prop
  | refused (h : w.files.exists? path = .error fault)
  | unread (hexists : w.files.exists? path = .ok true)
    (h : w.documents.load w.files path = .error fault)

namespace Settings

/-! ### What a mapping sets -/

/-- What can be wrong with what a mapping sets: a value is of the wrong shape or missing, a home
directory is not known, or a folder lacks its path. -/
def IsShapeFault : Fault → Prop
  | .plain kind => kind ∈ [.typeError, .valueError, .runtimeError, .keyError, .attributeError]
  | .absent _ => True
  | _ => False

theorem failsBy_truth (v : Value) : FailsBy IsShapeFault v.truth := by
  unfold Value.truth
  split
  case h_8 => split <;> first | exact .error trivial | exact .ok _
  all_goals exact .ok _

theorem failsBy_pathFrom (home : String → Option String) (base : Path) (v : Value) :
    FailsBy IsShapeFault (pathFrom home base v) := by
  unfold pathFrom
  (repeat' split) <;> first | exact .ok _ | exact .error (by simp [IsShapeFault])

theorem failsBy_folderOf (home : String → Option String) (base : Path) (name : String)
    (v : Value) : FailsBy IsShapeFault (folderOf home base name v) := by
  unfold folderOf
  split
  · split
    · exact .ok _
    · exact .error (failsBy_pathFrom _ _ _ _ ‹_›)
  · split
    · exact .error (by simp [IsShapeFault])
    · split
      · exact .ok _
      · exact .error (failsBy_pathFrom _ _ _ _ ‹_›)
      · exact .error (failsBy_truth _ _ ‹_›)
  · exact .error (by simp [IsShapeFault])

theorem failsBy_foldersOf (home : String → Option String) (base : Path)
    (described : List (String × Value)) :
    FailsBy IsShapeFault (foldersOf home base described) := by
  induction described with
  | nil => exact .ok _
  | cons entry rest ih =>
    rw [foldersOf]
    split
    · exact .ok _
    · exact .error (failsBy_folderOf _ _ _ _ _ ‹_›)
    · exact .error (ih _ ‹_›)

theorem failsBy_directoryOf (home : String → Option String) (here base : Path)
    (templates : Option Path) (v : Value) :
    FailsBy IsShapeFault (directoryOf home here base templates v) := by
  unfold directoryOf
  split
  · split
    · exact .ok _
    · exact .error (by simp [IsShapeFault])
  · split
    · exact .ok _
    · exact (failsBy_pathFrom home base _).map _

theorem failsBy_ofEntries (w : Surroundings) (base : Path) (entries : Dictionary Value) :
    FailsBy IsShapeFault (ofEntries w base entries) := by
  unfold ofEntries
  dsimp only
  split
  · exact .error (failsBy_directoryOf _ _ _ _ _ _ ‹_›)
  · split
    · split
      · exact .error (failsBy_foldersOf _ _ _ _ ‹_›)
      · exact .ok _
    · exact .error (by simp [IsShapeFault])

/-! ### From a document -/

/-- The mapping of a document put over the defaults, or the defaults. -/
def merged (w : Surroundings) (path : Option Path) : Except Fault (Dictionary Value) :=
  (path.or w.configuration).elim (.ok defaults) (entriesFrom w)

/-- The mapping from which settings are taken: a document over the defaults, or the defaults, with
what its references stand for. -/
def read (w : Surroundings) (path : Option Path) : Except Fault (Dictionary Value) :=
  merged w path >>= settledEntries w.documents

/-- The directory that relative paths in settings belong to. -/
def base (w : Surroundings) (path : Option Path) : Path :=
  (path.or w.configuration).elim w.here Path.parent

/-- Settings are loaded by reading a mapping and taking them from it. -/
theorem load_eq_read (w : Surroundings) (path : Option Path) :
    load w path = read w path >>= ofEntries w (base w path) := by
  unfold load read merged base
  dsimp only
  cases path.or w.configuration with
  | none =>
    cases hsettled : settledEntries w.documents defaults with
    | error fault => simp only [bind, Except.bind, Option.elim, hsettled]
    | ok settled => simp only [bind, Except.bind, Option.elim, hsettled]
  | some source =>
    dsimp only [Option.elim]
    cases entriesFrom w source with
    | error fault => rfl
    | ok entries =>
      dsimp only
      cases hsettled : settledEntries w.documents entries with
      | error fault => simp only [bind, Except.bind, hsettled]
      | ok settled => simp only [bind, Except.bind, hsettled]

/-- Why settings cannot be loaded: their document is not there, cannot be read, put over the
defaults or settled, or it is of the wrong shape. -/
inductive LoadFault (w : Surroundings) (path : Option Path) : Fault → Prop
  | missing {source : Path} (hsource : path.or w.configuration = some source)
    (h : w.files.exists? source = .ok false) : LoadFault w path (.configurationMissing source)
  | document {source : Path} {fault : Fault} (hsource : path.or w.configuration = some source)
    (h : w.DocumentFault source fault) : LoadFault w path fault
  | merge {source : Path} {v : Value} {fault : Fault}
    (hsource : path.or w.configuration = some source)
    (hdocument : w.documents.load w.files source = .ok v)
    (h : w.documents.merge defaults v = .error fault) : LoadFault w path fault
  | settle {entries : Dictionary Value} {fault : Fault} (hmerged : merged w path = .ok entries)
    (h : w.documents.settle (.dict entries) = .error fault) : LoadFault w path fault
  | shape {fault : Fault} (h : IsShapeFault fault) : LoadFault w path fault

theorem failsBy_entriesFrom {w : Surroundings} {path : Option Path} {source : Path}
    (hsource : path.or w.configuration = some source) :
    FailsBy (LoadFault w path) (entriesFrom w source) := by
  unfold entriesFrom
  split
  · exact .error (.document hsource (.refused ‹_›))
  · exact .error (.missing hsource ‹_›)
  · split
    · exact fun fault hfault => .merge hsource ‹_› hfault
    · exact .error (.document hsource (.unread ‹_› ‹_›))

theorem failsBy_read (w : Surroundings) (path : Option Path) :
    FailsBy (LoadFault w path) (read w path) := by
  have hmerged : FailsBy (LoadFault w path) (merged w path) := by
    unfold merged
    cases hsource : path.or w.configuration with
    | none => exact .ok _
    | some source => exact failsBy_entriesFrom hsource
  refine hmerged.bind fun entries hentries => ?_
  unfold settledEntries
  split
  · exact .ok _
  · exact .error (.shape (by simp [IsShapeFault]))
  · exact .error (.settle hentries ‹_›)

/-- Settings that cannot be loaded have a cause. -/
theorem failsBy_load (w : Surroundings) (path : Option Path) :
    FailsBy (LoadFault w path) (load w path) := by
  rw [load_eq_read]
  exact (failsBy_read w path).bind fun entries _ =>
    (failsBy_ofEntries w _ entries).mono fun _ => .shape

end Settings

namespace Stage

/-! ### From settings to an engine -/

/-- The faults of an engine that has no place to look for templates. -/
def IsPlacingFault : Fault → Prop
  | .directoryMissing _ | .folderNameTaken _ | .folderDirectoryMissing _ => True
  | _ => False

/-- Why an engine cannot be built: its settings cannot be loaded, it has no place to look for
templates, looking for such a place is refused, or the data that it is to share is no mapping. -/
inductive BuildFault (w : Surroundings) (path : Option Path) : Fault → Prop
  | settings {fault : Fault} (h : Settings.LoadFault w path fault) : BuildFault w path fault
  | placing {fault : Fault} (h : IsPlacingFault fault) : BuildFault w path fault
  | refused (refusal : Refusal) : BuildFault w path refusal.fault
  | data {fault : Fault} (h : Settings.IsShapeFault fault) : BuildFault w path fault

open Settings (IsShapeFault)

theorem failsBy_asEntry (v : Value) : FailsBy IsShapeFault v.asEntry := by
  unfold Value.asEntry
  (repeat' split) <;> first | exact .ok _ | exact .error (by simp [IsShapeFault])

theorem failsBy_entriesOf (items : List Value) :
    FailsBy IsShapeFault (items.mapM Value.asEntry) := by
  induction items with
  | nil => exact .ok _
  | cons v rest ih =>
    rw [List.mapM_cons]
    exact (failsBy_asEntry v).bind fun _ _ => ih.bind fun _ _ => .ok _

/-- What is no dictionary is of the wrong shape. -/
theorem failsBy_asDictionary (v : Value) : FailsBy IsShapeFault v.asDictionary := by
  unfold Value.asDictionary
  split
  · exact .ok _
  · exact (failsBy_entriesOf _).bind fun _ _ => .ok _
  · split
    · exact .ok _
    · exact .error (by simp [IsShapeFault])
  · exact .error trivial
  · exact .error (by simp [IsShapeFault])

variable {w : Surroundings} {path : Option Path}

theorem failsBy_checkDirectory (files : FileTree) (directory : Option Path) :
    FailsBy (BuildFault w path) (checkDirectory files directory) := by
  unfold checkDirectory
  split
  · exact .ok _
  · refine (((files.failsBy_answer _ _).mono ?_).bind fun found _ => ?_)
    · rintro _ ⟨refusal, rfl⟩
      exact .refused refusal
    · split
      · exact .ok _
      · exact .error (.placing trivial)

theorem failsBy_addFolders (s : Stage) (folders : List Folder) :
    FailsBy (BuildFault w path) (s.addFolders folders).1 := by
  induction folders generalizing s with
  | nil => exact .ok _
  | cons folder rest ih =>
    have hadded : FailsBy (BuildFault w path) (s.engine.folders.add s.files folder) := by
      unfold Folders.add
      split
      · exact .error (.placing trivial)
      · refine (((s.files.failsBy_answer _ _).mono ?_).bind fun found _ => ?_)
        · rintro _ ⟨refusal, rfl⟩
          exact .refused refusal
        · split
          · exact .ok _
          · exact .error (.placing trivial)
    unfold addFolders addFolder
    cases hadd : s.engine.folders.add s.files folder with
    | error fault => exact .error (hadded fault hadd)
    | ok folders => exact ih _

theorem failsBy_addSettingsData (s : Stage) (v : Value) :
    FailsBy IsShapeFault (s.addSettingsData v).1 := by
  unfold addSettingsData
  split
  · split
    · exact .ok _
    · exact .error (failsBy_asDictionary _ _ ‹_›)
  · exact .ok _
  · exact .error (Settings.failsBy_truth _ _ ‹_›)

theorem failsBy_applySettings (s : Stage) (settings : Settings) :
    FailsBy (BuildFault w path) (s.applySettings settings).1 := by
  unfold applySettings Engine.create?
  cases hcheck : checkDirectory s.files settings.directory with
  | error fault => exact .error (failsBy_checkDirectory _ _ _ hcheck)
  | ok found =>
    simp only [Except.map]
    split
    · next hfault => exact .error (failsBy_addFolders _ _ _ (congrArg Prod.fst hfault))
    · exact (failsBy_addSettingsData _ _).mono fun _ => .data

/-- An engine that cannot be built from a document has a cause. -/
theorem failsBy_fromDocument (s : Stage) (w : Surroundings) (path : Option Path) :
    FailsBy (BuildFault w path) (s.fromDocument w path).1 := by
  unfold fromDocument
  split
  · exact .error (.settings (Settings.failsBy_load w path _ ‹_›))
  · next settings _ =>
    split
    · next hfault => exact .error (failsBy_applySettings s settings _ (congrArg Prod.fst hfault))
    · exact .ok _

end Stage

end TemplateEngine
