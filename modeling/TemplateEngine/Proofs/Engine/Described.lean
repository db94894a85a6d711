import Mathlib.Data.List.Forall2
import TemplateEngine.Proofs.Engine.Failure
import TemplateEngine.Proofs.FileTree.Shape

/-!
# What settings say

The settings that are loaded say what a document sets: a default directory, unless another one is
given from outside, and folders, at the places that their paths name. They do not say how the
document spells its folders, nor, unless something is given from outside, where the working
directory is.

## Main definitions

* `Path.Names`: what a path names from a directory on.
* `Settings.NamesDirectory`, `Settings.NamesFolder`: the directories that settings name.
* `Settings.Says`: settings say what a mapping sets.
* `Settings.Respelled`: mappings that spell their folders in different ways.

## Main results

* `Settings.load_ok_iff`: the settings that a document sets.
* `Settings.Says.of_agree`: settings of mappings that set the same.
* `Settings.Says.withHere`: settings and the working directory.
-/

namespace TemplateEngine

/-! ### Lists side by side -/

section Lists

variable {α β : Type} {related : α → β → Prop} {l : List α} {l' : List β}

theorem forall₂_and_right {p : β → Prop} :
    List.Forall₂ (fun a b => related a b ∧ p b) l l' ↔
      List.Forall₂ related l l' ∧ ∀ b ∈ l', p b := by
  have hflip (relation : α → β → Prop) :
      List.Forall₂ relation l l' ↔ List.Forall₂ (flip relation) l' l := ⟨.flip, .flip⟩
  have hand : flip (fun a b => related a b ∧ p b) = fun b a => p b ∧ flip related b a := by
    funext b a
    exact propext and_comm
  rw [hflip, hflip related, hand, List.forall₂_and_left, and_comm]

/-- Everything in a list is related to something iff the list is related to a list. -/
theorem exists_forall₂_iff : (∃ l', List.Forall₂ related l l') ↔ ∀ a ∈ l, ∃ b, related a b := by
  induction l with
  | nil => simp
  | cons a rest ih =>
    simp only [List.forall₂_cons_left_iff, List.forall_mem_cons, ← ih]
    constructor
    · rintro ⟨_, b, more, hb, hmore, -⟩
      exact ⟨⟨b, hb⟩, more, hmore⟩
    · rintro ⟨⟨b, hb⟩, more, hmore⟩
      exact ⟨_, b, more, hb, hmore, rfl⟩

end Lists

namespace Path

/-! ### What paths name -/

/-- What a path names from a directory on: itself, if it is absolute; what stands behind its tilde,
from the home directory on that is known under the name after the tilde, if it begins with one; or
else what it leads to from the directory. A home directory that is not absolute belongs to the
directory as well. -/
inductive Names (home : String → Option String) (base : Path) : Path → Path → Prop
  | absolute {p : Path} (h : p.isAbsolute = true) : Names home base p p
  | home {user text : String} (hhome : home user = some text)
    (htilde : text.toList.head? ≠ some '~') (rest : List String) :
    Names home base ⟨.relative, ("~" ++ user) :: rest⟩ (base.join ((ofHome text).onward rest))
  | relative {steps : List String} (h : ∀ step ∈ steps.head?, step.toList.head? ≠ some '~') :
    Names home base ⟨.relative, steps⟩ (base.onward steps)

variable {home : String → Option String} {base p q : Path}

theorem expandHome_of_isAbsolute (h : p.isAbsolute = true) : p.expandHome home = some p := by
  obtain ⟨anchor, steps⟩ := p
  cases anchor with
  | relative => cases h
  | single | double => rfl

theorem expandHome_home (user : String) (rest : List String) :
    (⟨.relative, ("~" ++ user) :: rest⟩ : Path).expandHome home =
      (home user).bind fun text =>
        if text.toList.head? = some '~' then none else some ((ofHome text).onward rest) := by
  have htext : ("~" ++ user).toList = '~' :: user.toList := by rw [String.toList_append]; rfl
  simp only [expandHome, htext, String.ofList_toList]
  cases home user <;> rfl

theorem expandHome_of_no_tilde {steps : List String}
    (h : ∀ step ∈ steps.head?, step.toList.head? ≠ some '~') :
    (⟨.relative, steps⟩ : Path).expandHome home = some ⟨.relative, steps⟩ := by
  cases steps with
  | nil => rfl
  | cons first rest =>
    have hfirst : first.toList.head? ≠ some '~' := h first rfl
    unfold expandHome
    dsimp only
    split
    · next htext =>
      rw [htext] at hfirst
      exact absurd rfl hfirst
    · rfl

/-- A path begins with a tilde, and with the name of a user behind it, or it does not. -/
theorem exists_user_or (first : String) :
    (∃ user, first = "~" ++ user) ∨ first.toList.head? ≠ some '~' := by
  cases htext : first.toList with
  | nil => exact .inr nofun
  | cons c user =>
    by_cases h : c = '~'
    · subst h
      refine .inl ⟨String.ofList user, String.toList_inj.mp ?_⟩
      simp [htext]
    · refine .inr fun hhead => h ?_
      exact Option.some.inj hhead

theorem join_relative_steps (base : Path) (steps : List String) :
    base.join ⟨.relative, steps⟩ = base.onward steps :=
  join_relative _ _ rfl

theorem names_iff : Names home base p q ↔ (p.expandHome home).map base.join = some q := by
  constructor
  · intro h
    cases h with
    | @absolute _ h =>
      rw [expandHome_of_isAbsolute h, Option.map_some, join_absolute _ _ h]
    | @home user text hhome htilde rest =>
      rw [expandHome_home, hhome, Option.bind_some, if_neg htilde, Option.map_some]
    | @relative steps h =>
      rw [expandHome_of_no_tilde h, Option.map_some, join_relative_steps]
  · intro h
    by_cases habsolute : p.isAbsolute = true
    · rw [expandHome_of_isAbsolute habsolute, Option.map_some, join_absolute _ _ habsolute] at h
      exact Option.some.inj h ▸ .absolute habsolute
    · obtain ⟨anchor, steps⟩ := p
      obtain rfl : anchor = .relative := by simpa [isAbsolute] using habsolute
      by_cases hsteps : ∀ step ∈ steps.head?, step.toList.head? ≠ some '~'
      · rw [expandHome_of_no_tilde hsteps, Option.map_some, join_relative_steps] at h
        exact Option.some.inj h ▸ .relative hsteps
      · cases steps with
        | nil => exact absurd nofun hsteps
        | cons first rest =>
          obtain ⟨user, rfl⟩ | hfirst := exists_user_or first
          · rw [expandHome_home, Option.map_eq_some_iff] at h
            obtain ⟨expanded, hexpanded, rfl⟩ := h
            obtain ⟨text, hhome, hexpanded⟩ := Option.bind_eq_some_iff.mp hexpanded
            split at hexpanded
            · cases hexpanded
            · next htilde => exact Option.some.inj hexpanded ▸ .home hhome htilde rest
          · refine absurd (fun step hstep => ?_) hsteps
            cases hstep
            exact hfirst

/-- An absolute path names itself. -/
theorem names_of_isAbsolute (h : p.isAbsolute = true) : Names home base p q ↔ q = p := by
  rw [names_iff, expandHome_of_isAbsolute h, Option.map_some, join_absolute _ _ h,
    Option.some.injEq, eq_comm]

/-- What stands behind a tilde is named from a home directory on, if it is known, and from the
directory if the home directory is not absolute. -/
theorem names_home_iff (user : String) (rest : List String) :
    Names home base ⟨.relative, ("~" ++ user) :: rest⟩ q ↔
      ∃ text, home user = some text ∧ text.toList.head? ≠ some '~' ∧
        q = base.join ((ofHome text).onward rest) := by
  rw [names_iff, expandHome_home, Option.map_eq_some_iff]
  constructor
  · rintro ⟨expanded, hexpanded, rfl⟩
    obtain ⟨text, hhome, hexpanded⟩ := Option.bind_eq_some_iff.mp hexpanded
    split at hexpanded
    · cases hexpanded
    · next htilde =>
      cases hexpanded
      exact ⟨text, hhome, htilde, rfl⟩
  · rintro ⟨text, hhome, htilde, rfl⟩
    exact ⟨_, by rw [hhome, Option.bind_some, if_neg htilde], rfl⟩

/-- From an absolute directory on only absolute paths are named. -/
theorem Names.isAbsolute (h : Names home base p q) (hbase : base.isAbsolute = true) :
    q.isAbsolute = true := by
  cases h with
  | absolute h => exact h
  | home hhome htilde rest =>
    rw [join]
    split
    · assumption
    · exact hbase
  | relative => exact hbase

end Path

namespace FileTree

/-! ### What does not depend on the working directory -/

variable (t : FileTree) (here : List String) {p : Path}

theorem walk_from (place steps : List String) :
    { t with here := here }.walk place steps = t.walk place steps := by
  have hentry (place : List String) : { t with here := here }.entryAt place = t.entryAt place := rfl
  induction steps generalizing place with
  | nil => rfl
  | cons step rest ih =>
    rw [walk, walk, hentry]
    simp only [ih]

theorem refusalFrom?_from (place steps : List String) :
    { t with here := here }.refusalFrom? place steps = t.refusalFrom? place steps := by
  have hentry (place : List String) : { t with here := here }.entryAt place = t.entryAt place := rfl
  induction steps generalizing place with
  | nil => rfl
  | cons step rest ih =>
    rw [refusalFrom?, refusalFrom?, hentry]
    simp only [ih]

/-- An absolute path leads to the same from every working directory. -/
theorem locate?_from (h : p.isAbsolute = true) :
    { t with here := here }.locate? p = t.locate? p := by
  rw [locate?, locate?, startOf, startOf, if_pos h, if_pos h, walk_from]

theorem refusal?_from (h : p.isAbsolute = true) :
    { t with here := here }.refusal? p = t.refusal? p := by
  rw [refusal?, refusal?, startOf, startOf, if_pos h, if_pos h, refusalFrom?_from]

theorem answer_from {α : Type} (h : p.isAbsolute = true) (a : α) :
    { t with here := here }.answer p a = t.answer p a := by
  rw [answer, answer, refusal?_from t here h]

theorem isDirectory_from (h : p.isAbsolute = true) :
    { t with here := here }.isDirectory p = t.isDirectory p := by
  rw [isDirectory, isDirectory, answer_from t here h, locate?_from t here h]

theorem exists?_from (h : p.isAbsolute = true) :
    { t with here := here }.exists? p = t.exists? p := by
  rw [exists?, exists?, answer_from t here h, locate?_from t here h]

theorem readText_from (h : p.isAbsolute = true) :
    { t with here := here }.readText p = t.readText p := by
  rw [readText, readText, refusal?_from t here h, locate?_from t here h]

end FileTree

namespace Settings

/-! ### What settings say -/

/-- What a mapping has under a key, or else nothing. -/
def setting (entries : Dictionary Value) (key : String) : Value := (entries.value? key).getD .null

/-- The default directory that settings name: the one given from outside, from the working directory
on, if it is given and not empty; or else the one that is set, from a directory on; or else none. -/
inductive NamesDirectory (home : String → Option String) (here base : Path)
    (outside : Option String) : Value → Option Path → Prop
  | outside {text : String} {v : Value} {directory : Path} (houtside : outside = some text)
    (hne : text ≠ "") (h : Path.Names home here (Path.ofText text) directory) :
    NamesDirectory home here base outside v (some directory)
  | set {text : String} {directory : Path} (houtside : ∀ given, outside = some given → given = "")
    (h : Path.Names home base (Path.ofText text) directory) :
    NamesDirectory home here base outside (.str text) (some directory)
  | none (houtside : ∀ given, outside = some given → given = "") :
    NamesDirectory home here base outside .null none

/-- The folder that an entry describes: a path, for a folder that does not fall back, or a mapping
with a path and whether it falls back. -/
inductive NamesFolder (home : String → Option String) (base : Path) (name : String) :
    Value → Folder → Prop
  | text {text : String} {path : Path} (h : Path.Names home base (Path.ofText text) path) :
    NamesFolder home base name (.str text) ⟨name, path, false⟩
  | mapping {fields : Dictionary Value} {text : String} {path : Path} {fallback : Bool}
    (hpath : fields.value? "path" = some (.str text))
    (hfallback : (setting fields "fallback").truth = .ok fallback)
    (h : Path.Names home base (Path.ofText text) path) :
    NamesFolder home base name (.dict fields) ⟨name, path, fallback⟩

theorem NamesFolder.name_eq {home : String → Option String} {base : Path} {name : String}
    {v : Value} {folder : Folder} (h : NamesFolder home base name v folder) :
    folder.name = name := by
  cases h <;> rfl

/-- Folders have the names of the entries that describe them. -/
theorem names_of_namesFolders {home : String → Option String} {base : Path}
    {described : List (String × Value)} {folders : List Folder}
    (h : List.Forall₂ (fun entry folder => NamesFolder home base entry.1 entry.2 folder) described
      folders) : folders.map Folder.name = described.map Prod.fst := by
  induction h with
  | nil => rfl
  | cons hfolder _ ih => rw [List.map_cons, List.map_cons, ih, hfolder.name_eq]

/-- The folders that a value describes: one for each of its entries, in their order. -/
def NamesFolders (home : String → Option String) (base : Path) (v : Value)
    (folders : List Folder) : Prop :=
  ∃ described, v = .dict described ∧
    List.Forall₂ (fun entry folder => NamesFolder home base entry.1 entry.2 folder) described
      folders

/-- Settings say what a mapping sets, whose paths belong to a directory, unless another default
directory is given from outside. -/
structure Says (home : String → Option String) (here base : Path) (outside : Option String)
    (entries : Dictionary Value) (settings : Settings) : Prop where
  directory : NamesDirectory home here base outside (setting entries "directory")
    settings.directory
  folders : NamesFolders home base (setting entries "folders") settings.folders
  fileExtension_eq : settings.fileExtension = setting entries "file_extension"
  batchSeparator_eq : settings.batchSeparator = setting entries "batch_separator"
  data_eq : settings.data = setting entries "data"
  others_eq : settings.others = entries.filter fun entry => !keys.contains entry.1

section Load

variable {w : Surroundings} {home : String → Option String} {here base : Path}
  {outside : Option String} {entries : Dictionary Value} {settings : Settings}

theorem pathFrom_ok_iff {text : String} {path : Path} :
    pathFrom home base (.str text) = .ok path ↔ Path.Names home base (Path.ofText text) path := by
  rw [Path.names_iff, pathFrom]
  cases (Path.ofText text).expandHome home <;> simp

theorem pathFrom_ok {v : Value} {path : Path} (h : pathFrom home base v = .ok path) :
    ∃ text, v = .str text ∧ Path.Names home base (Path.ofText text) path := by
  cases v with
  | str text => exact ⟨text, rfl, pathFrom_ok_iff.mp h⟩
  | _ => cases h

/-- An empty text from outside gives no path, and neither does none. -/
theorem ofOutside?_eq_none_iff :
    Path.ofOutside? outside = none ↔ ∀ given, outside = some given → given = "" := by
  cases outside with
  | none => simp [Path.ofOutside?]
  | some text => by_cases h : text = "" <;> simp [Path.ofOutside?, h]

theorem ofOutside?_eq_some_iff {path : Path} :
    Path.ofOutside? outside = some path ↔
      ∃ text, outside = some text ∧ text ≠ "" ∧ Path.ofText text = path := by
  cases outside with
  | none => simp [Path.ofOutside?]
  | some text => by_cases h : text = "" <;> simp [Path.ofOutside?, h]

theorem directoryOf_ok_iff {v : Value} {directory : Option Path} :
    directoryOf home here base (Path.ofOutside? outside) v = .ok directory ↔
      NamesDirectory home here base outside v directory := by
  unfold directoryOf
  cases hgiven : Path.ofOutside? outside with
  | some path =>
    obtain ⟨text, rfl, hne, rfl⟩ := ofOutside?_eq_some_iff.mp hgiven
    have hnames {q : Path} : Path.Names home here (Path.ofText text) q ↔
        ((Path.ofText text).expandHome home).map here.join = some q := Path.names_iff
    constructor
    · intro h
      cases hexpand : (Path.ofText text).expandHome home with
      | none => simp [hexpand] at h
      | some expanded =>
        simp only [hexpand, Except.ok.injEq] at h
        subst h
        exact .outside rfl hne (hnames.mpr (by rw [hexpand]; rfl))
    · intro h
      cases h with
      | outside houtside _ h =>
        cases houtside
        obtain ⟨expanded, hexpand, rfl⟩ := Option.map_eq_some_iff.mp (hnames.mp h)
        simp [hexpand]
      | set houtside | none houtside => exact absurd (houtside text rfl) hne
  | none =>
    have hempty := ofOutside?_eq_none_iff.mp hgiven
    constructor
    · intro h
      dsimp only at h
      split at h
      · cases h
        exact .none hempty
      · cases hpath : pathFrom home base v with
        | error fault => simp [hpath, Except.map] at h
        | ok path =>
          obtain ⟨text, rfl, hnames⟩ := pathFrom_ok hpath
          simp only [hpath, Except.map, Except.ok.injEq] at h
          exact h ▸ .set hempty hnames
    · intro h
      cases h with
      | outside houtside hne => exact absurd (hempty _ houtside) hne
      | set _ h => simp [pathFrom_ok_iff.mpr h, Except.map]
      | none => rfl

theorem folderOf_ok_iff {name : String} {v : Value} {folder : Folder} :
    folderOf home base name v = .ok folder ↔ NamesFolder home base name v folder := by
  constructor
  · intro h
    unfold folderOf at h
    split at h
    · split at h
      · next hpath =>
        cases h
        exact .text (pathFrom_ok_iff.mp hpath)
      · cases h
    · split at h
      · cases h
      · next v hv =>
        split at h
        · next hpath hfallback =>
          cases h
          obtain ⟨text, rfl, hnames⟩ := pathFrom_ok hpath
          exact .mapping hv hfallback hnames
        · cases h
        · cases h
    · cases h
  · intro h
    cases h with
    | text h => simp [folderOf, pathFrom_ok_iff.mpr h]
    | mapping hpath hfallback h =>
      rw [setting] at hfallback
      simp [folderOf, hpath, hfallback, pathFrom_ok_iff.mpr h]

theorem foldersOf_ok_iff {described : List (String × Value)} {folders : List Folder} :
    foldersOf home base described = .ok folders ↔
      List.Forall₂ (fun entry folder => NamesFolder home base entry.1 entry.2 folder) described
        folders := by
  induction described generalizing folders with
  | nil => simp [foldersOf, eq_comm]
  | cons entry rest ih =>
    rw [foldersOf, List.forall₂_cons_left_iff]
    constructor
    · intro h
      split at h
      · next folder more hfolder hmore =>
        cases h
        exact ⟨folder, more, folderOf_ok_iff.mp hfolder, ih.mp hmore, rfl⟩
      · cases h
      · cases h
    · rintro ⟨folder, more, hfolder, hmore, rfl⟩
      simp only [folderOf_ok_iff.mpr hfolder, ih.mpr hmore]

theorem ofEntries_ok_iff (houtside : w.templates = Path.ofOutside? outside) :
    ofEntries w base entries = .ok settings ↔
      Says w.home w.here base outside entries settings := by
  unfold ofEntries
  rw [houtside]
  constructor
  · intro h
    dsimp only at h
    split at h
    · cases h
    · next hdirectory =>
      split at h
      · next described hdescribed =>
        split at h
        · cases h
        · next hfolders =>
          cases h
          exact ⟨directoryOf_ok_iff.mp hdirectory,
            ⟨described, hdescribed, foldersOf_ok_iff.mp hfolders⟩, rfl, rfl, rfl, rfl⟩
      · cases h
  · rintro ⟨hdirectory, ⟨described, hdescribed, hfolders⟩, hextension, hseparator, hdata, hothers⟩
    simp only [setting] at hdirectory hdescribed hextension hseparator hdata
    simp only [directoryOf_ok_iff.mpr hdirectory, hdescribed, foldersOf_ok_iff.mpr hfolders,
      Except.ok.injEq]
    rw [← hextension, ← hseparator, ← hdata, ← hothers]

/-- The settings that are loaded say what a mapping sets. -/
theorem load_ok_iff {path : Option Path} (houtside : w.templates = Path.ofOutside? outside) :
    load w path = .ok settings ↔
      ∃ entries, read w path = .ok entries ∧
        Says w.home w.here (Settings.base w path) outside entries settings := by
  rw [load_eq_read]
  constructor
  · intro h
    obtain ⟨entries, hread, hsettings⟩ := exists_of_bind_ok h
    exact ⟨entries, hread, (ofEntries_ok_iff houtside).mp hsettings⟩
  · rintro ⟨entries, hread, hsaid⟩
    rw [hread]
    exact (ofEntries_ok_iff houtside).mpr hsaid

end Load

/-! ### Mappings that describe alike -/

/-- A folder is described as before, or by a mapping that has its path and says that it does not
fall back. -/
inductive SameFolder : Value → Value → Prop
  | same (v : Value) : SameFolder v v
  | spelled {text : String} {fields : Dictionary Value}
    (hpath : fields.value? "path" = some (.str text))
    (hfallback : fields.value? "fallback" = some (.bool false)) :
    SameFolder (.str text) (.dict fields)

/-- Two mappings set the same, but may spell their folders in different ways. -/
structure Respelled (entries entries' : Dictionary Value) : Prop where
  others : ∀ key ∈ keys, key ≠ "folders" → setting entries' key = setting entries key
  folders : ∃ described described', setting entries "folders" = .dict described ∧
    setting entries' "folders" = .dict described' ∧
    List.Forall₂ (fun entry entry' => entry'.1 = entry.1 ∧ SameFolder entry.2 entry'.2) described
      described'

section Respelled

variable {home : String → Option String} {here base : Path} {outside : Option String}
  {entries entries' : Dictionary Value}
  {settings : Settings}

theorem SameFolder.namesFolder_iff {name : String} {v v' : Value} {folder : Folder}
    (h : SameFolder v v') :
    NamesFolder home base name v' folder ↔ NamesFolder home base name v folder := by
  cases h with
  | same => exact Iff.rfl
  | @spelled text fields hpath hfallback =>
    have htruth : (setting fields "fallback").truth = .ok false := by
      rw [setting, hfallback]
      rfl
    constructor
    · rintro (_ | ⟨hpath', hfallback', h⟩)
      rw [hpath] at hpath'
      rw [htruth] at hfallback'
      cases hpath'
      cases hfallback'
      exact .text h
    · rintro (h | _)
      exact .mapping hpath htruth h

/-- Respelled mappings describe the same folders. -/
theorem Respelled.namesFolders_iff (h : Respelled entries entries') {folders : List Folder} :
    NamesFolders home base (setting entries' "folders") folders ↔
      NamesFolders home base (setting entries "folders") folders := by
  obtain ⟨described, described', hdescribed, hdescribed', hsame⟩ := h.folders
  simp only [hdescribed, hdescribed', NamesFolders, Value.dict.injEq, exists_eq_left']
  clear hdescribed hdescribed'
  induction hsame generalizing folders with
  | nil => exact Iff.rfl
  | cons hentry _ ih =>
    rw [List.forall₂_cons_left_iff, List.forall₂_cons_left_iff]
    simp only [hentry.1, hentry.2.namesFolder_iff, ih]

/-- What settings say of a mapping they say of every mapping that sets the same, but for what the
engine makes no use of. -/
theorem Says.of_agree (h : Says home here base outside entries settings)
    (hothers : ∀ key ∈ keys, key ≠ "folders" → setting entries' key = setting entries key)
    (hfolders : NamesFolders home base (setting entries' "folders") settings.folders) :
    Says home here base outside entries'
      { settings with others := entries'.filter fun entry => !keys.contains entry.1 } where
  directory := by
    rw [hothers "directory" (by decide) (by decide)]
    exact h.directory
  folders := hfolders
  fileExtension_eq := by
    rw [hothers "file_extension" (by decide) (by decide)]
    exact h.fileExtension_eq
  batchSeparator_eq := by
    rw [hothers "batch_separator" (by decide) (by decide)]
    exact h.batchSeparator_eq
  data_eq := by
    rw [hothers "data" (by decide) (by decide)]
    exact h.data_eq
  others_eq := rfl

end Respelled

/-! ### The working directory -/

section Here

variable {home : String → Option String} {here base : Path} {outside : Option String}
  {entries : Dictionary Value}
  {settings : Settings}

/-- Unless it is given from outside, a default directory is not named from the working directory
on. -/
theorem NamesDirectory.withHere {v : Value} {directory : Option Path}
    (hempty : ∀ given, outside = some given → given = "")
    (h : NamesDirectory home here base outside v directory) (here' : Path) :
    NamesDirectory home here' base outside v directory := by
  cases h with
  | outside houtside hne => exact absurd (hempty _ houtside) hne
  | set _ h => exact .set hempty h
  | none => exact .none hempty

theorem Says.withHere (h : Says home here base outside entries settings)
    (hempty : ∀ given, outside = some given → given = "") (here' : Path) :
    Says home here' base outside entries settings :=
  { h with directory := h.directory.withHere hempty here' }

/-- The default directory of a document in an absolute directory is absolute. -/
theorem Says.directory_isAbsolute (h : Says home here base outside entries settings)
    (hempty : ∀ given, outside = some given → given = "") (hbase : base.isAbsolute = true)
    {directory : Path} (hdirectory : settings.directory = some directory) :
    directory.isAbsolute = true := by
  have hnames := h.directory
  rw [hdirectory] at hnames
  generalize setting entries "directory" = v at hnames
  cases hnames with
  | outside houtside hne => exact absurd (hempty _ houtside) hne
  | set _ h => exact h.isAbsolute hbase

/-- The folders of a document in an absolute directory are absolute. -/
theorem Says.folders_isAbsolute (h : Says home here base outside entries settings)
    (hbase : base.isAbsolute = true) {folder : Folder} (hfolder : folder ∈ settings.folders) :
    folder.path.isAbsolute = true := by
  obtain ⟨described, -, hfolders⟩ := h.folders
  have habsolute (v : Value) (folder : Folder) {name : String}
      (hnames : NamesFolder home base name v folder) : folder.path.isAbsolute = true := by
    cases hnames with
    | text h => exact h.isAbsolute hbase
    | mapping _ _ h => exact h.isAbsolute hbase
  exact (forall₂_and_right (p := fun folder => folder.path.isAbsolute = true).mp
    (hfolders.imp fun _ _ hnames => ⟨hnames, habsolute _ _ hnames⟩)).2 _ hfolder

end Here

end Settings

/-- Two surroundings differ at most in how their documents of settings spell folders, and in what
stands in other files. -/
structure Surroundings.Respelled (path : Option Path) (w w' : Surroundings) : Prop where
  home_eq : w'.home = w.home
  configuration_eq : w'.configuration = w.configuration
  templates_eq : w'.templates = w.templates
  shape : w.files.SameShape w'.files
  read : Matches Settings.Respelled (Settings.read w path) (Settings.read w' path)

/-- Surroundings with another working directory. -/
def Surroundings.withHere (w : Surroundings) (here : List String) : Surroundings :=
  { w with files := { w.files with here := here } }

namespace Settings

variable {w : Surroundings} {source : Path}

theorem entriesFrom_withHere (w : Surroundings) (h : source.isAbsolute = true)
    (here : List String) : entriesFrom (w.withHere here) source = entriesFrom w source := by
  rw [entriesFrom, entriesFrom, Documents.load, Documents.load, Surroundings.withHere,
    w.files.exists?_from here h, w.files.readText_from here h]

/-- What is read from an absolute path does not depend on the working directory. -/
theorem read_withHere {path : Option Path} (hsource : path.or w.configuration = some source)
    (h : source.isAbsolute = true) (here : List String) :
    read (w.withHere here) path = read w path := by
  have hsource' : path.or (w.withHere here).configuration = some source := hsource
  rw [read, read, merged, merged, hsource, hsource', Option.elim_some, Option.elim_some,
    entriesFrom_withHere w h here]
  rfl

end Settings

end TemplateEngine
