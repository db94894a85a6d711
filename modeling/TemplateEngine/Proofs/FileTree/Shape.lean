import TemplateEngine.Proofs.CommandLine.Files

/-!
# File trees of one shape

Two file trees have the same shape if they have the same working directory, and the same directories
and files at the same places, whatever the files hold. A path then leads to the same place in both,
directories are made and files are written in both or in none, and the shape stays the same.

## Main definitions

* `Matches`: two outcomes fail alike, or have related values.
* `EndAlike`: two attempts have the same outcome and leave related states.
* `FileTree.SameShape`: file trees of one shape.
* `Log.SameTarget`: logs that send events to the same file.

## Main results

* `FileTree.SameShape.isDirectory_eq`, `FileTree.SameShape.isFile_eq`: what is where.
* `FileTree.SameShape.makeDirectories`, `FileTree.SameShape.writeText`: changes keep the shape.
* `Log.shape_deliver`, `Log.shape_setupEngine`: so does logging, whatever is logged.
-/

namespace TemplateEngine

/-- Two outcomes fail alike, or have related values. -/
inductive Matches {α β : Type} (related : α → β → Prop) : Except Fault α → Except Fault β → Prop
  | error (fault : Fault) : Matches related (.error fault) (.error fault)
  | ok {a : α} {b : β} (h : related a b) : Matches related (.ok a) (.ok b)

namespace Matches

variable {α β γ δ : Type} {related : α → β → Prop} {x : Except Fault α} {y : Except Fault β}

theorem refl {related : α → α → Prop} (h : ∀ a, related a a) (x : Except Fault α) :
    Matches related x x := by
  cases x with
  | error fault => exact .error fault
  | ok a => exact .ok (h a)

theorem cases (h : Matches related x y) :
    (∃ fault, x = .error fault ∧ y = .error fault) ∨
      ∃ a b, x = .ok a ∧ y = .ok b ∧ related a b := by
  cases h with
  | error fault => exact .inl ⟨fault, rfl, rfl⟩
  | ok h => exact .inr ⟨_, _, rfl, rfl, h⟩

theorem bind (h : Matches related x y) {f : α → Except Fault γ} {g : β → Except Fault δ}
    {after : γ → δ → Prop} (hf : ∀ a b, related a b → Matches after (f a) (g b)) :
    Matches after (x >>= f) (y >>= g) := by
  cases h with
  | error fault => exact .error fault
  | ok h => exact hf _ _ h

end Matches

/-- Two attempts have the same outcome and leave related states. -/
def EndAlike {α σ : Type} (related : σ → σ → Prop) (left left' : Except Fault α × σ) : Prop :=
  left'.1 = left.1 ∧ related left.2 left'.2

theorem EndAlike.cases {α σ : Type} {related : σ → σ → Prop} {left left' : Except Fault α × σ}
    (h : EndAlike related left left') :
    ∃ s s', related s s' ∧
      ((∃ fault, left = (.error fault, s) ∧ left' = (.error fault, s')) ∨
        ∃ a, left = (.ok a, s) ∧ left' = (.ok a, s')) := by
  obtain ⟨outcome, s⟩ := left
  obtain ⟨outcome', s'⟩ := left'
  obtain ⟨rfl, hrelated⟩ := h
  refine ⟨s, s', hrelated, ?_⟩
  cases outcome' with
  | error fault => exact .inl ⟨fault, rfl, rfl⟩
  | ok a => exact .inr ⟨a, rfl, rfl⟩

/-- Two entries are the same but for the text of a file. -/
inductive FileEntry.SameKind : FileEntry → FileEntry → Prop
  | file (text text' : String) : SameKind (.file text) (.file text')
  | directory : SameKind .directory .directory
  | unreadable (kind : FaultKind) : SameKind (.unreadable kind) (.unreadable kind)

theorem FileEntry.SameKind.refl (entry : FileEntry) : entry.SameKind entry := by
  cases entry with
  | file text => exact .file text text
  | directory => exact .directory
  | unreadable kind => exact .unreadable kind

namespace FileTree

/-- Two file trees have the same working directory, refuse the same look-ups, and have the same
directories and files at the same places, whatever the texts of the files are. -/
structure SameShape (t t' : FileTree) : Prop where
  here_eq : t'.here = t.here
  refuses?_eq : t'.refuses? = t.refuses?
  entryAt : ∀ place, Option.Rel FileEntry.SameKind (t.entryAt place) (t'.entryAt place)

namespace SameShape

variable {t t' : FileTree}

theorem refl (t : FileTree) : SameShape t t := by
  refine ⟨rfl, rfl, fun place => ?_⟩
  cases t.entryAt place with
  | none => exact .none
  | some entry => exact .some (.refl entry)

/-- What stands at a place in trees of one shape. -/
theorem entryAt_cases (h : SameShape t t') (place : List String) :
    (t.entryAt place = none ∧ t'.entryAt place = none) ∨
      (t.entryAt place = some .directory ∧ t'.entryAt place = some .directory) ∨
      ∃ entry entry', t.entryAt place = some entry ∧ t'.entryAt place = some entry' ∧
        entry.SameKind entry' ∧ entry ≠ .directory ∧ entry' ≠ .directory := by
  have hentry := h.entryAt place
  generalize t.entryAt place = found, t'.entryAt place = found' at hentry
  cases hentry with
  | none => exact .inl ⟨rfl, rfl⟩
  | some hkind =>
    refine .inr ?_
    cases hkind with
    | file text text' => exact .inr ⟨_, _, rfl, rfl, .file text text', nofun, nofun⟩
    | directory => exact .inl ⟨rfl, rfl⟩
    | unreadable kind => exact .inr ⟨_, _, rfl, rfl, .unreadable kind, nofun, nofun⟩

/-! ### Where paths lead -/

theorem startOf_eq (h : SameShape t t') (p : Path) : t'.startOf p = t.startOf p := by
  rw [startOf, startOf, h.here_eq]

/-- Steps lead to the same place in trees of one shape, where the same stands but for the text of a
file. -/
theorem walk (h : SameShape t t') (start steps : List String) :
    Option.Rel (fun found found' => found'.1 = found.1 ∧ found.2.SameKind found'.2)
      (t.walk start steps) (t'.walk start steps) := by
  induction steps generalizing start with
  | nil => exact .some ⟨rfl, .directory⟩
  | cons step rest ih =>
    rw [FileTree.walk, FileTree.walk]
    split
    · exact ih _
    · rcases h.entryAt_cases (start ++ [step]) with
        ⟨hs, ht⟩ | ⟨hs, ht⟩ | ⟨entry, entry', hs, ht, hkind, hfile, hfile'⟩
      · simp only [hs, ht]
        exact .none
      · simpa only [hs, ht] using ih _
      -- A file is the end of a path: steps behind it lead nowhere.
      · simp only [hs, ht]
        by_cases hrest : rest = []
        · simp only [hrest, if_true]
          exact .some ⟨rfl, hkind⟩
        · simp only [hrest, if_false]
          exact .none

/-- A path leads to the same place in trees of one shape, where the same stands but for the text of
a file. -/
theorem locate?_cases (h : SameShape t t') (p : Path) :
    (t.locate? p = none ∧ t'.locate? p = none) ∨
      ∃ place entry entry', t.locate? p = some (place, entry) ∧
        t'.locate? p = some (place, entry') ∧ entry.SameKind entry' := by
  have hfound := h.walk (t.startOf p) p.steps
  unfold locate?
  rw [h.startOf_eq]
  generalize t.walk (t.startOf p) p.steps = found, t'.walk (t.startOf p) p.steps = found' at hfound
  cases hfound with
  | none => exact .inl ⟨rfl, rfl⟩
  | @some left left' hkind =>
    obtain ⟨place, entry⟩ := left
    obtain ⟨place', entry'⟩ := left'
    obtain ⟨rfl, hkind⟩ := hkind
    exact .inr ⟨_, entry, entry', rfl, rfl, hkind⟩

/-- The same look-ups are refused in trees of one shape. -/
theorem refusal?_eq (h : SameShape t t') : t'.refusal? = t.refusal? := by
  have hfrom (start steps : List String) :
      t'.refusalFrom? start steps = t.refusalFrom? start steps := by
    induction steps generalizing start with
    | nil => rfl
    | cons step rest ih =>
      rw [refusalFrom?, refusalFrom?, h.refuses?_eq]
      simp only [ih]
      rcases h.entryAt_cases (start ++ [step]) with
        ⟨hs, ht⟩ | ⟨hs, ht⟩ | ⟨entry, entry', hs, ht, hkind, hfile, hfile'⟩
      · rw [hs, ht]
      · rw [hs, ht]
      · rw [hs, ht]
        split
        · rfl
        · split
          · rfl
          · cases hkind <;> rfl
  funext p
  rw [refusal?, refusal?, h.startOf_eq]
  simp only [hfrom]

theorem isDirectory_eq (h : SameShape t t') : t'.isDirectory = t.isDirectory := by
  funext p
  rw [isDirectory, isDirectory, answer, answer, h.refusal?_eq]
  rcases h.locate?_cases p with ⟨hs, ht⟩ | ⟨place, entry, entry', hs, ht, hkind⟩
  · rw [hs, ht]
  · rw [hs, ht]
    cases hkind <;> rfl

theorem isFile_eq (h : SameShape t t') : t'.isFile = t.isFile := by
  funext p
  rw [isFile, isFile, answer, answer, h.refusal?_eq]
  rcases h.locate?_cases p with ⟨hs, ht⟩ | ⟨place, entry, entry', hs, ht, hkind⟩
  · rw [hs, ht]
  · rw [hs, ht]
    cases hkind <;> rfl

/-! ### Changes -/

/-- Entries of one kind at one place keep the shape. -/
theorem put (h : SameShape t t') (place : List String) {entry entry' : FileEntry}
    (hkind : entry.SameKind entry') : SameShape (t.put place entry) (t'.put place entry') where
  here_eq := h.here_eq
  refuses?_eq := h.refuses?_eq
  entryAt wanted := by
    by_cases hwanted : place = wanted
    · subst hwanted
      by_cases hroot : place = []
      · simp only [FileTree.entryAt, hroot, if_true]
        exact .some .directory
      · rw [entryAt_put _ _ _ _ hroot, entryAt_put _ _ _ _ hroot, if_pos rfl, if_pos rfl]
        exact .some hkind
    · rw [entryAt_put_of_ne _ _ hwanted, entryAt_put_of_ne _ _ hwanted]
      exact h.entryAt wanted

theorem makeFrom (h : SameShape t t') (start steps : List String) :
    Matches SameShape (t.makeFrom start steps) (t'.makeFrom start steps) := by
  -- The trees are generalized, since each step may make a directory in them.
  induction steps generalizing t t' start with
  | nil => exact .ok h
  | cons step rest ih =>
    rw [FileTree.makeFrom, FileTree.makeFrom, h.refuses?_eq]
    split
    · exact ih h _
    · cases t.refuses? (start ++ [step]) with
      | some refusal => exact .error _
      | none =>
        rcases h.entryAt_cases (start ++ [step]) with
          ⟨hs, ht⟩ | ⟨hs, ht⟩ | ⟨entry, entry', hs, ht, hkind, hfile, hfile'⟩
        · simpa only [hs, ht] using ih (h.put _ .directory) _
        · simpa only [hs, ht] using ih h _
        · simp only [hs, ht]
          exact .error _

/-- Directories are made in trees of one shape alike. -/
theorem makeDirectories (h : SameShape t t') (p : Path) :
    Matches SameShape (t.makeDirectories p) (t'.makeDirectories p) := by
  unfold FileTree.makeDirectories
  rw [h.startOf_eq]
  split
  · exact .error _
  · exact h.makeFrom _ _

/-- Files are written in trees of one shape alike, whatever is written. -/
theorem writeText (h : SameShape t t') (p : Path) (text text' : String) :
    Matches SameShape (t.writeText p text) (t'.writeText p text') := by
  have hput (place : List String) :
      SameShape (t.put place (.file text)) (t'.put place (.file text')) :=
    h.put place (.file text text')
  unfold FileTree.writeText
  rw [h.refusal?_eq]
  split
  · exact .error _
  · rcases h.locate?_cases p with ⟨hs, ht⟩ | ⟨place, entry, entry', hs, ht, hkind⟩
    · simp only [hs, ht]
      rcases h.locate?_cases p.parent with ⟨hs, ht⟩ | ⟨place, entry, entry', hs, ht, hkind⟩
      · simp only [hs, ht]
        exact .error _
      · simp only [hs, ht]
        cases hkind with
        | directory =>
          cases p.steps.getLast? with
          | none => exact .error _
          | some name => exact .ok (hput _)
        | file | unreadable => exact .error _
    · simp only [hs, ht]
      cases hkind with
      | directory => exact .error _
      | file => exact .ok (hput _)
      | unreadable kind =>
        dsimp only
        split
        · exact .error _
        · exact .ok (hput _)

theorem appendText (h : SameShape t t') (p : Path) (text text' : String) :
    Matches SameShape (t.appendText p text) (t'.appendText p text') :=
  h.writeText p _ _

end SameShape

end FileTree

namespace Log

/-! ### Logging -/

/-- Two logs send events to the same file, or neither does. -/
structure SameTarget (l l' : Log) : Prop where
  enabled_eq : l'.enabled = l.enabled
  file_eq : l'.file = l.file

variable {l l' : Log} {files files' : FileTree}

/-- Logging to the same file keeps the shape. -/
theorem shape_deliver (h : l.SameTarget l') (hshape : files.SameShape files')
    (events events' : List Event) :
    (l.deliver files events).1.SameTarget (l'.deliver files' events').1 ∧
      (l.deliver files events).2.SameShape (l'.deliver files' events').2 := by
  unfold deliver
  rw [h.enabled_eq, h.file_eq]
  cases l.enabled with
  | false => exact ⟨h, hshape⟩
  | true =>
    refine ⟨⟨rfl, rfl⟩, ?_⟩
    cases l.file with
    | none => exact hshape
    | some path =>
      have hwritten := hshape.appendText path
        (String.join ((events.filter records).map fun event => l.line event ++ "\n"))
        (String.join ((events'.filter records).map fun event => l'.line event ++ "\n"))
      rcases hwritten.cases with ⟨fault, hs, ht⟩ | ⟨written, written', hs, ht, hshape'⟩
      · simp only [hs, ht]
        exact hshape
      · simp only [hs, ht]
        exact hshape'

theorem matches_openFile (hshape : files.SameShape files') (directory : Path) (context : String) :
    Matches (fun opened opened' => opened'.1 = opened.1 ∧ opened.2.SameShape opened'.2)
      (openFile files directory context) (openFile files' directory context) :=
  (hshape.makeDirectories directory).bind fun _ _ hmade =>
    (hmade.appendText _ "" "").bind fun _ _ hopened => .ok ⟨rfl, hopened⟩

/-- Logging is set up in trees of one shape alike, whatever is recorded. -/
theorem shape_setupEngine (l l' : Log) (hshape : files.SameShape files') (p p' : Provenance)
    (directory : Path) (templates templates' : Option Path) :
    (l'.setupEngine files' p' (some directory) templates').1 =
        (l.setupEngine files p (some directory) templates).1 ∧
      (l.setupEngine files p (some directory) templates).2.1.SameTarget
        (l'.setupEngine files' p' (some directory) templates').2.1 ∧
      (l.setupEngine files p (some directory) templates).2.2.SameShape
        (l'.setupEngine files' p' (some directory) templates').2.2 := by
  unfold setupEngine setup
  rcases (matches_openFile hshape directory "template").cases with
    ⟨fault, hs, ht⟩ | ⟨⟨path, opened⟩, ⟨path', opened'⟩, hs, ht, hpath, hopened⟩
  · simp only [hs, ht, Except.map]
    exact ⟨trivial, ⟨rfl, rfl⟩, hshape⟩
  · obtain rfl : path' = path := hpath
    have hrank : rankOf (.str "INFO") = .ok LogLevel.info.rank := rfl
    have htarget : SameTarget
        { l with enabled := true, file := some path', console := some LogLevel.info.rank }
        { l' with enabled := true, file := some path', console := some LogLevel.info.rank } :=
      ⟨rfl, rfl⟩
    have hdeliver := shape_deliver htarget hopened
    simp only [hs, ht, Except.map, hrank]
    exact ⟨trivial, hdeliver _ _⟩

end Log

end TemplateEngine
