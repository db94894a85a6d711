import TemplateEngine.Fault

/-!
# The files that templates are read from

A file tree is what a program sees of the file system: its working directory, and the files and
directories at places given by steps from the root. The steps of a path are taken one after the
other, so a step to the parent needs the directory before it to be there. Looking a place up may be
refused, as it is for names that are too long and in directories that are closed to the program; a
question about a path that leads there ends in a fault then, and not in a no.

## Main definitions

* `Refusal`: why a look-up is refused.
* `FileTree`: working directory, entries, and the places that cannot be looked up.
* `FileTree.locate?`: the place and the entry that a path leads to.
* `FileTree.refusal?`: the refusal that the steps of a path run into.
* `FileTree.isFile`, `FileTree.isDirectory`, `FileTree.exists?`, `FileTree.readText`.
* `FileTree.makeDirectories`, `FileTree.writeText`, `FileTree.delete`: changes.
-/

namespace TemplateEngine

/-- What stands at a place. -/
inductive FileEntry where
  | file (text : String)
  | directory
  /-- A file that cannot be read as a text, with the kind of the fault. -/
  | unreadable (kind : FaultKind)
  deriving DecidableEq, Repr, Inhabited

/-- Why looking up a place is refused. -/
inductive Refusal where
  /-- The name is too long, or the system fails in another way. -/
  | failed
  /-- The directory is closed to the program. -/
  | denied
  deriving DecidableEq, Repr

namespace Refusal

/-- The kind of fault that a refusal is. -/
def kind : Refusal → FaultKind
  | failed => .osError
  | denied => .permission

/-- A refusal as a fault. -/
def fault (refusal : Refusal) : Fault := .plain refusal.kind

/-- Refusals come from the operating system. -/
theorem isA_osError (refusal : Refusal) : refusal.fault.isA .osError = true := by
  cases refusal <;> rfl

/-- A refusal does not tell that a template is missing. -/
theorem isA_templateNotFound (refusal : Refusal) :
    refusal.fault.isA .templateNotFound = false := by
  cases refusal <;> rfl

/-- The refusal of a name that is too long for a directory. -/
def ofLongName? (place : List String) : Option Refusal :=
  if 255 < (place.getLast?.getD "").utf8ByteSize then some failed else none

/-- The refusal of a path that is too long as a whole. -/
def ofLongPath? (p : Path) : Option Refusal :=
  if 4096 ≤ p.text.utf8ByteSize then some failed else none

end Refusal

/-- A working directory, the entries by their steps from the root, and the places that cannot be
looked up. -/
structure FileTree where
  here : List String := []
  entries : List (List String × FileEntry) := []
  /-- The refusal of looking up a place, whether something stands there or not. -/
  refuses? : List String → Option Refusal := Refusal.ofLongName?

instance : Inhabited FileTree := ⟨{}⟩

namespace FileTree

/-- The first entry for a place in a list of entries. -/
def find? : List (List String × FileEntry) → List String → Option FileEntry
  | [], _ => none
  | (place, entry) :: rest, wanted => if place = wanted then some entry else find? rest wanted

/-- What stands at a place; the root is a directory. -/
def entryAt (t : FileTree) (place : List String) : Option FileEntry :=
  if place = [] then some .directory else find? t.entries place

/-- Puts an entry at a place. -/
def put (t : FileTree) (place : List String) (entry : FileEntry) : FileTree :=
  { t with entries := (place, entry) :: t.entries.filter (·.1 ≠ place) }

/-- Takes the steps of a path from a directory. -/
def walk (t : FileTree) : List String → List String → Option (List String × FileEntry)
  | place, [] => some (place, .directory)
  | place, step :: rest =>
    if step = ".." then walk t place.dropLast rest
    else match t.entryAt (place ++ [step]) with
      | none => none
      | some .directory => walk t (place ++ [step]) rest
      | some entry => if rest = [] then some (place ++ [step], entry) else none

/-- The place that a path begins at. -/
def startOf (t : FileTree) (p : Path) : List String := if p.isAbsolute then [] else t.here

/-- The place and the entry that a path leads to. -/
def locate? (t : FileTree) (p : Path) : Option (List String × FileEntry) :=
  t.walk (t.startOf p) p.steps

/-- The refusal that steps from a directory run into. What is not there ends the steps as well. -/
def refusalFrom? (t : FileTree) : List String → List String → Option Refusal
  | _, [] => none
  | place, step :: rest =>
    if step = ".." then refusalFrom? t place.dropLast rest
    else match t.refuses? (place ++ [step]) with
      | some refusal => some refusal
      | none => match t.entryAt (place ++ [step]) with
        | some .directory => refusalFrom? t (place ++ [step]) rest
        | _ => none

/-- The refusal that a path runs into. -/
def refusal? (t : FileTree) (p : Path) : Option Refusal :=
  match Refusal.ofLongPath? p with
  | some refusal => some refusal
  | none => t.refusalFrom? (t.startOf p) p.steps

/-- The answer to a question about what a path leads to, unless its look-up is refused. -/
def answer {α : Type} (t : FileTree) (p : Path) (a : α) : Except Fault α :=
  match t.refusal? p with
  | some refusal => .error refusal.fault
  | none => .ok a

/-- The text of the file that a path leads to, as it is stored. -/
def rawText? (t : FileTree) (p : Path) : Option String :=
  match t.locate? p with
  | some (_, .file text) => some text
  | _ => none

/-- Whether a path leads to a file. -/
def isFile (t : FileTree) (p : Path) : Except Fault Bool :=
  t.answer p <| match t.locate? p with
    | some (_, .file _) => true
    | some (_, .unreadable _) => true
    | _ => false

/-- Whether a path leads to a directory. -/
def isDirectory (t : FileTree) (p : Path) : Except Fault Bool :=
  t.answer p <| match t.locate? p with
    | some (_, .directory) => true
    | _ => false

/-- Whether a path leads anywhere. -/
def exists? (t : FileTree) (p : Path) : Except Fault Bool := t.answer p (t.locate? p).isSome

/-- Every end of line as a line feed. -/
def unixLines : List Char → List Char
  | [] => []
  | '\r' :: '\n' :: rest => '\n' :: unixLines rest
  | c :: rest => (if c = '\r' then '\n' else c) :: unixLines rest

/-- The text of a file as it is read: every end of line is a line feed. -/
def textRead (text : String) : String := String.ofList (unixLines text.toList)

/-- The text of a file as it is read, or the fault of reading what is no text. -/
def readText (t : FileTree) (p : Path) : Except Fault String :=
  match t.refusal? p with
  | some refusal => .error refusal.fault
  | none => match t.locate? p with
    | some (_, .file text) => .ok (textRead text)
    | some (_, .unreadable kind) => .error (.plain kind)
    | some (_, .directory) => .error (.plain .isADirectory)
    | none => .error (.plain .fileNotFound)

/-- Makes the directories along the steps of a path. -/
def makeFrom (t : FileTree) : List String → List String → Except Fault FileTree
  | _, [] => .ok t
  | place, step :: rest =>
    if step = ".." then makeFrom t place.dropLast rest
    else match t.refuses? (place ++ [step]), t.entryAt (place ++ [step]) with
      | some refusal, _ => .error refusal.fault
      | none, none => makeFrom (t.put (place ++ [step]) .directory) (place ++ [step]) rest
      | none, some .directory => makeFrom t (place ++ [step]) rest
      | none, some _ => .error (.plain (if rest = [] then .fileExists else .notADirectory))

/-- Makes a directory and those above it; one that is there already is left as it is. -/
def makeDirectories (t : FileTree) (p : Path) : Except Fault FileTree :=
  match Refusal.ofLongPath? p with
  | some refusal => .error refusal.fault
  | none => t.makeFrom (t.startOf p) p.steps

/-- Writes a file into a directory that is there. A file that the system does not let the program
read is not written either. -/
def writeText (t : FileTree) (p : Path) (text : String) : Except Fault FileTree :=
  match t.refusal? p with
  | some refusal => .error refusal.fault
  | none =>
    match t.locate? p with
    | some (_, .directory) => .error (.plain .isADirectory)
    | some (place, .unreadable kind) =>
      if kind.isA .osError then .error (.plain kind) else .ok (t.put place (.file text))
    | some (place, .file _) => .ok (t.put place (.file text))
    | none =>
      match t.locate? p.parent, p.steps.getLast? with
      | some (place, .directory), some name => .ok (t.put (place ++ [name]) (.file text))
      | none, _ => .error (.plain .fileNotFound)
      | some (_, .directory), none => .error (.plain .fileNotFound)
      | some _, _ => .error (.plain .notADirectory)

/-- Writes a file and makes the directories above it. -/
def writeDeep (t : FileTree) (p : Path) (text : String) : Except Fault FileTree := do
  (← t.makeDirectories p.parent).writeText p text

/-- Adds a text to the end of a file, which is made if it is not there. -/
def appendText (t : FileTree) (p : Path) (text : String) : Except Fault FileTree :=
  t.writeText p ((t.rawText? p).getD "" ++ text)

/-- Removes a file. -/
def delete (t : FileTree) (p : Path) : Except Fault FileTree :=
  match t.refusal? p with
  | some refusal => .error refusal.fault
  | none =>
    match t.locate? p with
    | some (_, .directory) => .error (.plain .isADirectory)
    | some (place, _) => .ok { t with entries := t.entries.filter (·.1 ≠ place) }
    | none => .error (.plain .fileNotFound)

theorem find?_filter_ne (entries : List (List String × FileEntry)) (place wanted : List String) :
    find? (entries.filter (·.1 ≠ place)) wanted =
      if place = wanted then none else find? entries wanted := by
  induction entries with
  | nil => simp [find?]
  | cons head rest ih =>
    obtain ⟨at', entry⟩ := head
    by_cases h : at' = place
    · subst h
      simp only [ne_eq, not_true_eq_false, decide_false, Bool.false_eq_true, not_false_eq_true,
        List.filter_cons_of_neg, find?] at ih ⊢
      rw [ih]
      split <;> rfl
    · simp only [ne_eq, h, not_false_eq_true, decide_true, List.filter_cons_of_pos, find?] at ih ⊢
      rw [ih]
      by_cases h' : at' = wanted
      · subst h'; simp [Ne.symm h]
      · simp [h']

/-- An entry is found where it was put, and nothing else is touched. -/
theorem entryAt_put (t : FileTree) (place wanted : List String) (entry : FileEntry)
    (h : place ≠ []) :
    (t.put place entry).entryAt wanted =
      if place = wanted then some entry else t.entryAt wanted := by
  by_cases hw : wanted = []
  · subst hw; simp [entryAt, h]
  · simp only [entryAt, hw, if_false, put, find?]
    by_cases h' : place = wanted
    · simp [h']
    · have := find?_filter_ne t.entries place wanted
      simp only [h', if_false] at this ⊢
      exact this

theorem mem_of_find? {entries : List (List String × FileEntry)} {place : List String}
    {entry : FileEntry} (h : find? entries place = some entry) : (place, entry) ∈ entries := by
  induction entries with
  | nil => cases h
  | cons first rest ih =>
    rw [find?] at h
    split at h
    · next hplace =>
      cases h
      rw [← hplace]
      exact List.mem_cons_self
    · exact List.mem_cons_of_mem _ (ih h)

/-- What is found by steps, and is no directory, stands at its place. -/
theorem entryAt_of_walk {t : FileTree} {entry : FileEntry} {steps place found : List String}
    (h : t.walk place steps = some (found, entry)) (hentry : entry ≠ .directory) :
    t.entryAt found = some entry ∧ found ≠ [] := by
  induction steps generalizing place with
  | nil =>
    cases h
    exact absurd rfl hentry
  | cons step rest ih =>
    rw [walk] at h
    split at h
    · exact ih h
    · split at h
      · cases h
      · exact ih h
      · next hfound =>
        split at h
        · cases h
          exact ⟨hfound, by simp⟩
        · cases h

/-- A file to which steps lead stands in an entry. -/
theorem mem_of_walk {t : FileTree} {entry : FileEntry} {steps place found : List String}
    (h : t.walk place steps = some (found, entry)) (hentry : entry ≠ .directory) :
    (found, entry) ∈ t.entries := by
  obtain ⟨hfound, hroot⟩ := entryAt_of_walk h hentry
  rw [entryAt, if_neg hroot] at hfound
  exact mem_of_find? hfound

/-- An answer that is given is the one to the question. -/
theorem answer_ok_iff {α : Type} {t : FileTree} {p : Path} {a b : α} :
    t.answer p a = .ok b ↔ t.refusal? p = none ∧ a = b := by
  unfold answer
  cases t.refusal? p <;> simp

/-- A question is left without an answer only if the look-up is refused. -/
theorem exists_of_answer_error {α : Type} {t : FileTree} {p : Path} {a : α} {fault : Fault}
    (h : t.answer p a = .error fault) : ∃ refusal : Refusal, fault = refusal.fault := by
  unfold answer at h
  cases hrefusal : t.refusal? p with
  | none => simp [hrefusal] at h
  | some refusal =>
    rw [hrefusal] at h
    cases h
    exact ⟨refusal, rfl⟩

/-- The look-up of a single step is refused if its name is too long. -/
theorem refusal?_of_longStep {t : FileTree} {p : Path} {step : String}
    (ht : t.refuses? = Refusal.ofLongName?) (hp : p.steps = [step])
    (hstep : 255 < step.utf8ByteSize) : t.refusal? p = some .failed := by
  have hparent : step ≠ ".." := by
    rintro rfl
    exact absurd hstep (by decide)
  unfold refusal? Refusal.ofLongPath?
  split
  · next refusal hrefusal =>
    split at hrefusal
    · exact hrefusal ▸ rfl
    · cases hrefusal
  · simp [hp, refusalFrom?, hparent, ht, Refusal.ofLongName?, hstep]

/-- An empty tree holds no file. -/
theorem isFile_empty {t : FileTree} (h : t.entries = []) (p : Path) : t.isFile p ≠ .ok true := by
  intro hfile
  obtain ⟨-, hfound⟩ := answer_ok_iff.mp hfile
  have hnone {entry : FileEntry} {found : List String}
      (hlocate : t.locate? p = some (found, entry)) (hentry : entry ≠ .directory) : False := by
    have hmem := mem_of_walk hlocate hentry
    rw [h] at hmem
    cases hmem
  split at hfound
  · next hlocate => exact hnone hlocate nofun
  · next hlocate => exact hnone hlocate nofun
  · cases hfound

end FileTree

end TemplateEngine
