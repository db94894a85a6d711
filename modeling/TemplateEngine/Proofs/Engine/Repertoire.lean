import TemplateEngine.Engine.Setup
import TemplateEngine.Proofs.Program.Orderly

/-!
# What templates can look up

While templates render, the host and the files stay as they are, and of the engine only the number
of renders in progress and the compiled files change. Compiling a file once and keeping it changes
no later look-up. So the host and the bodies, functions, data and paths that templates can look up
are fixed; they make up the repertoire of a stage.

## Main definitions

* `Repertoire`, `Stage.repertoire`: what the templates of a stage can look up.
* `Repertoire.Orderly`: all bodies and functions act through their own template only.

## Main results

* `Stage.repertoire_congr`: the repertoire depends on the host, the files and the engine, but not on
  the renders in progress.
* `Stage.repertoire_body`: looking up a body changes no later look-up.
* `Stage.orderly_repertoire`: what makes a repertoire orderly.
-/

namespace TemplateEngine

/-- What templates can look up while they render. -/
structure Repertoire where
  host : Host
  body : String → Except Fault (Program Unit)
  functions : FunctionTable
  functionNames : String → Except Fault (List String)
  initialData : String → Dictionary Value
  templateExists : String → Except Fault Bool
  templatePath : String → Except Fault (Option Path)

/-- All bodies and functions act through their own template only. -/
structure Repertoire.Orderly (repertoire : Repertoire) : Prop where
  body : ∀ {name body}, repertoire.body name = .ok body → body.Orderly
  function : ∀ {name f}, repertoire.functions.value? name = some f →
    ∀ arguments named, (f.callback arguments named).Orderly

/-- However a function is called, it acts through its own template only. -/
theorem Repertoire.Orderly.call {repertoire : Repertoire} (h : repertoire.Orderly) {name : String}
    {f : TemplateFunction} (hf : repertoire.functions.value? name = some f)
    (template : Option String) (arguments : List Value) (named : Dictionary Value) :
    (f.call template arguments named).Orderly := by
  unfold TemplateFunction.call
  split
  · trivial
  · exact h.function hf _ _

namespace Stage

variable {s s' : Stage}

/-- What the templates of a stage can look up. -/
def repertoire (s : Stage) : Repertoire where
  host := s.host
  body name := (s.body name).1
  functions := s.engine.functions
  functionNames := s.engine.functionNames
  initialData := s.engine.sharedData.forTemplate
  templateExists := s.templateExists
  templatePath := s.templatePath

/-- The compiled file of a path, freshly made. -/
def freshlyCompiled (s : Stage) (path : Path) : Except Fault CompiledFile :=
  match s.files.readText path with
  | .error fault => .error fault
  | .ok source => (s.host.compile source).map (⟨path, ·⟩)

/-- A freshly compiled file is what its text compiles to. -/
theorem freshlyCompiled_ok_inv {path : Path} {file : CompiledFile}
    (h : s.freshlyCompiled path = .ok file) :
    ∃ source generate, s.files.readText path = .ok source ∧ s.host.compile source = .ok generate ∧
      file = ⟨path, generate⟩ := by
  unfold freshlyCompiled at h
  cases hread : s.files.readText path with
  | error fault => simp [hread] at h
  | ok source =>
    rw [hread] at h
    obtain ⟨generate, hcompile, rfl⟩ := exists_of_map_ok h
    exact ⟨source, generate, rfl, hcompile, rfl⟩

/-- A file that is not kept is compiled. -/
theorem compiledFile_fst (s : Stage) (path : Path) :
    (s.compiledFile path).1 = match s.engine.cached? path with
      | some file => .ok file
      | none => s.freshlyCompiled path := by
  unfold compiledFile freshlyCompiled
  cases s.engine.cached? path with
  | some file => rfl
  | none =>
    cases s.files.readText path with
    | error fault => rfl
    | ok source => cases hcompile : s.host.compile source <;> simp [hcompile, Except.map]

/-- Either nothing changes, or a file that was not kept was compiled and is kept. -/
theorem compiledFile_snd (s : Stage) (path : Path) :
    (s.compiledFile path).2 = s ∨
      ∃ file, s.engine.cached? path = none ∧ s.freshlyCompiled path = .ok file ∧
        file.path = path ∧
        (s.compiledFile path).2 =
          { s with engine := { s.engine with cache := file :: s.engine.cache } }.emit
            (.fileCompiled path) := by
  unfold compiledFile freshlyCompiled
  cases s.engine.cached? path with
  | some file => exact .inl rfl
  | none =>
    cases s.files.readText path with
    | error fault => exact .inl rfl
    | ok source =>
      cases hcompile : s.host.compile source with
      | error fault => simp [hcompile]
      | ok generate =>
        refine .inr ⟨⟨path, generate⟩, rfl, ?_, rfl, ?_⟩
        · simp [hcompile, Except.map]
        · simp [hcompile]

/-- What a body is, in terms of what is registered, resolved and compiled. -/
theorem body_fst (s : Stage) (name : String) :
    (s.body name).1 = match s.engine.bodies.value? name with
      | some registered => .ok registered
      | none => match s.resolvePath name with
        | .error fault => .error fault
        | .ok none => .error .wrongType
        | .ok (some path) => (s.compiledFile path).1.map CompiledFile.body := by
  unfold body
  cases s.engine.bodies.value? name with
  | some registered => rfl
  | none =>
    rcases s.resolvePath name with fault | _ | path
    · rfl
    · rfl
    · rcases hfile : s.compiledFile path with ⟨fault | file, s'⟩ <;> simp [hfile, Except.map]

/-- Looking up a body leaves what the look-up of its file leaves. -/
theorem body_snd (s : Stage) (name : String) :
    (s.body name).2 = s ∨ ∃ path, (s.body name).2 = (s.compiledFile path).2 := by
  unfold body
  cases s.engine.bodies.value? name with
  | some registered => exact .inl rfl
  | none =>
    rcases s.resolvePath name with fault | _ | path
    · exact .inl rfl
    · exact .inl rfl
    · refine .inr ⟨path, ?_⟩
      rcases hfile : s.compiledFile path with ⟨fault | file, s'⟩ <;> simp [hfile]

/-- What is compiled is kept: the same files are found, with the same bodies. -/
theorem compiledFile_keep {path : Path} {file : CompiledFile}
    (hmissing : s.engine.cached? path = none) (hfile : s.freshlyCompiled path = .ok file)
    (hpath : file.path = path) (found : Path) :
    ({ s with engine := { s.engine with cache := file :: s.engine.cache } }.compiledFile found).1 =
      (s.compiledFile found).1 := by
  rw [compiledFile_fst, compiledFile_fst]
  by_cases h : path = found
  · subst h
    have hkept : Engine.cached? { s.engine with cache := file :: s.engine.cache } path =
        some file := by simp [Engine.cached?, hpath]
    rw [hmissing, hfile]
    simp only [hkept]
  · simp [Engine.cached?, hpath, h, freshlyCompiled]

/-- The repertoire depends on the host, on what is registered and resolved, and on what the files
that are found compile to. -/
theorem repertoire_ext (hhost : s'.host = s.host) (hbodies : s'.engine.bodies = s.engine.bodies)
    (hfunctions : s'.engine.functions = s.engine.functions)
    (hseparator : s'.engine.batchSeparator = s.engine.batchSeparator)
    (hdata : s'.engine.sharedData = s.engine.sharedData)
    (hpath : s'.resolvePath = s.resolvePath)
    (hfile : ∀ name path, s.resolvePath name = .ok (some path) →
      (s'.compiledFile path).1 = (s.compiledFile path).1) :
    s'.repertoire = s.repertoire := by
  have hbody : (fun name => (s'.body name).1) = fun name => (s.body name).1 := by
    funext name
    simp only [body_fst, hbodies, hpath]
    cases s.engine.bodies.value? name with
    | some registered => rfl
    | none =>
      rcases hresolved : s.resolvePath name with fault | _ | path
      · rfl
      · rfl
      · simp only [hfile name path hresolved]
  have hnames : s'.engine.functionNames = s.engine.functionNames := by
    funext functions
    simp only [Engine.functionNames, hseparator]
  have hexists : s'.templateExists = s.templateExists := by
    funext name
    simp only [templateExists, hpath]
  have hshown : s'.templatePath = s.templatePath := by
    funext name
    simp only [templatePath, hpath]
  simp only [repertoire, hhost, hbody, hfunctions, hnames, hdata, hexists, hshown]

/-- The repertoire depends on the host, the files and the engine, but not on the renders in
progress. -/
theorem repertoire_congr (active : Nat) (hhost : s'.host = s.host) (hfiles : s'.files = s.files)
    (hengine : s'.engine = { s.engine with activeRenders := active }) :
    s'.repertoire = s.repertoire := by
  have hpath : s'.resolvePath = s.resolvePath := by
    funext name
    simp only [resolvePath, hfiles, hengine]
    rfl
  have hfile (path : Path) : (s'.compiledFile path).1 = (s.compiledFile path).1 := by
    rw [compiledFile_fst, compiledFile_fst, freshlyCompiled, freshlyCompiled, hhost, hfiles,
      hengine]
    rfl
  exact repertoire_ext hhost (by rw [hengine]) (by rw [hengine]) (by rw [hengine]) (by rw [hengine])
    hpath fun _ path _ => hfile path

@[simp] theorem repertoire_emit (s : Stage) (event : Event) :
    (s.emit event).repertoire = s.repertoire := repertoire_congr s.engine.activeRenders rfl rfl rfl

@[simp] theorem repertoire_print (s : Stage) (text : String) :
    (s.print text).repertoire = s.repertoire :=
  repertoire_congr s.engine.activeRenders rfl rfl rfl

@[simp] theorem repertoire_withCapture (s : Stage) (capture : Capture) :
    { s with capture := capture }.repertoire = s.repertoire :=
  repertoire_congr s.engine.activeRenders rfl rfl rfl

@[simp] theorem repertoire_openRegion (s : Stage) : s.openRegion.repertoire = s.repertoire :=
  repertoire_congr s.engine.activeRenders rfl rfl rfl

@[simp] theorem repertoire_unwind (s : Stage) (depth : Nat) :
    (s.unwind depth).repertoire = s.repertoire :=
  repertoire_congr s.engine.activeRenders rfl rfl rfl

@[simp] theorem repertoire_enter (s : Stage) : s.enter.repertoire = s.repertoire :=
  repertoire_congr (s.engine.activeRenders + 1) rfl rfl rfl

@[simp] theorem repertoire_leave (s : Stage) : s.leave.repertoire = s.repertoire :=
  repertoire_congr (s.engine.activeRenders - 1) rfl rfl rfl

/-- Looking up a body changes no later look-up. -/
@[simp] theorem repertoire_body (s : Stage) (name : String) :
    (s.body name).2.repertoire = s.repertoire := by
  rcases body_snd s name with h | ⟨path, h⟩
  · rw [h]
  · rw [h]
    rcases compiledFile_snd s path with hfile | ⟨file, hmissing, hfile, hpath, hkept⟩
    · rw [hfile]
    · rw [hkept, repertoire_emit]
      exact repertoire_ext rfl rfl rfl rfl rfl rfl fun _ found _ =>
        compiledFile_keep hmissing hfile hpath found

/-- A body is looked up in the repertoire, and the capture stays as it is. -/
theorem capture_body (s : Stage) (name : String) : (s.body name).2.capture = s.capture := by
  rcases body_snd s name with h | ⟨path, h⟩
  · rw [h]
  · rw [h]
    rcases compiledFile_snd s path with hfile | ⟨file, -, -, -, hkept⟩
    · rw [hfile]
    · rw [hkept]
      rfl

/-- Nothing is printed while a body is looked up. -/
theorem printed_body (s : Stage) (name : String) : (s.body name).2.printed = s.printed := by
  rcases body_snd s name with h | ⟨path, h⟩
  · rw [h]
  · rw [h]
    rcases compiledFile_snd s path with hfile | ⟨file, -, -, -, hkept⟩
    · rw [hfile]
    · rw [hkept]
      rfl

/-- A template that has a path has a name that can be read and is located there. -/
theorem exists_locate_of_resolvePath {name : String} {path : Path}
    (h : s.resolvePath name = .ok (some path)) :
    ∃ n, s.engine.parseName name = .ok n ∧ n.locate s.engine.directory s.files = .ok path := by
  unfold resolvePath at h
  split at h
  · cases h
  · split at h
    · cases h
    · next n hparse =>
      obtain ⟨found, hlocate, hfound⟩ := exists_of_map_ok h
      cases hfound
      exact ⟨n, hparse, hlocate⟩

/-- A template that has a path has a file there. -/
theorem isFile_of_resolvePath {name : String} {path : Path}
    (h : s.resolvePath name = .ok (some path)) : s.files.isFile path = .ok true := by
  obtain ⟨n, -, hlocate⟩ := exists_locate_of_resolvePath h
  exact (TemplateName.isFile_of_locate hlocate).1

/-- A repertoire is orderly if the registered bodies, those of files, and the functions are. -/
theorem orderly_repertoire (hbodies : ∀ entry ∈ s.engine.bodies, entry.2.Orderly)
    (hfiles : ∀ {path file}, s.files.isFile path = .ok true → (s.compiledFile path).1 = .ok file →
      file.body.Orderly)
    (hfunctions : ∀ entry ∈ s.engine.functions, ∀ arguments named,
      (entry.2.callback arguments named).Orderly) : s.repertoire.Orderly := by
  refine ⟨fun {name body} h => ?_, fun h => hfunctions _ (Dictionary.mem_of_value? h)⟩
  have hbody : (s.body name).1 = .ok body := h
  rw [body_fst] at hbody
  cases hregistered : s.engine.bodies.value? name with
  | some registered =>
    rw [hregistered] at hbody
    cases hbody
    exact hbodies _ (Dictionary.mem_of_value? hregistered)
  | none =>
    rw [hregistered] at hbody
    rcases hpath : s.resolvePath name with fault | _ | path
    · simp [hpath] at hbody
    · simp [hpath] at hbody
    · cases hfile : (s.compiledFile path).1 with
      | error fault => simp [hpath, hfile, Except.map] at hbody
      | ok file =>
        simp only [hpath, hfile, Except.map, Except.ok.injEq] at hbody
        exact hbody ▸ hfiles (isFile_of_resolvePath hpath) hfile

/-- Without files and functions a repertoire is orderly if the registered bodies are. -/
theorem orderly_of_bodies (hfiles : s.files.entries = []) (hfunctions : s.engine.functions = [])
    (hbodies : ∀ entry ∈ s.engine.bodies, entry.2.Orderly) : s.repertoire.Orderly := by
  refine orderly_repertoire hbodies (fun {path file} hfile => ?_) (by rw [hfunctions]; nofun)
  exact absurd hfile (FileTree.isFile_empty hfiles path)

end Stage

end TemplateEngine
