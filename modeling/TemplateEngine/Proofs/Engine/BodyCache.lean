import TemplateEngine.Proofs.Engine.Resolution
import TemplateEngine.Proofs.Render.Chronicle

/-!
# What the compiled files that are kept remember

An engine keeps the compiled file of a path from the first look-up that found it on, until it
forgets all of them. In between files are written and deleted, settings change, templates are
registered, and templates are rendered, which looks up bodies in turn. What is kept is told by the
look-ups alone: for each path it is the text that the path held at the first of them that found
it. Where the file of a name is found is told by the files as they are.

## Main definitions

* `LookUp`: the look-up of a body, on a stage.
* `Occurrence.lookUps`: the look-ups in what happens in the course of a program.
* `firstFound?`: the first look-up that found a path.
* `Stage.Past`: the look-ups since the compiled files were last forgotten.
* `Stage.Remembers`: what is kept is told by those look-ups.
* `Stage.Serves`: what body is served for a name.

## Main results

* `Stage.Remembers.lookUp`: a look-up is remembered.
* `Stage.Past.remembers`: every past is remembered.
* `Stage.Past.setup`: files and the set-up of the engine may change without an effect on the past.
* `Stage.Past.serves`: the bodies that are served, and what is kept, after any past.
-/

namespace TemplateEngine

/-- The look-up of a body, on a stage. -/
structure LookUp where
  stage : Stage
  name : String

namespace LookUp

/-- The look-up resolves its name to a path and finds a body there. -/
def Finds (l : LookUp) (path : Path) : Prop :=
  l.stage.resolvePath l.name = .ok (some path) ∧ ∃ body, (l.stage.body l.name).1 = .ok body

/-- Whether a look-up resolves its name to a path and finds a body there. -/
def finds (l : LookUp) (path : Path) : Bool :=
  match l.stage.resolvePath l.name, (l.stage.body l.name).1 with
  | .ok (some found), .ok _ => found = path
  | _, _ => false

end LookUp

/-- The first of some look-ups that found a path, if one did. -/
def firstFound? (past : List LookUp) (path : Path) : Option LookUp := past.find? (·.finds path)

mutual

/-- The look-ups in what happens, in their order. -/
def Occurrence.lookUps : Occurrence → List LookUp
  | .lookUp stage name => [⟨stage, name⟩]
  | .render _ inner _ => Occurrence.lookUpsOf inner

/-- The look-ups in all that happens, one after the other. -/
def Occurrence.lookUpsOf : List Occurrence → List LookUp
  | [] => []
  | first :: rest => first.lookUps ++ Occurrence.lookUpsOf rest

end

/-- The look-ups in the course of a render. -/
def lookUpsOfRender (depth : Nat) (data : Dictionary Value) (s : Scene) : List LookUp :=
  Occurrence.lookUpsOf ((chronicleAt depth).render data s)

namespace Stage

/-- A stage with the look-ups since its engine last forgot the compiled files, or had none. Besides
look-ups and renders there may be any changes that leave the compiled files alone. -/
inductive Past : Stage → List LookUp → Prop
  | fresh {s : Stage} (h : s.engine.cache = []) : Past s []
  | clear {past : List LookUp} {s : Stage} (h : Past s past) :
    Past { s with engine := s.engine.clearCache } []
  | change {past : List LookUp} {s s' : Stage} (h : Past s past)
    (hcache : s'.engine.cache = s.engine.cache) : Past s' past
  | lookUp {past : List LookUp} {s : Stage} (h : Past s past) (name : String) :
    Past (s.body name).2 (past ++ [⟨s, name⟩])
  | render {past : List LookUp} {s : Stage} (h : Past s past) {depth : Nat}
    {data : Dictionary Value} {template : Template} {outcome : Except Fault String} {left : Scene}
    (hrender : (nestedAt depth).render data ⟨template, s⟩ = some (outcome, left)) :
    Past left.stage (past ++ lookUpsOfRender depth data ⟨template, s⟩)
  /-- In the course of a render a body is about to be looked up. -/
  | during {past : List LookUp} {s : Stage} (h : Past s past) {depth : Nat}
    {data : Dictionary Value} {template : Template} {outcome : Except Fault String} {left : Scene}
    (hrender : (nestedAt depth).render data ⟨template, s⟩ = some (outcome, left))
    {before after : List LookUp} {l : LookUp}
    (hlookUps : lookUpsOfRender depth data ⟨template, s⟩ = before ++ l :: after) :
    Past l.stage (past ++ before)

/-- What is kept is what could be read and compiled at the first look-ups that found it. -/
def Remembers (s : Stage) (past : List LookUp) : Prop :=
  ∀ path, (s.engine.cached? path).map .ok =
    (firstFound? past path).map (·.stage.freshlyCompiled path)

/-- The body that is served for a name which is not registered, given how the name is resolved. For
a file that was found in the past it is compiled from the text at the first look-up that found it,
and otherwise from the text that the file holds, if that can be read and compiled. A fault leaves
everything as it is. -/
def Serves (s : Stage) (past : List LookUp) (name : String) : Resolution → Prop
  | .registered _ => False
  | .unreadable fault | .refused fault => s.body name = (.error fault, s)
  | .missing tried => ∃ fault, fault.kind = .templateNotFound ∧ fault.tried = tried ∧
    s.body name = (.error fault, s)
  | .found path => match firstFound? past path with
    | some l => ∃ text generate, l.stage.files.readText path = .ok text ∧
      l.stage.host.compile text = .ok generate ∧
      s.body name = (.ok (CompiledFile.mk path generate).body, s)
    | none => match s.files.readText path with
      | .error fault => s.body name = (.error fault, s)
      | .ok text => match s.host.compile text with
        | .error fault => s.body name = (.error fault, s)
        | .ok generate => (s.body name).1 = .ok (CompiledFile.mk path generate).body

end Stage

/-! ### Look-ups that find a file -/

section LookUps

variable {past : List LookUp} {path : Path}

theorem firstFound?_append (past more : List LookUp) (path : Path) :
    firstFound? (past ++ more) path = (firstFound? past path).or (firstFound? more path) :=
  List.find?_append

theorem firstFound?_singleton (l : LookUp) (path : Path) :
    firstFound? [l] path = if l.finds path then some l else none := by
  cases h : l.finds path <;> simp [firstFound?, h]

theorem Occurrence.lookUpsOf_append (first second : List Occurrence) :
    Occurrence.lookUpsOf (first ++ second) =
      Occurrence.lookUpsOf first ++ Occurrence.lookUpsOf second := by
  induction first with
  | nil => rfl
  | cons occurrence rest ih =>
    rw [List.cons_append, Occurrence.lookUpsOf, Occurrence.lookUpsOf, ih, List.append_assoc]

theorem LookUp.finds_iff {l : LookUp} : l.finds path = true ↔ l.Finds path := by
  unfold LookUp.finds LookUp.Finds
  rcases l.stage.resolvePath l.name with fault | _ | found
  · simp
  · simp
  · cases (l.stage.body l.name).1 with
    | error fault => simp
    | ok body => simp

/-- There is a first look-up that found a path if and only if one of them did. -/
theorem isSome_firstFound? : (firstFound? past path).isSome = true ↔ ∃ l ∈ past, l.Finds path := by
  rw [firstFound?, List.find?_isSome]
  simp only [LookUp.finds_iff]

end LookUps

/-! ### What a look-up keeps -/

namespace Stage

variable {s : Stage} {name : String} {path : Path} {past : List LookUp}

/-- The name that resolves to a path is not registered. -/
theorem bodies_of_resolvePath (h : s.resolvePath name = .ok (some path)) :
    s.engine.bodies.value? name = none := by
  unfold resolvePath at h
  cases hbody : s.engine.bodies.value? name with
  | none => rfl
  | some body => simp [Engine.isRegistered, Dictionary.holds, hbody] at h

/-- After a look-up of its file a path is kept if the file was found. -/
theorem cached?_compiledFile (s : Stage) (path : Path) :
    (s.compiledFile path).2.engine.cached? path = (s.compiledFile path).1.toOption := by
  unfold compiledFile
  cases hcached : s.engine.cached? path with
  | some file => exact hcached
  | none =>
    cases hread : s.files.readText path with
    | error fault => exact hcached
    | ok source =>
      cases hcompile : s.host.compile source with
      | error fault => simp [hcompile, hcached, Except.toOption]
      | ok generate => simp [hcompile, Engine.cached?, Except.toOption, emit]

/-- The look-up of another file changes nothing about a path. -/
theorem cached?_compiledFile_of_ne {other : Path} (h : other ≠ path) :
    (s.compiledFile other).2.engine.cached? path = s.engine.cached? path := by
  rcases s.compiledFile_snd other with hsame | ⟨file, -, -, hpath, hkept⟩
  · rw [hsame]
  · rw [hkept]
    simp [Engine.cached?, hpath, h, emit]

/-- After a look-up, the path that the name resolves to is kept if a body was found, and any other
path if it was kept before. -/
theorem cached?_body_of_resolved (h : s.resolvePath name = .ok (some path)) :
    (s.body name).2.engine.cached? path = (s.compiledFile path).1.toOption := by
  rw [body_of_resolved (bodies_of_resolvePath h) h]
  exact s.cached?_compiledFile path

theorem cached?_body_of_ne (h : s.resolvePath name ≠ .ok (some path)) :
    (s.body name).2.engine.cached? path = s.engine.cached? path := by
  cases hbody : s.engine.bodies.value? name with
  | some body => rw [s.body_of_registered name body hbody]
  | none =>
    rcases hresolved : s.resolvePath name with fault | _ | other
    · simp [body, hbody, hresolved]
    · simp [body, hbody, hresolved]
    · rw [body_of_resolved hbody hresolved]
      refine cached?_compiledFile_of_ne fun hother => h ?_
      rw [hresolved, hother]

/-- If a path is not kept, a look-up finds it if and only if its file can be read and compiled. -/
theorem compile_finds (hresolved : s.resolvePath name = .ok (some path))
    (hcached : s.engine.cached? path = none) :
    (s.compiledFile path).1.toOption.map .ok =
      (firstFound? [⟨s, name⟩] path).map (·.stage.freshlyCompiled path) := by
  have hbody := body_of_resolved (bodies_of_resolvePath hresolved) hresolved
  have hfresh : (s.compiledFile path).1 = s.freshlyCompiled path := by
    rw [compiledFile_fst, hcached]
  rw [firstFound?_singleton]
  cases hfile : (s.compiledFile path).1 with
  | error fault =>
    have hfinds : LookUp.finds ⟨s, name⟩ path = false := by
      unfold LookUp.finds
      rw [hbody, hfile]
      simp [Except.map]
    rw [if_neg (by rw [hfinds]; exact Bool.false_ne_true)]
    rfl
  | ok file =>
    have hfinds : LookUp.Finds ⟨s, name⟩ path := by
      refine ⟨hresolved, file.body, ?_⟩
      rw [hbody, hfile]
      rfl
    rw [if_pos (LookUp.finds_iff.mpr hfinds), Option.map_some, ← hfresh, hfile]
    rfl

/-- A path is kept if and only if it was found. -/
theorem Remembers.firstFound?_eq_none (h : s.Remembers past) :
    firstFound? past path = none ↔ s.engine.cached? path = none := by
  have hpath := congrArg Option.isNone (h path)
  rw [Option.isNone_map, Option.isNone_map] at hpath
  rw [← Option.isNone_iff_eq_none, ← hpath, Option.isNone_iff_eq_none]

/-- A look-up is remembered: if it is the first one that found a path, what the path holds then is
what is compiled and kept. -/
theorem Remembers.lookUp (h : s.Remembers past) (name : String) :
    (s.body name).2.Remembers (past ++ [⟨s, name⟩]) := by
  intro path
  rw [firstFound?_append]
  by_cases hresolved : s.resolvePath name = .ok (some path)
  · rw [cached?_body_of_resolved hresolved]
    cases hfound : firstFound? past path with
    | none =>
      rw [Option.none_or]
      exact compile_finds hresolved (h.firstFound?_eq_none.mp hfound)
    | some l =>
      rw [Option.some_or, ← hfound, ← h path, compiledFile_fst]
      cases hcached : s.engine.cached? path with
      | none => rw [h.firstFound?_eq_none.mpr hcached] at hfound; cases hfound
      | some file => rfl
  · have hfinds : LookUp.finds ⟨s, name⟩ path ≠ true := fun h => hresolved (LookUp.finds_iff.mp h).1
    rw [cached?_body_of_ne hresolved, firstFound?_singleton, if_neg hfinds, Option.or_none]
    exact h path

/-! ### Histories -/

/-- All of some look-ups, one after the other, are remembered when the next one comes. -/
def RememberedFrom : List LookUp → List LookUp → Prop
  | _, [] => True
  | past, l :: rest => l.stage.Remembers past ∧ RememberedFrom (past ++ [l]) rest

theorem RememberedFrom.append {first second : List LookUp} (h : RememberedFrom past first)
    (h' : RememberedFrom (past ++ first) second) : RememberedFrom past (first ++ second) := by
  -- The past is generalized, since each look-up joins it for those behind.
  induction first generalizing past with
  | nil => rwa [List.append_nil] at h'
  | cons l rest ih =>
    refine ⟨h.1, ih h.2 ?_⟩
    rwa [List.append_assoc, List.singleton_append]

/-- Whatever comes before a look-up is remembered. -/
theorem RememberedFrom.remembers {before after : List LookUp} {l : LookUp}
    (h : RememberedFrom past (before ++ l :: after)) : l.stage.Remembers (past ++ before) := by
  induction before generalizing past with
  | nil =>
    rw [List.append_nil]
    exact h.1
  | cons first rest ih =>
    have hrest := ih h.2
    rwa [List.append_assoc, List.singleton_append] at hrest

/-- The look-ups in what happens are remembered, then and later. -/
theorem law_remembers : Stage.Law fun s occurrences s' => ∀ past, s.Remembers past →
    RememberedFrom past (Occurrence.lookUpsOf occurrences) ∧
      s'.Remembers (past ++ Occurrence.lookUpsOf occurrences) where
  quiet := by
    rintro s s' ⟨-, -, -, active, hengine⟩ past h
    refine ⟨trivial, fun path => ?_⟩
    rw [hengine, Occurrence.lookUpsOf, List.append_nil]
    exact h path
  trans := by
    intro s s' s'' first second h h' past hpast
    obtain ⟨hfirst, hleft⟩ := h past hpast
    obtain ⟨hsecond, hleft'⟩ := h' _ hleft
    rw [Occurrence.lookUpsOf_append]
    exact ⟨hfirst.append hsecond, by rwa [← List.append_assoc]⟩
  print := by
    intro s name f hf v past h
    rw [Occurrence.lookUpsOf, List.append_nil]
    exact ⟨trivial, h⟩
  lookUp s name past h := ⟨⟨h, trivial⟩, h.lookUp name⟩
  enclose := by
    intro begun s' inner h ending past hpast
    have hinner : Occurrence.lookUpsOf [.render begun inner ending] =
        Occurrence.lookUpsOf inner := List.append_nil _
    rw [hinner]
    exact h past hpast

/-- Files are written and deleted, and the engine is set up anew, without an effect on what is
kept. -/
theorem Past.setup (h : s.Past past) :
    (∀ files, Past { s with files := files } past) ∧
    (∀ directory, (s.setDirectory directory).2.Past past) ∧
    (∀ folder, (s.addFolder folder).2.Past past) ∧
    (∀ name, (s.removeFolder name).2.Past past) ∧
    (∀ extension, Past { s with engine := { s.engine with fileExtension := extension } } past) ∧
    ∀ name body, (s.registerTemplate name body).2.Past past := by
  have hengine {result : Except Fault Engine}
      (hresult : ∀ engine, result = .ok engine → engine.cache = s.engine.cache) :
      (s.withEngine result).2.Past past := by
    cases result with
    | error fault => exact h
    | ok engine => exact h.change (hresult engine rfl)
  refine ⟨fun files => h.change rfl, fun directory => hengine fun engine hdirectory => ?_,
    fun folder => ?_, fun name => hengine fun engine hremoved => ?_,
    fun extension => h.change rfl, fun name body => ?_⟩
  · cases hfound : checkDirectory s.files directory with
    | error fault => simp [hfound, Except.map] at hdirectory
    | ok found =>
      simp only [hfound, Except.map, Except.ok.injEq] at hdirectory
      rw [← hdirectory]
  · unfold addFolder
    split
    · exact h
    · exact h.change rfl
  · cases hfolders : s.engine.folders.remove name with
    | error fault => simp [hfolders, Except.map] at hremoved
    | ok folders =>
      simp only [hfolders, Except.map, Except.ok.injEq] at hremoved
      rw [← hremoved]
  · cases body with
    | none => exact h
    | some body => exact h.change rfl

theorem remembers_of_cache (h : s.engine.cache = []) : s.Remembers [] := by
  intro path
  simp [Engine.cached?, h, firstFound?]

/-- Every past is remembered. -/
theorem Past.remembers (h : s.Past past) : s.Remembers past := by
  induction h with
  | fresh hcache => exact remembers_of_cache hcache
  | clear => exact remembers_of_cache rfl
  | change _ hcache ih =>
    intro path
    rw [Engine.cached?, hcache]
    exact ih path
  | lookUp _ name ih => exact ih.lookUp name
  | render _ hrender ih =>
    exact ((law_remembers.obeys_nestedAt _).render _ _ _ _ hrender _ ih).2
  | during _ hrender hlookUps ih =>
    have hremembered := ((law_remembers.obeys_nestedAt _).render _ _ _ _ hrender _ ih).1
    rw [lookUpsOfRender] at hlookUps
    rw [hlookUps] at hremembered
    exact hremembered.remembers

/-! ### What is served -/

/-- A path that was found is kept, compiled from the text that it held then. -/
theorem Remembers.body_eq {l : LookUp} (h : s.Remembers past)
    (hresolved : s.resolvePath name = .ok (some path)) (hfound : firstFound? past path = some l) :
    ∃ text generate, l.stage.files.readText path = .ok text ∧
      l.stage.host.compile text = .ok generate ∧
      s.body name = (.ok (CompiledFile.mk path generate).body, s) := by
  have hpath := h path
  cases hcached : s.engine.cached? path with
  | none =>
    rw [h.firstFound?_eq_none.mpr hcached] at hfound
    cases hfound
  | some file =>
    rw [hcached, hfound, Option.map_some, Option.map_some, Option.some.injEq] at hpath
    obtain ⟨text, generate, hread, hcompile, rfl⟩ := freshlyCompiled_ok_inv hpath.symm
    have hcompiled : s.compiledFile path = (.ok ⟨path, generate⟩, s) := by
      simp only [compiledFile, hcached]
    refine ⟨text, generate, hread, hcompile, ?_⟩
    rw [body_of_resolved (bodies_of_resolvePath hresolved) hresolved, hcompiled]
    rfl

/-- A path that is not kept is read and compiled. -/
theorem body_of_not_cached (hresolved : s.resolvePath name = .ok (some path))
    (hcached : s.engine.cached? path = none) :
    match s.files.readText path with
    | .error fault => s.body name = (.error fault, s)
    | .ok text => match s.host.compile text with
      | .error fault => s.body name = (.error fault, s)
      | .ok generate => (s.body name).1 = .ok (CompiledFile.mk path generate).body := by
  rw [body_of_resolved (bodies_of_resolvePath hresolved) hresolved]
  unfold compiledFile
  cases hread : s.files.readText path with
  | error fault => simp [hcached, Except.map]
  | ok text => cases hcompile : s.host.compile text <;> simp [hcached, hcompile, Except.map]

/-- In every case the body is served as the past tells. -/
theorem Remembers.serves_of_resolves {r : Resolution} (h : s.Remembers past)
    (hname : s.engine.bodies.value? name = none) (hr : s.Resolves name r) :
    s.Serves past name r := by
  have hanswers := hr.answersAs
  cases hr with
  | registered hbody =>
    rw [hname] at hbody
    cases hbody
  | unreadable => exact hanswers.body_eq
  | refused => exact hanswers.2.body_eq
  | @found n before after path =>
    have hresolved := hanswers.1.resolvePath_eq
    cases hfound : firstFound? past path with
    | some l =>
      simp only [Serves, hfound]
      exact h.body_eq hresolved hfound
    | none =>
      simp only [Serves, hfound]
      exact body_of_not_cached hresolved (h.firstFound?_eq_none.mp hfound)
  | missing =>
    obtain ⟨fault, hkind, htried, -, hbody⟩ := hanswers
    exact ⟨fault, hkind, htried, hbody⟩

/-- Whatever was done before, a name that is not registered is resolved by the files and settings as
they are now. If none of its places holds a file, or one is refused before, the look-up fails, also
when a body is kept for one of them; otherwise the first one that does gives the path. If the path
was found since the compiled files were last forgotten, the body is compiled from the text that it
held when it was found first, and otherwise from the text that it holds now; where that fails
nothing is kept. A path is kept if and only if it was found, and names with the same path share its
body. -/
theorem Past.serves (h : s.Past past) (hname : s.engine.bodies.value? name = none) :
    (∃ r, s.Resolves name r ∧ (∀ r', s.Resolves name r' → r' = r) ∧ s.Serves past name r) ∧
    (∀ path, s.engine.isCached path = true ↔ ∃ l ∈ past, l.Finds path) ∧
    ∀ other path, s.resolvePath name = .ok (some path) → s.resolvePath other = .ok (some path) →
      s.body name = s.body other := by
  have hremembers := h.remembers
  have hr : s.Resolves name (s.resolution name) := resolves_iff.mpr rfl
  refine ⟨⟨_, hr, fun r' h' => resolves_iff.mp h', hremembers.serves_of_resolves hname hr⟩,
    fun path => ?_, fun other path hpath hother => ?_⟩
  · rw [← isSome_firstFound?, Engine.isCached, Option.isSome_iff_ne_none, Option.isSome_iff_ne_none,
      ne_eq, ne_eq, hremembers.firstFound?_eq_none]
  · rw [body_of_resolved hname hpath, body_of_resolved (bodies_of_resolvePath hother) hother]

/-- A stage with one file in its default directory. -/
def withFile (text : String) : Stage where
  engine := { directory := some (.ofText "/t") }
  files := { entries := [(["t"], .directory), (["t", "a.jinja"], .file text)] }

/-- The stage after a render, with another text in the file. -/
def rewritten : Stage :=
  { ((withFile "one").render "a" []).2 with files := (withFile "two").files }

/-- When the file is written anew after a render, the body that is served is the one from before. -/
theorem Past.serves_rewritten :
    ((withFile "one").render "a" []).1 = .ok "one" ∧ ∃ past, rewritten.Past past ∧
      rewritten.engine.bodies.value? "a" = none ∧
      rewritten.body "a" =
        (.ok (CompiledFile.mk (.ofText "/t/a.jinja") fun _ => .yield "one").body, rewritten) ∧
      rewritten.engine.isCached (.ofText "/t/a.jinja") = true := by
  have hrender : (nestedAt 1000).render [] ⟨(withFile "one").engine.make "a",
      withFile "one"⟩ = some (.ok "one", ⟨_, ((withFile "one").render "a" []).2⟩) := rfl
  have hpast : rewritten.Past _ := .change (.render (.fresh rfl) hrender) rfl
  have hname : rewritten.engine.bodies.value? "a" = none := rfl
  obtain ⟨⟨r, hr, -, hserves⟩, hcached, -⟩ := hpast.serves hname
  obtain rfl := resolves_iff.mp hr
  obtain ⟨text, generate, hread, hcompile, hbody⟩ : ∃ text generate,
      (withFile "one").files.readText (.ofText "/t/a.jinja") = .ok text ∧
      (withFile "one").host.compile text = .ok generate ∧
      rewritten.body "a" =
        (.ok (CompiledFile.mk (.ofText "/t/a.jinja") generate).body, rewritten) :=
    hserves
  cases hcompile
  cases hread
  exact ⟨rfl, _, hpast, hname, hbody,
    (hcached _).mpr ⟨_, List.mem_singleton.mpr rfl, rfl, _, rfl⟩⟩

end Stage

end TemplateEngine
