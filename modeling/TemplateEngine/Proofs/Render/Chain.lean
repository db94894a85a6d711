import TemplateEngine.Proofs.Render.Chronicle
import TemplateEngine.Proofs.Render.Inside

/-!
# Sections along a chain of layouts

Bodies execute section blocks one after the other, and each layout takes over what the bodies
before it have stored. What a name holds in the end is therefore the closed form of all the blocks
on it, those of the first body first and those of the last layout last.

What is done in a block, and between two blocks, may be any program that leaves the sections as it
finds them: it may write texts, echo a section, or insert another template.

## Main definitions

* `Block.filled`, `Block.Fills`: a block as a program, and what fills it.
* `Scene.Course`: a program runs by complete blocks.
* `Scene.Ready`: what holds between two blocks.
* `Scene.AlongLayouts`: a render runs along a chain of layouts.
* `Chain`: bodies that write texts, of which each but the last one declares the next one as its
  layout.
* `Scene.Skips`: a section is skipped.

## Main results

* `Scene.Ready.run_filled`: a block is executed as described.
* `Scene.Ready.fills_of_inner`: what fills a block.
* `Scene.Course.ready`: a course leaves its blocks described.
* `Scene.AlongLayouts.reaches`: a render comes to the end of the chain with all blocks described.
* `Chain.alongLayouts`: a render of a chain of texts does run along the layouts.
-/

namespace TemplateEngine

/-! ### Blocks as programs -/

/-- Writes texts one after the other. -/
def Program.writeAll (texts : List String) : Program Unit :=
  .forEach (fun text => .tell (.write (.str text))) texts

/-- Whether opening a section answered that it is to be written. -/
def Value.isTrue : Value → Bool
  | .bool answer => answer
  | _ => false

namespace Block

/-- What a block writes, in view of what opening the section answers. -/
def output : Block → Bool → List String
  | .written _ _ _ output => output
  | .shown _ output => output
  | .shownInline _ default => fun _ => [default]

/-- A block as a program, in which another program does the writing. -/
def filled (fill : Bool → Program Unit) : Block → Program Unit
  | .written mode name _ _ =>
    (Program.ask (.canvas (opening mode name))).bind fun answer =>
      (fill answer.isTrue).bind fun _ => .tell (.canvas .stop)
  | .shown name _ =>
    (Program.ask (.showSection name .null)).bind fun answer =>
      (fill answer.isTrue).bind fun _ => .tell (.canvas .stopSection)
  | .shownInline name default =>
    (Program.tell (.showSection name (.str default))).bind fun _ =>
      .tell (.canvas .stopSection)

/-- A block as a program. -/
def program (b : Block) : Program Unit := b.filled fun answer => .writeAll (b.output answer)

/-- Once the section of a block is open, a program writes what the block writes, and leaves sections
and captured text alone otherwise. -/
inductive Fills (nested : Nested) (s : Scene) (fill : Bool → Program Unit) : Block → Scene → Prop
  | written {mode : SectionMode} {name : String} {own : name ≠ contentSection}
    {output : Bool → List String} {answer : Value} {opened mid : Scene}
    (hopened : perform nested (.canvas (opening mode name)) s = some (.ok answer, opened))
    (hrun : (fill answer.isTrue).run (perform nested) opened = some (.ok (), mid))
    (hcanvas : mid.canvas = opened.canvas.write (String.join (output answer.isTrue))) :
    Fills nested s fill (.written mode name own output) mid
  | shown {name : String} {output : Bool → List String} {answer : Value} {opened mid : Scene}
    (hopened : perform nested (.showSection name .null) s = some (.ok answer, opened))
    (hrun : (fill answer.isTrue).run (perform nested) opened = some (.ok (), mid))
    (hcanvas : mid.canvas = opened.canvas.write (String.join (output answer.isTrue))) :
    Fills nested s fill (.shown name output) mid
  | shownInline (name default : String) : Fills nested s fill (.shownInline name default) s

end Block

/-- A program runs from one scene to another one by complete blocks, latest first, and by what only
writes in between. -/
inductive Scene.Course (nested : Nested) : Scene → Program Unit → List Block → Scene → Prop
  | done (s : Scene) : Course nested s (.done ()) [] s
  | block {b : Block} {fill : Bool → Program Unit} {p : Program Unit} {s mid s' last : Scene}
    {later : List Block} (hfills : b.Fills nested s fill mid)
    (hrun : (b.filled fill).run (perform nested) s = some (.ok (), s'))
    (hrest : Course nested s' p later last) :
    Course nested s ((b.filled fill).bind fun _ => p) (later ++ [b]) last
  | between {α : Type} {p : Program α} {f : α → Program Unit} {a : α} {s s' last : Scene}
    {later : List Block} (hrun : p.run (perform nested) s = some (.ok a, s'))
    (hwrites : s.Writes s') (hrest : Course nested s' (f a) later last) :
    Course nested s (p.bind f) later last

section Runs

variable {nested : Nested} {s s' mid left : Scene} {b : Block} {fill : Bool → Program Unit}

/-- Writing texts one after the other is writing them together. -/
theorem run_writeAll (nested : Nested) (texts : List String) (s : Scene) :
    (Program.writeAll texts).run (perform nested) s =
      some (.ok (), s.write (String.join texts)) := by
  induction texts generalizing s with
  | nil => rw [String.join_nil, Scene.write_empty]; rfl
  | cons text rest ih =>
    rw [Program.writeAll, Program.forEach, Program.run_bind,
      run_tell_ok (perform_write_str nested s text)]
    rw [String.join_cons, ← Scene.write_write]
    exact ih (s.write text)

theorem perform_stopSection (nested : Nested) (s : Scene) {c c' : Canvas}
    (h : c.stopSection = (.ok (), c')) :
    perform nested (.canvas .stopSection) (s.setCanvas c) = some (.ok .null, s.setCanvas c') := by
  change some ((CanvasOperation.stopSection.perform c).1,
    s.setCanvas (CanvasOperation.stopSection.perform c).2) = _
  rw [CanvasOperation.perform, h]
  rfl

/-! ### What holds between two blocks -/

/-- Since a body began with the capture `entry`, that capture was only written to; no section is
open, and the store holds what blocks have stored. -/
structure Scene.Ready (entry : Capture) (repertoire : Repertoire) (blocks : List Block)
    (s : Scene) : Prop where
  closed : s.template.store.openName = none
  regular : s.template.store.Regular
  describes : s.template.store.Describes blocks
  capture_eq : ∃ shown, s.stage.capture = entry.write shown
  repertoire_eq : s.stage.repertoire = repertoire

variable {entry : Capture} {repertoire : Repertoire} {blocks : List Block}

/-- Opening a section of a scene that is ready answers whether it is to be written. -/
theorem Scene.Ready.perform_opening (h : s.Ready entry repertoire blocks) (nested : Nested)
    {name : String} (own : name ≠ contentSection) (mode : SectionMode) :
    perform nested (.canvas (Block.opening mode name)) s =
      some (.ok (.bool !(s.template.store.hasSection name && mode = .once)),
        s.inSection mode name) := by
  have hopen := Canvas.perform_opening (c := s.canvas) h.closed h.regular own mode
  simp only [perform, onCanvas, hopen]
  rfl

/-- Showing a section answers whether a default is to be written, and stopping it then leaves what
is described. -/
theorem Scene.Ready.perform_show (h : s.Ready entry repertoire blocks) (nested : Nested)
    (name : String) (output : Bool → List String) :
    ∃ answer c, perform nested (.showSection name .null) s =
        some (.ok (.bool answer), s.setCanvas c) ∧
      (c.write (String.join (output answer))).stopSection =
        (.ok (), (Block.shown name output).canvas s.canvas) := by
  obtain ⟨answer, hanswer, hstop⟩ :=
    Canvas.stopSection_shown (c := s.canvas) h.closed h.regular name output
  refine ⟨answer, _, ?_, hstop⟩
  change some (((CanvasOperation.startSection name none).perform s.canvas).1,
    s.setCanvas ((CanvasOperation.startSection name none).perform s.canvas).2) = _
  rw [CanvasOperation.perform, CanvasOperation.answer, hanswer]
  rfl

/-- A block of `start`, `push` or `unshift` leaves what is described. -/
theorem Scene.Ready.run_written (h : s.Ready entry repertoire blocks) {mode : SectionMode}
    {name : String} {own : name ≠ contentSection} {output : Bool → List String}
    (hfills : (Block.written mode name own output).Fills nested s fill mid) :
    ((Block.written mode name own output).filled fill).run (perform nested) s =
      some (.ok (), mid.setCanvas ((Block.written mode name own output).canvas s.canvas)) := by
  have hopening := h.perform_opening nested own mode
  have hstop := Canvas.stop_written (c := s.canvas) h.closed h.regular mode own output
  obtain ⟨hopened, hrun, hcanvas⟩ := hfills
  rw [hopening] at hopened
  cases hopened
  have hstopped : mid.canvas.stop =
      (.ok (), (Block.written mode name own output).canvas s.canvas) := by rw [hcanvas]; exact hstop
  rw [Block.filled, Program.run_bind, Program.run_ask, hopening]
  simp only [Program.run_bind, hrun]
  exact run_tell_ok (perform_stop nested mid hstopped)

/-- A section that is shown in place leaves what is described. -/
theorem Scene.Ready.run_shown (h : s.Ready entry repertoire blocks) {name : String}
    {output : Bool → List String} (hfills : (Block.shown name output).Fills nested s fill mid) :
    ((Block.shown name output).filled fill).run (perform nested) s =
      some (.ok (), mid.setCanvas ((Block.shown name output).canvas s.canvas)) := by
  obtain ⟨answer, c, hshow, hstop⟩ := h.perform_show nested name output
  cases hfills with
  | shown hopened hrun hcanvas =>
    rw [hshow] at hopened
    cases hopened
    have hstopped : mid.canvas.stopSection =
        (.ok (), (Block.shown name output).canvas s.canvas) := by
      rw [hcanvas]
      exact hstop
    rw [Block.filled, Program.run_bind, Program.run_ask, hshow]
    simp only [Program.run_bind, hrun]
    exact run_tell_ok (perform_stopSection nested mid hstopped)

/-- A section that is shown in place with a text as the default leaves what is described. -/
theorem Scene.Ready.run_shownInline (h : s.Ready entry repertoire blocks) (nested : Nested)
    (fill : Bool → Program Unit) (name default : String) :
    ((Block.shownInline name default).filled fill).run (perform nested) s =
      some (.ok (), s.setCanvas ((Block.shownInline name default).canvas s.canvas)) := by
  have hstart :=
    Canvas.startSection_shownInline (c := s.canvas) h.closed h.regular name default
  have hshow : perform nested (.showSection name (.str default)) s =
      some (.ok (.str ""), s.setCanvas ((Block.shownInline name default).canvas s.canvas)) := by
    change some (((CanvasOperation.startSection name (some default)).perform s.canvas).1,
      s.setCanvas ((CanvasOperation.startSection name (some default)).perform s.canvas).2) = _
    rw [CanvasOperation.perform, hstart]
    rfl
  have hopenName : ((Block.shownInline name default).canvas s.canvas).store.openName = none :=
    (Block.store_frame s.template.store _).1.trans h.closed
  rw [Block.filled, Program.run_bind, run_tell_ok hshow]
  exact run_tell_ok (perform_stopSection nested s (Canvas.stopSection_of_closed _ hopenName))

/-- A block leaves what is described, whatever fills it. -/
theorem Scene.Ready.run_filled (h : s.Ready entry repertoire blocks)
    (hfills : b.Fills nested s fill mid) :
    (b.filled fill).run (perform nested) s =
      some (.ok (), mid.setCanvas (b.canvas s.canvas)) := by
  cases b with
  | written mode name own output => exact h.run_written hfills
  | shown name output => exact h.run_shown hfills
  | shownInline name default =>
    cases hfills
    exact h.run_shownInline nested fill name default

/-- The texts of a block fill it, and change nothing but sections and captured text. -/
theorem Scene.Ready.exists_fills (h : s.Ready entry repertoire blocks) (nested : Nested)
    (b : Block) :
    ∃ mid, b.Fills nested s (fun answer => .writeAll (b.output answer)) mid ∧
      ∀ c, mid.setCanvas c = s.setCanvas c := by
  cases b with
  | written mode name own output =>
    exact ⟨_, .written (h.perform_opening nested own mode) (run_writeAll nested _ _) rfl,
      fun _ => rfl⟩
  | shown name output =>
    obtain ⟨answer, c, hshow, -⟩ := h.perform_show nested name output
    exact ⟨_, .shown hshow (run_writeAll nested _ _) rfl, fun _ => rfl⟩
  | shownInline name default => exact ⟨s, .shownInline name default, fun _ => rfl⟩

/-- Whatever is done in a section fills it with some text, if it comes to an end and neither stops
the section nor runs a body of the template. -/
theorem Scene.Ready.fills_of_inner (h : s.Ready entry repertoire blocks) (hr : repertoire.Orderly)
    (hf : repertoire.FunctionsInner) {depth : Nat} {mode : SectionMode} {name : String}
    (own : name ≠ contentSection)
    (hperforms : (fill !(s.template.store.hasSection name && mode = .once)).Performs
      (perform (nestedAt depth)) (fun operation => operation.isInner) (s.inSection mode name))
    (hrun : (fill !(s.template.store.hasSection name && mode = .once)).run
      (perform (nestedAt depth)) (s.inSection mode name) = some (.ok (), mid)) :
    ∃ text, (Block.written mode name own fun _ => [text]).Fills (nestedAt depth) s fill mid := by
  have hrepertoire : (s.inSection mode name).stage.repertoire = repertoire :=
    (s.repertoire_setCanvas _).trans h.repertoire_eq
  have hwrites := run_writes (writesInside_nestedAt hr hf depth) hf hperforms rfl hrepertoire
  obtain ⟨text, htext⟩ := (hwrites _ _ hrun).canvas_eq
  refine ⟨text, .written (h.perform_opening _ own mode) hrun ?_⟩
  rw [htext, String.join_cons, String.join_nil, String.append_empty]

theorem Scene.Ready.run_block (h : s.Ready entry repertoire blocks) (nested : Nested) (b : Block) :
    b.program.run (perform nested) s = some (.ok (), s.setCanvas (b.canvas s.canvas)) := by
  obtain ⟨mid, hfills, hmid⟩ := h.exists_fills nested b
  rw [Block.program, h.run_filled hfills, hmid]

/-- After a block the scene is ready for the next one. -/
theorem Scene.Ready.block (h : s.Ready entry repertoire blocks)
    (hcanvas : s'.canvas = b.canvas s.canvas)
    (hrepertoire : s'.stage.repertoire = s.stage.repertoire) :
    s'.Ready entry repertoire (b :: blocks) := by
  obtain ⟨shown, hcapture⟩ := h.capture_eq
  have hstore : s'.template.store = b.store s.template.store := congrArg Canvas.store hcanvas
  have hcapture' : s'.stage.capture = s.stage.capture.write (b.shownText s.template.store) :=
    congrArg Canvas.capture hcanvas
  refine ⟨?_, ?_, ?_, ⟨shown ++ b.shownText s.template.store, ?_⟩,
    hrepertoire.trans h.repertoire_eq⟩
  · rw [hstore, (Block.store_frame s.template.store b).1, h.closed]
  · rw [hstore]
    exact h.regular.block h.closed b
  · rw [hstore]
    exact h.describes.block b
  · rw [hcapture', hcapture, Capture.write_write]

/-- After what only writes the scene is as ready as before. -/
theorem Scene.Ready.writes (h : s.Ready entry repertoire blocks) (hwrites : s.Writes s') :
    s'.Ready entry repertoire blocks := by
  obtain ⟨shown, hcapture⟩ := h.capture_eq
  obtain ⟨text, hcanvas⟩ := hwrites.canvas_eq
  have hcapture' : s'.stage.capture = s.stage.capture.write text :=
    congrArg Canvas.capture hcanvas
  refine ⟨?_, ?_, ?_, ⟨shown ++ text, ?_⟩, hwrites.repertoire_eq.trans h.repertoire_eq⟩
  · rw [hwrites.store_eq, h.closed]
  · rw [hwrites.store_eq]
    exact h.regular
  · rw [hwrites.store_eq]
    exact h.describes
  · rw [hcapture', hcapture, Capture.write_write]

/-- A course runs its program to the end, and leaves a scene that is ready, with its blocks
described. -/
theorem Scene.Course.ready {p : Program Unit} {later : List Block} {depth : Nat}
    (hcourse : s.Course (nestedAt depth) p later left) (h : s.Ready entry repertoire blocks) :
    p.run (perform (nestedAt depth)) s = some (.ok (), left) ∧
      left.Ready entry repertoire (later ++ blocks) := by
  -- The blocks are generalized, since each block of the course comes in front of them.
  induction hcourse generalizing blocks with
  | done s => exact ⟨rfl, h⟩
  | @block b fill p s mid s' last later hfills hrun _ ih =>
    have hleaves := repertoire_run depth (b.filled fill) s
    rw [hrun] at hleaves
    have hcanvas : s'.canvas = b.canvas s.canvas := by
      rw [h.run_filled hfills] at hrun
      cases hrun
      rfl
    obtain ⟨hrest, hlast⟩ := ih (h.block hcanvas hleaves.of_some)
    refine ⟨?_, ?_⟩
    · rw [Program.run_bind, hrun]
      exact hrest
    · rw [List.append_assoc]
      exact hlast
  | between hrun hwrites _ ih =>
    obtain ⟨hrest, hlast⟩ := ih (h.writes hwrites)
    refine ⟨?_, hlast⟩
    rw [Program.run_bind, hrun]
    exact hrest

end Runs

/-! ### Along the layouts -/

/-- A render runs along a chain of layouts: the body of each template runs its course, and all but
the last one come to their end with a layout declared. The last one goes on with something else. -/
inductive Scene.AlongLayouts (depth : Nat) (rest : Program Unit) :
    Scene → Nat → Dictionary Value → List Block → Scene → Prop
  | last {data : Dictionary Value} {s last : Scene} {body : Program Unit} {blocks : List Block}
    (hbody : s.stage.repertoire.body s.template.name = .ok (body.bind fun _ => rest))
    (hcourse : (s.inBody data).Course (nestedAt depth) body blocks last) :
    AlongLayouts depth rest s 1 data blocks last
  | layout {length : Nat} {data : Dictionary Value} {s ended closed last : Scene}
    {body : Program Unit} {blocks later : List Block} {content next : String}
    (hbody : s.stage.repertoire.body s.template.name = .ok body)
    (hcourse : (s.inBody data).Course (nestedAt (depth + length)) body blocks ended)
    (hfinish : finishBody ended = (.ok content, closed))
    (hnext : closed.template.layoutName = some next)
    (hlayout : AlongLayouts depth rest (closed.layoutScene next content) length
      closed.template.layoutData later last) :
    AlongLayouts depth rest s (length + 1) data (later ++ blocks) last

section Renders

variable {nested : Nested} {repertoire : Repertoire} {entry : Capture}
  {blocks earlier : List Block} {s last : Scene} {depth length : Nat} {data : Dictionary Value}
  {rest : Program Unit}

theorem Scene.Ready.inBody (h : s.Ready entry repertoire blocks) (data : Dictionary Value) :
    (s.inBody data).Ready s.stage.capture.openRegion repertoire blocks := by
  refine ⟨h.closed, h.regular, h.describes, ⟨"", ?_⟩, ?_⟩
  · rw [Capture.write_empty]
    exact s.capture_inBody data
  · exact (s.repertoire_inBody data).trans h.repertoire_eq

/-- A body that is ready can be ended, with the text that was written in its region. -/
theorem Scene.Ready.finishBody_eq (h : s.Ready entry.openRegion repertoire blocks) :
    ∃ content, finishBody s = (.ok content, s.withCapture entry) := by
  obtain ⟨content, hcapture⟩ := h.capture_eq
  exact ⟨content, finishBody_of_closed h.closed hcapture⟩

/-- A layout takes over what the blocks before it have stored. -/
theorem Scene.Ready.layoutScene (h : s.Ready entry repertoire blocks) (capture : Capture)
    (next content : String) :
    ((s.withCapture capture).layoutScene next content).Ready capture repertoire blocks := by
  refine ⟨rfl, .of_closed _ h.regular.content_mode, h.describes.adopt content _, ⟨"", ?_⟩, ?_⟩
  · rw [Capture.write_empty]
    rfl
  · rw [Scene.layoutScene, Stage.repertoire_emit, Scene.withCapture,
      Stage.repertoire_withCapture]
    exact h.repertoire_eq

/-- A render comes to the end of the last body of the chain with all blocks described, and from
there it goes on with the rest of that body. -/
theorem Scene.AlongLayouts.reaches (h : s.AlongLayouts depth rest length data blocks last)
    (hs : s.Ready s.stage.capture repertoire earlier) :
    ((nestedAt (depth + length)).render data s).map Prod.fst =
        (completeBody (nestedAt depth) (rest.run (perform (nestedAt depth)) last)).map Prod.fst ∧
      ∃ entry, last.Ready entry repertoire (blocks ++ earlier) := by
  -- To a layout the blocks of the bodies before it are earlier ones.
  induction h generalizing earlier with
  | @last data s last body blocks hbody hcourse =>
    obtain ⟨hrun, hlast⟩ := hcourse.ready (hs.inBody data)
    rw [hs.repertoire_eq] at hbody
    refine ⟨(render_outcome_of_body (nestedAt depth) data hs.repertoire_eq hbody).trans ?_,
      _, hlast⟩
    rw [Program.run_bind, hrun]
  | @layout length data s ended closed last body blocks later content next hbody hcourse hfinish
      hnext _ ih =>
    obtain ⟨hrun, hready⟩ := hcourse.ready (hs.inBody data)
    obtain ⟨content', hfinish'⟩ := hready.finishBody_eq
    cases hfinish.symm.trans hfinish'
    obtain ⟨houtcome, entry, hlast⟩ := ih (hready.layoutScene _ next content)
    refine ⟨?_, entry, by rw [List.append_assoc]; exact hlast⟩
    rw [hs.repertoire_eq] at hbody
    refine (render_outcome_of_body (nestedAt (depth + length)) data hs.repertoire_eq hbody).trans ?_
    have hcomplete : completeBody (nestedAt (depth + length)) (some (.ok (), ended)) =
        applyLayout (nestedAt (depth + length)) content (ended.withCapture s.stage.capture) := by
      simp only [completeBody, hfinish]
    rw [hrun, hcomplete, applyLayout_of_some _ content hnext, Option.map_map, ← houtcome]
    rfl

end Renders

/-! ### Chains of texts -/

/-- A step of a body: a block, output between two blocks, or the declaration of a layout. -/
inductive Step where
  | block (b : Block)
  | write (text : String)
  | layout (name : Option String) (data : Dictionary Value)

namespace Step

def program : Step → Program Unit
  | .block b => b.program
  | .write text => .tell (.write (.str text))
  | .layout name data => .tell (.layout name (.ok data))

def block? : Step → Option Block
  | .block b => some b
  | _ => none

/-- The layout that is declared after a step, given the one declared before. -/
def declared (layout : Option String) : Step → Option String
  | .layout name _ => name
  | _ => layout

/-- The blocks of steps, latest first. -/
def blocks (steps : List Step) : List Block := (steps.filterMap block?).reverse

theorem blocks_cons (step : Step) (rest : List Step) :
    blocks (step :: rest) = blocks rest ++ step.block?.toList := by
  cases step <;> simp [blocks, List.filterMap_cons, block?]

end Step

/-- Bodies of which each but the last one declares the next one as its layout: the name of the
first one, the number of bodies, all the blocks, latest first, and what the last body does after
its steps. -/
inductive Chain (repertoire : Repertoire) : String → Nat → List Block → Program Unit → Prop
  | last {name : String} {steps : List Step} {rest : Program Unit}
    (hbody : repertoire.body name =
      .ok ((Program.forEach Step.program steps).bind fun _ => rest)) :
    Chain repertoire name 1 (Step.blocks steps) rest
  | layout {name next : String} {length : Nat} {steps : List Step} {blocks : List Block}
    {rest : Program Unit} (hbody : repertoire.body name = .ok (.forEach Step.program steps))
    (hnext : steps.foldl Step.declared none = some next)
    (hchain : Chain repertoire next length blocks rest) :
    Chain repertoire name (length + 1) (blocks ++ Step.blocks steps) rest

section Texts

variable {nested : Nested} {repertoire : Repertoire} {entry : Capture}
  {blocks earlier : List Block} {s : Scene} {depth : Nat}

/-- A step is a block that is filled, or it only writes; and it declares its layout. -/
theorem Scene.Ready.course_step (h : s.Ready entry repertoire blocks) (nested : Nested)
    (step : Step) :
    ∃ s' : Scene, s'.Ready entry repertoire (step.block?.toList ++ blocks) ∧
      s'.template.layoutName = step.declared s.template.layoutName ∧
      ∀ {p : Program Unit} {later : List Block} {last : Scene}, s'.Course nested p later last →
        s.Course nested (step.program.bind fun _ => p) (later ++ step.block?.toList) last := by
  cases step with
  | block b =>
    obtain ⟨mid, hfills, -⟩ := h.exists_fills nested b
    have hrun := h.run_block nested b
    exact ⟨s.setCanvas (b.canvas s.canvas), h.block rfl (s.repertoire_setCanvas _), rfl,
      fun hrest => .block hfills hrun hrest⟩
  | write text =>
    have hwrites : s.Writes (s.write text) := .write s text
    refine ⟨_, h.writes hwrites, rfl, fun {p later last} hrest => ?_⟩
    rw [show later ++ (Step.write text).block?.toList = later from List.append_nil later]
    exact .between (run_tell_ok (perform_write_str nested s text)) hwrites hrest
  | layout name data =>
    have hdeclare : perform nested (.layout name (.ok data)) s =
        some (.ok .null, { s with template := s.template.declare name (some data) }) := rfl
    have hwrites : s.Writes { s with template := s.template.declare name (some data) } :=
      .of_canvas rfl rfl
    refine ⟨_, h.writes hwrites, rfl, fun {p later last} hrest => ?_⟩
    rw [show later ++ (Step.layout name data).block?.toList = later from List.append_nil later]
    exact .between (run_tell_ok hdeclare) hwrites hrest

/-- Steps run their course, and leave the layout declared. -/
theorem Scene.Ready.course_steps (h : s.Ready entry repertoire blocks) (nested : Nested)
    (steps : List Step) :
    ∃ last, s.Course nested (.forEach Step.program steps) (Step.blocks steps) last ∧
      last.Ready entry repertoire (Step.blocks steps ++ blocks) ∧
      last.template.layoutName = steps.foldl Step.declared s.template.layoutName := by
  -- The blocks are generalized, since each step puts its own in front of them.
  induction steps generalizing s blocks with
  | nil => exact ⟨s, .done s, h, rfl⟩
  | cons step rest ih =>
    obtain ⟨s', hready, hlayout, hcourse⟩ := h.course_step nested step
    obtain ⟨last, hrest, hlast, hdeclared⟩ := ih hready
    refine ⟨last, ?_, ?_, ?_⟩
    · rw [Step.blocks_cons]
      exact hcourse hrest
    · rw [Step.blocks_cons, List.append_assoc]
      exact hlast
    · rw [hdeclared, hlayout, List.foldl_cons]

/-- A render of a chain of texts runs along its layouts. -/
theorem Chain.alongLayouts {name : String} {length : Nat} {rest : Program Unit}
    (h : Chain repertoire name length blocks rest) (depth : Nat) (data : Dictionary Value)
    (hs : s.Ready s.stage.capture repertoire earlier) (hname : s.template.name = name)
    (hlayout : s.template.layoutName = none) :
    ∃ last, s.AlongLayouts depth rest length data blocks last := by
  -- A layout has data of its own, and to it the blocks of the bodies before it are earlier ones.
  induction h generalizing s earlier data with
  | @last name steps rest hbody =>
    obtain ⟨last, hcourse, -, -⟩ := (hs.inBody data).course_steps (nestedAt depth) steps
    rw [← hname, ← hs.repertoire_eq] at hbody
    exact ⟨last, .last hbody hcourse⟩
  | @layout name next length steps blocks rest hbody hnext _ ih =>
    obtain ⟨ended, hcourse, hready, hdeclared⟩ :=
      (hs.inBody data).course_steps (nestedAt (depth + length)) steps
    obtain ⟨content, hfinish⟩ := hready.finishBody_eq
    have hlayoutName : ended.template.layoutName = some next := by
      rw [hdeclared, ← hnext, ← hlayout]
      rfl
    rw [← hname, ← hs.repertoire_eq] at hbody
    obtain ⟨last, hlast⟩ := ih (s := (ended.withCapture s.stage.capture).layoutScene next content)
      ended.template.layoutData (hready.layoutScene _ next content) rfl rfl
    exact ⟨last, .layout hbody hcourse hfinish hlayoutName hlast⟩

end Texts

/-! ### What is stored in the end -/

/-- A section is skipped by `start`: no region is opened, nothing is stored, and what is written in
it goes to where the scene stands. -/
structure Scene.Skips (nested : Nested) (s : Scene) (name : String) : Prop where
  answer_eq : (s.canvas.start name).1 = .ok false
  capture_eq : (s.canvas.start name).2.capture = s.stage.capture
  run_filled : ∀ (own : name ≠ contentSection) (output : Bool → List String)
    (fill : Bool → Program Unit) (mid : Scene),
    (Block.written .once name own output).Fills nested s fill mid →
    ((Block.written .once name own output).filled fill).run (perform nested) s =
      some (.ok (), mid.setCanvas (s.canvas.write (String.join (output false))))
  run_program : ∀ (own : name ≠ contentSection) (output : Bool → List String),
    (Block.written .once name own output).program.run (perform nested) s =
      some (.ok (), s.write (String.join (output false)))

/-- A section that is stored is skipped. -/
theorem Scene.Ready.skips {entry : Capture} {repertoire : Repertoire} {blocks : List Block}
    {s : Scene} (h : s.Ready entry repertoire blocks) (nested : Nested) {name : String}
    (own : name ≠ contentSection) (hstored : Block.isStored (Block.on name blocks) = true) :
    s.Skips nested name := by
  have hhas : s.canvas.store.hasSection name = true := by
    change (s.template.store.sections.value? name).isSome = true
    rw [(h.describes name own).1, Block.isSome_closedForm, hstored]
  have hskip : (s.canvas.store.hasSection name && decide (SectionMode.once = .once)) = true := by
    simp [hhas]
  have hfree : s.canvas.store.obstacle? name = none :=
    (SectionStore.obstacle?_eq_none_iff _ _).2 ⟨own, h.closed⟩
  have hmode : s.canvas.store.workingMode = .once := h.regular.mode_of_closed h.closed
  have hskipped : (s.canvas.opened name .once s.canvas.store.modes).store.isSkipped = true := by
    rw [Canvas.isSkipped_opened, hskip]
  have hcapture := s.canvas.capture_opened name .once s.canvas.store.modes
  rw [hskipped, if_pos rfl] at hcapture
  have hcanvas (own : name ≠ contentSection) (output : Bool → List String) :
      (Block.written .once name own output).canvas s.canvas =
        s.canvas.write (String.join (output false)) := by
    rw [Block.canvas, Block.store, Block.shownText, if_pos hskip, if_pos hskip]
    rfl
  refine ⟨?_, ?_, fun own output fill mid hfills => ?_, fun own output => ?_⟩
  · rw [Canvas.start_of_free _ name hfree, hmode, hskipped]
    rfl
  · rw [Canvas.start_of_free _ name hfree, hmode]
    exact hcapture
  · rw [h.run_filled hfills, hcanvas]
  · rw [h.run_block nested, hcanvas]
    rfl

/-- A render that runs along a chain of layouts comes to the end of the chain, and goes on from
there with the rest of the last body. What a name but that of the content section holds then depends
on the blocks on it alone: the texts of `unshift`, and of the defaults shown while its mode was that
of `push`, latest first; the text of the first `start`, `push` or `unshift`, if that is a `start`;
the texts of `push`, in order. From then on `start` skips it. What fills the blocks may be any
program, and bodies that only write texts in them do run along their layouts. -/
theorem Chain.sections_eq_closedForm (s : Stage) (name : String) (depth : Nat)
    (data : Dictionary Value) :
    (∀ {length : Nat} {blocks : List Block} {rest : Program Unit},
      Chain s.repertoire name length blocks rest →
        ∃ last, Scene.AlongLayouts depth rest ⟨s.engine.make name, s⟩ length data blocks last) ∧
    ∀ {length : Nat} {blocks : List Block} {rest : Program Unit} {last : Scene},
      Scene.AlongLayouts depth rest ⟨s.engine.make name, s⟩ length data blocks last →
        ((nestedAt (depth + length)).render data ⟨s.engine.make name, s⟩).map Prod.fst =
          (completeBody (nestedAt depth)
            (rest.run (perform (nestedAt depth)) last)).map Prod.fst ∧
        (∀ n, n ≠ contentSection →
          last.template.store.sections.value? n = Block.closedForm (Block.on n blocks)) ∧
        ∀ n, n ≠ contentSection → Block.isStored (Block.on n blocks) = true →
          last.Skips (nestedAt depth) n := by
  have hready : Scene.Ready s.capture s.repertoire [] ⟨s.engine.make name, s⟩ :=
    ⟨rfl, .initial, SectionStore.describes_initial, ⟨"", s.capture.write_empty.symm⟩, rfl⟩
  refine ⟨fun h => h.alongLayouts depth data hready rfl rfl, fun h => ?_⟩
  obtain ⟨houtcome, entry, hlast⟩ := h.reaches hready
  rw [List.append_nil] at hlast
  exact ⟨houtcome, fun n own => (hlast.describes n own).1,
    fun n own hstored => hlast.skips (nestedAt depth) own hstored⟩

/-- The steps of a page, which declares a layout. -/
def pageSteps : List Step :=
  [.block (.written .append "a" (by decide) fun _ => ["x"]), .layout (some "frame") [],
    .block (.written .once "b" (by decide) fun _ => ["1"]), .write "text"]

/-- The steps of a layout. -/
def frameSteps : List Step :=
  [.block (.shown "a" fun _ => ["d"]), .block (.written .prepend "a" (by decide) fun _ => ["u"]),
    .block (.written .once "b" (by decide) fun _ => ["2"]),
    .block (.written .append "a" (by decide) fun _ => ["y"])]

/-- The block of a page that is filled by inserting another template. -/
def insertedBlock : Block := .written .append "a" (by decide) fun _ => ["p"]

/-- The block of a layout that is filled by echoing a section. -/
def echoedBlock : Block := .written .once "b" (by decide) fun _ => ["p"]

/-- A page with this block, which declares a layout. -/
def insertingPage : Program Unit :=
  (insertedBlock.filled fun _ => .tell (.insert "part" [] true)).bind fun _ =>
    (Program.tell (.layout (some "echoing") (.ok []))).bind fun _ => .done ()

/-- A layout with this block. -/
def echoingFrame : Program Unit :=
  (echoedBlock.filled fun _ =>
    (Program.ask (.canvas (.section "a" .null))).bind fun v => .tell (.write v)).bind fun _ =>
      .done ()

/-- A page and its layout, with texts in their blocks, and another two with programs. -/
def Stage.framed : Stage where
  engine := { bodies := [("page", .forEach Step.program pageSteps),
    ("frame", (Program.forEach Step.program frameSteps).bind fun _ => .done ()),
    ("part", .tell (.write (.str "p"))),
    ("inserting", insertingPage), ("echoing", echoingFrame.bind fun _ => .done ())] }

/-- The scene in which the page with the inserted template comes to its end. -/
def Scene.inserted : Scene :=
  ((insertingPage.run (perform (nestedAt 2))
    (Scene.inBody ⟨Stage.framed.engine.make "inserting", .framed⟩ [])).get rfl).2

theorem course_insertingPage :
    (Scene.inBody ⟨Stage.framed.engine.make "inserting", .framed⟩ []).Course (nestedAt 2)
      insertingPage ([] ++ [insertedBlock]) .inserted := by
  refine .block (.written rfl rfl rfl) rfl ?_
  refine .between rfl ?_ ?_
  · exact .of_canvas rfl rfl
  · exact .done _

/-- In the end the page and its layout hold what both have stored, whether their blocks hold texts
or are filled by inserting a template and by echoing a section. -/
theorem Chain.sections_eq_closedForm_framed :
    (∃ last, Scene.AlongLayouts 0 (.done ()) ⟨Stage.framed.engine.make "page", .framed⟩ 2 []
        (Step.blocks frameSteps ++ Step.blocks pageSteps) last ∧
      last.template.store.sections.value? "a" = some "udxy" ∧
      last.template.store.sections.value? "b" = some "1" ∧
      (last.canvas.start "b").1 = .ok false) ∧
    ∃ last, Scene.AlongLayouts 1 (.done ()) ⟨Stage.framed.engine.make "inserting", .framed⟩ 2 []
        ([echoedBlock] ++ [insertedBlock]) last ∧
      last.template.store.sections.value? "a" = some "p" ∧
      last.template.store.sections.value? "b" = some "p" := by
  have htexts : Chain Stage.framed.repertoire "page" 2
      (Step.blocks frameSteps ++ Step.blocks pageSteps) (.done ()) := .layout rfl rfl (.last rfl)
  obtain ⟨halong, hstored⟩ := sections_eq_closedForm .framed "page" 0 []
  obtain ⟨last, hlast⟩ := halong htexts
  obtain ⟨-, hsections, hskips⟩ := hstored hlast
  have hpage : Stage.framed.repertoire.body "inserting" = .ok insertingPage := rfl
  have hframe : Stage.framed.repertoire.body "echoing" =
      .ok (echoingFrame.bind fun _ => .done ()) := rfl
  have hfilled : ∃ last, Scene.AlongLayouts 1 (.done ())
      ⟨Stage.framed.engine.make "inserting", .framed⟩ 2 [] ([echoedBlock] ++ [insertedBlock])
      last := by
    exact ⟨_, .layout hpage course_insertingPage rfl rfl
      (.last hframe (.block (.written rfl rfl rfl) rfl (.done _)))⟩
  obtain ⟨last', hlast'⟩ := hfilled
  obtain ⟨-, hsections', -⟩ := (sections_eq_closedForm .framed "inserting" 1 []).2 hlast'
  exact ⟨⟨last, hlast, hsections "a" (by decide), hsections "b" (by decide),
    (hskips "b" (by decide) rfl).answer_eq⟩,
    last', hlast', hsections' "a" (by decide), hsections' "b" (by decide)⟩

/-- The text of the very first block, if that is one of `start`. -/
def Block.firstText (blocks : List Block) : String :=
  match blocks.getLast? with
  | some b => if b.isStart then b.text else ""
  | none => ""

/-- A section that is shown before it is stored does not count as the first block: the text of the
`start` that follows is the text of the section. -/
theorem Block.base_ne_firstText :
    let blocks := [Block.written .once "a" (by decide) fun _ => ["x"], .shown "a" fun _ => ["d"]]
    ∃ last, (Program.forEach Block.program blocks.reverse).run (perform (nestedAt 0))
          ⟨{ name := "page" }, {}⟩ = some (.ok (), last) ∧
      Block.isStored blocks = true ∧
      last.template.store.sections.value? "a" = some "x" ∧
      last.template.store.sections.value? "a" ≠
        some (Block.front blocks ++ Block.firstText blocks ++ Block.back blocks) :=
  ⟨_, rfl, rfl, rfl, by decide⟩

end TemplateEngine
