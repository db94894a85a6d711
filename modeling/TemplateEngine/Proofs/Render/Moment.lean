import TemplateEngine.Proofs.Render.Termination

/-!
# What is in progress while ranked templates are rendered

At each moment of a render there are renders in progress, one inside of the other: the render itself
and that of its layout or of a template that its body fetches or inserts, and so on. Each of them is
of a lower rank than the one around it, so there are no more of them than the rank allows. A body
has a region and at most one more for an open section. A layout is rendered when these are closed,
so only the renders that bodies ask for add to the regions of the ones around them.

## Main definitions

* `Activity`: what may be in progress.
* `Operation.Starts`: what an operation has done inside of it.
* `Moment`: the scenes in the course of an activity, with the numbers of renders in progress.

## Main results

* `Moment.bounded`: how many renders and regions there are in the course of an activity.
* `render_ends_within_rank`: renders of ranked templates end, with so many renders and regions at
  most.
-/

namespace TemplateEngine

/-- What may be in progress in a scene: a render, or the run of a program. -/
inductive Activity : Type 1 where
  | render (data : Dictionary Value)
  | run {α : Type} (p : Program α)

/-- A canvas while the default of a pushed section is put in front of its text: the section is
opened again, and then the default is written. -/
inductive Canvas.Passes (c : Canvas) (name text : String) : Canvas → Prop
  | reopened {opened : Canvas} (hstored : c.store.hasSection name = true)
    (hmode : c.store.modeOf name = .append)
    (hopened : c.reopen name none = (.ok (some true), opened)) : Passes c name text opened
  | filled {opened : Canvas} (hstored : c.store.hasSection name = true)
    (hmode : c.store.modeOf name = .append)
    (hopened : c.reopen name none = (.ok (some true), opened)) :
    Passes c name text (opened.write text)

/-- The section that an operation shows in place, with a text as its default. -/
def Operation.shownText? : Operation → Option (String × String)
  | .canvas (.startSection shown (some text)) | .showSection shown (.str text) => some (shown, text)
  | _ => none

/-- A function is called while a value is sent through functions, one after the other. -/
inductive Scene.Calls (depth : Nat) : List String → Value → Scene → Program Value → Scene → Prop
  | first {name : String} {f : TemplateFunction} {s : Scene}
    (hf : s.stage.engine.functions.value? name = some f) (rest : List String) (v : Value) :
    Calls depth (name :: rest) v s (f.call (some s.template.name) [v] []) s
  | later {name : String} {rest : List String} {v v' : Value} {s s' t : Scene} {p : Program Value}
    (hfirst : applyNamed (nestedAt depth) name v s = some (.ok v', s'))
    (hlater : Calls depth rest v' s' p t) : Calls depth (name :: rest) v s p t

/-- What an operation of a body has done inside of it, in which scene, and whether this is a render
of another template. -/
inductive Operation.Starts (depth : Nat) (s : Scene) :
    Operation → Nat → Activity → Scene → Prop
  | fetch (name : String) (data : Dictionary Value) (own : Bool) :
    Starts depth s (.fetch name data own) 1 (.render (s.template.dataFor data own))
      ⟨s.stage.engine.make name, s.stage⟩
  | insert (name : String) (data : Dictionary Value) (own : Bool) :
    Starts depth s (.insert name data own) 1 (.render (s.template.dataFor data own))
      ⟨s.stage.engine.make name, s.stage⟩
  | render (data : Dictionary Value) : Starts depth s (.render data) 0 (.render data) s
  | display {body : Program Unit} {stage : Stage}
    (hbody : s.stage.body s.template.name = (.ok body, stage)) :
    Starts depth s .display 0 (.run (body.bind fun _ => .done Value.null)) { s with stage := stage }
  | call {name : String} {f : TemplateFunction}
    (hf : s.stage.engine.functions.value? name = some f) (arguments : List Value)
    (named : Dictionary Value) :
    Starts depth s (.call name arguments named) 0
      (.run (f.call (some s.template.name) arguments named)) s
  | batch {functions : String} {names : List String} {v : Value} {p : Program Value} {t : Scene}
    (hnames : s.stage.engine.functionNames functions = .ok names)
    (hcalls : Scene.Calls depth names v s p t) : Starts depth s (.batch v functions) 0 (.run p) t
  | escape {functions : String} {names : List String} {v : Value} {p : Program Value} {t : Scene}
    (hsome : functions ≠ "") (hnames : s.stage.engine.functionNames functions = .ok names)
    (hcalls : Scene.Calls depth names v s p t) : Starts depth s (.escape v functions) 0 (.run p) t

/-- The scenes in the course of an activity that nests up to a given depth. The two numbers are
those of the renders in progress, and of those among them that an operation asked for. -/
inductive Moment : Nat → Activity → Scene → Nat → Nat → Scene → Prop
  | start (depth : Nat) (activity : Activity) (s : Scene) : Moment depth activity s 0 0 s
  /-- The render is counted. -/
  | begun (depth : Nat) (data : Dictionary Value) (s : Scene) :
    Moment (depth + 1) (.render data) s 1 0 (s.begin data)
  /-- The region of the body is opened. -/
  | opened (depth : Nat) (data : Dictionary Value) (s : Scene) :
    Moment (depth + 1) (.render data) s 1 0 (s.opening data)
  /-- The body is looked up, and runs. -/
  | body {depth renders levels : Nat} {data : Dictionary Value} {s t : Scene} {body : Program Unit}
    (hbody : s.stage.repertoire.body s.template.name = .ok body)
    (hmoment : Moment (depth + 1) (.run body) (s.inBody data) renders levels t) :
    Moment (depth + 1) (.render data) s (renders + 1) levels t
  /-- The region of the body is closed. -/
  | closed {depth : Nat} {data : Dictionary Value} {s finish closed : Scene} {body : Program Unit}
    {content : String} (hbody : s.stage.repertoire.body s.template.name = .ok body)
    (hrun : body.run (perform (nestedAt depth)) (s.inBody data) = some (.ok (), finish))
    (hfinish : finishBody finish = (.ok content, closed)) :
    Moment (depth + 1) (.render data) s 1 0 closed
  /-- The layout is rendered. -/
  | layout {depth renders levels : Nat} {data : Dictionary Value} {s finish closed t : Scene}
    {body : Program Unit} {content name : String}
    (hbody : s.stage.repertoire.body s.template.name = .ok body)
    (hrun : body.run (perform (nestedAt depth)) (s.inBody data) = some (.ok (), finish))
    (hfinish : finishBody finish = (.ok content, closed))
    (hname : closed.template.layoutName = some name)
    (hmoment : Moment depth (.render closed.template.layoutData) (closed.layoutScene name content)
      renders levels t) :
    Moment (depth + 1) (.render data) s (renders + 1) levels t
  /-- The render has come to its end, and is neither cleaned up nor counted off. -/
  | ended {depth : Nat} {data : Dictionary Value} {s left : Scene} {outcome : Except Fault String}
    (hends : s.EndsAt (nestedAt depth) data outcome left) :
    Moment (depth + 1) (.render data) s 1 0 left
  /-- The render is over. -/
  | left {depth : Nat} {data : Dictionary Value} {s after : Scene} {outcome : Except Fault String}
    (hleft : (nestedAt depth).render data s = some (outcome, after)) :
    Moment depth (.render data) s 0 0 after
  /-- A default is put in front of the text of a section. -/
  | passing {α : Type} {depth : Nat} {s : Scene} {operation : Operation}
    {next : Except Fault Value → Program α} {name text : String} {c : Canvas}
    (hshown : operation.shownText? = some (name, text)) (hpasses : s.canvas.Passes name text c) :
    Moment (depth + 1) (.run (.perform operation next)) s 0 0 (s.setCanvas c)
  /-- An operation has something done inside of it. -/
  | inside {α : Type} {depth started renders levels : Nat} {s s' t : Scene} {operation : Operation}
    {next : Except Fault Value → Program α} {activity : Activity}
    (hstarts : Operation.Starts depth s operation started activity s')
    (hmoment : Moment depth activity s' renders levels t) :
    Moment (depth + 1) (.run (.perform operation next)) s renders (levels + started) t
  /-- An operation is done, and the program goes on. -/
  | next {α : Type} {depth renders levels : Nat} {s s' t : Scene} {operation : Operation}
    {next : Except Fault Value → Program α} {answer : Except Fault Value}
    (hstep : perform (nestedAt depth) operation s = some (answer, s'))
    (hmoment : Moment (depth + 1) (.run (next answer)) s' renders levels t) :
    Moment (depth + 1) (.run (.perform operation next)) s renders levels t

/-- So many renders are in progress, which are at most as many as there may be and are counted on
top of others, and there are at most so many regions. -/
structure Scene.Holds (renders bound active regions : Nat) (t : Scene) : Prop where
  renders_le : renders ≤ bound
  active_eq : t.stage.engine.activeRenders = active + renders
  depth_le : t.stage.capture.depth ≤ regions

/-- How many renders may be in progress in the course of an activity, and how many regions there may
be. -/
def Activity.Bounds (rank : String → Nat) (repertoire : Repertoire) (s : Scene)
    (renders levels : Nat) (t : Scene) : Activity → Prop
  | .render _ => s.stage.repertoire = repertoire → s.template.LayoutBelow rank →
    t.Holds renders (rank s.template.name + 1) s.stage.engine.activeRenders
      (s.stage.capture.depth + 2 * levels + 2)
  | .run p => ∀ {bound active base : Nat}, p.Asks (Operation.IsBelow rank bound) →
    s.InCourse rank repertoire bound active base →
    t.Holds renders bound active (base + 2 * levels + 1)

section Moments

variable {rank : String → Nat} {repertoire : Repertoire} {bound active base : Nat} {s t : Scene}

/-- Such canvases are come to by moves. -/
theorem Canvas.Passes.moves {c c' : Canvas} {name text : String} (h : c.Passes name text c') :
    Canvas.Moves c c' := by
  have hreopen {opened : Canvas} (hmode : c.store.modeOf name = .append)
      (hopened : c.reopen name none = (.ok (some true), opened)) : Canvas.Moves c opened := by
    have hmoves := moves_reopen c name none hmode
    rwa [hopened] at hmoves
  cases h with
  | reopened _ hmode hopened => exact hreopen hmode hopened
  | filled _ hmode hopened => exact (hreopen hmode hopened).trans (Moves.write _ text)

/-- What holds while a body runs is kept up to each of the calls. -/
theorem Scene.Calls.inCourse {depth : Nat} {names : List String} {v : Value} {p : Program Value}
    (h : Scene.Calls depth names v s p t) (hr : repertoire.Ranked rank)
    (hs : s.InCourse rank repertoire bound active base) :
    t.InCourse rank repertoire bound active base ∧ p.Asks (Operation.IsBelow rank bound) := by
  induction h with
  | first hf rest v => exact ⟨hs, hs.asks_function hr hf [v] []⟩
  | later hfirst _ ih => exact ih (hs.applyNamed (keepsCourse_nestedAt hr depth) hr _ _ _ _ hfirst)

/-- What an operation has done inside of it is bounded if its own course is. -/
theorem Operation.Starts.bounded {depth started renders levels : Nat} {operation : Operation}
    {activity : Activity} {s' : Scene}
    (h : Operation.Starts depth s operation started activity s') (hr : repertoire.Ranked rank)
    (ho : operation.IsBelow rank bound) (hs : s.InCourse rank repertoire bound active base)
    (hinner : activity.Bounds rank repertoire s' renders levels t) :
    t.Holds renders bound active (base + 2 * (levels + started) + 1) := by
  have hfetch {name : String} {data : Dictionary Value} (hname : rank name < bound)
      (hinner : (Activity.render data).Bounds rank repertoire ⟨s.stage.engine.make name, s.stage⟩
        renders levels t) : t.Holds renders bound active (base + 2 * (levels + 1) + 1) := by
    have hheld := hinner hs.repertoire_eq nofun
    have hentry : s.stage.capture.depth ≤ base + 1 := hs.bounded.depth_le
    have hdepth : t.stage.capture.depth ≤ s.stage.capture.depth + 2 * levels + 2 := hheld.depth_le
    exact ⟨Nat.le_trans hheld.renders_le hname,
      hheld.active_eq.trans (congrArg (· + renders) hs.active_eq), by omega⟩
  cases h with
  | fetch name | insert name => exact hfetch (ho.lt name rfl) hinner
  | render => cases ho.isOrderly
  | display => cases ho.runsAnew_eq
  | call hf arguments named => exact hinner (hs.asks_function hr hf arguments named) hs
  | batch _ hcalls | escape _ _ hcalls =>
    obtain ⟨ht, hasks⟩ := hcalls.inCourse hr hs
    exact hinner hasks ht

/-- In the course of a render there are no more renders in progress than its rank and one, and no
more regions than there were, two for each render that an operation asked for, and two. In the
course of a body there are one render and one region less than that. -/
theorem Moment.bounded {depth renders levels : Nat} {activity : Activity}
    (h : Moment depth activity s renders levels t) (hr : repertoire.Ranked rank) :
    activity.Bounds rank repertoire s renders levels t := by
  induction h with
  | start depth activity s =>
    cases activity with
    | render data => exact fun _ _ => ⟨Nat.zero_le _, rfl, by omega⟩
    | run p => exact fun _ hs => ⟨Nat.zero_le _, hs.active_eq, hs.bounded.depth_le⟩
  | begun => exact fun _ _ => ⟨Nat.le_add_left _ _, rfl, Nat.le_add_right _ _⟩
  | opened => exact fun _ _ => ⟨Nat.le_add_left _ _, rfl, Nat.le_succ _⟩
  | @body _ renders levels _ s t _ hbody _ ih =>
    intro hs hlayout
    obtain ⟨hrenders, hactive, hdepth⟩ :=
      ih (hr.body (hs ▸ hbody)) (s.inCourse_inBody hs hlayout _)
    exact ⟨Nat.succ_le_succ hrenders, by omega, by omega⟩
  | closed hbody hrun hfinish =>
    intro hs hlayout
    obtain ⟨hclosed, hdepth⟩ :=
      Scene.inCourse_of_closed (keepsCourse_nestedAt hr _) hr hs hlayout hbody hrun hfinish
    exact ⟨Nat.le_add_left _ _, hclosed.active_eq, by omega⟩
  -- The layout starts where the body has left no region, and counts on top of the render.
  | @layout _ renders levels _ s _ closed t _ _ _ hbody hrun hfinish hname _ ih =>
    intro hs hlayout
    obtain ⟨hclosed, hentry⟩ :=
      Scene.inCourse_of_closed (keepsCourse_nestedAt hr _) hr hs hlayout hbody hrun hfinish
    have hheld := ih ((Stage.repertoire_emit _ _).trans hclosed.repertoire_eq) nofun
    have hactive : t.stage.engine.activeRenders = closed.stage.engine.activeRenders + renders :=
      hheld.active_eq
    have hdepth : t.stage.capture.depth ≤ closed.stage.capture.depth + 2 * levels + 2 :=
      hheld.depth_le
    rw [hclosed.active_eq] at hactive
    exact ⟨Nat.succ_le_succ (Nat.le_trans hheld.renders_le (hclosed.layout_lt _ hname)),
      by omega, by omega⟩
  | ended hends =>
    intro hs hlayout
    have hended := hends.finishes (keepsCourse_nestedAt hr _) hr hs hlayout
    exact ⟨Nat.le_add_left _ _, hended.active_eq, hended.depth_le⟩
  | left hleft =>
    intro hs hlayout
    have hreturns := (keepsCourse_nestedAt hr _).render _ hs hlayout _ _ hleft
    exact ⟨Nat.zero_le _, hreturns.active_eq, Nat.le_add_right_of_le hreturns.depth_le⟩
  | passing _ hpasses =>
    intro bound active base _ hs
    have hpassing := hs.moves hpasses.moves
    exact ⟨Nat.zero_le _, hpassing.active_eq, hpassing.bounded.depth_le⟩
  | inside hstarts _ ih =>
    intro bound active base hp hs
    exact hstarts.bounded hr hp.1 hs ih
  | next hstep _ ih =>
    intro bound active base hp hs
    exact ih (hp.2 _) (perform_inCourse (keepsCourse_nestedAt hr _) hr hp.1 hs _ _ hstep)

/-- Every render of a template ends, if all bodies and functions refer to templates of a lower rank
only, and the functions end: within any large enough depth it has one and the same outcome. At no
moment are there more renders in progress than the rank of the template and one, not counting those
around it. The depth of the capture is never more than the depth at entry, two for each template
that is fetched or inserted at the moment, and two, whatever layouts are applied. -/
theorem render_ends_within_rank (hr : s.stage.repertoire.Ranked rank)
    (hf : s.stage.repertoire.FunctionsEnd rank) (hlayout : s.template.LayoutBelow rank)
    (data : Dictionary Value) :
    (∃ depth outcome left,
      (∀ deeper, depth ≤ deeper → (nestedAt deeper).render data s = some (outcome, left)) ∧
        (depth ≤ s.stage.host.nesting → s.render data = (outcome, left))) ∧
    ∀ {depth renders levels t}, Moment depth (.render data) s renders levels t →
      renders ≤ rank s.template.name + 1 ∧
        t.stage.engine.activeRenders = s.stage.engine.activeRenders + renders ∧
        t.stage.capture.depth ≤ s.stage.capture.depth + 2 * levels + 2 := by
  refine ⟨?_, fun hmoment => ?_⟩
  · obtain ⟨⟨outcome, left⟩, depth, hends⟩ := render_terminates hr hf data rfl hlayout
    refine ⟨depth, outcome, left, hends, fun hlimit => ?_⟩
    have hlimited : (nestedAt s.stage.host.nesting).render data s = some (outcome, left) :=
      hends s.stage.host.nesting hlimit
    rw [Scene.render, hlimited]
  · have hheld := hmoment.bounded hr rfl hlayout
    exact ⟨hheld.renders_le, hheld.active_eq, hheld.depth_le⟩

end Moments

/-- A stage with a page that inserts a part into a section, calls a function and has a layout. The
part opens a section of its own. -/
def Stage.pageWithPart : Stage where
  engine := {
    bodies := [
      ("part", .forEach .tell [.canvas (.start "a"), .canvas .stop, .write (.str "p")]),
      ("frame", .forEach .tell
        [.write (.str "<"), .canvas (.startSection "notes" (some "d")),
          .canvas (.startSection "content" none), .write (.str ">")]),
      ("page", .forEach .tell
        [.canvas (.push "notes"), .insert "part" [] false, .canvas .stop, .call "mark" [] [],
          .layout (some "frame") (.ok [])])]
    functions := [("mark", ⟨fun _ _ => .ask (.write (.str "!")), false⟩)] }

/-- The page refers to the part and to the layout, and these refer to nothing. -/
def Stage.pageRank (name : String) : Nat := if name = "page" then 1 else 0

theorem Stage.ranked_pageWithPart : pageWithPart.repertoire.Ranked pageRank := by
  have hbody {name : String} {operations : List Operation}
      (h : ∀ operation ∈ operations, operation.IsBelow pageRank (pageRank name)) :
      (Program.forEach .tell operations).Asks (Operation.IsBelow pageRank (pageRank name)) :=
    Program.asks_forEach fun operation ho => Program.asks_tell (h operation ho)
  refine ranked_of_bodies (fun name path hpath => ?_) (fun entry hentry => ?_)
    fun entry hentry template arguments named => ?_
  · exact absurd (isFile_of_resolvePath hpath) (FileTree.isFile_empty rfl path)
  · simp only [pageWithPart, List.mem_cons, List.not_mem_nil, or_false] at hentry
    rcases hentry with rfl | rfl | rfl
    · exact hbody (by decide)
    · exact hbody (by decide)
    · exact hbody (by decide)
  · obtain rfl := List.mem_singleton.mp hentry
    exact Program.asks_ask ⟨rfl, rfl, nofun⟩

theorem Stage.functionsEnd_pageWithPart : pageWithPart.repertoire.FunctionsEnd pageRank := by
  refine Repertoire.functionsEnd_of_immediate (fun {name f} hf arguments named => ?_) pageRank
  have hentry : (name, f) ∈ pageWithPart.engine.functions := Dictionary.mem_of_value? hf
  cases List.mem_singleton.mp hentry
  exact Program.asks_ask rfl

/-- The page is rendered in finite time. There is a moment at which there are as many renders and as
many regions as there may be: the section of the part is open then. -/
theorem render_ends_within_rank_page :
    (∃ depth left, ∀ deeper, depth ≤ deeper →
      (nestedAt deeper).render [] ⟨Stage.pageWithPart.engine.make "page", .pageWithPart⟩ =
        some (.ok "<dp!>", left)) ∧
    ∃ t, Moment 3 (.render []) ⟨Stage.pageWithPart.engine.make "page", .pageWithPart⟩ 2 1 t ∧
      2 ≤ Stage.pageRank "page" + 1 ∧ t.stage.engine.activeRenders = 2 ∧
      t.stage.capture.depth ≤ 4 ∧ t.stage.capture.depth = 4 := by
  obtain ⟨⟨depth, outcome, left, hends, -⟩, hbounds⟩ := render_ends_within_rank
    (s := ⟨Stage.pageWithPart.engine.make "page", .pageWithPart⟩) Stage.ranked_pageWithPart
    Stage.functionsEnd_pageWithPart nofun []
  have hrendered : (nestedAt (depth + 3)).render []
      ⟨Stage.pageWithPart.engine.make "page", .pageWithPart⟩ = some (.ok "<dp!>", _) := rfl
  obtain ⟨rfl, -⟩ := Prod.mk.inj (Option.some.inj
    ((hends (depth + 3) (Nat.le_add_right depth 3)).symm.trans hrendered))
  -- The page has opened its section and inserts the part, which has opened one as well.
  have hmoment : Moment 3 (.render [])
      ⟨Stage.pageWithPart.engine.make "page", .pageWithPart⟩ 2 1 _ :=
    .body rfl (.next rfl (.inside (.insert "part" [] false)
      (.body rfl (.next rfl (.start _ _ _)))))
  obtain ⟨hrenders, hactive, hdepth⟩ := hbounds hmoment
  exact ⟨⟨depth, left, hends⟩, _, hmoment, hrenders, hactive, hdepth, rfl⟩

end TemplateEngine
