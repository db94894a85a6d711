import TemplateEngine.Proofs.Render.Chronicle

/-!
# How failures are counted and recorded

While a body runs, the engine counts the renders in progress, and when a render is over it counts
what it counted before. A render that fails leaves one record, behind the records of whatever was
rendered inside of it, and one that succeeds leaves none. The record is a warning if no other
render was in progress. It tells how many regions of the capture were discarded: the region of
the body, and that of the section which the body left open, but never one of another render.

## Main definitions

* `Ending.record?`: the record of a render that failed.
* `Occurrence.Counted`: wherever a body begins, the renders in progress are counted.
* `Occurrence.records`: the records of a render and of the renders inside of it.
* `Stage.Accounts`: the count and the log follow what happens.

## Main results

* `keepsAccounts`: they do so in all renders of fresh templates.
* `render_accounts`: what a render counts and records.
-/

namespace TemplateEngine

/-- The fault with which a render ended, if it failed. -/
def Ending.kind? : Ending → Option FaultKind
  | .returned => none
  | .bodyFailed kind _ => some kind
  | .layoutFailed kind => some kind

/-- An ending is that of a render with a given outcome. -/
def Ending.Fits (ending : Ending) : Except Fault String → Prop
  | .ok _ => ending = .returned
  | .error fault => ending.kind? = some fault.kind

/-- The regions that are discarded: none if the body had ended, and otherwise its region and that
of its open section. -/
def Ending.discarded : Ending → Nat
  | .bodyFailed _ captured => if captured then 2 else 1
  | _ => 0

/-- The record of a render that failed. -/
def Ending.record? (name : String) (nested : Bool) (ending : Ending) : Option Event :=
  ending.kind?.map fun kind => .renderFailed name kind ending.discarded nested

/-- Whether an event records the start or the failure of a render. -/
def Event.isOfRender : Event → Bool
  | .renderStarted _ _ => true
  | .renderFailed _ _ _ _ => true
  | _ => false

/-- Where bodies are looked up and where they begin, the engine counts the renders in progress,
`active` of them around what happens. -/
inductive Occurrence.Counted : Nat → Occurrence → Prop
  | lookUp {active : Nat} {stage : Stage} (h : stage.engine.activeRenders = active)
    (name : String) : Counted active (.lookUp stage name)
  | render {active : Nat} {begun : Scene} {inner : List Occurrence}
    (h : begun.stage.engine.activeRenders = active + 1)
    (hinner : ∀ occurrence ∈ inner, Counted (active + 1) occurrence) (ending : Ending) :
    Counted active (.render begun inner ending)

mutual

/-- The records of what happens while a number of renders is in progress. -/
def Occurrence.records (active : Nat) : Occurrence → List Event
  | .lookUp _ _ => []
  | .render begun inner ending =>
    .renderStarted begun.template.name begun.stage.capture.depth ::
      (Occurrence.recordsOf (active + 1) inner ++
        (ending.record? begun.template.name (decide (0 < active))).toList)

/-- The records of what happens, one after the other. -/
def Occurrence.recordsOf (active : Nat) : List Occurrence → List Event
  | [] => []
  | first :: rest => first.records active ++ Occurrence.recordsOf active rest

end

/-- From one stage to the other one the count and the log have followed what happened. -/
structure Stage.Accounts (s : Stage) (occurrences : List Occurrence) (s' : Stage) : Prop where
  active_eq : s'.engine.activeRenders = s.engine.activeRenders
  counted : ∀ occurrence ∈ occurrences, occurrence.Counted s.engine.activeRenders
  logged : ∃ events, s'.log = s.log ++ events ∧
    events.filter Event.isOfRender = Occurrence.recordsOf s.engine.activeRenders occurrences

section Records

variable {active : Nat}

theorem Occurrence.recordsOf_append (first second : List Occurrence) :
    Occurrence.recordsOf active (first ++ second) =
      Occurrence.recordsOf active first ++ Occurrence.recordsOf active second := by
  induction first with
  | nil => rfl
  | cons occurrence rest ih =>
    rw [List.cons_append, Occurrence.recordsOf, Occurrence.recordsOf, ih, List.append_assoc]

/-- Only the failure of a render is a warning. -/
theorem Event.isOfRender_of_warning {event : Event} (h : event.level = .warning) :
    event.isOfRender = true := by
  cases event <;> first | rfl | cases h

/-- The record of a nested render is no warning. -/
theorem Ending.level_record {name : String} {ending : Ending} {event : Event}
    (h : event ∈ ending.record? name true) : event.level ≠ .warning := by
  obtain ⟨kind, -, rfl⟩ := Option.map_eq_some_iff.mp h
  exact nofun

mutual

/-- What happens inside of a render leaves no warning. -/
theorem Occurrence.level_records : ∀ (active : Nat) (occurrence : Occurrence) {event : Event},
    event ∈ occurrence.records (active + 1) → event.level ≠ .warning
  | _, .lookUp _ _, _, h => nomatch h
  | active, .render _ inner _, _, h => by
    rw [Occurrence.records, List.mem_cons, List.mem_append, Option.mem_toList] at h
    rcases h with rfl | hinner | hrecord
    · exact nofun
    · exact Occurrence.level_recordsOf (active + 1) inner hinner
    · exact Ending.level_record hrecord

theorem Occurrence.level_recordsOf : ∀ (active : Nat) (occurrences : List Occurrence)
    {event : Event}, event ∈ Occurrence.recordsOf (active + 1) occurrences →
    event.level ≠ .warning
  | _, [], _, h => nomatch h
  | active, first :: rest, _, h => by
    rw [Occurrence.recordsOf, List.mem_append] at h
    rcases h with hfirst | hrest
    · exact Occurrence.level_records active first hfirst
    · exact Occurrence.level_recordsOf active rest hrest

end

/-- Of the warnings that are logged in a render, there is at most the record of its own failure,
and that one only if no other render was in progress. -/
theorem warnings_of_records {events : List Event} {begun : Scene} {inner : List Occurrence}
    {ending : Ending}
    (h : events.filter Event.isOfRender =
      (Occurrence.render begun inner ending).records active) :
    events.filter (·.level = .warning) =
      if active = 0 then (ending.record? begun.template.name false).toList else [] := by
  have hrecords : events.filter (·.level = .warning) =
      (events.filter Event.isOfRender).filter (·.level = .warning) := by
    rw [List.filter_filter]
    refine List.filter_congr fun event _ => ?_
    by_cases hlevel : event.level = .warning
    · simp [hlevel, Event.isOfRender_of_warning hlevel]
    · simp [hlevel]
  rw [hrecords, h]
  cases active with
  | succ active =>
    rw [if_neg (Nat.succ_ne_zero active), List.filter_eq_nil_iff]
    intro event hevent
    simpa using Occurrence.level_records active _ hevent
  | zero =>
    have hinner : (Occurrence.recordsOf 1 inner).filter (·.level = .warning) = [] := by
      rw [List.filter_eq_nil_iff]
      intro event hevent
      simpa using Occurrence.level_recordsOf 0 inner hevent
    rw [if_pos rfl, Occurrence.records, List.filter_cons_of_neg (by simp [Event.level]),
      List.filter_append, hinner, List.nil_append]
    cases ending <;> rfl

end Records

/-! ### Accounts -/

section Accounts

namespace Stage.Accounts

variable {s s' s'' : Stage} {first second occurrences : List Occurrence}

/-- Nothing happens. -/
theorem refl (s : Stage) : s.Accounts [] s :=
  ⟨rfl, nofun, [], (List.append_nil _).symm, rfl⟩

theorem trans (h : s.Accounts first s') (h' : s'.Accounts second s'') :
    s.Accounts (first ++ second) s'' := by
  obtain ⟨events, hlog, hrecords⟩ := h.logged
  obtain ⟨events', hlog', hrecords'⟩ := h'.logged
  refine ⟨h'.active_eq.trans h.active_eq, ?_, events ++ events', ?_, ?_⟩
  · rintro occurrence hoccurrence
    rcases List.mem_append.mp hoccurrence with hfirst | hsecond
    · exact h.counted occurrence hfirst
    · rw [← h.active_eq]
      exact h'.counted occurrence hsecond
  · rw [hlog', hlog, List.append_assoc]
  · rw [List.filter_append, hrecords, hrecords', h.active_eq, Occurrence.recordsOf_append]

/-- The log and the count stay as they are. -/
theorem of_eq (hactive : s'.engine.activeRenders = s.engine.activeRenders)
    (hlog : s'.log = s.log) : s.Accounts [] s' :=
  ⟨hactive, nofun, [], by rw [hlog, List.append_nil], rfl⟩

/-- An event that is no record of a render is logged. -/
theorem of_event (hactive : s'.engine.activeRenders = s.engine.activeRenders) {event : Event}
    (hlog : s'.log = s.log ++ [event]) (hevent : event.isOfRender = false) : s.Accounts [] s' := by
  refine ⟨hactive, nofun, [event], hlog, ?_⟩
  rw [List.filter_cons_of_neg (by simp [hevent])]
  rfl

/-- Looking up a body counts nothing and records no failure. -/
theorem lookUp (s : Stage) (name : String) : s.Accounts [.lookUp s name] (s.body name).2 := by
  have hquiet : s.Accounts [] (s.body name).2 := by
    rcases s.body_snd name with h | ⟨path, h⟩
    · rw [h]
      exact refl s
    · rw [h]
      rcases s.compiledFile_snd path with hfile | ⟨file, -, -, -, hkept⟩
      · rw [hfile]
        exact refl s
      · rw [hkept]
        exact of_event rfl rfl rfl
  refine ⟨hquiet.active_eq, fun occurrence hoccurrence => ?_, hquiet.logged⟩
  rw [List.mem_singleton.mp hoccurrence]
  exact .lookUp rfl name

end Stage.Accounts

/-- Nested renders of templates with no section open, and nested calls of orderly programs, are
accounted for. -/
structure KeepsAccounts (depth : Nat) : Prop where
  render : ∀ {s : Scene} (data : Dictionary Value), s.template.store.openName = none →
    s.stage.repertoire.Orderly →
    Leaves (fun s' => s.stage.Accounts ((chronicleAt depth).render data s) s'.stage)
      ((nestedAt depth).render data s)
  call : ∀ {s : Scene} {p : Program Value}, p.Orderly → s.stage.repertoire.Orderly →
    Leaves (fun s' => s.stage.Accounts ((chronicleAt depth).call p s) s'.stage)
      ((nestedAt depth).call p s)

variable {depth : Nat} {s : Scene}

/-- What orderly operations are made of is accounted for, and nothing else can be looked up
afterwards. -/
theorem KeepsAccounts.follows (hn : KeepsAccounts depth) :
    (nestedAt depth).Follows (chronicleAt depth) fun s occurrences s' =>
      s.stage.repertoire.Orderly →
        s'.stage.repertoire = s.stage.repertoire ∧ s.stage.Accounts occurrences s'.stage where
  refl s _ := ⟨rfl, .refl s.stage⟩
  trans h h' hr := by
    obtain ⟨hrepertoire, haccounts⟩ := h hr
    obtain ⟨hrepertoire', haccounts'⟩ := h' (hrepertoire ▸ hr)
    exact ⟨hrepertoire'.trans hrepertoire, haccounts.trans haccounts'⟩
  canvas s _ _ _ := ⟨s.repertoire_setCanvas _, .of_eq rfl rfl⟩
  assign _ _ _ := ⟨rfl, .refl _⟩
  declare _ _ _ _ := ⟨rfl, .refl _⟩
  note s label outcome _ := ⟨s.repertoire_note label outcome, .of_eq rfl rfl⟩
  print {s _ _} _ _ _ := ⟨s.stage.repertoire_print _, .of_eq rfl rfl⟩
  lookUp s _ := ⟨s.stage.repertoire_body _, .lookUp _ _⟩
  fetch {s _ name _ _} hleft hr := by
    have haccounts := hn.render (s := ⟨s.stage.engine.make name, s.stage⟩) _ rfl hr _ _ hleft
    have hrepertoire := repertoire_render depth _ _ _ _ hleft
    exact ⟨hrepertoire, haccounts⟩
  call hoffers _ _ hleft hr :=
    ⟨(Stage.law_repertoire.obeys_nestedAt depth).call _ _ _ _ hleft,
      hn.call (hoffers.orderly hr) hr _ _ hleft⟩

/-- What an orderly program does is accounted for. -/
theorem KeepsAccounts.run (hn : KeepsAccounts depth) {α : Type} {p : Program α} (hp : p.Orderly)
    (hr : s.stage.repertoire.Orderly) :
    Leaves (fun s' => s.stage.Accounts ((chronicleAt depth).ofProgram (nestedAt depth) p s)
      s'.stage) (p.run (perform (nestedAt depth)) s) :=
  (hn.follows.run hp s).imp fun _ h => (h hr).2

/-- The look-up and the run of a body are accounted for. -/
theorem KeepsAccounts.display (hn : KeepsAccounts depth) (hr : s.stage.repertoire.Orderly) :
    Leaves (fun s' => s.stage.Accounts ((chronicleAt depth).ofDisplay (nestedAt depth) s) s'.stage)
      (display (nestedAt depth) s) := by
  have hlookUp := Stage.Accounts.lookUp s.stage s.template.name
  have hrepertoire := s.stage.repertoire_body s.template.name
  unfold TemplateEngine.display Chronicle.ofDisplay
  rcases hlooked : s.stage.body s.template.name with ⟨fault | body, stage⟩
  · rw [hlooked] at hlookUp
    exact leaves_some hlookUp
  · rw [hlooked] at hlookUp hrepertoire
    have hbody : body.Orderly := hr.body (congrArg Prod.fst hlooked)
    have hstage : stage.repertoire.Orderly := by rwa [hrepertoire]
    exact (hn.run (s := { s with stage := stage }) hbody hstage).imp fun _ h => hlookUp.trans h

end Accounts

section Renders

variable {depth : Nat} {s left : Scene} {data : Dictionary Value} {outcome : Except Fault String}
  {inner : List Occurrence} {ending : Ending}

theorem Scene.repertoire_opening (s : Scene) (data : Dictionary Value) :
    (s.opening data).stage.repertoire = s.stage.repertoire := by
  rw [Scene.opening, Stage.repertoire_openRegion, s.repertoire_begin]

/-- Ending a body counts nothing and records nothing. -/
theorem accounts_finishBody {ended : Except Fault String} (hfinish : finishBody s = (ended, left)) :
    s.stage.Accounts [] left.stage := by
  have hleft : left = (finishBody s).2 := by rw [hfinish]
  rw [hleft]
  unfold finishBody
  cases s.template.store.openName with
  | some name => exact .refl _
  | none => exact .of_eq rfl rfl

/-- When a body has ended, the same can be looked up as when it began. -/
theorem repertoire_of_closed {ended : Except Fault Unit} {finish closed : Scene}
    {finished : Except Fault String}
    (hdisplay : display (nestedAt depth) s = some (ended, finish))
    (hfinish : finishBody finish = (finished, closed)) :
    closed.stage.repertoire = s.stage.repertoire := by
  have hfinished : finish.stage.repertoire = s.stage.repertoire :=
    Stage.law_repertoire.display (Stage.law_repertoire.obeys_nestedAt depth) s _ _ hdisplay
  exact (Stage.law_repertoire.quiet (Stage.Law.alike_finishBody hfinish)).trans hfinished

/-- What happens from the beginning of a body to the end of the render is accounted for. -/
theorem KeepsAccounts.ends (hn : KeepsAccounts depth) (hr : s.stage.repertoire.Orderly)
    (hends : (chronicleAt depth).Ends (nestedAt depth) s outcome left inner ending) :
    s.stage.Accounts inner left.stage := by
  have hbody {ended : Except Fault Unit} {finish : Scene}
      (hdisplay : TemplateEngine.display (nestedAt depth) s = some (ended, finish)) :
      s.stage.Accounts ((chronicleAt depth).ofDisplay (nestedAt depth) s) finish.stage :=
    hn.display hr _ _ hdisplay
  cases hends with
  | failed hdisplay => exact hbody hdisplay
  | unclosed hdisplay => exact hbody hdisplay
  | plain hdisplay hfinish =>
    have hplain := (hbody hdisplay).trans (accounts_finishBody hfinish)
    rwa [List.append_nil] at hplain
  | @layout content name finish closed _ _ hdisplay hfinish _ hrender =>
    have hclosed := (hbody hdisplay).trans (accounts_finishBody hfinish)
    have hemitted : closed.stage.Accounts [] (closed.layoutScene name content).stage :=
      .of_event rfl rfl rfl
    have hrepertoire : (closed.layoutScene name content).stage.repertoire = s.stage.repertoire :=
      (closed.stage.repertoire_emit _).trans (repertoire_of_closed hdisplay hfinish)
    have hlaidOut := hn.render (s := closed.layoutScene name content) _ rfl (hrepertoire ▸ hr)
      _ _ hrender
    have hall := (hclosed.trans hemitted).trans hlaidOut
    rwa [List.append_nil, List.append_nil] at hall

/-- A render reports the fault that it ended with, and how many regions it left to be discarded:
the body of a fresh template has a region, its open section has one if it was not skipped, and a
layout leaves none. -/
theorem ends_discarded (hr : s.stage.repertoire.Orderly) (hopen : s.template.store.openName = none)
    (hends : (chronicleAt depth).Ends (nestedAt depth) (s.opening data) outcome left inner ending) :
    ending.Fits outcome ∧
      ∀ fault, outcome = .error fault →
        left.stage.capture.excess s.stage.capture.depth = ending.discarded := by
  have hn := keepsCapture_nestedAt hr depth
  have hwithin {ended : Except Fault Unit} {finish : Scene}
      (hdisplay : display (nestedAt depth) (s.opening data) = some (ended, finish)) :
      finish.Within s.stage.capture.openRegion s.stage.repertoire :=
    display_within hn hr (within_openRegion (s := s.begin data)
      (SectionStore.isCaptured_of_closed hopen) (s.repertoire_begin data)) _ _ hdisplay
  have hfailed {finish : Scene} (h : finish.Within s.stage.capture.openRegion s.stage.repertoire)
      (kind : FaultKind) : finish.stage.capture.excess s.stage.capture.depth =
        (Ending.bodyFailed kind finish.template.store.isCaptured).discarded := by
    have hdepth : finish.stage.capture.depth = s.stage.capture.openRegion.depth +
        if finish.template.store.isCaptured then 1 else 0 := h.inStep.depth
    rw [Capture.excess, hdepth, Capture.depth_openRegion, Ending.discarded]
    split <;> omega
  -- Only a body that failed leaves regions: a layout is rendered once its body is finished.
  cases hends with
  | failed hdisplay => exact ⟨rfl, fun _ _ => hfailed (hwithin hdisplay) _⟩
  | unclosed hdisplay => exact ⟨rfl, fun _ _ => hfailed (hwithin hdisplay) _⟩
  | plain => exact ⟨rfl, nofun⟩
  | @layout content name finish closed after _ hdisplay hfinish _ hrender =>
    have hfits : (Ending.ofLayout outcome).Fits outcome := by cases outcome <;> rfl
    refine ⟨hfits, fun fault hfault => ?_⟩
    subst hfault
    obtain ⟨-, -, rfl⟩ := finishBody_ok_inv (hwithin hdisplay) hfinish
    have hrepertoire := repertoire_of_closed hdisplay hfinish
    rw [s.repertoire_opening] at hrepertoire
    have hafter := (hn.render (s := Scene.layoutScene _ name content) _ rfl
      ((Stage.repertoire_emit _ _).trans hrepertoire) _ _ hrender).capture_eq
    have hcapture : after.stage.capture = s.stage.capture := hafter
    rw [Capture.excess, hcapture]
    exact Nat.sub_self _

/-- A render that failed logs its record when it is settled, and one that returned logs nothing. -/
theorem log_settle (hfits : ending.Fits outcome)
    (hdiscarded : ∀ fault, outcome = .error fault →
      left.stage.capture.excess s.stage.capture.depth = ending.discarded) :
    (s.settle outcome left).stage.log = left.stage.log ++
      (ending.record? s.template.name (decide (0 < s.stage.engine.activeRenders))).toList := by
  cases outcome with
  | ok text =>
    obtain rfl : ending = .returned := hfits
    exact (List.append_nil _).symm
  | error fault =>
    have hrecord : ending.record? s.template.name (decide (0 < s.stage.engine.activeRenders)) =
        some (.renderFailed s.template.name fault.kind
          (left.stage.capture.excess s.stage.capture.depth)
          (decide (0 < s.stage.engine.activeRenders))) := by
      rw [hdiscarded fault rfl, Ending.record?, show ending.kind? = some fault.kind from hfits]
      rfl
    rw [hrecord]
    rfl

/-- A render is accounted for if what happens inside of it is. -/
theorem KeepsAccounts.renderWith (hn : KeepsAccounts depth) (hr : s.stage.repertoire.Orderly)
    (hopen : s.template.store.openName = none) (data : Dictionary Value) :
    Leaves (fun s' => s.stage.Accounts
        ((chronicleAt depth).ofRender (nestedAt depth) data s) s'.stage)
      (renderWith (nestedAt depth) data s) := by
  intro outcome after hafter
  obtain ⟨left, inner, ending, hends, rfl, hchronicle⟩ :=
    renderWith_ends (chronicleAt depth) hafter
  obtain ⟨hfits, hdiscarded⟩ := ends_discarded hr hopen hends
  have haccounts := hn.ends (by rwa [s.repertoire_opening]) hends
  obtain ⟨events, hlog, hrecords⟩ := haccounts.logged
  have hstarted : (s.opening data).stage.log =
      s.stage.log ++ [.renderStarted s.template.name s.stage.capture.depth] := rfl
  have hactive : left.stage.engine.activeRenders = s.stage.engine.activeRenders + 1 :=
    haccounts.active_eq
  rw [hchronicle]
  refine ⟨?_, ?_, ?_⟩
  · cases outcome <;> simp [Scene.settle, abandon, Stage.leave, Engine.leave, Stage.unwind, hactive]
  · intro occurrence hoccurrence
    rw [List.mem_singleton.mp hoccurrence]
    exact .render rfl haccounts.counted ending
  · refine ⟨.renderStarted s.template.name s.stage.capture.depth :: (events ++ (ending.record?
      s.template.name (decide (0 < s.stage.engine.activeRenders))).toList), ?_, ?_⟩
    · rw [log_settle hfits hdiscarded, hlog, hstarted]
      simp only [List.append_assoc, List.cons_append, List.nil_append]
    · have hrecord : (ending.record? s.template.name
          (decide (0 < s.stage.engine.activeRenders))).toList.filter Event.isOfRender =
          (ending.record? s.template.name
            (decide (0 < s.stage.engine.activeRenders))).toList := by
        cases ending <;> rfl
      rw [List.filter_cons_of_pos rfl, List.filter_append, hrecords, hrecord]
      exact (List.append_nil _).symm

/-- Nested renders and nested calls of any depth are accounted for. -/
theorem keepsAccounts (depth : Nat) : KeepsAccounts depth := by
  induction depth with
  | zero => exact ⟨fun _ _ _ => leaves_none, fun _ _ => leaves_none⟩
  | succ depth ih =>
    exact ⟨fun data hopen hr => ih.renderWith hr hopen data, fun hp hr => ih.run hp hr⟩

/-- While orderly bodies run, renders are counted and failures recorded as they should be. Where a
body begins, and where one is looked up, the engine counts the renders in progress, and a render
that is over, whether it returned or failed, leaves the count as it was. The records of the render
and of those nested in it are logged in their order: each render that fails has one record, behind
those of whatever was rendered inside of it, and each one that returns has none. A record is a
warning if and only if no other render was in progress. It counts no discarded region if the layout
failed, and otherwise that of the body, and that of its open section if it was not skipped. -/
theorem render_accounts (depth : Nat) {s after : Scene} {data : Dictionary Value}
    {outcome : Except Fault String} (hr : s.stage.repertoire.Orderly)
    (ht : s.template.Fresh s.stage.engine)
    (h : (nestedAt (depth + 1)).render data s = some (outcome, after)) :
    ∃ left inner ending, ∃ events : List Event,
      (chronicleAt (depth + 1)).render data s = [.render (s.begin data) inner ending] ∧
      (chronicleAt depth).Ends (nestedAt depth) (s.opening data) outcome left inner ending ∧
      ending.Fits outcome ∧
      after.stage.engine.activeRenders = s.stage.engine.activeRenders ∧
      (Occurrence.render (s.begin data) inner ending).Counted s.stage.engine.activeRenders ∧
      after.stage.log = s.stage.log ++ events ∧
      events.filter Event.isOfRender =
        (Occurrence.render (s.begin data) inner ending).records s.stage.engine.activeRenders ∧
      events.filter (·.level = .warning) =
        if s.stage.engine.activeRenders = 0 then (ending.record? s.template.name false).toList
        else [] := by
  have haccounts := (keepsAccounts (depth + 1)).render data ht.openName_eq hr _ _ h
  obtain ⟨left, inner, ending, hends, -, hchronicle⟩ := renderWith_ends (chronicleAt depth) h
  have hchronicle : (chronicleAt (depth + 1)).render data s =
      [.render (s.begin data) inner ending] := hchronicle
  rw [hchronicle] at haccounts
  obtain ⟨events, hlog, hrecords⟩ := haccounts.logged
  have hrecords : events.filter Event.isOfRender =
      (Occurrence.render (s.begin data) inner ending).records s.stage.engine.activeRenders :=
    hrecords.trans (List.append_nil _)
  exact ⟨left, inner, ending, events, hchronicle, hends,
    (ends_discarded hr ht.openName_eq hends).1, haccounts.active_eq,
    haccounts.counted _ (List.mem_singleton.mpr rfl), hlog, hrecords, warnings_of_records hrecords⟩

end Renders

/-- A stage with a page that inserts a template which fails with a section open, goes on, and
declares that same template its layout. -/
def Stage.failingTwice : Stage where
  engine := { bodies := [
    ("broken", .forEach .tell [.canvas (.start "a"), .canvas (.start "b")]),
    ("page", ((Program.tell (.insert "broken" [] false)).rescue fun _ => .done ()).bind fun _ =>
      .tell (.layout (some "broken") (.ok [])))] }

theorem Stage.orderly_failingTwice : Stage.failingTwice.repertoire.Orderly := by
  refine Stage.orderly_of_bodies rfl rfl fun entry hentry => ?_
  simp only [Stage.failingTwice, List.mem_cons, List.not_mem_nil, or_false] at hentry
  rcases hentry with rfl | rfl
  · exact Program.orderly_forEach fun operation ho =>
      Program.orderly_tell (by revert operation; decide)
  · have hinsert : ((Program.tell (.insert "broken" [] false)).rescue fun _ => .done ()).Orderly :=
      (Program.orderly_tell rfl).rescue fun _ => trivial
    exact hinsert.bind fun _ => Program.orderly_tell rfl

/-- The page fails with its layout. It is caught that the template fails at first, so there is one
warning, and while the template leaves two regions each time, the page leaves none. -/
theorem render_accounts_failingTwice :
    ∃ after, (nestedAt 3).render [] ⟨Stage.failingTwice.engine.make "page", .failingTwice⟩ =
        some (.error (.nestedSection "b" "a"), after) ∧
      after.stage.engine.activeRenders = 0 ∧
      after.stage.log.filter Event.isOfRender = [
        .renderStarted "page" 0,
        .renderStarted "broken" 1, .renderFailed "broken" .nestedSection 2 true,
        .renderStarted "broken" 0, .renderFailed "broken" .nestedSection 2 true,
        .renderFailed "page" .nestedSection 0 false] ∧
      after.stage.log.filter (·.level = .warning) =
        [.renderFailed "page" .nestedSection 0 false] := by
  have hrender : (nestedAt 3).render [] ⟨Stage.failingTwice.engine.make "page", .failingTwice⟩ =
      some (.error (.nestedSection "b" "a"), _) := rfl
  obtain ⟨left, inner, ending, events, hchronicle, -, -, hactive, -, hlog, hrecords, hwarnings⟩ :=
    render_accounts 2 Stage.orderly_failingTwice (.make "page") hrender
  cases hchronicle
  refine ⟨_, hrender, hactive, ?_, ?_⟩
  · rw [hlog]
    exact hrecords
  · rw [hlog]
    exact hwarnings

end TemplateEngine
