import TemplateEngine.CommandLine.Run
import TemplateEngine.Proofs.Engine.Failure

/-!
# What is reported when a command fails

A command that has begun loads its data, builds its engine, and finds or renders its template. What
fails first ends it with the same exit status, but not always with a report: which kinds of fault
are handled depends on where the fault is met. The kinds of fault that reading documents has of its
own are handled where a document is to hold data, and left to the caller where it is to hold
settings.

The language of documents is not fixed, so that nothing is said about which texts hold what.

## Main definitions

* `Origin`: where a command can fail.
* `DataFault`, `Origin.Causes`: why it fails there.
* `Origin.kinds`, `Origin.reports`: the kinds of fault that are reported there.
* `failure?`: the first fault that a command meets.
* `begin?`: the session in which a command begins.
* `EndsBy`: how a command ends that has begun.

## Main results

* `causes_of_failure?`: what a command meets has a cause.
* `endsBy_of_begin?`: how a command ends that has begun.
* `run_reports_by_cause`: every fault that ends a command, and whether it is reported.
-/

namespace TemplateEngine.CommandLine

/-! ### Where a command fails -/

/-- Where a command can fail once it has begun: loading its data, building its engine, or finding
and rendering its template. -/
inductive Origin where
  | data
  | engine
  | template
  deriving DecidableEq, Repr

/-- The kinds of the faults that the engine raises itself. -/
def ownKinds : List FaultKind :=
  [.templateError, .sectionError, .reservedName, .nestedSection, .notOpen, .unclosedSection,
    .capture, .unknownBatchFunction, .functionNotFound, .functionRegistration,
    .invalidTemplateName, .folder, .templateNotFound]

/-- The kinds of fault that are reported. -/
def Origin.kinds : Origin → List FaultKind
  | .data => [.fileNotFound, .document, .documentContent, .unicode, .valueError,
    .invalidTemplateName]
  | .engine => .fileNotFound :: ownKinds
  | .template => .fileNotFound :: ownKinds

/-- Whether a fault is reported where it is met. -/
def Origin.reports (origin : Origin) (fault : Fault) : Bool := origin.kinds.contains fault.kind

/-- Why data cannot be loaded: its document is not there, cannot be read or settled, or is no
mapping. -/
inductive DataFault (w : Surroundings) (r : Request) : Fault → Prop
  | missing {path : Path} (hfile : r.dataFile = some path) (h : w.files.exists? path = .ok false) :
    DataFault w r (.dataFileMissing path)
  | document {path : Path} {fault : Fault} (hfile : r.dataFile = some path)
    (h : w.DocumentFault path fault) : DataFault w r fault
  | settle {path : Path} {v : Value} {fault : Fault} (hfile : r.dataFile = some path)
    (hdocument : w.documents.load w.files path = .ok v) (h : w.documents.settle v = .error fault) :
    DataFault w r fault
  | shape {path : Path} (hfile : r.dataFile = some path) : DataFault w r (.dataFileShape path)

/-- Why a command fails: what keeps its data from being loaded or its engine from being built, or
whatever finding and rendering its template raises. -/
def Origin.Causes (s : Session) (r : Request) : Origin → Fault → Prop
  | .data, fault => DataFault s.surroundings r fault
  | .engine, fault => Stage.BuildFault s.surroundings r.settings fault
  | .template, _ => True

/-- The data that a command loads. -/
def loadedData (w : Surroundings) (r : Request) : Except Fault (Dictionary Value) :=
  match r.command with
  | .render => r.dataFile.elim (.ok []) (loadData w)
  | .exists | .path => .ok []

/-- What a command does with its engine. -/
def attempt (r : Request) (loaded : Dictionary Value) (stage : Stage) : Except Fault Unit :=
  match r.command with
  | .render =>
    (stage.render r.name (loaded.overlay ((pairs? r.data).getD []))).1.map fun _ => ()
  | .exists => (stage.templateExists r.name).map fun _ => ()
  | .path => (stage.templatePath r.name).map fun _ => ()

/-- The first fault that a command meets, and where. -/
def failure? (s : Session) (r : Request) : Option (Origin × Fault) :=
  match loadedData s.surroundings r with
  | .error fault => some (.data, fault)
  | .ok loaded =>
    match buildStage s r with
    | (.error fault, _) => some (.engine, fault)
    | (.ok (), stage) =>
      match attempt r loaded stage with
      | .error fault => some (.template, fault)
      | .ok () => none

/-- The session in which a command begins, once its log is set up and its words are understood. -/
def begin? (s : Session) (r : Request) : Option Session :=
  match r.command with
  | .render =>
    match startLog s r, pairs? r.data with
    | (.ok ready, _), some _ => some ready
    | _, _ => none
  | .exists | .path => some s

/-! ### What is reported -/

variable {s ready : Session} {r : Request} {fault : Fault}

/-- Where data is loaded, the handler takes the kinds that are reported there. -/
theorem isDataFault_eq (fault : Fault) : isDataFault fault = Origin.data.reports fault := by
  change (fault.kind.isA .fileNotFound || fault.kind.isA .valueError ||
    fault.kind.isA .document || fault.kind.isA .documentContent) =
      Origin.data.kinds.contains fault.kind
  cases fault.kind <;> rfl

/-- Elsewhere, the handler takes the kinds that the engine raises itself, and files that are not
there. -/
theorem isEngineFault_eq (fault : Fault) :
    isEngineFault fault = (FaultKind.fileNotFound :: ownKinds).contains fault.kind := by
  change (fault.kind.isA .templateError || fault.kind.isA .fileNotFound) = _
  cases fault.kind <;> rfl

/-- Whichever of the two handlers it comes to, what a command meets is reported by its kind. -/
theorem handler_eq_reports (origin : Origin) (fault : Fault) :
    (if origin = .data then isDataFault else isEngineFault) fault = origin.reports fault := by
  cases origin with
  | data => exact isDataFault_eq fault
  | engine => exact isEngineFault_eq fault
  | template => exact isEngineFault_eq fault

/-- What documents of settings or data set is not reported, if it is of the wrong shape. -/
theorem unreported_of_shape (h : Settings.IsShapeFault fault) :
    Origin.engine.reports fault = false := by
  cases fault with
  | plain kind =>
    simp only [Settings.IsShapeFault, List.mem_cons, List.not_mem_nil, or_false] at h
    rcases h with rfl | rfl | rfl | rfl | rfl <;> rfl
  | absent why => rfl
  | _ => exact h.elim

theorem reported_of_placing (h : Stage.IsPlacingFault fault) :
    Origin.engine.reports fault = true := by
  cases fault with
  | directoryMissing | folderNameTaken | folderDirectoryMissing => rfl
  | _ => exact h.elim

/-- The faults that reading documents has of its own are reported where data is loaded, and nowhere
else. -/
theorem reports_of_document (h : fault.isA .document = true ∨ fault.isA .documentContent = true) :
    Origin.data.reports fault = true ∧ Origin.engine.reports fault = false := by
  unfold Fault.isA at h
  unfold Origin.reports
  revert h
  cases fault.kind <;> simp [FaultKind.isA, FaultKind.lineage, Origin.kinds, ownKinds]

/-! ### What is met -/

theorem failsBy_loadData {w : Surroundings} {path : Path} (hfile : r.dataFile = some path) :
    FailsBy (DataFault w r) (loadData w path) := by
  unfold loadData
  split
  · exact .error (.document hfile (.refused ‹_›))
  · exact .error (.missing hfile ‹_›)
  · split
    · exact .error (.document hfile (.unread ‹_› ‹_›))
    · split
      · exact .ok _
      · exact .error (.shape hfile)
      · exact .error (.settle hfile ‹_› ‹_›)

theorem failsBy_loadedData (w : Surroundings) (r : Request) :
    FailsBy (DataFault w r) (loadedData w r) := by
  unfold loadedData
  split
  · cases hfile : r.dataFile with
    | none => exact .ok _
    | some path => exact failsBy_loadData hfile
  · exact .ok _
  · exact .ok _

theorem failsBy_buildStage (s : Session) (r : Request) :
    FailsBy (Stage.BuildFault s.surroundings r.settings) (buildStage s r).1 := by
  have hdocument := Stage.failsBy_fromDocument { host := s.host, files := s.files }
    s.surroundings r.settings
  unfold buildStage
  split
  · next hfault => exact .error (hdocument _ (congrArg Prod.fst hfault))
  · next stage _ =>
    split
    · exact .ok _
    · next directory _ =>
      unfold Stage.setDirectory
      cases hcheck : checkDirectory stage.files (some directory) with
      | error fault => exact .error (Stage.failsBy_checkDirectory _ _ _ hcheck)
      | ok found => exact .ok _

/-- What a command meets has a cause. -/
theorem causes_of_failure? {origin : Origin} (h : failure? s r = some (origin, fault)) :
    origin.Causes s r fault := by
  unfold failure? at h
  split at h
  · cases h
    exact failsBy_loadedData _ _ _ ‹_›
  · split at h
    · next hbuilt =>
      cases h
      exact failsBy_buildStage s r _ (congrArg Prod.fst hbuilt)
    · split at h
      · cases h
        trivial
      · cases h

/-! ### How a command ends -/

theorem notice_startLog (s : Session) (r : Request) : (startLog s r).2.notice = s.notice := by
  unfold startLog
  split <;> rfl

theorem startLog_ok {left : Session} (h : startLog s r = (.ok ready, left)) : ready = left := by
  unfold startLog at h
  split at h
  · cases h
    rfl
  · obtain ⟨hok, rfl⟩ := Prod.mk.inj h
    obtain ⟨-, -, rfl⟩ := exists_of_map_ok hok
    rfl

theorem notice_begin? (h : begin? s r = some ready) : ready.notice = s.notice := by
  unfold begin? at h
  split at h
  · split at h
    · next hstart _ =>
      cases h
      have hready := startLog_ok hstart
      have hnotice := notice_startLog s r
      rw [hstart] at hnotice
      rwa [hready]
    · cases h
  · cases h
    rfl
  · cases h
    rfl

/-- A command that met no fault is done, unless it cannot write into the file that was asked for. -/
def Finishes (r : Request) (outcome : Outcome) : Prop :=
  (∃ yes, outcome.ending = .done yes) ∨
    ∃ path fault, r.output = some path ∧ outcome.ending = .escaped fault

/-- How a command ends that has begun: as a handler leaves the first fault that it meets, or
finished. -/
inductive EndsBy (s : Session) (r : Request) (outcome : Outcome) : Prop
  | failed {origin : Origin} {fault : Fault} {left : Session}
    (hfailure : failure? s r = some (origin, fault)) (hnotice : left.notice = s.notice)
    (houtcome : outcome =
      fail (if origin = .data then isDataFault else isEngineFault) fault left)
  | finished (hnone : failure? s r = none) (hfinishes : Finishes r outcome)

/-- A command that has loaded its data fails with what it meets on its stage, or finishes. -/
theorem endsBy_of_loaded {α : Type} {loaded : Dictionary Value} {outcome : Outcome}
    (use : Stage → Except Fault α × Stage) (hloaded : loadedData s.surroundings r = .ok loaded)
    (huse : ∀ stage, attempt r loaded stage = (use stage).1.map fun _ => ())
    (hfails : ∀ fault left, onStage s r use = (.error fault, left) →
      outcome = fail isEngineFault fault left)
    (hfinishes : ∀ a left, onStage s r use = (.ok a, left) → Finishes r outcome) :
    EndsBy s r outcome := by
  unfold onStage at hfails hfinishes
  rcases hbuilt : buildStage s r with ⟨fault | _, stage⟩
  · simp only [hbuilt] at hfails
    have hfailure : failure? s r = some (.engine, fault) := by simp only [failure?, hloaded, hbuilt]
    have hnotice : (s.leaveStage stage).notice = s.notice := rfl
    exact .failed hfailure hnotice (hfails fault _ rfl)
  · rcases hused : use stage with ⟨fault | a, left⟩
    · simp only [hbuilt, hused] at hfails
      have hfailure : failure? s r = some (.template, fault) := by
        simp only [failure?, hloaded, hbuilt, huse, hused]
        rfl
      have hnotice : (s.leaveStage left).notice = s.notice := rfl
      exact .failed hfailure hnotice (hfails fault _ rfl)
    · simp only [hbuilt, hused] at hfinishes
      have hnone : failure? s r = none := by
        simp only [failure?, hloaded, hbuilt, huse, hused]
        rfl
      exact .finished hnone (hfinishes a (s.leaveStage left) rfl)

/-- A text that is delivered is written, unless it cannot be written into a file. -/
theorem finishes_deliver (r : Request) (text : String) (s : Session) :
    Finishes r (deliver r.output text s) := by
  cases houtput : r.output with
  | none => exact .inl ⟨true, rfl⟩
  | some path =>
    unfold deliver
    (repeat' split) <;> first
      | exact .inl ⟨_, rfl⟩
      | exact .inr ⟨path, _, houtput, rfl⟩

/-- How a command ends that has begun. -/
theorem endsBy_of_begin? (hbegin : begin? s r = some ready) :
    EndsBy ready r (runInvocation s (.run r)) := by
  -- Only a render has data to load, and only it may fail to write what it delivers.
  cases hcommand : r.command with
  | render =>
    simp only [begin?, hcommand] at hbegin
    split at hbegin
    · next pairs hstart hpairs =>
      cases hbegin
      have hdata : loadedData ready.surroundings r =
          r.dataFile.elim (.ok []) (loadData ready.surroundings) := by
        rw [loadedData, hcommand]
      simp only [runInvocation, hcommand, renderRequest, hstart, hpairs, ← hdata]
      cases hloaded : loadedData ready.surroundings r with
      | error fault =>
        have hfailure : failure? ready r = some (.data, fault) := by simp only [failure?, hloaded]
        exact .failed hfailure rfl rfl
      | ok loaded =>
        refine endsBy_of_loaded (fun stage => stage.render r.name (loaded.overlay pairs)) hloaded
          (fun stage => by simp only [attempt, hcommand, hpairs, Option.getD_some])
          (fun fault left hstage => by simp only [hstage]) fun text left hstage => ?_
        simp only [hstage]
        exact finishes_deliver r text left
    · cases hbegin
  | «exists» =>
    have hloaded : loadedData s.surroundings r = .ok [] := by rw [loadedData, hcommand]
    simp only [begin?, hcommand, Option.some.injEq] at hbegin
    subst hbegin
    simp only [runInvocation, hcommand, existsRequest]
    refine endsBy_of_loaded (fun stage => (stage.templateExists r.name, stage)) hloaded
      (fun stage => by simp only [attempt, hcommand])
      (fun fault left hstage => by simp only [hstage]) fun found left hstage => ?_
    simp only [hstage]
    cases found <;> exact .inl ⟨_, rfl⟩
  | path =>
    have hloaded : loadedData s.surroundings r = .ok [] := by rw [loadedData, hcommand]
    simp only [begin?, hcommand, Option.some.injEq] at hbegin
    subst hbegin
    simp only [runInvocation, hcommand, pathRequest]
    refine endsBy_of_loaded (fun stage => (stage.templatePath r.name, stage)) hloaded
      (fun stage => by simp only [attempt, hcommand])
      (fun fault left hstage => by simp only [hstage]) fun path left hstage => ?_
    simp only [hstage]
    exact .inl ⟨true, rfl⟩

theorem status_fail (reports : Fault → Bool) (fault : Fault) (s : Session) :
    (fail reports fault s).ending.status = 1 := by
  unfold fail
  split <;> rfl

/-- A document that cannot be read gives no data. -/
theorem loadedData_of_error {path : Path} (hcommand : r.command = .render)
    (hfile : r.dataFile = some path) (hexists : s.files.exists? path = .ok true)
    (h : s.surroundings.documents.load s.files path = .error fault) :
    loadedData s.surroundings r = .error fault := by
  have hload : loadData s.surroundings path = .error fault := by
    have hfiles : s.surroundings.files = s.files := rfl
    simp only [loadData, hfiles, hexists, h]
  rw [loadedData, hcommand, hfile]
  exact hload

/-- A document that cannot be read gives no settings. -/
theorem buildStage_of_error {path : Path} (hsettings : r.settings = some path)
    (hexists : s.files.exists? path = .ok true)
    (h : s.surroundings.documents.load s.files path = .error fault) :
    (buildStage s r).1 = .error fault := by
  have hentries : Settings.entriesFrom s.surroundings path = .error fault := by
    have hfiles : s.surroundings.files = s.files := rfl
    simp only [Settings.entriesFrom, hfiles, hexists, h]
  have hloaded : Settings.load s.surroundings r.settings = .error fault := by
    rw [hsettings, Settings.load_eq_read, Settings.read, Settings.merged]
    simp only [Option.some_or, Option.elim, hentries]
    rfl
  simp only [buildStage, Stage.fromDocument, hloaded]

/-- If a command that has begun meets no fault it is done, unless it cannot write into the file that
was asked for. If it meets one, that has a cause, the exit status tells so, and either the fault is
reported in one line, besides which nothing but the log goes to the standard error output, or it is
left to the caller. Whether it is reported depends on its kind and on where it is met. It is
reported that the document of settings or data, a directory or a folder is not there, that a folder
is named twice and that data is no mapping, and not that a look-up is refused or that settings are
of the wrong shape. A document that cannot be read is met where it is to hold data and where it is
to hold settings alike, but a fault of a kind that reading documents has of its own is reported in
the first place only. -/
theorem run_reports_by_cause {words : List String} (hread : s.reads words = .run r)
    (hbegin : begin? s r = some ready) :
    (match failure? ready r with
      | none => (∃ yes, (run s words).ending = .done yes) ∨
        ∃ path fault, r.output = some path ∧ (run s words).ending = .escaped fault
      | some (origin, fault) => origin.Causes ready r fault ∧ (run s words).ending.status = 1 ∧
        ∃ left : Session, left.notice = s.notice ∧ run s words =
          if origin.reports fault then
            ⟨.failed fault, left.report ("Error: " ++ fault.message ++ "\n")⟩
          else ⟨.escaped fault, left⟩) ∧
    (∀ path, Origin.data.reports (.dataFileMissing path) ∧
      Origin.data.reports (.dataFileShape path) ∧
      Origin.engine.reports (.configurationMissing path)) ∧
    (∀ fault, (Stage.IsPlacingFault fault → Origin.engine.reports fault) ∧
      (Settings.IsShapeFault fault → Origin.engine.reports fault = false)) ∧
    (∀ (refusal : Refusal) (origin : Origin), origin.reports refusal.fault = false) ∧
    ∀ path fault, ready.files.exists? path = .ok true →
      ready.surroundings.documents.load ready.files path = .error fault →
        (r.command = .render → r.dataFile = some path → failure? ready r = some (.data, fault)) ∧
        ((∃ loaded, loadedData ready.surroundings r = .ok loaded) → r.settings = some path →
          failure? ready r = some (.engine, fault)) ∧
        (fault.isA .document = true ∨ fault.isA .documentContent = true →
          Origin.data.reports fault = true ∧ Origin.engine.reports fault = false) := by
  have hrun : run s words = runInvocation s (.run r) := by rw [run, hread]
  refine ⟨?_, fun _ => ⟨rfl, rfl, rfl⟩, fun _ => ⟨reported_of_placing, unreported_of_shape⟩, ?_,
    fun path fault hexists hload => ⟨fun hcommand hfile => ?_, ?_, reports_of_document⟩⟩
  · rw [hrun]
    cases endsBy_of_begin? hbegin with
    | @failed origin fault left hfailure hnotice houtcome =>
      simp only [hfailure, houtcome]
      refine ⟨causes_of_failure? hfailure, status_fail _ fault left, left,
        hnotice.trans (notice_begin? hbegin), ?_⟩
      simp only [fail, handler_eq_reports]
    | finished hnone hfinishes =>
      simp only [hnone]
      exact hfinishes
  · intro refusal origin
    cases refusal <;> cases origin <;> rfl
  -- The document is the one for the data, and then the one for the settings.
  · simp only [failure?, loadedData_of_error hcommand hfile hexists hload]
  · rintro ⟨loaded, hloaded⟩ hsettings
    have hbuilt := buildStage_of_error hsettings hexists hload
    rcases hstage : buildStage ready r with ⟨other | _, stage⟩
    · rw [hstage] at hbuilt
      cases hbuilt
      simp only [failure?, hloaded, hstage]
    · rw [hstage] at hbuilt
      cases hbuilt

/-- A text that is no document. -/
def malformedText : String := "name: [unclosed\n"

/-- A session whose working directory holds the text as a document. -/
def Session.withMalformed : Session where
  surroundings :=
    { files :=
        { here := ["t"]
          entries := [(["t"], .directory), (["t", "c.yaml"], .file malformedText)] }
      documents :=
        { read := fun text => if text = malformedText then .error .documentSyntax
            else .ok (.dict []) } }
  reads := Invocation.read

theorem load_withMalformed : Session.withMalformed.surroundings.documents.load
    Session.withMalformed.files { steps := ["c.yaml"] } = .error .documentSyntax := rfl

/-- What is asked for if the document is to hold settings. -/
def renderWithSettings : Request :=
  { command := .render, name := "a", settings := some { steps := ["c.yaml"] } }

/-- What is asked for if it is to hold data. -/
def renderWithData : Request :=
  { command := .render, name := "a", dataFile := some { steps := ["c.yaml"] } }

/-- The document is reported where it is to hold data, and left to the caller where it is to hold
settings. -/
theorem run_reports_by_cause_malformed :
    failure? .withMalformed renderWithData = some (.data, .documentSyntax) ∧
      failure? .withMalformed renderWithSettings = some (.engine, .documentSyntax) ∧
      (∃ left : Session, left.notice = "" ∧
        run .withMalformed ["render", "a", "--data-file", "c.yaml"] =
          ⟨.failed .documentSyntax, left.report "Error: \n"⟩) ∧
      ∃ left : Session, left.notice = "" ∧
        run .withMalformed ["render", "a", "--config", "c.yaml"] =
          ⟨.escaped .documentSyntax, left⟩ := by
  have hreadData : Session.withMalformed.reads ["render", "a", "--data-file", "c.yaml"] =
      .run renderWithData := rfl
  have hreadSettings : Session.withMalformed.reads ["render", "a", "--config", "c.yaml"] =
      .run renderWithSettings := rfl
  obtain ⟨hreported, -, -, -, hasData⟩ := run_reports_by_cause hreadData rfl
  obtain ⟨hescaped, -, -, -, hasSettings⟩ := run_reports_by_cause hreadSettings rfl
  obtain ⟨hdata, -, hkinds⟩ := hasData _ _ rfl load_withMalformed
  obtain ⟨-, hsettings, -⟩ := hasSettings _ _ rfl load_withMalformed
  have hdataFailure := hdata rfl rfl
  have hengineFailure := hsettings ⟨[], rfl⟩ rfl
  rw [hdataFailure] at hreported
  rw [hengineFailure] at hescaped
  obtain ⟨hreports, hescapes⟩ := hkinds (.inl rfl)
  simp only [hreports, if_true] at hreported
  simp only [hescapes, Bool.false_eq_true, if_false] at hescaped
  exact ⟨hdataFailure, hengineFailure, hreported.2.2, hescaped.2.2⟩

/-- A malformed document of settings is left to the caller, who is told nothing of it. -/
theorem run_lets_malformed_escape :
    (run .withMalformed ["render", "a", "--config", "c.yaml"]).ending = .escaped .documentSyntax ∧
      (run .withMalformed ["render", "a", "--config", "c.yaml"]).session.notice = "" :=
  ⟨rfl, rfl⟩

end TemplateEngine.CommandLine
