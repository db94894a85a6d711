import TemplateEngine.Document.Standard
import TemplateEngine.Proofs.CommandLine.AllOrNothing
import TemplateEngine.Proofs.CommandLine.Reporting
import TemplateEngine.Proofs.Engine.Rivals
import TemplateEngine.Proofs.Render.Exchange

/-!
# The directory of a request takes precedence

A request can name a directory that takes the place of the default directory of the settings. Two
sessions whose settings differ in the default directory then run the request alike, whatever it is
that they name, as long as it is a directory that is there. The default directory is looked for
before it is replaced, so that one that is not there ends the request.

## Main definitions

* `Session.Alike`, `Outcome.Alike`: what cannot be told apart from outside.
* `Session.ready`: the session in which a command starts to read.
* `Rivals`: sessions that differ in the default directory that their settings name.

## Main results

* `alike_onStage`: what is done with alike stages.
* `alike_of_rivals`: requests of rivals run alike.
* `run_overrides_directory`: the same of command lines, and how one ends otherwise.
-/

namespace TemplateEngine.CommandLine

/-! ### Alike sessions -/

/-- Two sessions on the same host that have written the same, send events to the same file, and have
file trees of one shape. They read command lines and strip texts alike. -/
structure Session.Alike (s s' : Session) : Prop where
  output_eq : s'.output = s.output
  notice_eq : s'.notice = s.notice
  host_eq : s'.host = s.host
  reads_eq : s'.reads = s.reads
  strip_eq : s'.strip = s.strip
  terminal_eq : s'.terminal = s.terminal
  log : s.log.SameTarget s'.log
  shape : s.files.SameShape s'.files

/-- Two runs that end the same way and leave alike sessions. -/
structure Outcome.Alike (left left' : Outcome) : Prop where
  ending_eq : left'.ending = left.ending
  session : left.session.Alike left'.session

variable {s s' : Session} {r : Request}

namespace Session.Alike

theorem sent_eq (h : s.Alike s') (text : String) : s'.sent text = s.sent text := by
  rw [sent, sent, h.terminal_eq, h.strip_eq]

theorem print (h : s.Alike s') (text : String) : (s.print text).Alike (s'.print text) := by
  refine { h with output_eq := ?_ }
  change s'.output ++ s'.sent text = s.output ++ s.sent text
  rw [h.output_eq, h.sent_eq]

theorem report (h : s.Alike s') (text : String) : (s.report text).Alike (s'.report text) := by
  refine { h with notice_eq := ?_ }
  change s'.notice ++ s'.strip text = s.notice ++ s.strip text
  rw [h.notice_eq, h.strip_eq]

theorem withFiles (h : s.Alike s') {files files' : FileTree} (hshape : files.SameShape files') :
    (s.withFiles files).Alike (s'.withFiles files') :=
  { h with shape := hshape }

/-- Sessions behind stages that have written the same are alike, whatever the stages logged. -/
theorem leaveStage (h : s.Alike s') {stage stage' : Stage}
    (hwritten : stage'.written = stage.written) :
    (s.leaveStage stage).Alike (s'.leaveStage stage') := by
  obtain ⟨hlog, hshape⟩ := Log.shape_deliver h.log h.shape stage.log stage'.log
  refine { h with output_eq := ?_, log := hlog, shape := hshape }
  change s'.output ++ stage'.written = s.output ++ stage.written
  rw [h.output_eq, hwritten]

end Session.Alike

theorem alike_fail (h : s.Alike s') (reports : Fault → Bool) (fault : Fault) :
    (fail reports fault s).Alike (fail reports fault s') := by
  unfold fail
  split
  · exact ⟨rfl, h.report _⟩
  · exact ⟨rfl, h⟩

/-- A text is delivered alike. -/
theorem alike_deliver (h : s.Alike s') (output : Option Path) (text : String) :
    (deliver output text s).Alike (deliver output text s') := by
  unfold deliver
  cases output with
  | none => exact ⟨rfl, h.print text⟩
  | some path =>
    rcases (h.shape.makeDirectories path.parent).cases with
      ⟨fault, hs, ht⟩ | ⟨files, files', hs, ht, hmade⟩
    · simp only [hs, ht]
      exact ⟨rfl, h⟩
    · simp only [hs, ht]
      rcases (hmade.writeText path text text).cases with
        ⟨fault, hs, ht⟩ | ⟨written, written', hs, ht, hwritten⟩
      · simp only [hs, ht]
        exact ⟨rfl, h.withFiles hmade⟩
      · simp only [hs, ht]
        exact ⟨rfl, (h.withFiles hwritten).report _⟩

/-- The log is set up alike. -/
theorem alike_startLog (h : s.Alike s') (r : Request) : ∃ ready ready' : Session,
    ready.Alike ready' ∧
      ((∃ fault, startLog s r = (.error fault, ready) ∧ startLog s' r = (.error fault, ready')) ∨
        startLog s r = (.ok ready, ready) ∧ startLog s' r = (.ok ready', ready')) := by
  unfold startLog
  cases r.logDirectory with
  | none => exact ⟨s, s', h, .inr ⟨rfl, rfl⟩⟩
  | some directory =>
    have hsetup := Log.shape_setupEngine s.log s'.log h.shape s.provenance s'.provenance directory
      r.directory r.directory
    dsimp only
    rcases hs : s.log.setupEngine s.files s.provenance (some directory) r.directory with
      ⟨outcome, log, files⟩
    rcases ht : s'.log.setupEngine s'.files s'.provenance (some directory) r.directory with
      ⟨outcome', log', files'⟩
    rw [hs, ht] at hsetup
    obtain ⟨houtcome, hlog, hshape⟩ := hsetup
    obtain rfl : outcome' = outcome := houtcome
    refine ⟨{ s.withFiles files with log := log }, { s'.withFiles files' with log := log' },
      { h with log := hlog, shape := hshape }, ?_⟩
    cases outcome' with
    | error fault => exact .inl ⟨fault, rfl, rfl⟩
    | ok file => exact .inr ⟨rfl, rfl⟩

/-! ### Rival sessions -/

/-- The session in which a command starts to read: its log is set up, if it has one. -/
def Session.ready (s : Session) (r : Request) : Session :=
  match r.command with
  | .render => (startLog s r).2
  | .exists | .path => s

/-- Why the default directory of the settings for a request cannot be used. -/
def Session.directoryFault? (s : Session) (r : Request) : Option Fault :=
  Settings.directoryFault? (s.ready r).surroundings r.settings

/-- Two sessions are alike, and where a command reads, its settings differ at most in the default
directory that they name. It finds the same data, and it only renders files that have the same
texts. -/
structure Rivals (r : Request) (s s' : Session) : Prop where
  alike : s.Alike s'
  settings : (s.ready r).surroundings.Rivals r.settings (s'.ready r).surroundings
  data : loadedData (s'.ready r).surroundings r = loadedData (s.ready r).surroundings r
  texts : r.command = .render → ∀ name path,
    (buildStage (s.ready r) r).2.resolvePath name = .ok (some path) →
      (s'.ready r).files.readText path = (s.ready r).files.readText path

/-- If the directory of a request takes the place of default directories that can be used, the
engines are the same. -/
theorem engine_buildStage (h : s.surroundings.Rivals r.settings s'.surroundings)
    {directory : Path} (hdirectory : r.directory = some directory)
    (hfault : Settings.directoryFault? s.surroundings r.settings = none)
    (hfault' : Settings.directoryFault? s'.surroundings r.settings = none) :
    (buildStage s' r).1 = (buildStage s r).1 ∧ ((buildStage s r).1 = .ok () →
      (buildStage s' r).2.engine = (buildStage s r).2.engine) := by
  have hfresh : Stage.Rivals { host := s.host, files := s.files }
      { host := s'.host, files := s'.files } := ⟨rfl, h.shape⟩
  unfold buildStage
  obtain ⟨left, left', hleft, ⟨fault, hs, ht⟩ | ⟨⟨⟩, hs, ht⟩⟩ :=
    (hfresh.fromDocument h rfl rfl hfault hfault').cases
  · rw [hs, ht]
    exact ⟨rfl, nofun⟩
  · simp only [hs, ht, hdirectory]
    obtain ⟨⟨houtcome, -⟩, hengine⟩ := hleft.setDirectory (some directory)
    exact ⟨houtcome, hengine⟩

/-- Nothing was written on the stages for a request. -/
theorem written_buildStage (s s' : Session) (r : Request) :
    (buildStage s' r).2.written = (buildStage s r).2.written := by
  have hbare := bare_buildStage s r
  have hbare' := bare_buildStage s' r
  rw [Stage.written, Stage.written, hbare.capture_eq, hbare'.capture_eq, hbare.printed_eq,
    hbare'.printed_eq]

/-- What is done alike with the stages for a request leaves alike sessions. -/
theorem alike_onStage {α : Type} {use : Stage → Except Fault α × Stage} (h : s.Alike s')
    (hbuilt : (buildStage s' r).1 = (buildStage s r).1)
    (huse : (buildStage s r).1 = .ok () →
      EndAlike (fun stage stage' : Stage => stage'.written = stage.written)
        (use (buildStage s r).2) (use (buildStage s' r).2)) :
    EndAlike Session.Alike (onStage s r use) (onStage s' r use) := by
  have hwritten := written_buildStage s s' r
  unfold onStage
  rcases hs : buildStage s r with ⟨outcome, stage⟩
  rcases ht : buildStage s' r with ⟨outcome', stage'⟩
  rw [hs] at hwritten hbuilt huse
  rw [ht] at hwritten hbuilt huse
  obtain rfl : outcome' = outcome := hbuilt
  cases outcome' with
  | error fault => exact ⟨rfl, h.leaveStage hwritten⟩
  | ok =>
    obtain ⟨houtcome, hleft⟩ := huse rfl
    exact ⟨houtcome, h.leaveStage hleft⟩

/-- The stages for a request of alike sessions have file trees of one shape. -/
theorem shape_buildStage (h : s.Alike s') (r : Request) :
    (buildStage s r).2.files.SameShape (buildStage s' r).2.files := by
  rw [(bare_buildStage s r).files_eq, (bare_buildStage s' r).files_eq]
  exact h.shape

section Requests

variable {directory : Path} (h : s.Alike s')
  (hsettings : s.surroundings.Rivals r.settings s'.surroundings)
  (hdirectory : r.directory = some directory)
  (hfault : Settings.directoryFault? s.surroundings r.settings = none)
  (hfault' : Settings.directoryFault? s'.surroundings r.settings = none)

include h hsettings hdirectory hfault hfault'

/-- What only depends on the paths of templates is found alike. -/
theorem alike_find {α : Type} (find : Stage → Except Fault α)
    (hfind : ∀ stage stage', stage'.resolvePath = stage.resolvePath → find stage' = find stage) :
    EndAlike Session.Alike (onStage s r fun stage => (find stage, stage))
      (onStage s' r fun stage => (find stage, stage)) := by
  obtain ⟨hbuilt, hengine⟩ := engine_buildStage hsettings hdirectory hfault hfault'
  refine alike_onStage h hbuilt fun hok => ⟨?_, ?_⟩
  · exact hfind _ _ (Stage.resolvePath_of_shape (hengine hok) (shape_buildStage h r))
  · exact written_buildStage s s' r

/-- A template is rendered alike if the files that are found have the same texts. -/
theorem alike_render
    (htexts : ∀ name path, (buildStage s r).2.resolvePath name = .ok (some path) →
      s'.files.readText path = s.files.readText path) (name : String) (data : Dictionary Value) :
    EndAlike Session.Alike (onStage s r fun stage => stage.render name data)
      (onStage s' r fun stage => stage.render name data) := by
  obtain ⟨hbuilt, hengine⟩ := engine_buildStage hsettings hdirectory hfault hfault'
  have hbare := bare_buildStage s r
  have hbare' := bare_buildStage s' r
  refine alike_onStage h hbuilt fun hok => ?_
  have hhost : (buildStage s' r).2.host = (buildStage s r).2.host := by
    rw [hbare.host_eq, hbare'.host_eq, h.host_eq]
  refine Stage.render_congr (hbare'.capture_eq.trans hbare.capture_eq.symm)
    (hbare'.printed_eq.trans hbare.printed_eq.symm) ?_ name data
  refine Stage.repertoire_of_shape hhost (hengine hok) (shape_buildStage h r)
    fun name path hpath => ?_
  rw [hbare.files_eq, hbare'.files_eq]
  exact htexts name path hpath

end Requests

/-! ### Requests of rivals -/

theorem ready_of_begin? {ready : Session} (h : begin? s r = some ready) : s.ready r = ready := by
  unfold begin? at h
  unfold Session.ready
  cases hcommand : r.command with
  | render =>
    simp only [hcommand] at h
    split at h
    · next hstart _ =>
      cases h
      rw [hstart]
      exact (startLog_ok hstart).symm
    · cases h
  | «exists» => simpa only [hcommand, Option.some.injEq] using h
  | path => simpa only [hcommand, Option.some.injEq] using h

/-- Requests of rivals run alike, if they name a directory and the default directories can be
used. -/
theorem alike_of_rivals (h : Rivals r s s') {directory : Path}
    (hdirectory : r.directory = some directory) (hfault : s.directoryFault? r = none)
    (hfault' : s'.directoryFault? r = none) :
    (runInvocation s (.run r)).Alike (runInvocation s' (.run r)) := by
  have halike := h.alike
  have hsettings := h.settings
  have hdata := h.data
  unfold Session.directoryFault? at hfault hfault'
  cases hcommand : r.command with
  | render =>
    have htexts := h.texts hcommand
    simp only [Session.ready, hcommand] at hsettings hdata htexts hfault hfault'
    simp only [loadedData, hcommand] at hdata
    simp only [runInvocation, hcommand, renderRequest]
    -- Settings and data are read after the log is set up, so that it is the ready sessions whose
    -- settings and data are compared.
    obtain ⟨ready, ready', hready, ⟨fault, hs, ht⟩ | ⟨hs, ht⟩⟩ := alike_startLog halike r
    · simp only [hs, ht]
      exact ⟨rfl, hready⟩
    · simp only [hs, ht] at hsettings hdata htexts hfault hfault' ⊢
      cases pairs? r.data with
      | none => exact ⟨rfl, hready⟩
      | some pairs =>
        simp only [hdata]
        cases r.dataFile.elim (.ok []) (loadData ready.surroundings) with
        | error fault => exact alike_fail hready isDataFault fault
        | ok loaded =>
          obtain ⟨left, left', hleft, ⟨fault, hs, ht⟩ | ⟨text, hs, ht⟩⟩ :=
            (alike_render hready hsettings hdirectory hfault hfault' htexts r.name
              (Dictionary.overlay loaded pairs)).cases
          · simp only [hs, ht]
            exact alike_fail hleft isEngineFault fault
          · simp only [hs, ht]
            exact alike_deliver hleft r.output text
  | «exists» =>
    simp only [Session.ready, hcommand] at hsettings hfault hfault'
    simp only [runInvocation, hcommand, existsRequest]
    obtain ⟨left, left', hleft, ⟨fault, hs, ht⟩ | ⟨found, hs, ht⟩⟩ :=
      (alike_find halike hsettings hdirectory hfault hfault' (·.templateExists r.name)
        fun stage stage' hpath => by simp only [Stage.templateExists, hpath]).cases
    · simp only [hs, ht]
      exact alike_fail hleft isEngineFault fault
    · simp only [hs, ht]
      cases found <;> exact ⟨rfl, hleft.print _⟩
  | path =>
    simp only [Session.ready, hcommand] at hsettings hfault hfault'
    simp only [runInvocation, hcommand, pathRequest]
    obtain ⟨left, left', hleft, ⟨fault, hs, ht⟩ | ⟨found, hs, ht⟩⟩ :=
      (alike_find halike hsettings hdirectory hfault hfault' (·.templatePath r.name)
        fun stage stage' hpath => by simp only [Stage.templatePath, hpath]).cases
    · simp only [hs, ht]
      exact alike_fail hleft isEngineFault fault
    · simp only [hs, ht]
      exact ⟨rfl, hleft.print _⟩

/-- A session with another default directory that its surroundings name. -/
def Session.withTemplates (s : Session) (templates : Option Path) : Session :=
  { s with surroundings := { s.surroundings with templates := templates } }

theorem ready_withTemplates (s : Session) (templates : Option Path) (r : Request) :
    (s.withTemplates templates).ready r = (s.ready r).withTemplates templates := by
  unfold Session.ready startLog
  cases r.command with
  | render => cases r.logDirectory <;> rfl
  | _ => rfl

/-- Whichever default directory the surroundings name, sessions that differ only in it are rivals
for every request. -/
theorem rivals_withTemplates (r : Request) (s : Session) (templates : Option Path) :
    Rivals r s (s.withTemplates templates) where
  alike := ⟨rfl, rfl, rfl, rfl, rfl, rfl, ⟨rfl, rfl⟩, .refl _⟩
  settings := by
    rw [ready_withTemplates]
    exact ⟨rfl, rfl, .refl _, .refl (fun _ _ _ => rfl) _⟩
  data := by
    rw [ready_withTemplates]
    rfl
  texts _ _ _ _ := by
    rw [ready_withTemplates]
    rfl

/-! ### A default directory that cannot be used -/

variable {ready ready' : Session} {fault : Fault}

/-- A command that is done has begun. -/
theorem begin?_of_done {yes : Bool} (h : (runInvocation s (.run r)).ending = .done yes) :
    ∃ ready, begin? s r = some ready := by
  unfold begin?
  split
  · next hcommand =>
    simp only [runInvocation, hcommand, renderRequest] at h
    rcases hstart : startLog s r with ⟨fault | ready, left⟩
    · simp only [hstart] at h
      cases h
    · cases hpairs : pairs? r.data with
      | none =>
        simp only [hstart, hpairs] at h
        cases h
      | some pairs => exact ⟨ready, rfl⟩
  · exact ⟨s, rfl⟩
  · exact ⟨s, rfl⟩

/-- Of alike sessions, a command begins in both or in none. -/
theorem begin?_of_alike (h : s.Alike s') (hbegin : begin? s' r = some ready') :
    ∃ ready, begin? s r = some ready := by
  unfold begin? at hbegin ⊢
  split at hbegin
  · obtain ⟨ready, other, -, ⟨fault, hs, ht⟩ | ⟨hs, ht⟩⟩ := alike_startLog h r
    · simp only [ht] at hbegin
      cases hbegin
    · cases hpairs : pairs? r.data with
      | none => simp [hpairs] at hbegin
      | some pairs => exact ⟨ready, by simp only [hs]⟩
  · exact ⟨s, rfl⟩
  · exact ⟨s, rfl⟩

theorem output_ready (s : Session) (r : Request) : (s.ready r).output = s.output := by
  unfold Session.ready startLog
  repeat' split
  all_goals rfl

/-- A command that has loaded its data fails with what keeps its engine from being built. -/
theorem runInvocation_of_buildStage {loaded : Dictionary Value} {stage : Stage}
    (hbegin : begin? s r = some ready) (hloaded : loadedData ready.surroundings r = .ok loaded)
    (hbuilt : buildStage ready r = (.error fault, stage)) :
    runInvocation s (.run r) = fail isEngineFault fault (ready.leaveStage stage) := by
  unfold begin? at hbegin
  unfold loadedData at hloaded
  split at hbegin
  · next hcommand =>
    split at hbegin
    · next pairs hstart hpairs =>
      cases hbegin
      simp only [hcommand] at hloaded
      simp only [runInvocation, hcommand, renderRequest, hstart, hpairs, hloaded, onStage, hbuilt]
    · cases hbegin
  · next hcommand =>
    cases hbegin
    simp only [runInvocation, hcommand, existsRequest, onStage, hbuilt]
  · next hcommand =>
    cases hbegin
    simp only [runInvocation, hcommand, pathRequest, onStage, hbuilt]

/-- A command that meets no fault has loaded its data and built its engine. -/
theorem built_of_failure?_eq_none (h : failure? s r = none) :
    (∃ loaded, loadedData s.surroundings r = .ok loaded) ∧ (buildStage s r).1 = .ok () := by
  unfold failure? at h
  split at h
  · cases h
  · next loaded hloaded =>
    refine ⟨⟨loaded, hloaded⟩, ?_⟩
    split at h
    · cases h
    · next hbuilt => rw [hbuilt]

/-- A default directory that cannot be used ends a command that is done with another one. -/
theorem fail_of_directoryFault? (h : Rivals r s s') (hfault : s.directoryFault? r = some fault)
    {yes : Bool} (hdone : (runInvocation s' (.run r)).ending = .done yes) :
    ∃ left : Session, left.output = s.output ∧ left.notice = s.notice ∧
      runInvocation s (.run r) = fail isEngineFault fault left := by
  obtain ⟨ready', hbegin'⟩ := begin?_of_done hdone
  obtain ⟨ready, hbegin⟩ := begin?_of_alike h.alike hbegin'
  have hsettings := h.settings
  have hdata := h.data
  unfold Session.directoryFault? at hfault
  rw [ready_of_begin? hbegin, ready_of_begin? hbegin'] at hsettings hdata
  rw [ready_of_begin? hbegin] at hfault
  -- The other session is done, so that its data was loaded and its engine was built.
  have hnone : failure? ready' r = none := by
    cases endsBy_of_begin? hbegin' with
    | failed _ _ houtcome =>
      rw [houtcome] at hdone
      exact (fail_ending_ne_done _ _ _ _ hdone).elim
    | finished hnone _ => exact hnone
  obtain ⟨⟨loaded, hloaded'⟩, hbuilt'⟩ := built_of_failure?_eq_none hnone
  have hdocument' : (Stage.fromDocument { host := ready'.host, files := ready'.files }
      ready'.surroundings r.settings).1 = .ok () := by
    unfold buildStage at hbuilt'
    split at hbuilt'
    · cases hbuilt'
    · next hdocument => rw [hdocument]
  -- What the settings say elsewhere passed there, so that here the default directory is at fault.
  have hbuilt : buildStage ready r =
      (.error fault, { host := ready.host, files := ready.files }) := by
    unfold buildStage
    rw [Stage.error_fromDocument hsettings rfl hfault hdocument']
  have hnotice : ready.notice = s.notice := notice_begin? hbegin
  refine ⟨ready.leaveStage { host := ready.host, files := ready.files }, ?_, hnotice,
    runInvocation_of_buildStage hbegin (hdata.symm.trans hloaded') hbuilt⟩
  change ready.output ++ "" = s.output
  rw [String.append_empty, ← ready_of_begin? hbegin, output_ready]

/-! ### Command lines -/

/-- Of sessions whose settings differ in the default directory that they name, a command line that
names a directory itself runs alike, if both default directories can be used. One that cannot be
used ends it, with the fault of that directory, where it is done with the other one. -/
theorem run_overrides_directory {words : List String} (hread : s.reads words = .run r)
    {directory : Path} (hdirectory : r.directory = some directory) (h : Rivals r s s') :
    (s.directoryFault? r = none → s'.directoryFault? r = none →
      (run s words).Alike (run s' words)) ∧
    ∀ fault yes, s.directoryFault? r = some fault → (run s' words).ending = .done yes →
      ∃ left : Session, left.output = s.output ∧ left.notice = s.notice ∧
        run s words = fail isEngineFault fault left := by
  have hrun : run s words = runInvocation s (.run r) := by rw [run, hread]
  have hrun' : run s' words = runInvocation s' (.run r) := by rw [run, h.alike.reads_eq, hread]
  rw [hrun, hrun']
  refine ⟨alike_of_rivals h hdirectory, fun fault yes hfault hdone => ?_⟩
  exact fail_of_directoryFault? h hfault hdone

/-- A session whose settings name a default directory, beside another directory with a template. The
only document is that of the settings. -/
def Session.naming (directory : String) : Session where
  surroundings :=
    { files :=
        { here := ["t"]
          entries :=
            [(["t"], .directory), (["t", "views"], .directory),
              (["t", "views", "a.jinja"], .file "a"),
              (["t", "c.yaml"], .file ("directory: " ++ directory ++ "\n"))] }
      documents :=
        { read := fun _ => .ok (.dict [("directory", .str directory)])
          merge := Document.mergeOver } }
  reads := Invocation.read

/-- The words that ask a command for the template in the other directory. -/
def wordsForViews (command : String) : List String :=
  [command, "a", "--directory", "views", "--config", "c.yaml"]

/-- What the words ask for. -/
def requestForViews (command : Command) : Request :=
  { command := command, name := "a", directory := some (Path.ofText "views")
    settings := some (Path.ofText "c.yaml") }

theorem read_naming {directory : String} (h : directory ∈ [".", "views", "gone"]) :
    Settings.read (Session.naming directory).surroundings (some (Path.ofText "c.yaml")) =
      .ok (Settings.defaults.put "directory" (.str directory)) := by
  simp only [List.mem_cons, List.not_mem_nil, or_false] at h
  rcases h with rfl | rfl | rfl
  · rfl
  · rfl
  · rfl

/-- The sessions differ in the default directory that their settings name. -/
theorem rivals_naming {directory directory' : String} (h : directory ∈ [".", "views", "gone"])
    (h' : directory' ∈ [".", "views", "gone"]) :
    Rivals (requestForViews .exists) (.naming directory) (.naming directory') := by
  have hshape : (Session.naming directory).files.SameShape (Session.naming directory').files := by
    refine ⟨rfl, rfl, fun place => ?_⟩
    simp only [Session.naming, Session.files, FileTree.entryAt, FileTree.find?]
    (repeat' split) <;> constructor <;> constructor
  have hread : Matches Settings.AgreeElsewhere
      (Settings.read (Session.naming directory).surroundings (some (Path.ofText "c.yaml")))
      (Settings.read (Session.naming directory').surroundings (some (Path.ofText "c.yaml"))) := by
    rw [read_naming h, read_naming h']
    refine .ok fun key hkey => ?_
    simp only [Dictionary.value?_put, if_neg hkey.symm]
  have hready (directory : String) :
      (Session.naming directory).ready (requestForViews .exists) = .naming directory := rfl
  refine ⟨⟨rfl, rfl, rfl, rfl, rfl, rfl, ⟨rfl, rfl⟩, hshape⟩, ?_, ?_, ?_⟩
  · rw [hready, hready]
    exact ⟨rfl, rfl, hshape, hread⟩
  · simp only [loadedData, requestForViews]
  · intro hcommand
    simp [requestForViews] at hcommand

theorem run_naming_views :
    (run (.naming "views") (wordsForViews "exists")).ending = .done true := rfl

theorem directoryFault?_naming :
    (Session.naming ".").directoryFault? (requestForViews .exists) = none ∧
      (Session.naming "views").directoryFault? (requestForViews .exists) = none ∧
      (Session.naming "gone").directoryFault? (requestForViews .exists) =
        some (.directoryMissing (Path.ofText "gone")) := by
  refine ⟨?_, ?_, ?_⟩
  · rfl
  · rfl
  · rfl

/-- With another default directory the template is found, and rendered, alike. With one that is not
there it is not found. -/
theorem run_overrides_directory_naming :
    Invocation.read (wordsForViews "exists") = .run (requestForViews .exists) ∧
      Invocation.read (wordsForViews "render") = .run (requestForViews .render) ∧
      Rivals (requestForViews .exists) (.naming ".") (.naming "views") ∧
      (run (.naming ".") (wordsForViews "exists")).Alike
        (run (.naming "views") (wordsForViews "exists")) ∧
      Rivals (requestForViews .render) (.naming ".")
        ((Session.naming ".").withTemplates (some (Path.ofText "views"))) ∧
      (run (.naming ".") (wordsForViews "render")).Alike
        (run ((Session.naming ".").withTemplates (some (Path.ofText "views")))
          (wordsForViews "render")) ∧
      ∃ left : Session, left.output = "" ∧ left.notice = "" ∧
        run (.naming "gone") (wordsForViews "exists") =
          fail isEngineFault (.directoryMissing (Path.ofText "gone")) left := by
  have hexists : Invocation.read (wordsForViews "exists") = .run (requestForViews .exists) := rfl
  have hrender : Invocation.read (wordsForViews "render") = .run (requestForViews .render) := rfl
  have hhere := rivals_naming (show "." ∈ _ by simp) (show "views" ∈ _ by simp)
  have hgone := rivals_naming (show "gone" ∈ _ by simp) (show "views" ∈ _ by simp)
  have htemplates := rivals_withTemplates (requestForViews .render) (.naming ".")
    (some (Path.ofText "views"))
  obtain ⟨hnone, hnone', hmissing⟩ := directoryFault?_naming
  have hrendered : (Session.naming ".").directoryFault? (requestForViews .render) = none := rfl
  have hrendered' : Session.directoryFault?
      ((Session.naming ".").withTemplates (some (Path.ofText "views")))
      (requestForViews .render) = none := rfl
  exact ⟨hexists, hrender, hhere, (run_overrides_directory hexists rfl hhere).1 hnone hnone',
    htemplates, (run_overrides_directory hrender rfl htemplates).1 hrendered hrendered',
    (run_overrides_directory hexists rfl hgone).2 _ _ hmissing run_naming_views⟩

/-- A default directory that is not there ends a command, although the command names another one
that is there, and is done if the default directory is there as well. -/
theorem run_looks_for_default_directory :
    Rivals (requestForViews .exists) (.naming "gone") (.naming "views") ∧
      (Session.naming "gone").files.isDirectory (Path.ofText "views") = .ok true ∧
      (run (.naming "gone") (wordsForViews "exists")).ending =
        .failed (.directoryMissing (Path.ofText "gone")) ∧
      (run (.naming "views") (wordsForViews "exists")).ending = .done true := by
  have hgone := rivals_naming (show "gone" ∈ _ by simp) (show "views" ∈ _ by simp)
  obtain ⟨left, -, -, hfails⟩ := fail_of_directoryFault? hgone directoryFault?_naming.2.2
    run_naming_views
  refine ⟨hgone, rfl, ?_, run_naming_views⟩
  change (runInvocation (.naming "gone") (.run (requestForViews .exists))).ending = _
  rw [hfails]
  rfl

end TemplateEngine.CommandLine
