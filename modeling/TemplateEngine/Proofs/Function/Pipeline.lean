import TemplateEngine.Proofs.Render.Chronicle
import TemplateEngine.Proofs.Text.Pieces

/-!
# Pipelines of functions

A value is sent through functions that a text names, one after the other. A pipeline that is joined
from two does what the first one and then the second one does, call by call. The calls follow the
names: each is made on what the one before it left, and there are no calls behind the one that fails
or behind a name that stands for nothing.

## Main definitions

* `Callee`, `Scene.callee?`: what a name stands for when a pipeline reaches it.
* `PipelineCall`, `Traced`: the calls that a pipeline makes, and what is left of it.
* `traceThrough`, `traceBatch`: functions in a list, or named in a text, with the calls they make.
* `Links`, `PipelineEnds`: calls that follow one another, and the three ways that a pipeline ends.

## Main results

* `left_traceBatch`: what is left is what the operation leaves.
* `traceThrough_append`: names in a row are two pipelines one after the other.
* `batchSeparator_run`: no program changes the separator.
* `batch_append`: pipelines are joined by the separator.
-/

namespace TemplateEngine

/-- What a name in a pipeline stands for: a registered function, or one of the host. -/
inductive Callee where
  | registered (f : TemplateFunction)
  | outside (f : HostFunction)

/-- What a name stands for when it is reached: a registered function, if there is one of this name,
whatever else the name may denote. -/
def Scene.callee? (s : Scene) (name : String) : Option Callee :=
  match s.stage.engine.functions.value? name with
  | some f => some (.registered f)
  | none => (s.stage.host.function? name).map .outside

/-- Applies what a name stands for to a value. -/
def Callee.apply (nested : Nested) (callee : Callee) (v : Value) (s : Scene) : Evaluation Value :=
  match callee with
  | .registered f => nested.call (f.call (some s.template.name) [v] []) s
  | .outside f => applyOutside f v s

/-- A call that a pipeline makes: the name that is reached, what it stands for, and the value and
the scene that it is applied to. -/
structure PipelineCall where
  name : String
  callee : Callee
  argument : Value
  scene : Scene

/-- The calls that are made, in order, and what is left after them. -/
structure Traced where
  calls : List PipelineCall
  left : Evaluation Value

/-- Goes on with the value that is left, if there is one. -/
def Traced.andThen (first : Traced) (next : Value → Scene → Traced) : Traced :=
  match first.left with
  | some (.ok v, s) => ⟨first.calls ++ (next v s).calls, (next v s).left⟩
  | _ => first

/-- Sends a value through functions, one after the other. -/
def traceThrough (nested : Nested) : List String → Value → Scene → Traced
  | [], v, s => ⟨[], some (.ok v, s)⟩
  | name :: rest, v, s =>
    match s.callee? name with
    | none => ⟨[], some (.error (.unknownBatchFunction name), s)⟩
    | some callee =>
      Traced.andThen ⟨[⟨name, callee, v, s⟩], callee.apply nested v s⟩ (traceThrough nested rest)

/-- Sends a value through the functions named in a text. -/
def traceBatch (nested : Nested) (v : Value) (functions : String) (s : Scene) : Traced :=
  match s.stage.engine.functionNames functions with
  | .error fault => ⟨[], some (.error fault, s)⟩
  | .ok names => traceThrough nested names v s

/-- Calls of which the first is made on a value in a scene, each one on what the one before it left,
and the last leaves another value in another scene. -/
inductive Links (nested : Nested) : Value → Scene → List PipelineCall → Value → Scene → Prop
  | nil (v : Value) (s : Scene) : Links nested v s [] v s
  | cons {name : String} {callee : Callee} {v v' w : Value} {s s' t : Scene}
    {calls : List PipelineCall} (hcallee : s.callee? name = some callee)
    (hleft : callee.apply nested v s = some (.ok v', s')) (hrest : Links nested v' s' calls w t) :
    Links nested v s (⟨name, callee, v, s⟩ :: calls) w t

/-- How a pipeline ends. All names were called, and what the last call left is left; or a call has
left no value and is the last one; or the first name that is not called stands for nothing. -/
inductive PipelineEnds (nested : Nested) (names : List String) (v : Value) (s : Scene) :
    List PipelineCall → Evaluation Value → Prop
  | through {calls : List PipelineCall} {w : Value} {t : Scene}
    (hnames : names = calls.map PipelineCall.name) (hlinks : Links nested v s calls w t) :
    PipelineEnds nested names v s calls (some (.ok w, t))
  | stopped {calls : List PipelineCall} {name : String} {rest : List String} {callee : Callee}
    {w : Value} {t : Scene} (hnames : names = calls.map PipelineCall.name ++ name :: rest)
    (hlinks : Links nested v s calls w t) (hcallee : t.callee? name = some callee)
    (hleft : ∀ w' t', callee.apply nested w t ≠ some (.ok w', t')) :
    PipelineEnds nested names v s (calls ++ [⟨name, callee, w, t⟩]) (callee.apply nested w t)
  | unknown {calls : List PipelineCall} {name : String} {rest : List String} {w : Value} {t : Scene}
    (hnames : names = calls.map PipelineCall.name ++ name :: rest)
    (hlinks : Links nested v s calls w t) (hcallee : t.callee? name = none) :
    PipelineEnds nested names v s calls (some (.error (.unknownBatchFunction name), t))

section Pipelines

variable {nested : Nested} {name : String} {names : List String} {callee : Callee} {v v' : Value}
  {s s' : Scene}

/-! ### Steps of a pipeline -/

theorem Traced.andThen_of_value {first : Traced} (h : first.left = some (.ok v, s))
    (next : Value → Scene → Traced) :
    first.andThen next = ⟨first.calls ++ (next v s).calls, (next v s).left⟩ := by
  rw [andThen, h]

theorem Traced.andThen_of_stopped {first : Traced} (h : ∀ v s, first.left ≠ some (.ok v, s))
    (next : Value → Scene → Traced) : first.andThen next = first := by
  unfold andThen
  split
  · next v s hleft => exact absurd hleft (h v s)
  · rfl

/-- A name that stands for nothing is the end. -/
theorem traceThrough_of_unknown (hcallee : s.callee? name = none) :
    traceThrough nested (name :: names) v s =
      ⟨[], some (.error (.unknownBatchFunction name), s)⟩ := by
  rw [traceThrough, hcallee]

/-- A call that leaves a value is followed by what the other names do with it. -/
theorem traceThrough_of_value (hcallee : s.callee? name = some callee)
    (hleft : callee.apply nested v s = some (.ok v', s')) :
    traceThrough nested (name :: names) v s =
      ⟨⟨name, callee, v, s⟩ :: (traceThrough nested names v' s').calls,
        (traceThrough nested names v' s').left⟩ := by
  rw [traceThrough, hcallee]
  exact Traced.andThen_of_value hleft _

/-- A call that leaves no value is the last one. -/
theorem traceThrough_of_stopped (hcallee : s.callee? name = some callee)
    (hleft : ∀ w t, callee.apply nested v s ≠ some (.ok w, t)) :
    traceThrough nested (name :: names) v s =
      ⟨[⟨name, callee, v, s⟩], callee.apply nested v s⟩ := by
  rw [traceThrough, hcallee]
  exact Traced.andThen_of_stopped hleft _

/-! ### Traces and evaluations -/

theorem applyNamed_eq (nested : Nested) (name : String) (v : Value) (s : Scene) :
    applyNamed nested name v s = match s.callee? name with
      | none => some (.error (.unknownBatchFunction name), s)
      | some callee => callee.apply nested v s := by
  unfold applyNamed callFunction FunctionTable.fetch Dictionary.holds Scene.callee?
  cases s.stage.engine.functions.value? name with
  | some f => rfl
  | none => cases s.stage.host.function? name <;> rfl

/-- What is left after the calls is what is left of the evaluation. -/
theorem left_traceThrough (nested : Nested) (names : List String) (v : Value) (s : Scene) :
    (traceThrough nested names v s).left = throughFunctions nested names v s := by
  induction names generalizing v s with
  | nil => rfl
  | cons name rest ih =>
    rw [throughFunctions, applyNamed_eq]
    cases hcallee : s.callee? name with
    | none => rw [traceThrough_of_unknown hcallee]
    | some callee =>
      -- only a call that leaves a value goes on to the other names
      rcases hleft : callee.apply nested v s with _ | ⟨fault | v', s'⟩
      · rw [traceThrough_of_stopped hcallee (by simp [hleft])]
        simp only [hleft]
      · rw [traceThrough_of_stopped hcallee (by simp [hleft])]
        simp only [hleft]
      · rw [traceThrough_of_value hcallee hleft]
        simpa only [hleft] using ih v' s'

/-- What is left is what the operation leaves. -/
theorem left_traceBatch (nested : Nested) (v : Value) (functions : String) (s : Scene) :
    (traceBatch nested v functions s).left = perform nested (.batch v functions) s := by
  rw [perform, batch, traceBatch]
  cases s.stage.engine.functionNames functions with
  | error fault => rfl
  | ok names => exact left_traceThrough nested names v s

/-! ### Composition -/

/-- Calls in front of a trace stay in front of whatever goes on from it. -/
theorem Traced.append_andThen (calls : List PipelineCall) (first : Traced)
    (next : Value → Scene → Traced) :
    Traced.andThen ⟨calls ++ first.calls, first.left⟩ next =
      ⟨calls ++ (first.andThen next).calls, (first.andThen next).left⟩ := by
  obtain ⟨made, left⟩ := first
  rcases left with _ | ⟨fault | v, s⟩
  · rfl
  · rfl
  · simp only [andThen, List.append_assoc]

theorem Traced.andThen_assoc (first : Traced) (second third : Value → Scene → Traced) :
    (first.andThen second).andThen third =
      first.andThen fun v s => (second v s).andThen third := by
  by_cases hfirst : ∃ v s, first.left = some (.ok v, s)
  · obtain ⟨v, s, hfirst⟩ := hfirst
    rw [andThen_of_value hfirst, andThen_of_value hfirst]
    exact append_andThen first.calls (second v s) third
  · push Not at hfirst
    rw [andThen_of_stopped hfirst, andThen_of_stopped hfirst, andThen_of_stopped hfirst]

/-- Names in a row are two pipelines one after the other. -/
theorem traceThrough_append (nested : Nested) (names others : List String) (v : Value)
    (s : Scene) :
    traceThrough nested (names ++ others) v s =
      (traceThrough nested names v s).andThen (traceThrough nested others) := by
  induction names generalizing v s with
  | nil => rfl
  | cons name rest ih =>
    rw [List.cons_append, traceThrough, traceThrough]
    cases s.callee? name with
    | none => rfl
    | some callee =>
      have hrest : traceThrough nested (rest ++ others) = fun v s =>
          (traceThrough nested rest v s).andThen (traceThrough nested others) :=
        funext fun v => funext fun s => ih v s
      simp only [hrest, Traced.andThen_assoc]

/-! ### The calls of a pipeline -/

/-- A call in front of a pipeline that goes on with what the call left. -/
theorem PipelineEnds.cons {calls : List PipelineCall} {left : Evaluation Value}
    (hcallee : s.callee? name = some callee)
    (hleft : callee.apply nested v s = some (.ok v', s'))
    (h : PipelineEnds nested names v' s' calls left) :
    PipelineEnds nested (name :: names) v s (⟨name, callee, v, s⟩ :: calls) left := by
  cases h with
  | through hnames hlinks => exact .through (by rw [hnames]; rfl) (.cons hcallee hleft hlinks)
  | stopped hnames hlinks hnext hnone =>
    exact .stopped (by rw [hnames]; rfl) (.cons hcallee hleft hlinks) hnext hnone
  | unknown hnames hlinks hnext =>
    exact .unknown (by rw [hnames]; rfl) (.cons hcallee hleft hlinks) hnext

/-- Each call is one of what its name stood for when it was reached. -/
theorem Links.callee_eq {calls : List PipelineCall} {w : Value} {t : Scene}
    (h : Links nested v s calls w t) :
    ∀ call ∈ calls, call.scene.callee? call.name = some call.callee := by
  induction h with
  | nil => exact List.forall_mem_nil _
  | cons hcallee _ _ ih => exact List.forall_mem_cons.mpr ⟨hcallee, ih⟩

theorem PipelineEnds.callee_eq {calls : List PipelineCall} {left : Evaluation Value}
    (h : PipelineEnds nested names v s calls left) :
    ∀ call ∈ calls, call.scene.callee? call.name = some call.callee := by
  cases h with
  | through _ hlinks => exact hlinks.callee_eq
  | stopped _ hlinks hcallee _ =>
    exact List.forall_mem_append.mpr
      ⟨hlinks.callee_eq, List.forall_mem_singleton.mpr hcallee⟩
  | unknown _ hlinks _ => exact hlinks.callee_eq

/-- A registered function goes before whatever else its name may denote. -/
theorem PipelineCall.registered_of_value? {call : PipelineCall} {f : TemplateFunction}
    (h : call.scene.callee? call.name = some call.callee)
    (hf : call.scene.stage.engine.functions.value? call.name = some f) :
    call.callee = .registered f := by
  rw [Scene.callee?, hf] at h
  exact (Option.some.inj h).symm

/-- A pipeline ends in one of the three ways. -/
theorem pipelineEnds_traceThrough (nested : Nested) (names : List String) (v : Value)
    (s : Scene) :
    PipelineEnds nested names v s (traceThrough nested names v s).calls
      (traceThrough nested names v s).left := by
  induction names generalizing v s with
  | nil => exact .through rfl (.nil v s)
  | cons name rest ih =>
    cases hcallee : s.callee? name with
    | none =>
      rw [traceThrough_of_unknown hcallee]
      exact .unknown rfl (.nil v s) hcallee
    | some callee =>
      by_cases hvalue : ∃ v' s', callee.apply nested v s = some (.ok v', s')
      · obtain ⟨v', s', hleft⟩ := hvalue
        rw [traceThrough_of_value hcallee hleft]
        exact .cons hcallee hleft (ih v' s')
      · push Not at hvalue
        rw [traceThrough_of_stopped hcallee hvalue]
        exact .stopped rfl (.nil v s) hcallee hvalue

/-! ### The separator -/

/-- No look-up changes the separator. -/
theorem Stage.law_batchSeparator :
    Stage.Law fun s _ s' => s'.engine.batchSeparator = s.engine.batchSeparator where
  quiet := fun ⟨_, _, _, _, hengine⟩ => by rw [hengine]
  print _ _ := rfl
  trans h h' := h'.trans h
  lookUp s name := by
    rcases s.body_snd name with h | ⟨path, h⟩
    · rw [h]
    · rcases s.compiledFile_snd path with hkept | ⟨file, -, -, -, hkept⟩ <;> rw [h, hkept]
      rfl
  enclose h _ := h

/-- No program changes the separator. -/
theorem batchSeparator_run (depth : Nat) {α : Type} (p : Program α) (s : Scene) :
    Leaves (fun s' => s'.stage.engine.batchSeparator = s.stage.engine.batchSeparator)
      (p.run (perform (nestedAt depth)) s) :=
  Stage.law_batchSeparator.run (Stage.law_batchSeparator.obeys_nestedAt depth) p s

theorem functionNames_singleton {e : Engine} {c : Char}
    (h : e.batchSeparator = .str (String.singleton c)) (functions : String) :
    e.functionNames functions = .ok (Text.splitAt (String.singleton c) functions) := by
  have hne : String.singleton c ≠ "" := by simp
  rw [Engine.functionNames, h]
  exact if_neg hne

theorem traceBatch_eq {c : Char}
    (hseparator : s.stage.engine.batchSeparator = .str (String.singleton c)) (v : Value)
    (functions : String) :
    traceBatch nested v functions s =
      traceThrough nested (Text.splitAt (String.singleton c) functions) v s := by
  rw [traceBatch, functionNames_singleton hseparator]

/-- What is left is all that decides how a trace goes on. -/
theorem Traced.andThen_congr {first : Traced} {next next' : Value → Scene → Traced}
    (h : ∀ v s, first.left = some (.ok v, s) → next v s = next' v s) :
    first.andThen next = first.andThen next' := by
  by_cases hfirst : ∃ v s, first.left = some (.ok v, s)
  · obtain ⟨v, s, hleft⟩ := hfirst
    rw [andThen_of_value hleft, andThen_of_value hleft, h v s hleft]
  · push Not at hfirst
    rw [andThen_of_stopped hfirst, andThen_of_stopped hfirst]

/-- Pipelines are joined by the separator, as long as it stays the separator. -/
theorem traceBatch_append {c : Char} (v : Value) (a b : String)
    (hseparator : s.stage.engine.batchSeparator = .str (String.singleton c))
    (hkept : ∀ v' s', perform nested (.batch v a) s = some (.ok v', s') →
      s'.stage.engine.batchSeparator = .str (String.singleton c)) :
    traceBatch nested v (a ++ String.singleton c ++ b) s =
      (traceBatch nested v a s).andThen fun v' s' => traceBatch nested v' b s' := by
  rw [traceBatch_eq hseparator, Text.splitAt_append_singleton, traceThrough_append,
    ← traceBatch_eq hseparator]
  -- the second pipeline is split by the separator that the first one has left
  refine Traced.andThen_congr fun v' s' hleft => (traceBatch_eq (hkept v' s' ?_) v' b).symm
  rw [← left_traceBatch, hleft]

/-- Let the separator be a single character, and let it still be that when the first of two
pipelines has passed a value on. Then the pipelines joined by the separator give the value, or the
fault, and make the calls of the first pipeline and then of the second. In each pipeline the
functions are called in the order of their names, each on what the one before it left, registered
ones before others of the same name, up to the first call without a value or the first name that
stands for nothing. -/
theorem batch_append (nested : Nested) {c : Char} (v : Value) (a b : String)
    (hseparator : s.stage.engine.batchSeparator = .str (String.singleton c))
    (hkept : ∀ v' s', perform nested (.batch v a) s = some (.ok v', s') →
      s'.stage.engine.batchSeparator = .str (String.singleton c)) :
    (Program.ask (.batch v (a ++ String.singleton c ++ b))).run (perform nested) s =
        ((Program.ask (.batch v a)).bind fun v' => .ask (.batch v' b)).run (perform nested) s ∧
      traceBatch nested v (a ++ String.singleton c ++ b) s =
        (traceBatch nested v a s).andThen (fun v' s' => traceBatch nested v' b s') ∧
      ∀ functions : String,
        (traceBatch nested v functions s).left = perform nested (.batch v functions) s ∧
        PipelineEnds nested (Text.splitAt (String.singleton c) functions) v s
          (traceBatch nested v functions s).calls (traceBatch nested v functions s).left ∧
        ∀ call ∈ (traceBatch nested v functions s).calls, ∀ f,
          call.scene.stage.engine.functions.value? call.name = some f →
            call.callee = .registered f := by
  have happend := traceBatch_append v a b hseparator hkept
  have hends (functions : String) :
      PipelineEnds nested (Text.splitAt (String.singleton c) functions) v s
        (traceBatch nested v functions s).calls (traceBatch nested v functions s).left := by
    rw [traceBatch_eq hseparator]
    exact pipelineEnds_traceThrough nested _ v s
  refine ⟨?_, happend, fun functions =>
    ⟨left_traceBatch nested v functions s, hends functions, fun call hcall f => ?_⟩⟩
  · rw [Program.run_bind]
    simp only [Program.run_ask, ← left_traceBatch, happend]
    obtain ⟨calls, left⟩ := traceBatch nested v a s
    rcases left with _ | ⟨fault | v', s'⟩ <;> rfl
  · exact PipelineCall.registered_of_value? ((hends functions).callee_eq call hcall)

end Pipelines

/-- A template of an engine that has a function which doubles a text, on a host with a function that
prints a text. -/
def Scene.doubling : Scene where
  template := { name := "page" }
  stage := {
    host := { function? := fun name => if name = "print" then some fun v => match v with
      | .str text => (.ok .null, text)
      | _ => (.error .wrongType, "") else none }
    engine := { functions := [("twice", { callback := fun arguments _ =>
      match arguments with
      | [.str text] => .done (.str (text ++ text))
      | _ => .fail .wrongType })] } }

/-- The second of two pipelines fails behind the first two functions, and what was printed by then
stays printed. -/
theorem batch_append_doubling :
    Scene.doubling.stage.engine.batchSeparator = .str (String.singleton '|') ∧
      (∀ v s, perform (nestedAt 1) (.batch (.str "ab") "twice") Scene.doubling = some (.ok v, s) →
        s.stage.engine.batchSeparator = .str (String.singleton '|')) ∧
      ((Program.ask (.batch (.str "ab") "twice")).bind fun v => .ask (.batch v "print|missing")).run
          (perform (nestedAt 1)) Scene.doubling =
        some (.error (.unknownBatchFunction "missing"), Scene.doubling.print "abab") ∧
      (traceBatch (nestedAt 1) (.str "ab") "twice|print|missing" Scene.doubling).calls.map
        PipelineCall.name = ["twice", "print"] := by
  have hseparator : Scene.doubling.stage.engine.batchSeparator = .str (String.singleton '|') := rfl
  have hkept : ∀ v s,
      perform (nestedAt 1) (.batch (.str "ab") "twice") Scene.doubling = some (.ok v, s) →
        s.stage.engine.batchSeparator = .str (String.singleton '|') := by
    intro v s h
    rw [← Program.run_ask (perform (nestedAt 1))] at h
    exact (batchSeparator_run 1 _ _ _ _ h).trans hseparator
  obtain ⟨hrun, htrace, -⟩ :=
    batch_append (nestedAt 1) (.str "ab") "twice" "print|missing" hseparator hkept
  have htext : "twice" ++ String.singleton '|' ++ "print|missing" = "twice|print|missing" := by
    decide
  rw [htext] at hrun htrace
  refine ⟨hseparator, hkept, ?_, ?_⟩
  · rw [← hrun]
    rfl
  · rw [htrace]
    rfl

end TemplateEngine
