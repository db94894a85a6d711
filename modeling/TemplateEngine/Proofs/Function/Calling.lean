import TemplateEngine.Proofs.Function.Registration
import TemplateEngine.Proofs.Text.Pieces
import TemplateEngine.Render
import TemplateEngine.Script

/-!
# Calling functions

A registered function is called by name, as an attribute of the template, or as the one name of a
pipeline. The first two are the same program. Attributes are looked up among the members of a
template first, and a name with an underscore in front stands for no function there; for all other
names the three calls have the same outcome, which is that of the callback.

## Main definitions

* `reservedNames`: the names that no argument can have.
* `TemplateFunction.outcome`: what the call of a function comes to.

## Main results

* `Program.invoke_call`: a call by name is a call of the function that an attribute stands for.
* `hasAttribute_run`: which names are attributes.
* `run_callFunction`, `run_callAttribute`, `perform_batch_name`: the three calls.
* `function_calls_agree`: the three calls agree.
-/

namespace TemplateEngine

/-- The names that no argument of a function can have, since the calls have them for themselves. -/
def reservedNames : List String := Method.callNames ++ TemplateFunction.ownNames

/-- What the call of a function comes to: its callback is run with the template, if it asks for it,
and the arguments, unless one of these has a name that it cannot have. -/
def TemplateFunction.outcome (f : TemplateFunction) (depth : Nat) (arguments : List Value)
    (named : Dictionary Value) (s : Scene) : Evaluation Value :=
  if reservedNames.any named.holds then some (.error .wrongType, s)
  else (f.callback (f.positional (some s.template.name) arguments) named).run
    (perform (nestedAt depth)) s

section Calls

variable {name : String} {f : TemplateFunction} {depth : Nat} {nested : Nested} {s : Scene}

/-! ### Calls by name -/

/-- A call by name is a call of the function that an attribute stands for. -/
theorem Program.invoke_call (name : String) (arguments : List Value) (named : Dictionary Value) :
    invoke "call" (.str name :: arguments) named = callFunction name arguments named := by
  have hnames : Method.callNames.any named.holds =
      (named.holds "self" || (named.value? "name").isSome) := by
    simp [Method.callNames, Dictionary.holds]
  unfold invoke invokeCall callFunction
  rw [if_pos rfl, hnames]
  -- the name is given by position, so an argument named `name` would give it twice
  cases named.holds "self" with
  | true => rfl
  | false => cases named.value? "name" <;> rfl

/-- A registered function is called with the arguments that are given. -/
theorem run_callFunction (hf : s.stage.engine.functions.value? name = some f)
    (arguments : List Value) (named : Dictionary Value) :
    (Program.callFunction name arguments named).run (perform (nestedAt (depth + 1))) s =
      f.outcome depth arguments named s := by
  have hfetch : s.stage.engine.functions.fetch name = .ok f := by rw [FunctionTable.fetch, hf]
  rw [Program.callFunction, TemplateFunction.outcome, reservedNames, List.any_append]
  cases hcall : Method.callNames.any named.holds with
  | true => rfl
  | false =>
    rw [Bool.false_or, if_neg Bool.false_ne_true, Program.run_ask]
    simp only [perform, callFunction, hfetch, nestedAt, TemplateFunction.call]
    -- what is left are the names that the function has for itself
    split <;> rfl

/-- A name that is not registered is not found. -/
theorem run_callFunction_of_none (hf : s.stage.engine.functions.value? name = none)
    {named : Dictionary Value} (hnamed : Method.callNames.any named.holds = false)
    (arguments : List Value) :
    (Program.callFunction name arguments named).run (perform nested) s =
      some (.error (.functionNotFound name), s) := by
  rw [Program.callFunction, hnamed, if_neg Bool.false_ne_true, Program.run_ask]
  simp only [perform, callFunction, FunctionTable.fetch, hf]

/-! ### Attributes -/

/-- A property is neither a fault nor a function. -/
theorem run_property (nested : Nested) (name : String) (kind : Option String) (s : Scene) :
    ∃ v, (Program.property name kind).run (perform nested) s = some (.ok v, s) ∧
      ∀ other, v ≠ .function other := by
  unfold Program.property
  cases kind with
  | some kind => exact ⟨.object kind, rfl, nofun⟩
  | none =>
    split_ifs
    · exact ⟨_, Program.run_ask _ _ _, nofun⟩
    · exact ⟨_, Program.run_ask _ _ _, nofun⟩
    · refine ⟨_, Program.run_ask _ _ _, fun other => ?_⟩
      cases s.template.layoutName <;> nofun

/-- A member is an attribute, and never a function. -/
theorem run_attribute?_of_isMember (nested : Nested) (s : Scene)
    (hmember : Method.isMember name = true) :
    ∃ v, (Program.attribute? name).run (perform nested) s = some (.ok (some v), s) ∧
      ∀ other, v ≠ .function other := by
  unfold Program.attribute?
  by_cases hmethod : Method.isMethod name = true
  · exact ⟨.method name, by rw [if_pos hmethod]; rfl, nofun⟩
  · rw [if_neg hmethod]
    cases hkind : Method.properties.lookup name with
    | none => simp [Method.isMember, hmethod, hkind] at hmember
    | some kind =>
      obtain ⟨v, hv, hfunction⟩ := run_property nested name kind s
      refine ⟨v, ?_, hfunction⟩
      simp only [Program.run_bind, hv]
      rfl

/-- Behind the members come the registered functions, and nothing does for a hidden name. -/
theorem run_attribute?_of_not_isMember (hmember : Method.isMember name = false) :
    (Program.attribute? name).run (perform nested) s =
      some (.ok (if !Method.isHidden name && s.stage.engine.functions.holds name then
        some (.function name) else none), s) := by
  obtain ⟨hmethod, hproperty⟩ :
      Method.isMethod name = false ∧ Method.properties.lookup name = none := by
    simpa [Method.isMember] using hmember
  unfold Program.attribute?
  rw [if_neg (by simp [hmethod])]
  simp only [hproperty]
  cases Method.isHidden name with
  | true => rfl
  | false =>
    rw [if_neg Bool.false_ne_true, Program.run_bind, Program.run_ask]
    simp only [perform]
    cases s.stage.engine.functions.holds name <;> rfl

/-- Which names are attributes. -/
theorem hasAttribute_run (nested : Nested) (name : String) (s : Scene) :
    (Script.hasAttribute name).run (perform nested) s =
      some (.ok (.bool (Method.isMember name ||
        !Method.isHidden name && s.stage.engine.functions.holds name)), s) := by
  rw [Script.hasAttribute, Program.run_bind]
  cases hmember : Method.isMember name with
  | true =>
    obtain ⟨v, hv, -⟩ := run_attribute?_of_isMember nested s hmember
    rw [hv]
    rfl
  | false =>
    rw [run_attribute?_of_not_isMember hmember, Bool.false_or]
    cases !Method.isHidden name && s.stage.engine.functions.holds name <;> rfl

/-- A registered function is called as an attribute, unless its name is hidden or that of a
member. -/
theorem run_callAttribute (hf : s.stage.engine.functions.value? name = some f)
    (hmember : Method.isMember name = false) (hhidden : Method.isHidden name = false)
    (arguments : List Value) (named : Dictionary Value) :
    (Program.callAttribute name arguments named).run (perform (nestedAt (depth + 1))) s =
      f.outcome depth arguments named s := by
  have hholds : s.stage.engine.functions.holds name = true := by simp [Dictionary.holds, hf]
  rw [Program.callAttribute, Program.run_bind, run_attribute?_of_not_isMember hmember, hhidden,
    hholds]
  exact run_callFunction hf arguments named

/-- A hidden name that is not that of a member is no attribute that could be called. -/
theorem run_callAttribute_of_isHidden (hmember : Method.isMember name = false)
    (hhidden : Method.isHidden name = true) (arguments : List Value) (named : Dictionary Value) :
    (Program.callAttribute name arguments named).run (perform nested) s =
      some (.error .missingAttribute, s) := by
  rw [Program.callAttribute, Program.run_bind, run_attribute?_of_not_isMember hmember, hhidden]
  rfl

/-! ### Pipelines of one name -/

/-- A name that can be registered is a pipeline of its own. -/
theorem functionNames_of_isFunctionName {e : Engine} (h : isFunctionName name = true)
    (hseparator : e.batchSeparator = .str defaultSeparator) :
    e.functionNames name = .ok [name] := by
  have hbar : '|' ∉ name.toList := not_mem_of_isFunctionName h (by decide) (by decide)
  rw [Engine.functionNames, hseparator]
  refine (if_neg (by decide)).trans (congrArg Except.ok ?_)
  refine Text.splitAt_of_not_infix (by decide) fun hoccurs => hbar (hoccurs.subset ?_)
  decide

/-- A registered function is called on the value that is sent through it. -/
theorem perform_batch_name (hf : s.stage.engine.functions.value? name = some f)
    (hnames : s.stage.engine.functionNames name = .ok [name]) (v : Value) :
    perform (nestedAt (depth + 1)) (.batch v name) s = f.outcome depth [v] [] s := by
  have hholds : s.stage.engine.functions.holds name = true := by simp [Dictionary.holds, hf]
  have hcall : callFunction (nestedAt (depth + 1)) name [v] [] s = f.outcome depth [v] [] s := by
    rw [← run_callFunction hf [v] []]
    exact (Program.run_ask (perform (nestedAt (depth + 1))) (.call name [v] []) s).symm
  simp only [perform, batch, hnames, throughFunctions, applyNamed, hholds, if_true, hcall]
  rcases f.outcome depth [v] [] s with _ | ⟨fault | v', s'⟩ <;> rfl

/-- A function that is registered is called by name, as an attribute and on a value, and the outcome
is that of its callback each time; as an attribute only under a name that is neither hidden nor that
of a member. A member is an attribute of its own, and a hidden name is none. A name that is neither
registered nor that of a member is not found and is no attribute. -/
theorem function_calls_agree (depth : Nat)
    (hreachable : s.stage.engine.functions.Reachable)
    (hseparator : s.stage.engine.batchSeparator = .str defaultSeparator) :
    (∀ name f, s.stage.engine.functions.value? name = some f →
      (∀ arguments named, (Program.invoke "call" (.str name :: arguments) named).run
        (perform (nestedAt (depth + 1))) s = f.outcome depth arguments named s) ∧
      (∀ v, (Program.ask (.batch v name)).run (perform (nestedAt (depth + 1))) s =
        f.outcome depth [v] [] s) ∧
      (Method.isMember name = false → Method.isHidden name = false →
        (Script.hasAttribute name).run (perform (nestedAt (depth + 1))) s =
          some (.ok (.bool true), s) ∧
        ∀ arguments named, (Program.callAttribute name arguments named).run
          (perform (nestedAt (depth + 1))) s = f.outcome depth arguments named s)) ∧
    (∀ name, Method.isMember name = true →
      (Script.hasAttribute name).run (perform (nestedAt (depth + 1))) s =
        some (.ok (.bool true), s) ∧
      ∃ v, (Program.attribute? name).run (perform (nestedAt (depth + 1))) s =
        some (.ok (some v), s) ∧ ∀ other, v ≠ .function other) ∧
    (∀ name, Method.isMember name = false → Method.isHidden name = true →
      (Script.hasAttribute name).run (perform (nestedAt (depth + 1))) s =
        some (.ok (.bool false), s) ∧
      ∀ arguments named, (Program.callAttribute name arguments named).run
        (perform (nestedAt (depth + 1))) s = some (.error .missingAttribute, s)) ∧
    ∀ name, s.stage.engine.functions.value? name = none → Method.isMember name = false →
      (Script.hasAttribute name).run (perform (nestedAt (depth + 1))) s =
        some (.ok (.bool false), s) ∧
      ∀ arguments named, Method.callNames.any named.holds = false →
        (Program.invoke "call" (.str name :: arguments) named).run
          (perform (nestedAt (depth + 1))) s = some (.error (.functionNotFound name), s) := by
  refine ⟨fun name f hf =>
      ⟨fun arguments named => ?_, fun v => ?_, fun hmember hhidden => ⟨?_, ?_⟩⟩,
    fun name hmember => ⟨?_, run_attribute?_of_isMember _ s hmember⟩,
    fun name hmember hhidden => ⟨?_, run_callAttribute_of_isHidden hmember hhidden⟩,
    fun name hf hmember => ⟨?_, fun arguments named hnamed => ?_⟩⟩
  · rw [Program.invoke_call]
    exact run_callFunction hf arguments named
  · rw [Program.run_ask]
    exact perform_batch_name hf
      (functionNames_of_isFunctionName (hreachable.isFunctionName hf) hseparator) v
  · rw [hasAttribute_run, hmember, hhidden, Dictionary.holds, hf]
    rfl
  · exact run_callAttribute hf hmember hhidden
  · rw [hasAttribute_run, hmember, Bool.true_or]
  · rw [hasAttribute_run, hmember, hhidden]
    rfl
  · rw [hasAttribute_run, hmember, Dictionary.holds, hf, Option.isSome_none, Bool.and_false]
    rfl
  · rw [Program.invoke_call]
    exact run_callFunction_of_none hf hnamed arguments

end Calls

/-- A function that hands back the template and the arguments it is given. -/
def givenBack : TemplateFunction where
  callback := fun arguments _ => .done (.list arguments)
  passTemplate := true

/-- A template of an engine with one function. -/
def Scene.withFunction (name : String) : Scene where
  template := { name := "page" }
  stage := { engine := { functions := [(name, givenBack)] } }

/-- The calls of a function with an ordinary name. -/
theorem function_calls_agree_tag :
    (Scene.withFunction "tag").stage.engine.functions.Reachable ∧
      (Scene.withFunction "tag").stage.engine.batchSeparator = .str defaultSeparator ∧
      (Program.invoke "call" [.str "tag", .int 1] []).run (perform (nestedAt 1))
          (Scene.withFunction "tag") =
        some (.ok (.list [.template "page", .int 1]), Scene.withFunction "tag") ∧
      (Program.ask (.batch (.int 1) "tag")).run (perform (nestedAt 1)) (Scene.withFunction "tag") =
        some (.ok (.list [.template "page", .int 1]), Scene.withFunction "tag") ∧
      (Program.callAttribute "tag" [.int 1] []).run (perform (nestedAt 1))
          (Scene.withFunction "tag") =
        some (.ok (.list [.template "page", .int 1]), Scene.withFunction "tag") ∧
      (Script.hasAttribute "gat").run (perform (nestedAt 1)) (Scene.withFunction "tag") =
        some (.ok (.bool false), Scene.withFunction "tag") := by
  have hadd : FunctionTable.add [] "tag" (some givenBack.callback) true =
      .ok (Scene.withFunction "tag").stage.engine.functions := rfl
  have hreachable : (Scene.withFunction "tag").stage.engine.functions.Reachable := .add .empty hadd
  obtain ⟨hcalls, -, -, hmissing⟩ := function_calls_agree 0 hreachable rfl
  obtain ⟨hcall, hbatch, hmember⟩ := hcalls "tag" givenBack rfl
  obtain ⟨-, hmember⟩ := hmember (by decide) (by decide)
  exact ⟨hreachable, rfl, (hcall [.int 1] []).trans rfl, (hbatch (.int 1)).trans rfl,
    (hmember [.int 1] []).trans rfl, (hmissing "gat" rfl (by decide)).1⟩

/-- A function can be registered under a name with an underscore in front, or under that of a
member; it is called by that name then, but the template has no attribute of the one name, and the
attribute of the other is the member. No function can be given an argument named `template`. -/
theorem function_calls_differ :
    (FunctionTable.add [] "_tag" (some givenBack.callback) true =
        .ok (Scene.withFunction "_tag").stage.engine.functions ∧
      (Program.invoke "call" [.str "_tag"] []).run (perform (nestedAt 1))
          (Scene.withFunction "_tag") =
        some (.ok (.list [.template "page"]), Scene.withFunction "_tag") ∧
      (Script.hasAttribute "_tag").run (perform (nestedAt 1)) (Scene.withFunction "_tag") =
        some (.ok (.bool false), Scene.withFunction "_tag") ∧
      (Program.callAttribute "_tag" [] []).run (perform (nestedAt 1)) (Scene.withFunction "_tag") =
        some (.error .missingAttribute, Scene.withFunction "_tag")) ∧
    (FunctionTable.add [] "data" (some givenBack.callback) true =
        .ok (Scene.withFunction "data").stage.engine.functions ∧
      (Program.invoke "call" [.str "data"] []).run (perform (nestedAt 1))
          (Scene.withFunction "data") =
        some (.ok (.list [.template "page"]), Scene.withFunction "data") ∧
      (Program.callAttribute "data" [] []).run (perform (nestedAt 1)) (Scene.withFunction "data") =
        some (.ok (.dict []), Scene.withFunction "data")) ∧
    FunctionTable.add [] "tag" (some givenBack.callback) true =
        .ok (Scene.withFunction "tag").stage.engine.functions ∧
      (Program.invoke "call" [.str "tag"] [("template", .int 1)]).run (perform (nestedAt 1))
          (Scene.withFunction "tag") =
        some (.error .wrongType, Scene.withFunction "tag") :=
  ⟨⟨rfl, rfl, rfl, rfl⟩, ⟨rfl, rfl, rfl⟩, rfl, rfl⟩

end TemplateEngine
