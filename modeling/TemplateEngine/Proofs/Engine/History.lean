import TemplateEngine.Engine.Setup

/-!
# The history of shared data

Data is shared with all templates or scoped to named ones, call by call and in any order. What a
fresh template finds under a key is the latest value that was scoped to its name, or else the
latest one that was shared with all.

## Main definitions

* `DataCall`: one call that adds data.
* `SharedData.after`: the data after a history of calls.
* `DataCall.initialValue`: what a fresh template finds, in terms of the history.

## Main results

* `SharedData.value?_forTemplate_after`: a fresh template finds the latest value.
-/

namespace TemplateEngine

/-- A call that adds data for all templates, or for the named ones only. -/
structure DataCall where
  data : Dictionary Value
  distinct : data.keys.Nodup
  templates : Option (List String)

/-- The data after one more call. -/
def SharedData.add (d : SharedData) (call : DataCall) : SharedData :=
  match call.templates with
  | none => d.share call.data
  | some names => d.shareWith call.data names

/-- The data after calls, of which the latest stands first. -/
def SharedData.after : List DataCall → SharedData
  | [] => {}
  | call :: earlier => (after earlier).add call

theorem Stage.sharedData_addData (s : Stage) (call : DataCall) :
    (s.addData call.data call.templates).engine.sharedData =
      s.engine.sharedData.add call := by
  cases h : call.templates <;> simp [Stage.addData, SharedData.add, h]

namespace DataCall

/-- What a call scopes to a template. -/
def scopedValue? (name key : String) (call : DataCall) : Option Value :=
  match call.templates with
  | none => none
  | some names => if name ∈ names then call.data.value? key else none

/-- What a call shares with all templates. -/
def sharedValue? (key : String) (call : DataCall) : Option Value :=
  match call.templates with
  | none => call.data.value? key
  | some _ => none

/-- What a fresh template finds under a key: the latest value that was scoped to its name, or else
the latest one that was shared with all. -/
def initialValue (calls : List DataCall) (name key : String) : Option Value :=
  (calls.findSome? (scopedValue? name key)).or (calls.findSome? (sharedValue? key))

end DataCall

namespace SharedData

variable (d : SharedData) (name key : String)

/-! ### One call -/

@[simp] theorem shared_shareWith (data : Dictionary Value) (names : List String) :
    (d.shareWith data names).shared = d.shared := by
  induction names generalizing d with
  | nil => rfl
  | cons other rest ih => exact ih (d.scopeOne data other)

/-- A value that was shared replaces an earlier one. -/
theorem value?_shared_add (call : DataCall) :
    (d.add call).shared.value? key = (call.sharedValue? key).or (d.shared.value? key) := by
  unfold add DataCall.sharedValue?
  cases call.templates with
  | none => exact Dictionary.value?_overlay _ _ call.distinct key
  | some names => simp

theorem value?_scopedTo_shareWith {data : Dictionary Value} (hdata : data.keys.Nodup)
    (names : List String) :
    ((d.shareWith data names).scopedTo name).value? key =
      (if name ∈ names then data.value? key else none).or ((d.scopedTo name).value? key) := by
  induction names generalizing d with
  | nil => simp [shareWith]
  | cons other rest ih =>
    rw [shareWith, ih, scopedTo_scopeOne]
    by_cases hother : other = name
    · subst hother
      rw [if_pos rfl, Dictionary.value?_overlay _ _ hdata]
      by_cases hrest : other ∈ rest <;> cases data.value? key <;> simp [hrest]
    · simp [hother, Ne.symm hother]

/-- A value that was scoped to a template replaces an earlier one. -/
theorem value?_scopedTo_add (call : DataCall) :
    ((d.add call).scopedTo name).value? key =
      (call.scopedValue? name key).or ((d.scopedTo name).value? key) := by
  unfold add DataCall.scopedValue?
  cases call.templates with
  | none => rfl
  | some names => exact value?_scopedTo_shareWith d name key call.distinct names

theorem nodup_keys_scopedTo_shareWith (data : Dictionary Value) (names : List String)
    (h : (d.scopedTo name).keys.Nodup) : ((d.shareWith data names).scopedTo name).keys.Nodup := by
  induction names generalizing d with
  | nil => exact h
  | cons other rest ih =>
    refine ih (d.scopeOne data other) ?_
    rw [scopedTo_scopeOne]
    split
    · next hother => exact Dictionary.nodup_keys_overlay (hother ▸ h) data
    · exact h

/-! ### A history of calls -/

theorem value?_shared_after (calls : List DataCall) :
    (after calls).shared.value? key = calls.findSome? (DataCall.sharedValue? key) := by
  induction calls with
  | nil => rfl
  | cons call earlier ih =>
    rw [after, value?_shared_add, ih, List.findSome?_cons]
    cases call.sharedValue? key <;> rfl

theorem value?_scopedTo_after (calls : List DataCall) :
    ((after calls).scopedTo name).value? key =
      calls.findSome? (DataCall.scopedValue? name key) := by
  induction calls with
  | nil => rfl
  | cons call earlier ih =>
    rw [after, value?_scopedTo_add, ih, List.findSome?_cons]
    cases call.scopedValue? name key <;> rfl

theorem nodup_keys_shared_after (calls : List DataCall) : (after calls).shared.keys.Nodup := by
  induction calls with
  | nil => exact List.nodup_nil
  | cons call earlier ih =>
    unfold after add
    cases call.templates with
    | none => exact Dictionary.nodup_keys_overlay ih call.data
    | some names => simpa using ih

theorem nodup_keys_scopedTo_after (calls : List DataCall) :
    ((after calls).scopedTo name).keys.Nodup := by
  induction calls with
  | nil => exact List.nodup_nil
  | cons call earlier ih =>
    unfold after add
    cases call.templates with
    | none => exact ih
    | some names => exact nodup_keys_scopedTo_shareWith _ name call.data names ih

/-- A fresh template finds the latest value that was scoped to its name, or else the latest one
that was shared with all, whatever the order of the calls. -/
theorem value?_forTemplate_after (calls : List DataCall) :
    ((after calls).forTemplate name).value? key = DataCall.initialValue calls name key := by
  rw [forTemplate, Dictionary.value?_overlay _ _ (nodup_keys_scopedTo_after name calls),
    value?_scopedTo_after, value?_shared_after, DataCall.initialValue]

theorem nodup_keys_forTemplate_after (calls : List DataCall) :
    ((after calls).forTemplate name).keys.Nodup :=
  Dictionary.nodup_keys_overlay (nodup_keys_shared_after calls) _

end SharedData

end TemplateEngine
