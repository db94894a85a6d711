import Mathlib.Data.List.Basic
import TemplateEngine.Function

/-!
# Registering functions

A table of functions comes about by registering functions and removing them. What was registered
has passed the check of names, and so no registered name holds any character but letters, digits,
underscores and line feeds.

## Main definitions

* `FunctionTable.Reachable`: the tables that come about.

## Main results

* `FunctionTable.Reachable.isFunctionName`: a registered name is one that can be registered.
* `not_mem_of_isFunctionName`: what such a name does not hold.
-/

namespace TemplateEngine

/-- Tables that come about by registering functions and removing them. -/
inductive FunctionTable.Reachable : FunctionTable → Prop
  | empty : Reachable []
  | add {table table' : FunctionTable} {name : String} {callback : Option Callback}
    {passTemplate : Bool} (h : Reachable table)
    (hadd : table.add name callback passTemplate = .ok table') : Reachable table'
  | remove {table table' : FunctionTable} {name : String} (h : Reachable table)
    (hremove : table.remove name = .ok table') : Reachable table'

namespace FunctionTable

variable {table table' : FunctionTable} {name : String} {f : TemplateFunction}

/-- What a registration that is accepted has checked, and what it does. -/
theorem eq_put_of_add {callback : Option Callback} {passTemplate : Bool}
    (h : table.add name callback passTemplate = .ok table') :
    table.holds name = false ∧ isFunctionName name = true ∧
      ∃ given, callback = some given ∧ table' = table.put name ⟨given, passTemplate⟩ := by
  unfold add at h
  split at h
  · cases h
  · next hfree =>
    split at h
    · cases h
    · next hname =>
      cases callback with
      | none => cases h
      | some given =>
        cases h
        exact ⟨by simpa using hfree, by simpa using hname, given, rfl, rfl⟩

theorem eq_without_of_remove (h : table.remove name = .ok table') :
    table.holds name = true ∧ table' = table.without name := by
  unfold remove at h
  split at h
  · next hheld =>
    cases h
    exact ⟨hheld, rfl⟩
  · cases h

/-- A registered name is one that can be registered. -/
theorem Reachable.isFunctionName (h : table.Reachable) (hf : table.value? name = some f) :
    isFunctionName name = true := by
  induction h with
  | empty => cases hf
  | add _ hadd ih =>
    obtain ⟨-, hname, given, -, rfl⟩ := eq_put_of_add hadd
    rw [Dictionary.value?_put] at hf
    split at hf
    · next hsame => exact hsame ▸ hname
    · exact ih hf
  | remove _ hremove ih =>
    obtain ⟨-, rfl⟩ := eq_without_of_remove hremove
    rw [Dictionary.value?_without] at hf
    split at hf
    · cases hf
    · exact ih hf

end FunctionTable

/-- A character behind the text without its line feed is that line feed. -/
theorem mem_dropLineFeed {c : Char} {cs : List Char} (h : c ∈ cs) :
    c ∈ dropLineFeed cs ∨ c = '\n' := by
  unfold dropLineFeed
  split
  · next hlast =>
    rw [← List.dropLast_append_getLast? _ hlast] at h
    simpa using h
  · exact .inl h

theorem isFunctionChar_of_isIdentifier {c : Char} {cs : List Char} (h : isIdentifier cs = true)
    (hc : c ∈ cs) : isFunctionChar c = true := by
  cases cs with
  | nil => cases hc
  | cons first rest =>
    simp only [isIdentifier, Bool.and_eq_true, List.all_eq_true] at h
    rcases List.mem_cons.mp hc with rfl | hc
    · exact h.1.1
    · exact h.2 c hc

/-- A name that can be registered holds no character that is neither a letter, a digit or an
underscore nor a line feed. -/
theorem not_mem_of_isFunctionName {c : Char} {name : String} (h : isFunctionName name = true)
    (hc : isFunctionChar c = false) (hfeed : c ≠ '\n') : c ∉ name.toList := by
  intro hmem
  rcases mem_dropLineFeed hmem with hmem | rfl
  · rw [isFunctionChar_of_isIdentifier h hmem] at hc
    cases hc
  · exact hfeed rfl

end TemplateEngine
