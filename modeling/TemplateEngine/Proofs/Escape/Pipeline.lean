import TemplateEngine.Method
import TemplateEngine.Proofs.Escape.Entity
import TemplateEngine.Render

/-!
# Escaped values

A template escapes the text of a value, which it may first send through functions. Whatever the
functions do, the escape fails with them, or with the fault that their result has no text, or
gives a text without raw markup that is read back as the text of their result.

## Main definitions

* `Escaped`: what a text and its escape have to do with each other.
* `pipeline`: a value sent through functions, if any are named.
* `EscapeEnds`: how an escape ends, given how the functions end.
* `EscapeCallEnds`: how the call of a method that escapes ends.

## Main results

* `escape_safe_lossless`: texts, values and calls are escaped without raw markup and without loss.
-/

namespace TemplateEngine

/-- What an escape makes of a text: it holds no raw markup and is read back as the text. -/
structure Escaped (quote : Bool) (text escape : String) : Prop where
  markupFree : MarkupFree quote escape.toList
  decodeText_eq : decodeText escape = text

theorem escaped_escapeText (quote : Bool) (text : String) :
    Escaped quote text (escapeText quote text) where
  markupFree := by simpa [escapeText] using markupFree_escapeChars quote text.toList
  decodeText_eq := decodeText_escapeText quote text

/-- A value sent through functions, if any are named. -/
def pipeline (nested : Nested) (v : Value) (functions : String) (s : Scene) : Evaluation Value :=
  if functions = "" then some (.ok v, s) else perform nested (.batch v functions) s

/-- How an escape ends, given how the functions end that the value is sent through: like them if
they fail or nest too deep, with an empty text for nothing, and otherwise with a fault of the text
of their result or with an escape of it. -/
inductive EscapeEnds : Evaluation Value → Evaluation Value → Prop
  | beyond : EscapeEnds none none
  | failed {fault : Fault} {s : Scene} :
    EscapeEnds (some (.error fault, s)) (some (.error fault, s))
  | nothing {s : Scene} : EscapeEnds (some (.ok .null, s)) (some (.ok (.str ""), s))
  | textless {v : Value} {fault : Fault} {s : Scene} (hv : v ≠ .null)
    (htext : v.text = .error fault) : EscapeEnds (some (.ok v, s)) (some (.error fault, s))
  | escaped {v : Value} {text escape : String} {s : Scene} (hv : v ≠ .null)
    (htext : v.text = .ok text) (hescape : Escaped true text escape) :
    EscapeEnds (some (.ok v, s)) (some (.ok (.str escape), s))

/-- How the call of a method that escapes ends: with the fault of its arguments, or as the escape
of the first one, sent through the functions that the second one names. -/
def EscapeCallEnds (nested : Nested) (arguments : List Value) (named : Dictionary Value)
    (s : Scene) (left : Evaluation Value) : Prop :=
  match bindArguments [⟨"value", none⟩, ⟨"functions", some .null⟩] arguments named with
  | .error fault => left = some (.error fault, s)
  | .ok bound => ∃ v functions, bound = [v, functions] ∧
    match functions.asFunctionNames with
    | .error fault => left = some (.error fault, s)
    | .ok names => EscapeEnds (pipeline nested v names s) left

/-! ### Values -/

theorem escapeValue_str (settings : EscapeSettings) (text : String) :
    escapeValue settings (.str text) = .ok (escapeText settings.quote text) := rfl

/-- The escape of a value ends with a fault or with an escape of its text. -/
theorem escapeEnds_escapeValue (v : Value) (s : Scene) :
    EscapeEnds (some (.ok v, s)) (some ((escapeValue {} v).map .str, s)) := by
  by_cases hv : v = .null
  · subst hv
    exact .nothing
  · have hnull : v.isNull = false := by cases v <;> first | rfl | exact absurd rfl hv
    cases htext : v.text with
    | error fault =>
      simp only [escapeValue, hnull, htext, Except.map, Bool.false_and, Bool.false_eq_true,
        if_false]
      exact .textless hv htext
    | ok text =>
      simp only [escapeValue, hnull, htext, Except.map, Bool.false_and, Bool.false_eq_true,
        if_false]
      exact .escaped hv htext (escaped_escapeText true text)

/-- An operation that escapes ends in line with the functions. -/
theorem escapeEnds_perform (nested : Nested) (v : Value) (functions : String) (s : Scene) :
    EscapeEnds (pipeline nested v functions s) (perform nested (.escape v functions) s) := by
  simp only [pipeline, perform, escape]
  by_cases hfunctions : functions = ""
  · rw [if_pos hfunctions, if_pos hfunctions]
    exact escapeEnds_escapeValue v s
  · rw [if_neg hfunctions, if_neg hfunctions]
    rcases batch nested v functions s with _ | ⟨fault | v', s'⟩
    · exact .beyond
    · exact .failed
    · exact escapeEnds_escapeValue v' s'

/-! ### Calls -/

/-- One more argument is bound in front of others. -/
theorem length_of_map_cons {argument : Value} {left : Except Fault (List Value)} {n : Nat}
    (hleft : ∀ {more}, left = .ok more → more.length = n) {bound : List Value}
    (h : left.map (argument :: ·) = .ok bound) : bound.length = n + 1 := by
  obtain ⟨more, hmore, rfl⟩ := exists_of_map_ok h
  rw [List.length_cons, hleft hmore]

/-- As many arguments are bound as there are parameters. -/
theorem length_bindArguments {parameters : List Parameter} {arguments bound : List Value}
    {named : Dictionary Value} (h : bindArguments parameters arguments named = .ok bound) :
    bound.length = parameters.length := by
  fun_induction bindArguments parameters arguments named generalizing bound with
  | case1 =>
    cases h
    rfl
  | case2 => cases h
  | case3 => cases h
  | case4 => cases h
  | case5 _ _ _ _ _ _ ih => exact length_of_map_cons ih h
  | case6 _ _ _ _ _ ih => exact length_of_map_cons ih h
  | case7 _ _ _ _ _ _ ih => exact length_of_map_cons ih h
  | case8 => cases h

/-- Both methods that escape are the same operation. -/
theorem operation_escape {method : String} (hmethod : method = "escape" ∨ method = "e")
    (v functions : Value) :
    Method.operation method [v, functions] = functions.asFunctionNames.map (.escape v) := by
  rcases hmethod with rfl | rfl <;> rfl

theorem escapeCallEnds_invoke (nested : Nested) {method : String}
    (hmethod : method = "escape" ∨ method = "e") (arguments : List Value)
    (named : Dictionary Value) (s : Scene) :
    EscapeCallEnds nested arguments named s
      ((Program.invoke method arguments named).run (perform nested) s) := by
  have hcall : method ≠ "call" := by rcases hmethod with rfl | rfl <;> decide
  have hparameters : Method.parameters? method =
      some [⟨"value", none⟩, ⟨"functions", some .null⟩] := by
    rcases hmethod with rfl | rfl <;> rfl
  unfold EscapeCallEnds
  simp only [Program.invoke, if_neg hcall, hparameters]
  cases hbound : bindArguments [⟨"value", none⟩, ⟨"functions", some .null⟩] arguments named with
  | error fault => rfl
  | ok bound =>
    obtain ⟨v, functions, rfl⟩ := List.length_eq_two.mp (length_bindArguments hbound)
    refine ⟨v, functions, rfl, ?_⟩
    simp only [Program.ofExcept, Program.bind_done, operation_escape hmethod]
    cases functions.asFunctionNames with
    | error fault => rfl
    | ok names =>
      simp only [Except.map, Program.bind_done, Program.run_ask]
      exact escapeEnds_perform nested v names s

/-- The escape of a text holds no raw markup and is read back as the text; it is what successive
replacements of the whole text give, it tells texts apart, and it goes through concatenations. The
escape of a value is that of its text, after the value was sent through functions, and both methods
that escape do so. -/
theorem escape_safe_lossless :
    (∀ (settings : EscapeSettings) (text : String), ∃ escape,
      escapeValue settings (.str text) = .ok escape ∧ Escaped settings.quote text escape ∧
        escape.toList = Entity.replaceAll (Entity.inOrder settings.quote) text.toList) ∧
    (∀ (quote : Bool) (s t : String), escapeText quote s = escapeText quote t ↔ s = t) ∧
    (∀ (quote : Bool) (s t : String),
      escapeText quote (s ++ t) = escapeText quote s ++ escapeText quote t) ∧
    (∀ (nested : Nested) (v : Value) (functions : String) (s : Scene),
      EscapeEnds (pipeline nested v functions s) (perform nested (.escape v functions) s)) ∧
    ∀ (nested : Nested) (method : String), method = "escape" ∨ method = "e" →
      ∀ (arguments : List Value) (named : Dictionary Value) (s : Scene),
        EscapeCallEnds nested arguments named s
          ((Program.invoke method arguments named).run (perform nested) s) := by
  refine ⟨fun settings text => ?_, fun _ _ _ => escapeText_inj, escapeText_append,
    escapeEnds_perform, fun nested _ hmethod => escapeCallEnds_invoke nested hmethod⟩
  refine ⟨_, escapeValue_str settings text, escaped_escapeText settings.quote text, ?_⟩
  rw [Entity.replaceAll_eq_escapeChars, escapeText, String.toList_ofList]

end TemplateEngine
