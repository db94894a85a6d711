import TemplateEngine.Generator

/-!
# What an engine is played on

An engine leaves three things to its host: the functions that are found by name outside of the
registered ones, the language that the files of templates are written in, and the room that there is
for renders inside of renders. All that the engine relies on is that a function answers a value with
a value or a fault, and may print a text meanwhile, and that a file compiles to a generator of texts
for each context, or does not compile.

## Main definitions

* `contextOf`: what the names in a file stand for.
* `HostFunction`: a function outside of the registered ones.
* `Host`: the functions, the language of template files and the depth of nesting.
* `Host.Prints`: the texts that functions print when they are called one after the other.
* `Host.IsQuiet`: no function prints anything.

## Main results

* `Host.Prints.append`: calls after calls print one text after the other.
* `Host.Prints.eq_empty`: calls print nothing on a quiet host.
-/

namespace TemplateEngine

/-- The name that stands for the template itself in a file. -/
def templateVariable : String := "this"

/-- What the names in a file stand for: the data of the template, with the template itself under
its own name. -/
def contextOf (data : Dictionary Value) (template : String) : Dictionary Value :=
  data.put templateVariable (.template template)

/-- What a function outside of the registered ones answers to a value, and the text that it prints
meanwhile. It does nothing else, and keeps nothing from one call to the next. -/
abbrev HostFunction := Value → Except Fault Value × String

/-- What an engine is played on. By default no function is found outside, and a file is one text. -/
structure Host where
  /-- The function that is found under a name. -/
  function? : String → Option HostFunction := fun _ => none
  /-- What a file compiles to: a generator for each context of names and values. -/
  compile : String → Except Fault (Dictionary Value → Generator Unit) :=
    fun source => .ok fun _ => .yield source
  /-- The depth to which renders and calls may nest. -/
  nesting : Nat := 1000

namespace Host

instance : Inhabited Host := ⟨{}⟩

/-- The texts that functions of a host print when they are called one after the other. -/
inductive Prints (host : Host) : String → Prop
  | nothing : Prints host ""
  | call {text name : String} {f : HostFunction} (hprinted : Prints host text)
    (hf : host.function? name = some f) (v : Value) : Prints host (text ++ (f v).2)

/-- No function prints anything. -/
def IsQuiet (host : Host) : Prop := ∀ name f, host.function? name = some f → ∀ v, (f v).2 = ""

variable {host : Host} {first second : String}

/-- Calls after calls print one text after the other. -/
theorem Prints.append (h : host.Prints first) (h' : host.Prints second) :
    host.Prints (first ++ second) := by
  induction h' with
  | nothing => rwa [String.append_empty]
  | call _ hf v ih =>
    rw [← String.append_assoc]
    exact .call ih hf v

/-- Calls print nothing on a quiet host. -/
theorem Prints.eq_empty (hquiet : host.IsQuiet) (h : host.Prints first) : first = "" := by
  induction h with
  | nothing => rfl
  | call _ hf v ih => rw [ih, hquiet _ _ hf v, String.empty_append]

end Host

end TemplateEngine
