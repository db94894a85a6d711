import TemplateEngine.Program

/-!
# Texts that are made when they are asked for

A generator hands out one text after the other. It is resumed for each of them, acts through the
template up to the next one, and waits. A body that is streamed writes each text before it asks for
the next one, so that what the generator does in between finds it written.

## Main definitions

* `Generator`: the generators.
* `Generator.bind`, `Generator.ofProgram`: one generator after another one, and a program that hands
  out nothing.
* `Generator.drain`: writes each text before the next one is made.
* `Generator.guarded`: a program with the faults of a generator.

## Main results

* `Generator.drain_bind`: generators in a row are streamed one after the other.
* `Generator.drain_ofProgram`: a program that hands out nothing is run.
-/

namespace TemplateEngine

/-- What hands out texts, and acts through a template in between. -/
inductive Generator (α : Type) where
  | done (result : α)
  | fail (fault : Fault)
  | perform (operation : Operation) (next : Except Fault Value → Generator α)
  /-- Hands out a text and waits. -/
  | chunk (text : String) (rest : Generator α)

namespace Generator

variable {α β : Type}

instance : Inhabited (Generator α) := ⟨.fail .wrongType⟩

/-- Goes on with a generator that depends on the result of the first one. -/
def bind : Generator α → (α → Generator β) → Generator β
  | .done a, f => f a
  | .fail fault, _ => .fail fault
  | .perform operation next, f => .perform operation fun answer => bind (next answer) f
  | .chunk text rest, f => .chunk text (bind rest f)

/-- A program as a generator that hands out nothing. -/
def ofProgram : Program α → Generator α
  | .done a => .done a
  | .fail fault => .fail fault
  | .perform operation next => .perform operation fun answer => ofProgram (next answer)

/-- Hands out one text. -/
def yield (text : String) : Generator Unit := .chunk text (.done ())

/-- The fault that leaves a generator. The one that tells the end of an iteration would be taken for
the end of the texts, so another one takes its place. -/
def leaving (fault : Fault) : Fault :=
  if fault.isA .stopIteration then .plain .runtimeError else fault

/-- Writes each text when it is handed out, and asks for the next one then. -/
def drain : Generator α → Program α
  | .done a => .done a
  | .fail fault => .fail (leaving fault)
  | .perform operation next => .perform operation fun answer => drain (next answer)
  | .chunk text rest => (Program.tell (.write (.str text))).bind fun _ => drain rest

/-- A program that fails with what would leave a generator in place of its own fault. -/
def guarded (p : Program α) : Program α := p.rescue fun fault => .fail (leaving fault)

/-- Generators in a row are streamed one after the other. -/
theorem drain_bind (g : Generator α) (f : α → Generator β) :
    (g.bind f).drain = g.drain.bind fun a => (f a).drain := by
  induction g with
  | done => rfl
  | fail => rfl
  | perform operation next ih => simp only [bind, drain, Program.bind, ih]
  | chunk text rest ih => simp only [bind, drain, Program.bind_assoc, ih]

/-- One text is written. -/
theorem drain_yield (text : String) :
    (Generator.yield text).drain = Program.tell (.write (.str text)) :=
  Program.done_bind _

/-- A program that hands out nothing is run, with the faults of a generator. -/
theorem drain_ofProgram (p : Program α) : (ofProgram p).drain = guarded p := by
  induction p with
  | done => rfl
  | fail => rfl
  | perform operation next ih => simp only [ofProgram, drain, ih, guarded, Program.rescue]

/-- Programs in a row have the faults of a generator if each of them does. -/
theorem guarded_bind (p : Program α) (f : α → Program β) :
    guarded (p.bind f) = (guarded p).bind fun a => guarded (f a) := by
  induction p with
  | done => rfl
  | fail => rfl
  | perform operation next ih =>
    simp only [guarded, Program.bind, Program.rescue] at ih ⊢
    simp only [ih]

end Generator

end TemplateEngine
