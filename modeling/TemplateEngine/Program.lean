import TemplateEngine.Operation

/-!
# Programs that act through a template

A program is done with a result, fails, or performs an operation of the template and goes on
with the answer. The answer may be a fault, so a program can handle the faults of what it asks
for. Bodies of templates and registered functions are programs.

## Main definitions

* `Program`: the programs.
* `Program.bind`, `Program.rescue`: one program after another one, and a handler of faults.
* `Program.run`: what a program leaves, given what its operations do.

## Main results

* `Program.run_bind`: a program after another one runs on what the first one left.
* `Program.bind_assoc`, `Program.bind_done`: the laws of sequence.
-/

namespace TemplateEngine

/-- A program that acts through a template. -/
inductive Program (α : Type) where
  | done (result : α)
  | fail (fault : Fault)
  | perform (operation : Operation) (next : Except Fault Value → Program α)

namespace Program

variable {α β γ : Type}

instance : Inhabited (Program α) := ⟨.fail .wrongType⟩

/-- Runs a program and then one that depends on its result. -/
def bind : Program α → (α → Program β) → Program β
  | .done a, f => f a
  | .fail fault, _ => .fail fault
  | .perform operation next, f => .perform operation fun answer => bind (next answer) f

instance : Monad Program where
  pure := .done
  bind := bind

/-- Runs a program and, if it fails, what a handler gives for the fault. -/
def rescue (handler : Fault → Program α) : Program α → Program α
  | .done a => .done a
  | .fail fault => handler fault
  | .perform operation next => .perform operation fun answer => rescue handler (next answer)

/-- The outcome of a program, fault or not, as a result. -/
def outcome : Program α → Program (Except Fault α)
  | .done a => .done (.ok a)
  | .fail fault => .done (.error fault)
  | .perform operation next => .perform operation fun answer => outcome (next answer)

/-- A result or a fault as a program. -/
def ofExcept : Except Fault α → Program α
  | .ok a => .done a
  | .error fault => .fail fault

/-- Performs one operation; its fault is that of the program. -/
def ask (operation : Operation) : Program Value := .perform operation ofExcept

/-- Performs one operation and drops its answer. -/
def tell (operation : Operation) : Program Unit := .perform operation fun
  | .ok _ => .done ()
  | .error fault => .fail fault

/-- Runs a program for each item in turn. -/
def forEach {ι : Type} (body : ι → Program Unit) : List ι → Program Unit
  | [] => .done ()
  | item :: rest => bind (body item) fun _ => forEach body rest

/-- What a program leaves, given what its operations do. The operations may have no outcome at
all, and then the program has none either. -/
def run {σ : Type} (handle : Operation → σ → Option (Except Fault Value × σ)) :
    Program α → σ → Option (Except Fault α × σ)
  | .done a, s => some (.ok a, s)
  | .fail fault, s => some (.error fault, s)
  | .perform operation next, s =>
    match handle operation s with
    | none => none
    | some (answer, s') => run handle (next answer) s'

@[simp] theorem bind_done (a : α) (f : α → Program β) : (Program.done a).bind f = f a := rfl

theorem done_bind (p : Program α) : p.bind .done = p := by
  induction p with
  | done => rfl
  | fail => rfl
  | perform operation next ih => simp [bind, ih]

/-- A sequence of three programs may be grouped either way. -/
theorem bind_assoc (p : Program α) (f : α → Program β) (g : β → Program γ) :
    (p.bind f).bind g = p.bind fun a => (f a).bind g := by
  induction p with
  | done => rfl
  | fail => rfl
  | perform operation next ih => simp [bind, ih]

/-- A program after another one runs on what the first one left. -/
theorem run_bind {σ : Type} (handle : Operation → σ → Option (Except Fault Value × σ))
    (p : Program α) (f : α → Program β) (s : σ) :
    (p.bind f).run handle s =
      match p.run handle s with
      | none => none
      | some (.ok a, s') => (f a).run handle s'
      | some (.error fault, s') => some (.error fault, s') := by
  induction p generalizing s with
  | done => rfl
  | fail => rfl
  | perform operation next ih =>
    simp only [bind, run]
    cases handle operation s with
    | none => rfl
    | some answered => exact ih answered.1 answered.2

/-- A handler runs on what the failed program left. -/
theorem run_rescue {σ : Type} (handle : Operation → σ → Option (Except Fault Value × σ))
    (handler : Fault → Program α) (p : Program α) (s : σ) :
    (p.rescue handler).run handle s =
      match p.run handle s with
      | none => none
      | some (.ok a, s') => some (.ok a, s')
      | some (.error fault, s') => (handler fault).run handle s' := by
  induction p generalizing s with
  | done => rfl
  | fail => rfl
  | perform operation next ih =>
    simp only [rescue, run]
    cases handle operation s with
    | none => rfl
    | some answered => exact ih answered.1 answered.2

/-- One operation leaves what it does. -/
theorem run_ask {σ : Type} (handle : Operation → σ → Option (Except Fault Value × σ))
    (operation : Operation) (s : σ) : (ask operation).run handle s = handle operation s := by
  simp only [ask, run]
  cases handle operation s with
  | none => rfl
  | some answered => obtain ⟨answer, s'⟩ := answered; cases answer <;> rfl

end Program

end TemplateEngine
