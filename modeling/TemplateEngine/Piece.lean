import TemplateEngine.Generator
import TemplateEngine.Method

/-!
# The pieces of a template file

A template file is made of texts, outputs, steps that are evaluated for what they do, branches and
loops. What its language makes of the expressions is a program for each scope, that is for what
names stand for; nothing else is said about it. The pieces hand out their texts in the order of the
file: a text when it is reached, an output when its value is known.

## Main definitions

* `Piece`: the pieces, with a program for each expression.
* `Piece.outputText`: the text that is handed out for a value.
* `Piece.generator`, `generatorOf`: what pieces hand out, and what they do in between.
-/

namespace TemplateEngine

/-- A piece of a template file, with a program for each of its expressions. -/
inductive Piece (σ : Type) where
  | text (s : String)
  /-- Hands out the text of a value. To show the template at hand is to ask what it renders. -/
  | output (value : σ → Program Value)
  /-- Evaluates something for what it does, which leaves a scope. -/
  | evaluate (step : σ → Program σ)
  | branch (test : σ → Program Bool) (positive negative : List (Piece σ))
  /-- Takes a turn for each item of a list, and something else if there was none. A turn has the
  scope that is made from its number, the item and the items behind it; an item may be left out. -/
  | loop (items : σ → Program (List Value))
      (turn : σ → Nat → Value → List Value → Program (Option σ))
      (body otherwise : List (Piece σ))

namespace Piece

variable {σ : Type}

instance : Inhabited (Piece σ) := ⟨.text ""⟩

/-- The text that is handed out for a value: none for the value that is nothing. -/
def outputText (v : Value) : Except Fault String := if v.isNull then .ok "" else v.text

/-- What the turns of a loop hand out, and whether there was one. A turn's scope is forgotten. -/
def generatorOfTurns (turn : Nat → Value → List Value → Program (Option σ))
    (body : σ → Generator σ) : Nat → List Value → Generator Bool
  | _, [] => .done false
  | index, item :: rest => (Generator.ofProgram (turn index item rest)).bind fun
    | none => generatorOfTurns turn body index rest
    | some inner => (body inner).bind fun _ =>
      (generatorOfTurns turn body (index + 1) rest).bind fun _ => .done true

mutual

/-- What a piece hands out, with the scope behind it. -/
def generator : Piece σ → σ → Generator σ
  | .text s, scope => (Generator.yield s).bind fun _ => .done scope
  | .output value, scope =>
    (Generator.ofProgram ((value scope).bind fun v => .ofExcept (outputText v))).bind fun text =>
      (Generator.yield text).bind fun _ => .done scope
  | .evaluate step, scope => .ofProgram (step scope)
  | .branch test positive negative, scope => (Generator.ofProgram (test scope)).bind fun
    | true => generatorOf positive scope
    | false => generatorOf negative scope
  | .loop items turn body otherwise, scope => (Generator.ofProgram (items scope)).bind fun values =>
    (generatorOfTurns (turn scope) (fun inner => generatorOf body inner) 0 values).bind fun
      | true => .done scope
      | false => (generatorOf otherwise scope).bind fun _ => .done scope

/-- What pieces hand out in a row, with the scope behind them. -/
def generatorOf : List (Piece σ) → σ → Generator σ
  | [], scope => .done scope
  | piece :: rest, scope => (piece.generator scope).bind fun scope => generatorOf rest scope

end

end Piece

end TemplateEngine
