/-!
# Splitting a text at a separator

The text is split at the occurrences of the separator that do not overlap, leftmost first.
There is always at least one piece.

## Main definitions

* `splitChars`: the pieces of a list of characters.
* `splitAt`: the pieces of a string.

## Main results

* `joinChars_splitChars`: the pieces joined by the separator give back the text.
-/

namespace TemplateEngine.Text

/-- Puts a character in front of the first piece. -/
def consHead (c : Char) : List (List Char) → List (List Char)
  | [] => [[c]]
  | piece :: rest => (c :: piece) :: rest

/-- The pieces of a text behind the next `skip` characters, which belong to a separator. -/
def splitFrom (separator : List Char) : Nat → List Char → List (List Char)
  | _, [] => [[]]
  | skip + 1, _ :: rest => splitFrom separator skip rest
  | 0, c :: rest =>
    if separator.isPrefixOf (c :: rest) then
      [] :: splitFrom separator (separator.length - 1) rest
    else consHead c (splitFrom separator 0 rest)

/-- The pieces of a list of characters between occurrences of a separator. An empty separator
occurs nowhere. -/
def splitChars (separator text : List Char) : List (List Char) :=
  if separator = [] then [text] else splitFrom separator 0 text

/-- The pieces of a string between occurrences of a separator. -/
def splitAt (separator text : String) : List String :=
  (splitChars separator.toList text.toList).map String.ofList

/-- Joins pieces by a separator. -/
def joinChars (separator : List Char) : List (List Char) → List Char
  | [] => []
  | [piece] => piece
  | piece :: rest => piece ++ separator ++ joinChars separator rest

theorem splitFrom_ne_nil (separator : List Char) (skip : Nat) (text : List Char) :
    splitFrom separator skip text ≠ [] := by
  fun_induction splitFrom separator skip text with
  | case1 => simp
  | case2 _ _ _ ih => exact ih
  | case3 => simp
  | case4 c rest _ ih => cases h : splitFrom separator 0 rest <;> simp_all [consHead]

theorem joinChars_consHead (separator : List Char) (c : Char) {pieces : List (List Char)}
    (h : pieces ≠ []) :
    joinChars separator (consHead c pieces) = c :: joinChars separator pieces := by
  match pieces, h with
  | [piece], _ => rfl
  | piece :: next :: rest, _ => rfl

theorem joinChars_nil_cons (separator : List Char) {pieces : List (List Char)} (h : pieces ≠ []) :
    joinChars separator ([] :: pieces) = separator ++ joinChars separator pieces := by
  match pieces, h with
  | piece :: rest, _ => rfl

theorem joinChars_splitFrom (separator : List Char) (hs : separator ≠ []) (skip : Nat)
    (text : List Char) :
    joinChars separator (splitFrom separator skip text) = text.drop skip := by
  fun_induction splitFrom separator skip text with
  | case1 => simp [joinChars]
  | case2 skip _ rest ih => simpa using ih
  | case3 c rest h ih =>
    rw [joinChars_nil_cons separator (splitFrom_ne_nil _ _ _), ih]
    have hp : separator <+: c :: rest := List.isPrefixOf_iff_prefix.1 h
    obtain ⟨tail, htail⟩ := hp
    obtain ⟨s, more, rfl⟩ := List.exists_cons_of_ne_nil hs
    have hrest : rest = more ++ tail := by simpa using congrArg List.tail htail.symm
    subst hrest
    simpa using htail
  | case4 c rest _ ih =>
    rw [joinChars_consHead separator c (splitFrom_ne_nil _ _ _), ih]
    simp

/-- The pieces joined by the separator give back the text. -/
theorem joinChars_splitChars (separator text : List Char) :
    joinChars separator (splitChars separator text) = text := by
  unfold splitChars
  split
  · rfl
  · rename_i h
    simpa using joinChars_splitFrom separator h 0 text

end TemplateEngine.Text
