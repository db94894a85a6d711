import Mathlib.Data.List.Infix
import TemplateEngine.Text.Split

/-!
# The pieces of a text

A text is taken apart at the occurrences of a separator, leftmost first, where none overlaps the one
before it. This tells its pieces without the scan that finds them: each piece ends where the
separator occurs for the first time in what is left, and the last one holds no separator.

## Main definitions

* `IsFirst`: between two parts of a text the separator occurs for the first time.
* `Pieces`: the pieces of a text.

## Main results

* `splitChars_eq_iff`, `splitAt_eq_iff`: the scan finds these pieces and no others.
* `splitAt_append_singleton`: two texts with a separator of one character between them have the
  pieces of both.
-/

namespace TemplateEngine.Text

/-- Between two parts of a text the separator occurs for the first time. -/
def IsFirst (separator before after : List Char) : Prop :=
  ∀ earlier later, before ++ separator ++ after = earlier ++ separator ++ later →
    before.length ≤ earlier.length

/-- The pieces of a text between the occurrences of a separator, leftmost first. -/
inductive Pieces (separator : List Char) : List Char → List (List Char) → Prop
  | whole {text : List Char} (hnone : ¬separator <:+: text) : Pieces separator text [text]
  | cut {piece rest : List Char} {pieces : List (List Char)}
    (hfirst : IsFirst separator piece rest) (hrest : Pieces separator rest pieces) :
    Pieces separator (piece ++ separator ++ rest) (piece :: pieces)

variable {separator text before after : List Char} {pieces others : List (List Char)}

/-! ### First occurrences -/

theorem isFirst_nil (separator after : List Char) : IsFirst separator [] after :=
  fun _ _ _ => Nat.zero_le _

/-- Behind a character at which no separator begins, a first occurrence remains the first. -/
theorem IsFirst.cons {c : Char} (h : IsFirst separator before after)
    (hc : ¬separator <+: c :: (before ++ separator ++ after)) :
    IsFirst separator (c :: before) after := by
  intro earlier later heq
  cases earlier with
  | nil => exact absurd ⟨later, by simpa using heq.symm⟩ hc
  | cons d earlier =>
    have htail : before ++ separator ++ after = earlier ++ separator ++ later := by
      simpa using congrArg List.tail heq
    exact Nat.succ_le_succ (h earlier later htail)

/-- There is only one first occurrence. -/
theorem IsFirst.unique {before' after' : List Char} (h : IsFirst separator before after)
    (h' : IsFirst separator before' after')
    (heq : before ++ separator ++ after = before' ++ separator ++ after') :
    before = before' ∧ after = after' := by
  have hlength : before.length = before'.length :=
    Nat.le_antisymm (h before' after' heq) (h' before after heq.symm)
  rw [List.append_assoc, List.append_assoc] at heq
  obtain ⟨hbefore, hrest⟩ := List.append_inj heq hlength
  exact ⟨hbefore, List.append_cancel_left hrest⟩

/-- A separator of one character, written twice, occurs first behind a text that does not hold it
and does not end with half of it. -/
theorem isFirst_pair_iff {c : Char} :
    IsFirst [c, c] before after ↔ ¬[c, c] <:+: before ∧ before.getLast? ≠ some c := by
  constructor
  · refine fun h => ⟨fun ⟨earlier, later, heq⟩ => ?_, fun hlast => ?_⟩
    · have hle := h earlier (later ++ [c, c] ++ after) (by simp [← heq])
      simp only [← heq, List.length_append, List.length_cons, List.length_nil] at hle
      omega
    · obtain ⟨start, rfl⟩ := List.getLast?_eq_some_iff.mp hlast
      have hle := h start (c :: after) (by simp)
      simp only [List.length_append, List.length_cons, List.length_nil] at hle
      omega
  · rintro ⟨hnone, hlast⟩ earlier later heq
    by_contra hlt
    rw [List.append_assoc, List.append_assoc] at heq
    obtain ⟨rest, rfl⟩ : earlier <+: before :=
      List.prefix_of_prefix_length_le ⟨_, heq.symm⟩ ⟨_, rfl⟩ (by omega)
    rw [List.append_assoc, List.append_cancel_left_eq] at heq
    -- an earlier occurrence lies in the text, or it takes one character from behind it
    match rest with
    | [] => exact hlt (by simp)
    | [d] =>
      obtain ⟨rfl, -⟩ : d = c ∧ c :: after = later := by simpa using heq
      exact hlast (by simp)
    | d :: e :: rest =>
      obtain ⟨rfl, rfl, -⟩ : d = c ∧ e = c ∧ rest ++ c :: c :: after = later := by simpa using heq
      exact hnone ⟨earlier, rest, by simp⟩

/-! ### Pieces -/

theorem Pieces.cons {c : Char} (h : Pieces separator text pieces)
    (hc : ¬separator <+: c :: text) : Pieces separator (c :: text) (consHead c pieces) := by
  cases h with
  | whole hnone => exact .whole fun hinside => (List.infix_cons_iff.mp hinside).elim hc hnone
  | cut hfirst hrest => exact .cut (hfirst.cons hc) hrest

/-- The scan finds the pieces of what is left of a text. -/
theorem pieces_splitFrom (hs : separator ≠ []) (skip : Nat) (text : List Char) :
    Pieces separator (text.drop skip) (splitFrom separator skip text) := by
  fun_induction splitFrom separator skip text with
  | case1 =>
    rw [List.drop_nil]
    exact .whole fun hinside => hs (List.infix_nil.mp hinside)
  | case2 skip c rest ih => exact ih
  | case3 c rest hprefix ih =>
    obtain ⟨tail, htail⟩ := List.isPrefixOf_iff_prefix.mp hprefix
    obtain ⟨s, more, rfl⟩ := List.exists_cons_of_ne_nil hs
    obtain ⟨rfl, rfl⟩ : s = c ∧ more ++ tail = rest := by simpa using htail
    have hrest : (more ++ tail).drop ((s :: more).length - 1) = tail := by simp
    rw [hrest] at ih
    simpa using Pieces.cut (isFirst_nil _ _) ih
  | case4 c rest hprefix ih =>
    exact Pieces.cons ih fun h => hprefix (List.isPrefixOf_iff_prefix.mpr h)

theorem Pieces.unique (h : Pieces separator text pieces) (h' : Pieces separator text others) :
    pieces = others := by
  induction h generalizing others with
  | whole hnone =>
    cases h' with
    | whole => rfl
    | cut => exact absurd ⟨_, _, rfl⟩ hnone
  | @cut piece rest pieces hfirst hrest ih =>
    generalize htext : piece ++ separator ++ rest = text at h'
    cases h' with
    | whole hnone => exact absurd ⟨piece, rest, htext⟩ hnone
    | cut hfirst' hrest' =>
      obtain ⟨rfl, rfl⟩ := hfirst.unique hfirst' htext
      rw [ih hrest']

/-- The pieces that are found are the pieces of the text. -/
theorem splitChars_eq_iff (hs : separator ≠ []) :
    splitChars separator text = pieces ↔ Pieces separator text pieces := by
  have hfound : Pieces separator text (splitChars separator text) := by
    simpa [splitChars, hs] using pieces_splitFrom hs 0 text
  exact ⟨fun h => h ▸ hfound, fun h => hfound.unique h⟩

theorem splitAt_eq_iff {separator text : String} {pieces : List String} (hs : separator ≠ "") :
    splitAt separator text = pieces ↔
      Pieces separator.toList text.toList (pieces.map String.toList) := by
  have hne : separator.toList ≠ [] := by simpa using hs
  rw [← splitChars_eq_iff hne, splitAt]
  constructor
  · rintro rfl
    simp [Function.comp_def]
  · intro h
    simp [h, Function.comp_def]

/-- There is always a piece. -/
theorem splitAt_ne_nil (separator text : String) : splitAt separator text ≠ [] := by
  simp only [splitAt, splitChars, ne_eq, List.map_eq_nil_iff]
  split
  · exact List.cons_ne_nil _ _
  · exact splitFrom_ne_nil _ _ _

/-- The pieces joined by the separator give back the text. -/
theorem joinChars_splitAt (separator text : String) :
    joinChars separator.toList ((splitAt separator text).map String.toList) = text.toList := by
  simp [splitAt, Function.comp_def, joinChars_splitChars]

/-- What stands behind a piece that holds no separator, and a separator, is the only other piece iff
it holds none and the separator does not occur earlier. -/
theorem pieces_pair_iff (hafter : ¬separator <:+: after) :
    Pieces separator (before ++ separator ++ after) [before, after] ↔
      IsFirst separator before after := by
  constructor
  · intro h
    generalize htext : before ++ separator ++ after = text at h
    cases h with
    | cut hfirst =>
      rw [List.append_cancel_left_eq] at htext
      exact htext ▸ hfirst
  · exact fun h => .cut h (.whole hafter)

/-! ### Separators of one character -/

theorem consHead_append (c : Char) (h : pieces ≠ []) :
    consHead c (pieces ++ others) = consHead c pieces ++ others := by
  cases pieces with
  | nil => exact absurd rfl h
  | cons piece rest => rfl

theorem splitFrom_append_singleton (c : Char) (text rest : List Char) :
    splitFrom [c] 0 (text ++ c :: rest) = splitFrom [c] 0 text ++ splitFrom [c] 0 rest := by
  induction text with
  | nil => simp [splitFrom]
  | cons d text ih =>
    by_cases hd : c = d
    · simp [splitFrom, hd, hd ▸ ih]
    · simp [splitFrom, hd, ih, consHead_append _ (splitFrom_ne_nil [c] 0 text)]

/-- Two texts with a separator of one character between them have the pieces of both. -/
theorem splitAt_append_singleton (c : Char) (a b : String) :
    splitAt (String.singleton c) (a ++ String.singleton c ++ b) =
      splitAt (String.singleton c) a ++ splitAt (String.singleton c) b := by
  simp [splitAt, splitChars, splitFrom_append_singleton]

/-- A text without the separator is its only piece. -/
theorem splitAt_of_not_infix {separator text : String} (hs : separator ≠ "")
    (h : ¬separator.toList <:+: text.toList) : splitAt separator text = [text] :=
  (splitAt_eq_iff hs).mpr (.whole h)

end TemplateEngine.Text
