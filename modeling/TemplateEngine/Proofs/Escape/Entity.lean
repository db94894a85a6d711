import Mathlib.Data.List.Infix
import TemplateEngine.Escape

/-!
# Entities in escaped text

An escaped text holds no raw markup: the escaped characters are gone, and every ampersand begins
an entity. Reading the text once from left to right, with each entity read as its character, gives
back what was escaped. The escape is defined character by character; it is also what successive
replacements in the whole text give, provided that the ampersand is replaced first.

## Main definitions

* `Entity`: the characters with an entity, and its spelling.
* `decodeChars`, `decodeText`: an escaped text read back.
* `Entity.replaceAll`: the whole text with one entity after the other in place of its character.
* `MarkupFree`: texts without raw markup.

## Main results

* `decodeChars_escapeChars`: an escaped text is read back as it was.
* `markupFree_escapeChars`: an escaped text holds no raw markup.
* `replaceAll_eq_escapeChars`: successive replacements give the escape.
-/

namespace TemplateEngine

/-- The characters that are written as entities. -/
inductive Entity where
  | ampersand
  | less
  | greater
  | doubleQuote
  | singleQuote
  deriving DecidableEq, Repr

namespace Entity

/-- The character of an entity. -/
def char : Entity → Char
  | ampersand => '&'
  | less => '<'
  | greater => '>'
  | doubleQuote => '"'
  | singleQuote => '\''

/-- How an entity is written. -/
def spelling : Entity → List Char
  | ampersand => "&amp;".toList
  | less => "&lt;".toList
  | greater => "&gt;".toList
  | doubleQuote => "&quot;".toList
  | singleQuote => "&#x27;".toList

/-- The entities for markup, and for quotes if they are escaped, in the order of replacement. -/
def inOrder (quote : Bool) : List Entity :=
  [ampersand, less, greater] ++ if quote then [doubleQuote, singleQuote] else []

/-- The entity that a list of characters begins with, if there is one. -/
def atStart? (text : List Char) : Option Entity :=
  (inOrder true).find? (·.spelling.isPrefixOf text)

/-- A text with an entity wherever its character stood. -/
def replace (e : Entity) (text : List Char) : List Char :=
  text.flatMap fun c => if c = e.char then e.spelling else [c]

/-- A text in which the characters of entities are replaced, one entity after the other. -/
def replaceAll (entities : List Entity) (text : List Char) : List Char :=
  entities.foldl (fun text e => e.replace text) text

end Entity

/-- A text behind the next `skip` characters, which belong to an entity, with entities read as
their characters. -/
def decodeFrom : Nat → List Char → List Char
  | _, [] => []
  | skip + 1, _ :: rest => decodeFrom skip rest
  | 0, c :: rest =>
    match Entity.atStart? (c :: rest) with
    | some e => e.char :: decodeFrom (e.spelling.length - 1) rest
    | none => c :: decodeFrom 0 rest

/-- A list of characters with its entities read as their characters, from left to right. -/
def decodeChars (text : List Char) : List Char := decodeFrom 0 text

/-- A text with its entities read as their characters, from left to right. -/
def decodeText (text : String) : String := String.ofList (decodeChars text.toList)

/-- A text without raw markup: no angle brackets, no quotes if these are escaped, and no ampersand
but those that begin an entity. -/
structure MarkupFree (quote : Bool) (text : List Char) : Prop where
  no_less : '<' ∉ text
  no_greater : '>' ∉ text
  no_quotes : quote = true → '"' ∉ text ∧ '\'' ∉ text
  ampersand_begins : ∀ rest, '&' :: rest <:+ text → ∃ e : Entity, e.spelling <+: '&' :: rest

/-! ### One character -/

/-- The escape of a character is an entity for it, or the character itself if it has none among
those in use. -/
theorem escapeChar_cases (quote : Bool) (c : Char) :
    (∃ e ∈ Entity.inOrder quote, c = e.char ∧ escapeChar quote c = e.spelling) ∨
      (∀ e ∈ Entity.inOrder quote, e.char ∉ [c]) ∧ escapeChar quote c = [c] := by
  by_cases h : ∃ e ∈ Entity.inOrder quote, c = e.char
  · obtain ⟨e, he, rfl⟩ := h
    refine .inl ⟨e, he, rfl, ?_⟩
    cases quote <;> cases e <;> first | rfl | simp [Entity.inOrder] at he
  · push Not at h
    refine .inr ⟨fun e he hmem => h e he (List.mem_singleton.mp hmem).symm, ?_⟩
    cases quote <;> simp_all [Entity.inOrder, Entity.char, escapeChar]

/-- The spelling of an entity begins with an ampersand. -/
theorem Entity.exists_spelling_eq_cons (e : Entity) : ∃ more, e.spelling = '&' :: more := by
  cases e <;> exact ⟨_, rfl⟩

/-- A character other than the ampersand begins no entity. -/
theorem Entity.atStart?_of_ne {c : Char} (h : c ≠ '&') (rest : List Char) :
    atStart? (c :: rest) = none := by
  refine List.find?_eq_none.mpr fun e _ hbegins => ?_
  obtain ⟨more, hspelling⟩ := e.exists_spelling_eq_cons
  have hprefix : '&' :: more <+: c :: rest := hspelling ▸ List.isPrefixOf_iff_prefix.mp hbegins
  exact h (List.cons_prefix_cons.mp hprefix).1.symm

theorem decodeFrom_length (text rest : List Char) :
    decodeFrom text.length (text ++ rest) = decodeFrom 0 rest := by
  induction text with
  | nil => rfl
  | cons c text ih => exact ih

/-- An entity is read as its character. -/
theorem decodeChars_spelling (e : Entity) (rest : List Char) :
    decodeChars (e.spelling ++ rest) = e.char :: decodeChars rest := by
  have hstart : Entity.atStart? (e.spelling ++ rest) = some e := by
    cases e <;> rfl
  obtain ⟨more, hspelling⟩ := e.exists_spelling_eq_cons
  rw [hspelling, List.cons_append] at hstart ⊢
  unfold decodeChars
  rw [decodeFrom, hstart]
  simp only [hspelling, List.length_cons, Nat.add_sub_cancel, decodeFrom_length]

/-- A character other than the ampersand is read as itself. -/
theorem decodeChars_cons_of_ne {c : Char} (h : c ≠ '&') (rest : List Char) :
    decodeChars (c :: rest) = c :: decodeChars rest := by
  unfold decodeChars
  rw [decodeFrom, Entity.atStart?_of_ne h]

theorem decodeChars_escapeChar (quote : Bool) (c : Char) (rest : List Char) :
    decodeChars (escapeChar quote c ++ rest) = c :: decodeChars rest := by
  rcases escapeChar_cases quote c with ⟨e, -, hc, hescape⟩ | ⟨hother, hescape⟩
  · rw [hescape, hc, decodeChars_spelling]
  · have hne : '&' ∉ [c] := hother .ampersand (by simp [Entity.inOrder])
    rw [hescape, List.singleton_append, decodeChars_cons_of_ne (List.ne_of_not_mem_cons hne).symm]

/-! ### Reading back -/

/-- An escaped text is read back as it was. -/
theorem decodeChars_escapeChars (quote : Bool) (text : List Char) :
    decodeChars (escapeChars quote text) = text := by
  induction text with
  | nil => rfl
  | cons c rest ih => rw [escapeChars_cons, decodeChars_escapeChar, ih]

theorem decodeText_escapeText (quote : Bool) (text : String) :
    decodeText (escapeText quote text) = text := by
  simp [decodeText, escapeText, decodeChars_escapeChars]

/-- Texts that escape alike are the same. -/
theorem escapeText_inj {quote : Bool} {s t : String} :
    escapeText quote s = escapeText quote t ↔ s = t := by
  constructor
  · intro h
    rw [← decodeText_escapeText quote s, h, decodeText_escapeText]
  · rintro rfl
    rfl

theorem escapeText_append (quote : Bool) (s t : String) :
    escapeText quote (s ++ t) = escapeText quote s ++ escapeText quote t := by
  simp [escapeText, escapeChars_append]

/-! ### No raw markup -/

namespace MarkupFree

variable {quote : Bool} {s t : List Char}

theorem nil : MarkupFree quote [] := by constructor <;> simp

/-- What follows an ampersand in a text that is put together: it stands in the second part, or it
goes on from the first part into the second one. -/
theorem ampersand_append {rest : List Char} (h : '&' :: rest <:+ s ++ t) :
    '&' :: rest <:+ t ∨ ∃ front, '&' :: front <:+ s ∧ rest = front ++ t := by
  obtain ⟨before, hbefore⟩ := h
  rcases List.append_eq_append_iff.mp hbefore with ⟨middle, hs, hrest⟩ | ⟨middle, -, ht⟩
  · cases middle with
    | nil => exact .inl ⟨[], hrest⟩
    | cons c front =>
      obtain ⟨rfl, hfront⟩ := List.cons_eq_cons.mp hrest
      exact .inr ⟨front, ⟨before, hs.symm⟩, hfront⟩
  · exact .inl ⟨middle, ht.symm⟩

theorem append (hs : MarkupFree quote s) (ht : MarkupFree quote t) : MarkupFree quote (s ++ t) where
  no_less := by simp [hs.no_less, ht.no_less]
  no_greater := by simp [hs.no_greater, ht.no_greater]
  no_quotes hquote := by simp [hs.no_quotes hquote, ht.no_quotes hquote]
  ampersand_begins rest hrest := by
    rcases ampersand_append hrest with hsecond | ⟨front, hfirst, rfl⟩
    · exact ht.ampersand_begins rest hsecond
    · obtain ⟨e, he⟩ := hs.ampersand_begins front hfirst
      exact ⟨e, he.trans (List.prefix_append ('&' :: front) t)⟩

/-- The only ampersand of an entity is its first character. -/
theorem spelling (e : Entity) : MarkupFree quote e.spelling where
  no_less := by cases e <;> decide
  no_greater := by cases e <;> decide
  no_quotes _ := by cases e <;> decide
  ampersand_begins rest hrest := by
    have htail : '&' ∉ e.spelling.tail := by cases e <;> decide
    refine ⟨e, ?_⟩
    obtain ⟨more, hspelling⟩ := e.exists_spelling_eq_cons
    rw [hspelling] at hrest htail ⊢
    rcases List.suffix_cons_iff.mp hrest with heq | hmore
    · rw [heq]
    · exact absurd (hmore.subset List.mem_cons_self) htail

theorem singleton {c : Char} (h : ∀ e ∈ Entity.inOrder quote, e.char ∉ [c]) :
    MarkupFree quote [c] where
  no_less := h .less (by simp [Entity.inOrder])
  no_greater := h .greater (by simp [Entity.inOrder])
  no_quotes hquote :=
    ⟨h .doubleQuote (by simp [Entity.inOrder, hquote]),
      h .singleQuote (by simp [Entity.inOrder, hquote])⟩
  ampersand_begins rest hrest :=
    absurd (hrest.subset List.mem_cons_self) (h .ampersand (by simp [Entity.inOrder]))

end MarkupFree

/-- An escaped text holds no raw markup. -/
theorem markupFree_escapeChars (quote : Bool) (text : List Char) :
    MarkupFree quote (escapeChars quote text) := by
  induction text with
  | nil => exact .nil
  | cons c rest ih =>
    rw [escapeChars_cons]
    rcases escapeChar_cases quote c with ⟨e, -, -, hescape⟩ | ⟨hother, hescape⟩
    · exact hescape ▸ (MarkupFree.spelling e).append ih
    · exact hescape ▸ (MarkupFree.singleton hother).append ih

/-! ### Successive replacements -/

namespace Entity

theorem replace_append (e : Entity) (s t : List Char) :
    e.replace (s ++ t) = e.replace s ++ e.replace t := List.flatMap_append

theorem replaceAll_nil (entities : List Entity) : replaceAll entities [] = [] := by
  induction entities with
  | nil => rfl
  | cons e rest ih => exact ih

theorem replaceAll_append (entities : List Entity) (s t : List Char) :
    replaceAll entities (s ++ t) = replaceAll entities s ++ replaceAll entities t := by
  induction entities generalizing s t with
  | nil => rfl
  | cons e rest ih =>
    simp only [replaceAll, List.foldl_cons, replace_append]
    exact ih _ _

theorem replace_of_not_mem {e : Entity} {text : List Char} (h : e.char ∉ text) :
    e.replace text = text := by
  induction text with
  | nil => rfl
  | cons c rest ih =>
    rw [List.mem_cons, not_or] at h
    rw [← List.singleton_append, replace_append, ih h.2]
    simp [replace, Ne.symm h.1]

theorem replaceAll_of_not_mem {entities : List Entity} {text : List Char}
    (h : ∀ e ∈ entities, e.char ∉ text) : replaceAll entities text = text := by
  induction entities with
  | nil => rfl
  | cons e rest ih =>
    rw [replaceAll, List.foldl_cons, replace_of_not_mem (h e List.mem_cons_self)]
    exact ih fun other hother => h other (List.mem_cons_of_mem e hother)

/-- One character after all replacements. Only the ampersand, which is replaced first, stands in
an entity, so no replacement touches what an earlier one has written. -/
theorem replaceAll_singleton (quote : Bool) (c : Char) :
    replaceAll (inOrder quote) [c] = escapeChar quote c := by
  rcases escapeChar_cases quote c with ⟨e, he, rfl, hescape⟩ | ⟨hother, hescape⟩
  · rw [hescape]
    cases quote <;> cases e <;> first | rfl | simp [inOrder] at he
  · rw [hescape]
    exact replaceAll_of_not_mem hother

/-- Successive replacements in the whole text give its escape. -/
theorem replaceAll_eq_escapeChars (quote : Bool) (text : List Char) :
    replaceAll (inOrder quote) text = escapeChars quote text := by
  induction text with
  | nil => exact replaceAll_nil _
  | cons c rest ih =>
    rw [← List.singleton_append, replaceAll_append, replaceAll_singleton, ih]
    rfl

end Entity

end TemplateEngine
