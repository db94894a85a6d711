import TemplateEngine.Callable
import TemplateEngine.Proofs.Text.Pieces

/-!
# What a name of a function outside stands for

A name is a path: the part in front of the first point is built in, and every other part is an
attribute of what the parts before it lead to. What is not found in this way may be found in a
library. The search takes nothing for a sign that something is missing, and goes on with it. So it
agrees with the paths unless an attribute is missing and nothing has the attributes behind it, or
the path begins at nothing; and it does not see a point at the end of a built-in name.

## Main definitions

* `Catalogue`: what there is to be found, and under which names.
* `Catalogue.resolve?`: the search.
* `Catalogue.Leads`, `Catalogue.IsPath`, `Catalogue.Documents`: paths, and what names stand for.
* `Catalogue.Reads`: what the search finds before it turns to the libraries.
* `Catalogue.IsStraight`: nothing is in the way of a path.
* `Denoted.catalogue`: the catalogue of the functions outside.

## Main results

* `Catalogue.resolve?_eq_some_iff`: what the search finds.
* `Catalogue.resolves_denoted`: where it finds what the name stands for.
-/

namespace TemplateEngine

/-- What there is to be found, and under which names: built-in objects, attributes of objects, and
what the libraries have. Nothing is an object as well, but it cannot be called. No name is empty. -/
structure Catalogue (Object : Type) where
  nothing : Object
  builtin? : String → Option Object
  attribute? : Object → String → Option Object
  /-- What the libraries have under a name. -/
  library? : String → Option Object
  isCallable : Object → Bool
  isCallable_nothing : isCallable nothing = false
  builtin?_empty : builtin? "" = none
  attribute?_empty : ∀ object, attribute? object "" = none

/-- The parts of a name between its points. -/
def dottedParts (name : String) : List String := Text.splitAt "." name

/-- Whether a name may be one of a library. -/
def mayBeInLibrary (name : String) : Bool := name.toList.contains '.' || name.toList.contains ':'

namespace Catalogue

variable {Object : Type} (c : Catalogue Object)

/-! ### Paths -/

/-- What a list of attributes leads to, all of which are there. -/
inductive Leads : Object → List String → Object → Prop
  | nil (object : Object) : Leads object [] object
  | cons {object next found : Object} {name : String} {rest : List String}
    (hnext : c.attribute? object name = some next) (hrest : Leads next rest found) :
    Leads object (name :: rest) found

/-- What a path leads to: its first part is built in, every other one is an attribute of what the
parts before it lead to, and none of them is empty. -/
def IsPath (parts : List String) (found : Object) : Prop :=
  "" ∉ parts ∧ ∃ head rest start, parts = head :: rest ∧ c.builtin? head = some start ∧
    c.Leads start rest found

/-- What a name stands for, if it can be called: what it leads to as a path, or else, unless it
leads to something as a path, what a library has under this name. -/
def Documents (name : String) (found : Object) : Prop :=
  c.isCallable found = true ∧ (c.IsPath (dottedParts name) found ∨
    (∀ other, c.IsPath (dottedParts name) other → other = c.nothing) ∧
      mayBeInLibrary name = true ∧ c.library? name = some found)

/-! ### The search -/

/-- Follows attributes; where one is missing there is nothing. -/
def follow (object : Object) : List String → Object
  | [] => object
  | name :: rest => follow ((c.attribute? object name).getD c.nothing) rest

/-- What the search finds before it turns to the libraries: what the name leads to as a path that
begins at something; a built-in object whose name has a point behind it; or, with an attribute
missing, what nothing leads to by those behind the last missing one. -/
inductive Reads : List String → Object → Prop
  | path {head : String} {rest : List String} {start found : Object}
    (hstart : c.builtin? head = some start) (hne : start ≠ c.nothing)
    (hleads : c.Leads start rest found) : Reads (head :: rest) found
  | stub {head : String} {start : Object} (hstart : c.builtin? head = some start)
    (hne : start ≠ c.nothing) : Reads [head, ""] start
  | stray {head missing : String} {before after : List String} {start found : Object}
    (hstart : c.builtin? head = some start) (hne : start ≠ c.nothing)
    (hmissing : c.attribute? (c.follow start before) missing = none)
    (hleads : c.Leads c.nothing after found) : Reads (head :: (before ++ missing :: after)) found

/-- Nothing is in the way of a path: no point stands behind a built-in name, and nothing leads only
to nothing, by the attributes behind a missing one and by those behind a built-in nothing. -/
structure IsStraight (parts : List String) : Prop where
  no_stub : ∀ {head start}, parts = [head, ""] → c.builtin? head = some start → start = c.nothing
  no_stray : ∀ {head missing before after start found},
    parts = head :: (before ++ missing :: after) → c.builtin? head = some start →
    c.attribute? (c.follow start before) missing = none → c.Leads c.nothing after found →
    found = c.nothing
  no_void : ∀ {head rest found}, parts = head :: rest → c.builtin? head = some c.nothing →
    c.Leads c.nothing rest found → found = c.nothing

section Search

variable [DecidableEq Object]

/-- What the search finds before it turns to the libraries. -/
def reading : List String → Object
  | [] => c.nothing
  | head :: rest =>
    let start := (c.builtin? head).getD c.nothing
    if start = c.nothing ∨ rest = [""] then start else c.follow start rest

/-- What the search finds, if it can be called. -/
def resolve? (name : String) : Option Object :=
  let first := c.reading (dottedParts name)
  let found := if first = c.nothing ∧ mayBeInLibrary name = true then
    (c.library? name).getD c.nothing else first
  if c.isCallable found = true then some found else none

end Search

section Lemmas

variable {c} {object start found : Object} {parts before after : List String} {name : String}

/-! ### What is followed -/

theorem follow_append (object : Object) (before after : List String) :
    c.follow object (before ++ after) = c.follow (c.follow object before) after := by
  induction before generalizing object with
  | nil => rfl
  | cons name rest ih => exact ih _

theorem Leads.follow_eq (h : c.Leads object parts found) : c.follow object parts = found := by
  induction h with
  | nil => rfl
  | cons hnext _ ih => rw [follow, hnext, Option.getD_some, ih]

/-- Attributes lead where they are followed to, or one is missing and those behind the last missing
one lead there from nothing. -/
theorem leads_or_strays (object : Object) (parts : List String) :
    c.Leads object parts (c.follow object parts) ∨
      ∃ before missing after, parts = before ++ missing :: after ∧
        c.attribute? (c.follow object before) missing = none ∧
        c.Leads c.nothing after (c.follow object parts) := by
  induction parts generalizing object with
  | nil => exact .inl (.nil object)
  | cons name rest ih =>
    cases hnext : c.attribute? object name with
    | some next =>
      rw [follow, hnext, Option.getD_some]
      rcases ih next with hleads | ⟨before, missing, after, hrest, hmissing, hleads⟩
      · exact .inl (.cons hnext hleads)
      · refine .inr ⟨name :: before, missing, after, by rw [hrest]; rfl, ?_, hleads⟩
        rwa [follow, hnext, Option.getD_some]
    | none =>
      rw [follow, hnext, Option.getD_none]
      refine .inr ?_
      rcases ih c.nothing with hleads | ⟨before, missing, after, hrest, hmissing, hleads⟩
      · exact ⟨[], name, rest, rfl, hnext, hleads⟩
      · refine ⟨name :: before, missing, after, by rw [hrest]; rfl, ?_, hleads⟩
        rwa [follow, hnext, Option.getD_none]

/-- Behind a missing attribute the search goes on at nothing. -/
theorem follow_of_missing {missing : String}
    (hmissing : c.attribute? (c.follow object before) missing = none)
    (hleads : c.Leads c.nothing after found) :
    c.follow object (before ++ missing :: after) = found := by
  rw [follow_append, follow, hmissing, Option.getD_none, hleads.follow_eq]

/-- No attribute on a path has an empty name. -/
theorem Leads.empty_not_mem (h : c.Leads object parts found) : "" ∉ parts := by
  induction h with
  | nil => exact List.not_mem_nil
  | cons hnext _ ih =>
    rintro (_ | ⟨_, hmem⟩)
    · rw [c.attribute?_empty] at hnext
      cases hnext
    · exact ih hmem

theorem isPath_cons_iff {head : String} {rest : List String} :
    c.IsPath (head :: rest) found ↔
      ∃ start, c.builtin? head = some start ∧ c.Leads start rest found := by
  constructor
  · rintro ⟨-, _, _, start, ⟨rfl, rfl⟩, hstart, hleads⟩
    exact ⟨start, hstart, hleads⟩
  · rintro ⟨start, hstart, hleads⟩
    refine ⟨?_, head, rest, start, rfl, hstart, hleads⟩
    rintro (_ | ⟨_, hmem⟩)
    · rw [c.builtin?_empty] at hstart
      cases hstart
    · exact hleads.empty_not_mem hmem

/-- On a straight way the search finds what the path leads to. -/
theorem IsStraight.reads_iff (h : c.IsStraight parts) (hfound : found ≠ c.nothing) :
    c.Reads parts found ↔ c.IsPath parts found := by
  constructor
  · intro hreads
    cases hreads with
    | path hstart _ hleads => exact isPath_cons_iff.mpr ⟨_, hstart, hleads⟩
    | stub hstart => exact absurd (h.no_stub rfl hstart) hfound
    | stray hstart _ hmissing hleads => exact absurd (h.no_stray rfl hstart hmissing hleads) hfound
  · rintro ⟨-, head, rest, start, rfl, hstart, hleads⟩
    refine .path hstart ?_ hleads
    rintro rfl
    exact hfound (h.no_void rfl hstart hleads)

/-! ### What is found -/

theorem ne_nothing_of_isCallable (h : c.isCallable found = true) : found ≠ c.nothing := by
  rintro rfl
  rw [c.isCallable_nothing] at h
  cases h

variable [DecidableEq Object]

theorem reading_eq_iff (hfound : found ≠ c.nothing) :
    c.reading parts = found ↔ c.Reads parts found := by
  constructor
  · rintro rfl
    cases parts with
    | nil => exact absurd rfl hfound
    | cons head rest =>
      rw [reading] at hfound ⊢
      cases hstart : c.builtin? head with
      | none => simp [hstart] at hfound
      | some start =>
        simp only [hstart, Option.getD_some] at hfound ⊢
        split at hfound
        · next hstop =>
          rw [if_pos hstop]
          obtain rfl := hstop.resolve_left hfound
          exact .stub hstart hfound
        · next hgo =>
          rw [if_neg hgo]
          have hne : start ≠ c.nothing := fun h => hgo (.inl h)
          rcases leads_or_strays start rest with hleads | ⟨before, missing, after, hrest, hstray⟩
          · exact .path hstart hne hleads
          · rw [hrest] at hstray ⊢
            exact .stray hstart hne hstray.1 hstray.2
  · intro hreads
    cases hreads with
    | @path head rest start _ hstart hne hleads =>
      have hrest : rest ≠ [""] := fun h => hleads.empty_not_mem (h ▸ List.mem_singleton_self _)
      rw [reading, hstart, Option.getD_some, if_neg (by simp [hne, hrest])]
      exact hleads.follow_eq
    | stub hstart => rw [reading, hstart, Option.getD_some, if_pos (.inr rfl)]
    | @stray head missing before after start _ hstart hne hmissing hleads =>
      rw [reading, hstart, Option.getD_some, if_neg]
      · exact follow_of_missing hmissing hleads
      · rintro (h | h)
        · exact hne h
        -- with nothing behind it a missing attribute leads to nothing
        · obtain ⟨rfl, -, rfl⟩ : before = [] ∧ missing = "" ∧ after = [] := by
            simpa [List.append_eq_cons_iff] using h
          cases hleads
          exact hfound rfl

/-- Nothing is read iff all that could be read is nothing. -/
theorem reading_eq_nothing_iff :
    c.reading parts = c.nothing ↔ ∀ other, c.Reads parts other → other = c.nothing := by
  constructor
  · intro h other hreads
    by_contra hother
    exact hother (((reading_eq_iff hother).mpr hreads).symm.trans h)
  · intro h
    by_contra hreading
    exact hreading (h _ ((reading_eq_iff hreading).mp rfl))

/-- What the search finds is what it reads, or else, if it reads nothing, what a library has. -/
theorem resolve?_eq_some_iff : c.resolve? name = some found ↔
    c.isCallable found = true ∧ (c.Reads (dottedParts name) found ∨
      (∀ other, c.Reads (dottedParts name) other → other = c.nothing) ∧
        mayBeInLibrary name = true ∧ c.library? name = some found) := by
  have hsome (other : Object) :
      (if c.isCallable other = true then some other else none) = some found ↔
        c.isCallable found = true ∧ other = found := by
    by_cases hother : other = found
    · simp [hother]
    · split <;> simp [hother]
  rw [resolve?, hsome]
  refine and_congr_right fun hcallable => ?_
  have hfound := ne_nothing_of_isCallable hcallable
  rw [← reading_eq_iff hfound, ← reading_eq_nothing_iff]
  by_cases hfirst : c.reading (dottedParts name) = c.nothing
  · rw [hfirst]
    by_cases hlibrary : mayBeInLibrary name = true
    · cases c.library? name <;> simp [hlibrary, hfound.symm]
    · simp [hlibrary, hfound.symm]
  · simp [hfirst]

end Lemmas

end Catalogue

namespace Denoted

/-- No function and no attribute has an empty name. -/
theorem attribute?_empty (d : Denoted) : d.attribute? "" = none := by
  cases d with
  | builtin function => cases function <;> rfl
  | library library => cases library <;> rfl
  | nothing | onText _ | capitalWords | escapeMarkup | baseName | kind _ | constant => rfl

/-- The catalogue of the functions outside. -/
def catalogue : Catalogue Denoted where
  nothing := .nothing
  builtin? := (Denoted.library .builtins).attribute?
  attribute? := attribute?
  library? := libraryReading
  isCallable := isCallable
  isCallable_nothing := rfl
  builtin?_empty := rfl
  attribute?_empty := attribute?_empty

theorem follow_eq (d : Denoted) (names : List String) :
    d.follow names = catalogue.follow d names := by
  induction names generalizing d with
  | nil => rfl
  | cons name rest ih => exact ih _

/-- Cutting a text at a character gives the first one of its parts, and a text with the others. -/
theorem splitFrom_eq_cutAt (c : Char) (text : List Char) :
    Text.splitFrom [c] 0 text = match cutAt c text with
      | (before, none) => [before]
      | (before, some after) => before :: Text.splitFrom [c] 0 after := by
  induction text with
  | nil => rfl
  | cons d text ih =>
    by_cases hd : c = d
    · simp [Text.splitFrom, cutAt, hd]
    · rw [cutAt, if_neg (Ne.symm hd), Text.splitFrom, if_neg (by simpa using hd), ih]
      rcases cutAt c text with ⟨before, _ | after⟩ <;> rfl

theorem dottedParts_eq_cutAt (name : String) :
    dottedParts name = match cutAt '.' name.toList with
      | (before, none) => [String.ofList before]
      | (before, some after) => String.ofList before :: dottedParts (String.ofList after) := by
  have hpoint : ".".toList = ['.'] := rfl
  simp only [dottedParts, Text.splitAt, Text.splitChars, hpoint, String.toList_ofList]
  rw [if_neg (List.cons_ne_nil _ _), splitFrom_eq_cutAt]
  rcases cutAt '.' name.toList with ⟨before, _ | after⟩ <;> rfl

/-- The one part of a name is empty iff the name is. -/
theorem dottedParts_eq_empty_iff (name : String) : dottedParts name = [""] ↔ name = "" := by
  constructor
  · intro h
    have hjoined := Text.joinChars_splitAt "." name
    rw [← dottedParts, h] at hjoined
    exact String.toList_injective hjoined.symm
  · rintro rfl
    rfl

theorem builtinReading_eq (name : String) :
    builtinReading name = catalogue.reading (dottedParts name) := by
  rw [dottedParts_eq_cutAt, builtinReading]
  rcases cutAt '.' name.toList with ⟨before, _ | after⟩
  · simp [Catalogue.reading, Catalogue.follow, catalogue]
  · have hempty : String.ofList after = "" ↔ after = [] := by
      rw [← String.toList_inj, String.toList_ofList]
      rfl
    simp only [Catalogue.reading, follow_eq, dottedParts_eq_empty_iff, hempty]
    rfl

/-- The search for functions outside is that in their catalogue. -/
theorem resolve?_eq (name : String) : resolve? name = catalogue.resolve? name := by
  have hlibrary : mayBeInLibrary name = true ↔
      (name.toList.contains '.' = true ∨ name.toList.contains ':' = true) := by
    rw [mayBeInLibrary, Bool.or_eq_true]
  rw [resolve?, denote, builtinReading_eq]
  simp only [Catalogue.resolve?, hlibrary]
  rfl

end Denoted

namespace Catalogue

/-- The search for functions outside is that in their catalogue. In every catalogue the search
finds, if it can be called, what it reads in a name, or else, if it reads nothing, what a library
has under the name. If nothing is in the way of its path, this is what the name stands for. -/
theorem resolves_denoted {Object : Type} [DecidableEq Object] (c : Catalogue Object)
    (name : String) :
    Denoted.resolve? name = Denoted.catalogue.resolve? name ∧
      (∀ found, c.resolve? name = some found ↔
        c.isCallable found = true ∧ (c.Reads (dottedParts name) found ∨
          (∀ other, c.Reads (dottedParts name) other → other = c.nothing) ∧
            mayBeInLibrary name = true ∧ c.library? name = some found)) ∧
      (c.IsStraight (dottedParts name) →
        ∀ found, c.resolve? name = some found ↔ c.Documents name found) := by
  refine ⟨Denoted.resolve?_eq name, fun _ => resolve?_eq_some_iff, fun hstraight found => ?_⟩
  have hall : (∀ other, c.Reads (dottedParts name) other → other = c.nothing) ↔
      ∀ other, c.IsPath (dottedParts name) other → other = c.nothing := by
    refine forall_congr' fun other => ?_
    by_cases hother : other = c.nothing
    · simp [hother]
    · rw [hstraight.reads_iff hother]
  rw [resolve?_eq_some_iff, Documents, hall]
  refine and_congr_right fun hcallable => ?_
  rw [hstraight.reads_iff (ne_nothing_of_isCallable hcallable)]

/-- Nothing is in the way of the path to a function on texts, and of the name of a function of a
library, which the search finds; this is what their names stand for. -/
theorem resolves_denoted_upper :
    Denoted.catalogue.IsStraight (dottedParts "str.upper") ∧
      Denoted.catalogue.Documents "str.upper" (.onText .upper) ∧
      Denoted.catalogue.IsStraight (dottedParts "html:escape") ∧
      Denoted.catalogue.Documents "html:escape" .escapeMarkup := by
  have hpath : Denoted.catalogue.IsStraight (dottedParts "str.upper") := by
    have hparts : dottedParts "str.upper" = ["str", "upper"] := rfl
    rw [hparts]
    refine ⟨by simp, fun {head missing before after start found} h hstart hmissing _ => ?_,
      fun {head rest found} h hstart _ => ?_⟩
    · obtain ⟨rfl, h⟩ : "str" = head ∧ ["upper"] = before ++ missing :: after := by simpa using h
      obtain ⟨rfl, rfl, rfl⟩ : before = [] ∧ missing = "upper" ∧ after = [] := by
        simpa [List.append_eq_cons_iff] using h.symm
      obtain rfl : Denoted.builtin .str = start := Option.some.inj hstart
      cases hmissing
    · obtain ⟨rfl, -⟩ : "str" = head ∧ ["upper"] = rest := by simpa using h
      cases hstart
  have hlibrary : Denoted.catalogue.IsStraight (dottedParts "html:escape") := by
    have hparts : dottedParts "html:escape" = ["html:escape"] := rfl
    rw [hparts]
    refine ⟨by simp, by simp, fun {head rest found} h hstart _ => ?_⟩
    obtain ⟨rfl, -⟩ : "html:escape" = head ∧ [] = rest := by simpa using h
    cases hstart
  exact ⟨hpath, ((resolves_denoted _ _).2.2 hpath _).mp rfl, hlibrary,
    ((resolves_denoted _ _).2.2 hlibrary _).mp rfl⟩

/-- Behind a missing attribute the search goes on at nothing, and it does not see a point at the end
of a built-in name: it finds something under names that stand for nothing. It does not follow the
path that begins at nothing itself, and finds nothing under a name that stands for something. -/
theorem resolves_nope :
    (Denoted.resolve? "str.nope.__class__" = some (.kind true) ∧
      ∀ found, ¬Denoted.catalogue.Documents "str.nope.__class__" found) ∧
    (Denoted.resolve? "str." = some (.builtin .str) ∧
      ∀ found, ¬Denoted.catalogue.Documents "str." found) ∧
    Denoted.resolve? "None.__class__" = none ∧
      Denoted.catalogue.Documents "None.__class__" (.kind true) := by
  refine ⟨⟨rfl, ?_⟩, ⟨rfl, ?_⟩, rfl, rfl, .inl ⟨by decide, "None", ["__class__"], _, rfl, rfl,
    .cons rfl (.nil _)⟩⟩
  · rintro found ⟨-, ⟨-, head, rest, start, hparts, hstart, hleads⟩ | ⟨-, -, hlibrary⟩⟩
    · obtain ⟨rfl, rfl⟩ : "str" = head ∧ ["nope", "__class__"] = rest := by
        simpa using (show ["str", "nope", "__class__"] = head :: rest from hparts)
      obtain rfl : Denoted.builtin .str = start := Option.some.inj hstart
      cases hleads with
      | cons hnext => cases hnext
    · cases hlibrary
  · rintro found ⟨-, ⟨hempty, -⟩ | ⟨-, -, hlibrary⟩⟩
    · exact hempty (by decide)
    · cases hlibrary

end Catalogue

end TemplateEngine
