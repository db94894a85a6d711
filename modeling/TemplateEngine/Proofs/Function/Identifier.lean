import TemplateEngine.Engine.Setup
import TemplateEngine.Proofs.Function.Registration

/-!
# The names of registered functions

A function is registered under an identifier: letters, digits and underscores, and no digit in
front. The check of a name looks for its end in front of a line feed that is the last character, so
an identifier with a line feed behind it passes as well. A name that is refused leaves everything as
it was.

## Main definitions

* `IsWordChar`, `IsIdentifier`: the characters of identifiers, and identifiers.
* `IsLooseIdentifier`: an identifier, behind which a line feed may stand.

## Main results

* `isFunctionName_iff`: the check of a name.
* `Stage.registers_iff`: when a function is registered, and under which names functions are.
-/

namespace TemplateEngine

/-- The characters of identifiers: ASCII letters, digits and the underscore. -/
def IsWordChar (c : Char) : Prop :=
  ('a' ≤ c ∧ c ≤ 'z') ∨ ('A' ≤ c ∧ c ≤ 'Z') ∨ ('0' ≤ c ∧ c ≤ '9') ∨ c = '_'

/-- Identifiers. -/
structure IsIdentifier (name : String) : Prop where
  ne_empty : name ≠ ""
  wordChars : ∀ c ∈ name.toList, IsWordChar c
  no_digit_first : ∀ c, name.toList.head? = some c → ¬('0' ≤ c ∧ c ≤ '9')

/-- An identifier, behind which a line feed may stand. -/
def IsLooseIdentifier (name : String) : Prop :=
  IsIdentifier name ∨ ∃ stem, IsIdentifier stem ∧ name = stem ++ "\n"

/-! ### The check of a name -/

theorem isBetween_iff (low high c : Char) :
    (decide (low.val ≤ c.val) && decide (c.val ≤ high.val)) = true ↔ low ≤ c ∧ c ≤ high := by
  rw [Bool.and_eq_true, decide_eq_true_iff, decide_eq_true_iff]
  rfl

theorem isDigit_iff (c : Char) : c.isDigit = true ↔ '0' ≤ c ∧ c ≤ '9' := isBetween_iff '0' '9' c

theorem isLower_iff (c : Char) : c.isLower = true ↔ 'a' ≤ c ∧ c ≤ 'z' := isBetween_iff 'a' 'z' c

theorem isUpper_iff (c : Char) : c.isUpper = true ↔ 'A' ≤ c ∧ c ≤ 'Z' := decide_eq_true_iff

theorem isFunctionChar_iff (c : Char) : isFunctionChar c = true ↔ IsWordChar c := by
  have halphanum : c.isAlphanum = (c.isUpper || c.isLower || c.isDigit) := rfl
  simp only [isFunctionChar, IsWordChar, halphanum, Bool.or_eq_true, isUpper_iff, isLower_iff,
    isDigit_iff, beq_iff_eq]
  tauto

theorem isIdentifier_iff (name : String) : isIdentifier name.toList = true ↔ IsIdentifier name := by
  cases hname : name.toList with
  | nil =>
    have hempty : name = "" := String.toList_eq_nil_iff.mp hname
    exact iff_of_false nofun fun h => h.ne_empty hempty
  | cons c rest =>
    have hne : name ≠ "" := fun h => by simp [h] at hname
    simp only [isIdentifier, Bool.and_eq_true, Bool.not_eq_true', List.all_eq_true]
    constructor
    · rintro ⟨⟨hc, hdigit⟩, hrest⟩
      refine ⟨hne, ?_, ?_⟩
      · rw [hname]
        intro d hd
        rcases List.mem_cons.mp hd with rfl | hd
        · exact (isFunctionChar_iff d).mp hc
        · exact (isFunctionChar_iff d).mp (hrest d hd)
      · rw [hname]
        rintro d ⟨rfl⟩ hd
        rw [(isDigit_iff c).mpr hd] at hdigit
        cases hdigit
    · intro h
      have hchars := h.wordChars
      rw [hname] at hchars
      refine ⟨⟨(isFunctionChar_iff c).mpr (hchars c List.mem_cons_self), ?_⟩, fun d hd =>
        (isFunctionChar_iff d).mpr (hchars d (List.mem_cons_of_mem _ hd))⟩
      rw [← Bool.not_eq_true, isDigit_iff]
      exact h.no_digit_first c (by rw [hname]; rfl)

/-- A line feed is no character of identifiers. -/
theorem IsIdentifier.getLast?_ne {name : String} (h : IsIdentifier name) :
    name.toList.getLast? ≠ some '\n' := fun hlast =>
  absurd (h.wordChars _ (List.mem_of_getLast? hlast)) (by unfold IsWordChar; decide)

/-- The names that pass the check are identifiers, behind which a line feed may stand. -/
theorem isFunctionName_iff (name : String) :
    isFunctionName name = true ↔ IsLooseIdentifier name := by
  rw [isFunctionName, dropLineFeed]
  by_cases hlast : name.toList.getLast? = some '\n'
  · rw [if_pos hlast]
    obtain ⟨stem, hstem⟩ := List.getLast?_eq_some_iff.mp hlast
    have hname : name = String.ofList stem ++ "\n" := String.toList_injective (by simp [hstem])
    have hdropped : name.toList.dropLast = (String.ofList stem).toList := by simp [hstem]
    rw [hdropped, isIdentifier_iff]
    constructor
    · exact fun h => .inr ⟨_, h, hname⟩
    · rintro (h | ⟨other, h, hother⟩)
      · exact absurd hlast h.getLast?_ne
      · rw [hname, String.append_left_inj] at hother
        exact hother ▸ h
  · rw [if_neg hlast, isIdentifier_iff]
    constructor
    · exact .inl
    · rintro (h | ⟨stem, -, rfl⟩)
      · exact h
      · exact absurd (by simp) hlast

/-! ### Registering functions -/

namespace FunctionTable

variable {table : FunctionTable} {name : String}

theorem mem_names_iff : name ∈ table.names ↔ table.holds name = true := by
  rw [names, List.mem_mergeSort, ← not_iff_not, ← Dictionary.value?_eq_none_iff, Dictionary.holds]
  simp

/-- A name is listed if it was registered, and else if it was listed before. -/
theorem mem_names_put_iff {f : TemplateFunction} {other : String} :
    other ∈ names (table.put name f) ↔ other = name ∨ other ∈ table.names := by
  rw [mem_names_iff, mem_names_iff, Dictionary.holds, Dictionary.value?_put]
  by_cases h : name = other
  · simp [h]
  · simp [h, Dictionary.holds, Ne.symm h]

theorem add_ok_iff {callback : Option Callback} {passTemplate : Bool} {table' : FunctionTable} :
    table.add name callback passTemplate = .ok table' ↔
      IsLooseIdentifier name ∧ name ∉ table.names ∧
        ∃ given, callback = some given ∧ table' = table.put name ⟨given, passTemplate⟩ := by
  rw [← isFunctionName_iff, mem_names_iff]
  constructor
  · intro h
    obtain ⟨hfree, hname, hgiven⟩ := eq_put_of_add h
    exact ⟨hname, by simp [hfree], hgiven⟩
  · rintro ⟨hname, hfree, given, rfl, rfl⟩
    simp [add, hname, hfree]

/-- Whatever stands against a registration, it is a fault of registering functions. -/
theorem kind_of_add {callback : Option Callback} {passTemplate : Bool} {fault : Fault}
    (h : table.add name callback passTemplate = .error fault) :
    fault.kind = .functionRegistration := by
  unfold add at h
  split at h
  · cases h
    rfl
  · split at h
    · cases h
      rfl
    · cases callback with
      | none =>
        cases h
        rfl
      | some given => cases h

/-- The names of registered functions are identifiers, behind which a line feed may stand. -/
theorem Reachable.isLooseIdentifier (h : table.Reachable) (hname : name ∈ table.names) :
    IsLooseIdentifier name := by
  obtain ⟨f, hf⟩ := Option.isSome_iff_exists.mp (mem_names_iff.mp hname)
  exact (isFunctionName_iff name).mp (h.isFunctionName hf)

end FunctionTable

namespace Stage

/-- With functions that were registered and removed before in any way, a function is registered iff
its name is an identifier, behind which a line feed may stand, no function has this name yet, and
there is something to call. Then this name comes to those that are listed. Otherwise registering it
is a fault, and everything is as it was. All names that are listed are such identifiers. -/
theorem registers_iff {s : Stage} (hs : s.engine.functions.Reachable) (name : String)
    (callback : Option Callback) (passTemplate : Bool) :
    ((s.registerFunction name callback passTemplate).1 = .ok () ↔
      IsLooseIdentifier name ∧ name ∉ s.engine.functions.names ∧ callback.isSome) ∧
    ((s.registerFunction name callback passTemplate).1 = .ok () →
      (s.registerFunction name callback passTemplate).2.engine.functions.Reachable ∧
      ∀ other, other ∈ (s.registerFunction name callback passTemplate).2.engine.functions.names ↔
        other = name ∨ other ∈ s.engine.functions.names) ∧
    (∀ fault, (s.registerFunction name callback passTemplate).1 = .error fault →
      fault.kind = .functionRegistration ∧
        (s.registerFunction name callback passTemplate).2 = s) ∧
    ∀ other ∈ s.engine.functions.names, IsLooseIdentifier other := by
  have hlisted : ∀ other ∈ s.engine.functions.names, IsLooseIdentifier other :=
    fun _ => hs.isLooseIdentifier
  rcases hadd : s.engine.functions.add name callback passTemplate with fault | functions
  · have hrefused : s.registerFunction name callback passTemplate = (.error fault, s) := by
      simp [registerFunction, hadd]
    rw [hrefused]
    refine ⟨iff_of_false nofun fun ⟨hname, hfree, hgiven⟩ => ?_, nofun, ?_, hlisted⟩
    · obtain ⟨given, rfl⟩ := Option.isSome_iff_exists.mp hgiven
      rw [FunctionTable.add_ok_iff.mpr ⟨hname, hfree, given, rfl, rfl⟩] at hadd
      cases hadd
    · rintro _ ⟨rfl⟩
      exact ⟨FunctionTable.kind_of_add hadd, rfl⟩
  · have hregistered : s.registerFunction name callback passTemplate = (.ok (),
        { s with engine := { s.engine with functions := functions } }.emit
          (.functionRegistered name)) := by
      simp [registerFunction, hadd]
    rw [hregistered]
    have hreachable := hs.add hadd
    obtain ⟨hname, hfree, given, rfl, rfl⟩ := FunctionTable.add_ok_iff.mp hadd
    exact ⟨iff_of_true rfl ⟨hname, hfree, rfl⟩,
      fun _ => ⟨hreachable, fun _ => FunctionTable.mem_names_put_iff⟩, nofun, hlisted⟩

/-- A stage with a function, which hands back the values that it is given. -/
def withEcho (name : String) : Stage where
  engine := { functions := [(name, { callback := fun arguments _ => .done (.list arguments) })] }

/-- Beside a function another one is registered under a name of its own, but none under the name
that is taken, under one that begins with a digit, or without anything to call. -/
theorem registers_iff_echo :
    (withEcho "echo").engine.functions.Reachable ∧
      ((withEcho "echo").registerFunction "_echo2" (some fun _ _ => .done .null) false).1 =
        .ok () ∧
      ((withEcho "echo").registerFunction "echo" (some fun _ _ => .done .null) false).1 ≠ .ok () ∧
      ((withEcho "echo").registerFunction "2echo" (some fun _ _ => .done .null) false).1 ≠ .ok () ∧
      ((withEcho "echo").registerFunction "_echo2" none false).1 ≠ .ok () ∧
      IsLooseIdentifier "echo" := by
  have hadd : FunctionTable.add [] "echo" (some fun arguments _ => .done (.list arguments)) false =
      .ok (withEcho "echo").engine.functions := rfl
  have hreachable : (withEcho "echo").engine.functions.Reachable := .add .empty hadd
  have hnames : (withEcho "echo").engine.functions.names = ["echo"] := by
    simp [FunctionTable.names, withEcho, Dictionary.keys]
  have hregisters (name : String) (callback : Option Callback) :=
    (registers_iff hreachable name callback false).1
  rw [hnames] at hregisters
  refine ⟨hreachable, (hregisters _ _).mpr ⟨?_, by decide, rfl⟩, fun h => ?_, fun h => ?_,
    fun h => ?_, (registers_iff hreachable "" none false).2.2.2 "echo" ?_⟩
  · exact (isFunctionName_iff _).mp (by decide)
  · exact ((hregisters _ _).mp h).2.1 (by simp)
  · exact absurd ((isFunctionName_iff _).mpr ((hregisters _ _).mp h).1) (by decide)
  · exact absurd ((hregisters _ _).mp h).2.2 (by decide)
  · rw [hnames]
    exact List.mem_singleton_self _

/-- A stage on which a function was registered under a name with a line feed behind it. -/
def withLineFeed : Except Fault Unit × Stage :=
  ({} : Stage).registerFunction "echo\n" (some fun _ _ => .done .null) false

/-- A name with a line feed behind it is no identifier, but a function is registered under it, and
it is listed. -/
theorem registers_lineFeed :
    FunctionTable.Reachable [] ∧ ¬IsIdentifier "echo\n" ∧ withLineFeed.1 = .ok () ∧
      withLineFeed.2.engine.functions.names = ["echo\n"] := by
  have hadd : FunctionTable.add [] "echo\n" (some fun _ _ => .done .null) false =
      .ok [("echo\n", { callback := fun _ _ => .done .null })] := rfl
  refine ⟨.empty, fun h => h.getLast?_ne (by decide), rfl, ?_⟩
  simp [withLineFeed, registerFunction, hadd, emit, FunctionTable.names, Dictionary.keys]

end Stage

end TemplateEngine
