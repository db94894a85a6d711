import Mathlib.Data.List.Infix
import TemplateEngine.Proofs.Engine.Resolution

/-!
# Where the files of names lie

The file of a name is looked for in the directory of its folder and in the default directory. With
its parent steps carried out on the text, the path that is found need not lie in the directory that
it was found in: the file part of a name may begin at the root, and its parent steps may lead out
of the directory. Whether they do is told by the way that the file part takes: how many steps it
rises, and which steps it goes down from there.

## Main definitions

* `Path.LiesIn`: a path lies in a directory once its parent steps are carried out.
* `Way`, `Way.follow`: steps up and then down, and one way behind the other.
* `Path.way`: the way of the steps of a path.
* `Path.StaysIn`: the way of a file part stays in a directory.

## Main results

* `Path.normalSteps_eq_way`: the steps of a path without its parent steps, by its way.
* `Path.liesIn_join_iff`: a file part leads to a place in the directory iff its way stays there.
* `Stage.liesIn_of_resolvePath`: which of the paths that names resolve to lie in their directories.
-/

namespace TemplateEngine

/-- Whether a path lies in a directory, both with their parent steps carried out on the text: its
steps go on from those of the directory and do not rise again. -/
def Path.LiesIn (p directory : Path) : Prop :=
  p.anchor = directory.anchor ∧
    ∃ rest, ".." ∉ rest ∧ p.normalSteps = directory.normalSteps ++ rest

/-- Steps up, and then steps down. -/
structure Way where
  rise : Nat := 0
  descent : List String := []
  deriving DecidableEq, Repr

namespace Way

/-- A way with one more step, which takes back the last step down if it goes up. -/
def step (w : Way) (s : String) : Way :=
  if s = ".." then
    if w.descent = [] then { w with rise := w.rise + 1 }
    else { w with descent := w.descent.dropLast }
  else { w with descent := w.descent ++ [s] }

/-- The way of a list of steps. -/
def ofSteps (steps : List String) : Way := steps.foldl step {}

/-- The part of a way that is left behind a rise. -/
def kept (w : Way) (rise : Nat) : List String := w.descent.take (w.descent.length - rise)

/-- One way behind another one, of which it takes back steps down as far as it rises. -/
def follow (w w' : Way) : Way where
  rise := w.rise + (w'.rise - w.descent.length)
  descent := w.kept w'.rise ++ w'.descent

end Way

namespace Path

/-- The way of a path. -/
def way (p : Path) : Way := Way.ofSteps p.steps

/-- Whether a file part stays in a directory: one that begins at the root goes down into it, and
any other one rises no further than the directory goes down, and goes down again where it rose. -/
def StaysIn (file directory : Path) : Prop :=
  if file.isAbsolute then
    file.anchor = directory.anchor ∧ directory.way.descent <+: file.way.descent
  else
    (directory.isAbsolute ∨ file.way.rise ≤ directory.way.descent.length) ∧
      directory.way.descent.drop (directory.way.descent.length - file.way.rise) <+: file.way.descent

end Path

/-! ### Ways -/

namespace Way

theorem step_parent_nil (rise : Nat) : step ⟨rise, []⟩ ".." = ⟨rise + 1, []⟩ := rfl

theorem step_parent_concat (rise : Nat) (descent : List String) (s : String) :
    step ⟨rise, descent ++ [s]⟩ ".." = ⟨rise, descent⟩ := by
  simp [step]

theorem step_of_ne (w : Way) {s : String} (h : s ≠ "..") :
    w.step s = ⟨w.rise, w.descent ++ [s]⟩ := by
  rw [step, if_neg h]

theorem ofSteps_concat (steps : List String) (s : String) :
    ofSteps (steps ++ [s]) = (ofSteps steps).step s := by
  simp [ofSteps]

/-- No step down is a parent step. -/
theorem parent_not_mem_step {w : Way} (hw : ".." ∉ w.descent) (s : String) :
    ".." ∉ (w.step s).descent := by
  by_cases hs : s = ".."
  · subst hs
    obtain ⟨rise, descent⟩ := w
    rcases List.eq_nil_or_concat' descent with rfl | ⟨before, last, rfl⟩
    · exact List.not_mem_nil
    · rw [step_parent_concat]
      exact fun hmem => hw (List.mem_append_left _ hmem)
  · rw [step_of_ne _ hs]
    exact List.not_mem_append hw fun hmem => hs (List.mem_singleton.mp hmem).symm

theorem parent_not_mem_ofSteps (steps : List String) : ".." ∉ (ofSteps steps).descent := by
  induction steps using List.reverseRecOn with
  | nil => exact List.not_mem_nil
  | append_singleton steps s ih =>
    rw [ofSteps_concat]
    exact parent_not_mem_step ih s

/-- A parent step behind a way that only rises takes back one more step of the way before. -/
theorem follow_rise (w : Way) (rise : Nat) :
    w.follow ⟨rise + 1, []⟩ = (w.follow ⟨rise, []⟩).step ".." := by
  simp only [follow, kept, List.append_nil]
  by_cases h : w.descent.length ≤ rise
  · have hnone : w.descent.length - rise = 0 := by omega
    have hnext : w.descent.length - (rise + 1) = 0 := by omega
    rw [hnone, hnext, List.take_zero, step_parent_nil]
    congr 1
    omega
  · obtain ⟨k, hk⟩ : ∃ k, w.descent.length - rise = k + 1 := ⟨w.descent.length - rise - 1, by omega⟩
    have hnext : w.descent.length - (rise + 1) = k := by omega
    have hlt : k < w.descent.length := by omega
    rw [hk, hnext, List.take_succ_eq_append_getElem hlt, step_parent_concat]
    congr 1
    omega

/-- A further step goes into the way behind. -/
theorem follow_step (w w' : Way) (s : String) : w.follow (w'.step s) = (w.follow w').step s := by
  by_cases hs : s = ".."
  · subst hs
    obtain ⟨rise, descent⟩ := w'
    rcases List.eq_nil_or_concat' descent with rfl | ⟨before, last, rfl⟩
    · exact follow_rise w rise
    · rw [step_parent_concat, follow, follow, ← List.append_assoc, step_parent_concat]
  · rw [step_of_ne _ hs, step_of_ne _ hs, follow, follow, List.append_assoc]

/-- The descent of a way goes on in what a way behind it leaves iff that goes down again where it
rose. -/
theorem descent_prefix_follow_iff (w w' : Way) :
    w.descent <+: (w.follow w').descent ↔
      w.descent.drop (w.descent.length - w'.rise) <+: w'.descent := by
  have hsplit : w.descent = w.kept w'.rise ++ w.descent.drop (w.descent.length - w'.rise) :=
    (List.take_append_drop _ _).symm
  rw [follow]
  conv_lhs => rw [hsplit]
  exact List.prefix_append_right_inj (w.kept w'.rise)

theorem ofSteps_append (steps others : List String) :
    ofSteps (steps ++ others) = (ofSteps steps).follow (ofSteps others) := by
  induction others using List.reverseRecOn with
  | nil => simp [ofSteps, follow, kept]
  | append_singleton others s ih =>
    rw [← List.append_assoc, ofSteps_concat, ofSteps_concat, follow_step, ih]

end Way

/-! ### Steps without parent steps -/

namespace Path

/-- The steps so far, latest first, of a way: its rise is written out unless it was at the root. -/
def stackOf (absolute : Bool) (w : Way) : List String :=
  w.descent.reverse ++ if absolute then [] else List.replicate w.rise ".."

/-- Taking one step is the same for the steps so far and for the way. -/
theorem normalStepsFrom_cons (absolute : Bool) {w : Way} (hw : ".." ∉ w.descent) (s : String)
    (rest : List String) :
    normalStepsFrom absolute (stackOf absolute w) (s :: rest) =
      normalStepsFrom absolute (stackOf absolute (w.step s)) rest := by
  by_cases hs : s = ".."
  · subst hs
    obtain ⟨rise, descent⟩ := w
    rcases List.eq_nil_or_concat' descent with rfl | ⟨before, last, rfl⟩
    · cases absolute <;> cases rise <;>
        simp [stackOf, normalStepsFrom, Way.step, List.replicate_succ]
    · have hlast : last ≠ ".." := fun h => hw (by simp [h])
      rw [Way.step_parent_concat]
      simp [stackOf, normalStepsFrom, hlast]
  · rw [Way.step_of_ne _ hs]
    simp [stackOf, normalStepsFrom, hs]

theorem normalStepsFrom_stackOf (absolute : Bool) (steps : List String) {w : Way}
    (hw : ".." ∉ w.descent) :
    normalStepsFrom absolute (stackOf absolute w) steps =
      (stackOf absolute (steps.foldl Way.step w)).reverse := by
  induction steps generalizing w with
  | nil => rfl
  | cons s rest ih =>
    rw [normalStepsFrom_cons absolute hw, ih (Way.parent_not_mem_step hw s), List.foldl_cons]

/-- The steps of a path without its parent steps: its rise, unless it begins at the root, and then
its descent. -/
theorem normalSteps_eq_way (p : Path) :
    p.normalSteps =
      (if p.isAbsolute then [] else List.replicate p.way.rise "..") ++ p.way.descent := by
  have hfresh : ".." ∉ ({} : Way).descent := List.not_mem_nil
  have h := normalStepsFrom_stackOf p.isAbsolute p.steps hfresh
  have hempty : stackOf p.isAbsolute {} = [] := by cases p.isAbsolute <;> rfl
  rw [hempty] at h
  rw [normalSteps, h, stackOf]
  cases p.isAbsolute <;> simp [way, Way.ofSteps]

theorem way_join {directory file : Path} (h : file.isAbsolute = false) :
    (directory.join file).way = directory.way.follow file.way := by
  rw [join_relative _ _ h]
  exact Way.ofSteps_append directory.steps file.steps

theorem parent_not_mem_descent (p : Path) : ".." ∉ p.way.descent :=
  Way.parent_not_mem_ofSteps p.steps

/-- In a directory at the root lies what begins at the root as it does and goes on from its
descent. -/
theorem liesIn_iff_of_absolute {p directory : Path} (hp : p.isAbsolute = true)
    (hdirectory : directory.isAbsolute = true) :
    p.LiesIn directory ↔
      p.anchor = directory.anchor ∧ directory.way.descent <+: p.way.descent := by
  simp only [LiesIn, normalSteps_eq_way, hp, hdirectory, if_true, List.nil_append]
  refine and_congr_right fun _ => ⟨fun ⟨rest, _, hrest⟩ => ⟨rest, hrest.symm⟩, ?_⟩
  rintro ⟨rest, hrest⟩
  refine ⟨rest, fun hmem => p.parent_not_mem_descent ?_, hrest.symm⟩
  rw [← hrest]
  exact List.mem_append_right _ hmem

/-- In a directory that begins nowhere lies what rises as far and goes on from its descent. -/
theorem liesIn_iff_of_relative {p directory : Path} (hp : p.isAbsolute = false)
    (hdirectory : directory.isAbsolute = false) :
    p.LiesIn directory ↔
      p.way.rise = directory.way.rise ∧ directory.way.descent <+: p.way.descent := by
  have hanchor : p.anchor = directory.anchor := by
    simp only [isAbsolute, decide_eq_false_iff_not, not_not] at hp hdirectory
    rw [hp, hdirectory]
  simp only [LiesIn, normalSteps_eq_way, hp, hdirectory, hanchor, true_and, Bool.false_eq_true,
    if_false]
  constructor
  · rintro ⟨rest, hnone, hrest⟩
    -- the parent steps on both sides are those of the two rises
    have hcount := congrArg (List.count "..") hrest
    simp only [List.count_append, List.count_replicate_self,
      List.count_eq_zero_of_not_mem (parent_not_mem_descent _), List.count_eq_zero_of_not_mem hnone,
      Nat.add_zero] at hcount
    rw [hcount, List.append_assoc, List.append_cancel_left_eq] at hrest
    exact ⟨hcount, rest, hrest.symm⟩
  · rintro ⟨hrise, rest, hrest⟩
    refine ⟨rest, fun hmem => p.parent_not_mem_descent ?_, ?_⟩
    · rw [← hrest]
      exact List.mem_append_right _ hmem
    · rw [hrise, ← hrest, List.append_assoc]

/-- A file part leads to a place in a directory iff its way stays there. -/
theorem liesIn_join_iff {directory file : Path} :
    (directory.join file).LiesIn directory ↔ file.StaysIn directory := by
  by_cases hfile : file.isAbsolute = true
  · rw [join_absolute _ _ hfile, StaysIn, if_pos hfile]
    by_cases hdirectory : directory.isAbsolute = true
    · exact liesIn_iff_of_absolute hfile hdirectory
    · have hne : file.anchor ≠ directory.anchor := fun h => hdirectory (by
        rw [← hfile, isAbsolute, isAbsolute, h])
      exact iff_of_false (fun h => hne h.1) fun h => hne h.1
  · rw [StaysIn, if_neg hfile]
    have hrelative : file.isAbsolute = false := Bool.eq_false_iff.mpr hfile
    have hjoin : (directory.join file).anchor = directory.anchor := by
      rw [join_relative _ _ hrelative]
    have habsolute : (directory.join file).isAbsolute = directory.isAbsolute := by
      rw [isAbsolute, isAbsolute, hjoin]
    by_cases hdirectory : directory.isAbsolute = true
    · rw [liesIn_iff_of_absolute (habsolute.trans hdirectory) hdirectory, way_join hrelative,
        Way.descent_prefix_follow_iff]
      simp [hjoin, hdirectory]
    · have hdirectory' : directory.isAbsolute = false := Bool.eq_false_iff.mpr hdirectory
      have hrise : (directory.way.follow file.way).rise = directory.way.rise ↔
          file.way.rise ≤ directory.way.descent.length := by
        change directory.way.rise + (file.way.rise - directory.way.descent.length) = _ ↔ _
        omega
      rw [liesIn_iff_of_relative (habsolute.trans hdirectory') hdirectory', way_join hrelative,
        Way.descent_prefix_follow_iff, hrise]
      simp [hdirectory]

/-- A file part that does not rise stays in every directory. -/
theorem StaysIn.of_rise_eq_zero {file directory : Path} (hfile : file.isAbsolute = false)
    (hrise : file.way.rise = 0) : file.StaysIn directory := by
  simp [StaysIn, hfile, hrise]

end Path

namespace Stage

variable {s : Stage} {name : String} {path : Path}

/-- A path that a name resolves to is the file part of the name in a directory that is searched. -/
theorem exists_searched_of_resolvePath (h : s.resolvePath name = .ok (some path)) :
    ∃ n directory, s.engine.parseName name = .ok n ∧
      directory ∈ n.searched s.engine.directory ∧ path = directory.joinText n.file := by
  obtain ⟨n, hparse, hlocate⟩ := exists_locate_of_resolvePath h
  have hcandidate := (TemplateName.isFile_of_locate hlocate).2
  rw [n.candidates_eq] at hcandidate
  obtain ⟨directory, hsearched, hpath⟩ := List.mem_map.mp hcandidate
  exact ⟨n, directory, hparse, hsearched, hpath.symm⟩

/-- A path that a name resolves to is the file part of the name in one of the directories that are
searched for it, which are that of its folder, and the default directory if there is no folder or
the folder falls back. It lies in that directory exactly if the way of the file part stays there;
so it does whenever the file part does not begin at the root and does not rise. -/
theorem liesIn_of_resolvePath (h : s.resolvePath name = .ok (some path)) :
    ∃ n directory, s.engine.parseName name = .ok n ∧
      directory ∈ n.searched s.engine.directory ∧ path = directory.joinText n.file ∧
      (path.LiesIn directory ↔ (Path.ofText n.file).StaysIn directory) ∧
      ((Path.ofText n.file).isAbsolute = false → (Path.ofText n.file).way.rise = 0 →
        path.LiesIn directory) := by
  obtain ⟨n, directory, hparse, hsearched, rfl⟩ := exists_searched_of_resolvePath h
  have hstays : (directory.joinText n.file).LiesIn directory ↔
      (Path.ofText n.file).StaysIn directory := Path.liesIn_join_iff
  exact ⟨n, directory, hparse, hsearched, rfl, hstays, fun hfile hrise =>
    hstays.mpr (.of_rise_eq_zero hfile hrise)⟩

/-- A stage with a folder that does not fall back, and with files in it and in the default
directory. -/
def withFolder : Stage where
  engine :=
    { directory := some (.ofText "/t/views"), folders := [⟨"mail", .ofText "/t/mail", false⟩] }
  files :=
    { entries := [(["t"], .directory), (["t", "mail"], .directory),
        (["t", "mail", "old"], .directory), (["t", "mail", "b.jinja"], .file "b"),
        (["t", "views"], .directory), (["t", "views", "a.jinja"], .file "a")] }

/-- A name with a folder resolves to a path in this folder, although it has a parent step, which
does not leave the folder. -/
theorem liesIn_of_resolvePath_folder :
    withFolder.resolvePath "mail::old/../b" = .ok (some (.ofText "/t/mail/old/../b.jinja")) ∧
      (Path.ofText "/t/mail/old/../b.jinja").LiesIn (.ofText "/t/mail") := by
  have h : withFolder.resolvePath "mail::old/../b" =
      .ok (some (.ofText "/t/mail/old/../b.jinja")) := rfl
  obtain ⟨n, directory, hparse, hsearched, -, -, hlies⟩ := liesIn_of_resolvePath h
  obtain rfl : (⟨"mail::old/../b", "old/../b.jinja",
      some ⟨"mail", .ofText "/t/mail", false⟩⟩ : TemplateName) = n := Except.ok.inj hparse
  obtain rfl : directory = .ofText "/t/mail" := List.mem_singleton.mp hsearched
  exact ⟨h, hlies rfl rfl⟩

/-- A name with a folder that does not fall back resolves to a file of the default directory, which
lies outside of the folder. -/
theorem resolvePath_leaves_folder :
    ∃ n folder path, withFolder.engine.parseName "mail::../views/a" = .ok n ∧
      n.folder = some folder ∧ folder.fallback = false ∧
      withFolder.resolvePath "mail::../views/a" = .ok (some path) ∧
      ¬ path.LiesIn folder.path ∧ path.LiesIn (.ofText "/t/views") := by
  refine ⟨⟨"mail::../views/a", "../views/a.jinja", some _⟩, _,
    (Path.ofText "/t/mail").joinText "../views/a.jinja", rfl, rfl, rfl, rfl, ?_, rfl, ["a.jinja"],
    by decide, rfl⟩
  rintro ⟨-, rest, -, hrest⟩
  have hviews : ["t", "views", "a.jinja"] = ["t", "mail"] ++ rest := hrest
  simp at hviews

end Stage

end TemplateEngine
