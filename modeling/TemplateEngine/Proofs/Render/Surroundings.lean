import TemplateEngine.Proofs.Render.Chronicle

/-!
# What a render leaves around it

A render leaves the capture, and the templates around it, as they were. Its body may name functions
of the host in a pipeline, and what such a function prints goes past the capture, so this is all
that can leave the program while templates render. On a quiet host nothing does.

## Main definitions

* `Stage.PrintsOnly`: what leaves the program past the capture was printed by functions of the host.

## Main results

* `Stage.law_printsOnly`: this holds across whatever programs and renders are made of.
* `render_keeps_surroundings`: what is left around a render, however it is reached and however it
  ends.
* `not_written_eq_render`: a render may print.
-/

namespace TemplateEngine

namespace Stage

/-- The host is the same, and what was printed in between was printed by its functions. -/
structure PrintsOnly (s s' : Stage) : Prop where
  host_eq : s'.host = s.host
  printed_eq : ∃ text, s.host.Prints text ∧ s'.printed = s.printed ++ text

variable {s s' s'' : Stage}

theorem PrintsOnly.of_eq (hhost : s'.host = s.host) (hprinted : s'.printed = s.printed) :
    s.PrintsOnly s' :=
  ⟨hhost, "", .nothing, by rw [hprinted, String.append_empty]⟩

theorem PrintsOnly.refl (s : Stage) : s.PrintsOnly s := .of_eq rfl rfl

theorem PrintsOnly.trans (h : s.PrintsOnly s') (h' : s'.PrintsOnly s'') : s.PrintsOnly s'' := by
  obtain ⟨text, htext, hprinted⟩ := h.printed_eq
  obtain ⟨text', htext', hprinted'⟩ := h'.printed_eq
  rw [h.host_eq] at htext'
  refine ⟨h'.host_eq.trans h.host_eq, text ++ text', htext.append htext', ?_⟩
  rw [hprinted', hprinted, String.append_assoc]

/-- A function of the host prints what it prints. -/
theorem PrintsOnly.call {name : String} {f : HostFunction} (hf : s.host.function? name = some f)
    (v : Value) : s.PrintsOnly (s.print (f v).2) := by
  have hprints := Host.Prints.nothing.call hf v
  rw [String.empty_append] at hprints
  exact ⟨rfl, _, hprints, rfl⟩

/-- On a quiet host nothing is printed. -/
theorem PrintsOnly.printed_of_quiet (h : s.PrintsOnly s') (hquiet : s.host.IsQuiet) :
    s'.printed = s.printed := by
  obtain ⟨text, htext, hprinted⟩ := h.printed_eq
  rw [hprinted, htext.eq_empty hquiet, String.append_empty]

/-- If the capture is as it was, all that has left the program was printed. -/
theorem PrintsOnly.written_eq (h : s.PrintsOnly s') (hcapture : s'.capture = s.capture) :
    ∃ text, s.host.Prints text ∧ s'.written = s.written ++ text := by
  obtain ⟨text, htext, hprinted⟩ := h.printed_eq
  refine ⟨text, htext, ?_⟩
  rw [written, written, hcapture, hprinted, String.append_assoc]

/-- Whatever programs and renders are made of prints by functions of the host only. -/
theorem law_printsOnly : Stage.Law fun s _ s' => s.PrintsOnly s' where
  quiet h := .of_eq h.host_eq h.printed_eq
  print hf v := .call hf v
  trans h h' := h.trans h'
  lookUp s name := by
    rcases s.body_snd name with h | ⟨path, h⟩
    · rw [h]
      exact .refl s
    · rw [h]
      rcases s.compiledFile_snd path with hkept | ⟨file, -, -, -, hkept⟩ <;> rw [hkept]
      · exact .refl s
      · exact .of_eq rfl rfl
  enclose h _ := h

end Stage

section Renders

variable {s : Scene}

theorem render_printsOnly (depth : Nat) (data : Dictionary Value) (s : Scene) :
    Leaves (fun s' => s.stage.PrintsOnly s'.stage) ((nestedAt depth).render data s) :=
  (Stage.law_printsOnly.obeys_nestedAt depth).render data s

theorem Scene.printsOnly_render (s : Scene) (data : Dictionary Value) :
    s.stage.PrintsOnly (s.render data).2.stage := by
  have hlimit := render_printsOnly s.stage.host.nesting data s
  unfold Scene.render
  rcases hleft : (nestedAt s.stage.host.nesting).render data s with _ | left
  · exact .refl s.stage
  · rw [hleft] at hlimit
    exact hlimit.of_some

theorem fetchTemplate_printsOnly (depth : Nat) (name : String) (data : Dictionary Value)
    (s : Scene) :
    Leaves (fun s' => s.stage.PrintsOnly s'.stage)
      (fetchTemplate (nestedAt depth) name data s) := by
  unfold fetchTemplate
  rcases hleft : (nestedAt depth).render data ⟨s.stage.engine.make name, s.stage⟩ with
    _ | ⟨outcome, s'⟩
  · exact leaves_none
  · have hprints := render_printsOnly depth data ⟨s.stage.engine.make name, s.stage⟩ _ _ hleft
    exact leaves_some hprints

theorem applyLayout_printsOnly (depth : Nat) (content : String) (s : Scene) :
    Leaves (fun s' => s.stage.PrintsOnly s'.stage)
      (applyLayout (nestedAt depth) content s) := by
  cases hname : s.template.layoutName with
  | none =>
    rw [applyLayout_of_none _ content hname]
    exact leaves_some (.refl s.stage)
  | some name =>
    rw [applyLayout_of_some _ content hname]
    rcases hleft : (nestedAt depth).render s.template.layoutData (s.layoutScene name content) with
      _ | ⟨outcome, s'⟩
    · exact leaves_none
    · have hlaidOut := render_printsOnly depth _ _ _ _ hleft
      have hemitted : s.stage.PrintsOnly (s.layoutScene name content).stage := .of_eq rfl rfl
      exact leaves_some (hemitted.trans hlaidOut)

/-- A render of a fresh template leaves the capture as it was, with whatever limit. -/
theorem Scene.capture_render (hr : s.stage.repertoire.Orderly) {template : Template}
    (ht : template.Fresh s.stage.engine) (data : Dictionary Value) :
    (Scene.render ⟨template, s.stage⟩ data).2.stage.capture = s.stage.capture := by
  have hlimit := (keepsCapture_nestedAt hr s.stage.host.nesting).render (s := ⟨template, s.stage⟩)
    data ht.openName_eq rfl
  unfold Scene.render
  rcases hleft : (nestedAt s.stage.host.nesting).render data ⟨template, s.stage⟩ with _ | left
  · rfl
  · rw [hleft] at hlimit
    exact hlimit.of_some.capture_eq

end Renders

/-- The capture is as it was after every render of a freshly made template, by name, by hand, by
`fetch` or as a layout, whether it succeeds or fails, and what leaves the program past the capture
is printed by functions of the host: nothing, if the host is quiet. The template whose body fetches
another one is as it was, and one that declared a layout holds its text as the content section and
is else as it was. So `insert` writes exactly the text that `fetch` answers, and nothing if it
fails. -/
theorem render_keeps_surroundings (depth : Nat) {s : Scene} (hr : s.stage.repertoire.Orderly) :
    (∀ {template data outcome s'}, template.Fresh s.stage.engine →
      (nestedAt depth).render data ⟨template, s.stage⟩ = some (outcome, s') →
      s'.stage.capture = s.stage.capture ∧ s.stage.PrintsOnly s'.stage) ∧
    (∀ {template}, template.Fresh s.stage.engine → ∀ data,
      (Scene.render ⟨template, s.stage⟩ data).2.stage.capture = s.stage.capture ∧
      s.stage.PrintsOnly (Scene.render ⟨template, s.stage⟩ data).2.stage) ∧
    (∀ name data, (s.stage.render name data).2.capture = s.stage.capture ∧
      s.stage.PrintsOnly (s.stage.render name data).2) ∧
    (∀ {name data outcome s'}, fetchTemplate (nestedAt depth) name data s = some (outcome, s') →
      s'.template = s.template ∧ s'.stage.capture = s.stage.capture ∧
      s.stage.PrintsOnly s'.stage) ∧
    (∀ {content outcome s'}, applyLayout (nestedAt depth) content s = some (outcome, s') →
      s'.stage.capture = s.stage.capture ∧ s.stage.PrintsOnly s'.stage ∧
      s'.template = if s.template.layoutName.isSome then s.template.setContent content
        else s.template) ∧
    (∀ {name data own answer s'},
      perform (nestedAt depth) (.insert name data own) s = some (answer, s') →
      s'.template = s.template ∧ s.stage.PrintsOnly s'.stage ∧
      ∃ fetched s'', perform (nestedAt depth) (.fetch name data own) s = some (fetched, s'') ∧
        match fetched with
        | .ok v => ∃ text, v = .str text ∧ answer = .ok .null ∧
          s'.stage.capture = s.stage.capture.write text
        | .error fault => answer = .error fault ∧ s'.stage.capture = s.stage.capture) ∧
    ∀ {stage : Stage}, s.stage.PrintsOnly stage →
      (stage.capture = s.stage.capture →
        ∃ text, s.stage.host.Prints text ∧ stage.written = s.stage.written ++ text) ∧
      (s.stage.host.IsQuiet → stage.printed = s.stage.printed) := by
  have hn := keepsCapture_nestedAt hr depth
  refine ⟨fun {template _ _ _} ht hleft =>
      ⟨?_, render_printsOnly depth _ ⟨template, s.stage⟩ _ _ hleft⟩,
    fun {template} ht data => ⟨Scene.capture_render hr ht data,
      Scene.printsOnly_render ⟨template, s.stage⟩ data⟩,
    fun name data => ⟨Scene.capture_render hr (.make name) data,
      Scene.printsOnly_render ⟨s.stage.engine.make name, s.stage⟩ data⟩,
    fun hleft => ?_, fun hleft => ?_, fun {name data own answer s'} hleft => ?_,
    fun hprints => ⟨hprints.written_eq, hprints.printed_of_quiet⟩⟩
  · exact (hn.render (s := ⟨_, s.stage⟩) _ ht.openName_eq rfl _ _ hleft).capture_eq
  · obtain ⟨htemplate, hkeeps⟩ := fetchTemplate_frame hn rfl _ _ _ _ hleft
    exact ⟨htemplate, hkeeps.capture_eq, fetchTemplate_printsOnly depth _ _ _ _ _ hleft⟩
  · obtain ⟨hkeeps, htemplate⟩ := applyLayout_frame hn rfl _ _ _ hleft
    exact ⟨hkeeps.capture_eq, applyLayout_printsOnly depth _ _ _ _ hleft, htemplate⟩
  -- What `insert` does is to fetch, and to write what was fetched.
  · have hfetch := fetchTemplate_frame hn rfl name (s.template.dataFor data own)
    have hprints := fetchTemplate_printsOnly depth name (s.template.dataFor data own) s
    simp only [perform] at hleft ⊢
    rcases hfetched : fetchTemplate (nestedAt depth) name (s.template.dataFor data own) s with
      _ | ⟨fault | text, s''⟩
    · simp [hfetched] at hleft
    · obtain ⟨htemplate, hkeeps⟩ := hfetch _ _ hfetched
      obtain ⟨rfl, rfl⟩ : Except.error fault = answer ∧ s'' = s' := by
        simpa [hfetched] using hleft
      exact ⟨htemplate, hprints _ _ hfetched, .error fault, s'', rfl, rfl, hkeeps.capture_eq⟩
    · obtain ⟨htemplate, hkeeps⟩ := hfetch _ _ hfetched
      obtain ⟨rfl, rfl⟩ : Except.ok Value.null = answer ∧ s''.write text = s' := by
        simpa [hfetched] using hleft
      have hwrite : s''.stage.PrintsOnly (s''.write text).stage := .of_eq rfl rfl
      exact ⟨htemplate, (hprints _ _ hfetched).trans hwrite, .ok (.str text), s'', rfl, text, rfl,
        rfl, by rw [← hkeeps.capture_eq]; rfl⟩

/-- A whole render leaves the region that was open before, and so does one that fails while a
section is open; nothing is printed. Inserted into that region, the page is written behind what it
holds. -/
theorem render_keeps_surroundings_sample :
    Stage.sample.repertoire.Orderly ∧
      (Stage.sample.render "page" []).1 = .ok "<dptext>" ∧
      (Stage.sample.render "page" []).2.capture = ⟨["held"], "shown"⟩ ∧
      (Stage.sample.render "page" []).2.printed = "" ∧
      (Stage.sample.render "broken" []).2.capture = ⟨["held"], "shown"⟩ ∧
      ∃ s', perform (nestedAt 3) (.insert "page" [] false) ⟨{ name := "other" }, .sample⟩ =
          some (.ok .null, s') ∧
        s'.stage.capture = ⟨["held<dptext>"], "shown"⟩ := by
  obtain ⟨-, -, hrender, -, -, hinsert, hprints⟩ :=
    render_keeps_surroundings 3 (s := ⟨{ name := "other" }, .sample⟩) Stage.orderly_sample
  have hinserted : perform (nestedAt 3) (.insert "page" [] false) ⟨{ name := "other" }, .sample⟩ =
      some (.ok .null, _) := rfl
  obtain ⟨-, -, fetched, s'', hfetch, hmatch⟩ := hinsert hinserted
  cases (show some (Except.ok (Value.str "<dptext>"), _) = some (fetched, s'') from hfetch)
  obtain ⟨text, htext, -, hcapture⟩ := hmatch
  cases htext
  have hquiet : Stage.sample.host.IsQuiet := fun name f hf => nomatch hf
  obtain ⟨hpage, hpagePrints⟩ := hrender "page" []
  exact ⟨Stage.orderly_sample, rfl, hpage, (hprints hpagePrints).2 hquiet,
    (hrender "broken" []).1, _, hinserted, hcapture⟩

/-- A stage with a page that sends a text through a function of the host which prints it. -/
def Stage.printing : Stage where
  host := { function? := fun name => if name = "print" then some fun v => match v with
    | .str text => (.ok .null, text)
    | _ => (.error .wrongType, "") else none }
  engine := { bodies := [("page", .tell (.batch (.str "leak") "print"))] }

/-- The body of the page acts through its template only, and no region is open, and still a text has
left the program after the render. -/
theorem not_written_eq_render :
    Stage.printing.repertoire.Orderly ∧ (Stage.printing.render "page" []).1 = .ok "" ∧
      (Stage.printing.render "page" []).2.written ≠ Stage.printing.written := by
  refine ⟨Stage.orderly_of_bodies rfl rfl fun entry hentry => ?_, rfl, by decide⟩
  obtain rfl := List.mem_singleton.mp hentry
  exact Program.orderly_tell rfl

end TemplateEngine
