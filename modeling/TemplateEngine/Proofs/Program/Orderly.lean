import TemplateEngine.Program
import TemplateEngine.Proofs.Section.Move

/-!
# Programs that act through their own template only

An operation is *orderly* if it does not render its template anew and touches neither the capture
nor the maps of the store directly. A program is orderly if all the operations that it can come to
ask for are, whatever the answers to the earlier ones; it may handle faults as it likes. In the same
way a program may ask for no other operations than those of any given kind.

## Main definitions

* `Operation.isOrderly`, `Program.Orderly`.
* `Program.Asks`: a program asks for operations of a given kind only.
* `Program.Performs`: on its run a program performs operations of a given kind only.
* `Leaves`: what holds of the state that an evaluation leaves, if it leaves one.

## Main results

* `Program.Orderly.bind`, `Program.Asks.bind`: sequences of such programs are such programs.
* `Program.Performs.leaves_run`, `Program.leaves_run`, `Program.Orderly.leaves_run`: what operations
  keep, runs keep.
* `Program.Asks.run_rel`: runs of such a program on related states end in related states.
-/

namespace TemplateEngine

/-- Whether an operation acts on its template and nothing else, short of rendering it anew. -/
def Operation.isOrderly : Operation → Bool
  | .canvas operation => operation.isOrderly
  | .render _ => false
  | _ => true

section Leaves

variable {α σ : Type} {P Q : σ → Prop} {a : α} {s : σ}

/-- A property of the state that an evaluation leaves, if it leaves one. -/
def Leaves (P : σ → Prop) (left : Option (α × σ)) : Prop := ∀ a s, left = some (a, s) → P s

theorem leaves_none : Leaves P (none : Option (α × σ)) := nofun

theorem leaves_some (h : P s) : Leaves P (some (a, s)) := by
  rintro _ _ ⟨rfl, rfl⟩
  exact h

theorem Leaves.of_some (h : Leaves P (some (a, s))) : P s := h a s rfl

theorem Leaves.imp {left : Option (α × σ)} (h : Leaves P left) (hPQ : ∀ s, P s → Q s) :
    Leaves Q left := fun a s hleft => hPQ s (h a s hleft)

end Leaves

namespace Program

variable {α β σ τ : Type}

/-- Whatever the answers are, only orderly operations are asked for. -/
def Orderly : Program α → Prop
  | .done _ => True
  | .fail _ => True
  | .perform operation next => operation.isOrderly ∧ ∀ answer, (next answer).Orderly

/-- Whatever the answers are, only operations of a given kind are asked for. -/
def Asks (P : Operation → Prop) : Program α → Prop
  | .done _ => True
  | .fail _ => True
  | .perform operation next => P operation ∧ ∀ answer, (next answer).Asks P

/-- With the answers that it has on its run, only operations of a given kind are asked for. -/
def Performs (handle : Operation → σ → Option (Except Fault Value × σ)) (P : Operation → Prop) :
    Program α → σ → Prop
  | .done _, _ => True
  | .fail _, _ => True
  | .perform operation next, s => P operation ∧
    (handle operation s).elim True fun (answer, s') => (next answer).Performs handle P s'

theorem orderly_iff_asks {p : Program α} : p.Orderly ↔ p.Asks fun o => o.isOrderly := by
  induction p with
  | done | fail => exact Iff.rfl
  | perform operation next ih => exact and_congr_right fun _ => forall_congr' ih

section Asks

variable {P Q : Operation → Prop}

theorem Asks.imp {p : Program α} (h : p.Asks P) (hPQ : ∀ operation, P operation → Q operation) :
    p.Asks Q := by
  induction p with
  | done | fail => trivial
  | perform operation next ih => exact ⟨hPQ _ h.1, fun answer => ih answer (h.2 answer)⟩

theorem Asks.bind {p : Program α} {f : α → Program β} (hp : p.Asks P) (hf : ∀ a, (f a).Asks P) :
    (p.bind f).Asks P := by
  induction p with
  | done a => exact hf a
  | fail => trivial
  | perform operation next ih => exact ⟨hp.1, fun answer => ih answer (hp.2 answer)⟩

theorem Asks.rescue {p : Program α} {handler : Fault → Program α} (hp : p.Asks P)
    (hh : ∀ fault, (handler fault).Asks P) : (p.rescue handler).Asks P := by
  induction p with
  | done => trivial
  | fail fault => exact hh fault
  | perform operation next ih => exact ⟨hp.1, fun answer => ih answer (hp.2 answer)⟩

theorem asks_ofExcept (outcome : Except Fault α) : (ofExcept outcome).Asks P := by
  cases outcome <;> trivial

theorem asks_ask {operation : Operation} (h : P operation) : (ask operation).Asks P :=
  ⟨h, asks_ofExcept⟩

theorem asks_tell {operation : Operation} (h : P operation) : (tell operation).Asks P := by
  refine ⟨h, fun answer => ?_⟩
  cases answer <;> trivial

theorem asks_forEach {ι : Type} {body : ι → Program Unit} {items : List ι}
    (h : ∀ item ∈ items, (body item).Asks P) : (forEach body items).Asks P := by
  induction items with
  | nil => trivial
  | cons item rest ih =>
    exact (h item List.mem_cons_self).bind fun _ =>
      ih fun other hother => h other (List.mem_cons_of_mem _ hother)

end Asks

theorem Orderly.bind {p : Program α} {f : α → Program β} (hp : p.Orderly)
    (hf : ∀ a, (f a).Orderly) : (p.bind f).Orderly :=
  orderly_iff_asks.mpr ((orderly_iff_asks.mp hp).bind fun a => orderly_iff_asks.mp (hf a))

theorem Orderly.rescue {p : Program α} {handler : Fault → Program α} (hp : p.Orderly)
    (hh : ∀ fault, (handler fault).Orderly) : (p.rescue handler).Orderly :=
  orderly_iff_asks.mpr ((orderly_iff_asks.mp hp).rescue fun fault => orderly_iff_asks.mp (hh fault))

theorem orderly_tell {operation : Operation} (h : operation.isOrderly) :
    (tell operation).Orderly :=
  orderly_iff_asks.mpr (asks_tell h)

theorem orderly_forEach {ι : Type} {body : ι → Program Unit} {items : List ι}
    (h : ∀ item ∈ items, (body item).Orderly) : (forEach body items).Orderly :=
  orderly_iff_asks.mpr (asks_forEach fun item hitem => orderly_iff_asks.mp (h item hitem))

variable {handle : Operation → σ → Option (Except Fault Value × σ)}
  {handle' : Operation → τ → Option (Except Fault Value × τ)}

/-- What is asked for whatever the answers are is all that is performed on a run. -/
theorem Asks.performs {P : Operation → Prop} {p : Program α} (hp : p.Asks P) (s : σ) :
    p.Performs handle P s := by
  induction p generalizing s with
  | done | fail => trivial
  | perform operation next ih =>
    refine ⟨hp.1, ?_⟩
    cases handle operation s with
    | none => trivial
    | some answered => exact ih answered.1 (hp.2 answered.1) answered.2

/-- What every operation that is performed keeps, a run of the program keeps. -/
theorem Performs.leaves_run {P : Operation → Prop} {K : σ → Prop}
    (hstep : ∀ operation s, P operation → K s → Leaves K (handle operation s))
    {p : Program α} {s : σ} (hp : p.Performs handle P s) (hs : K s) :
    Leaves K (p.run handle s) := by
  induction p generalizing s with
  | done => exact leaves_some hs
  | fail => exact leaves_some hs
  | perform operation next ih =>
    obtain ⟨hoperation, hrest⟩ := hp
    have h := hstep operation s hoperation hs
    simp only [run]
    cases hhandle : handle operation s with
    | none => exact leaves_none
    | some answered =>
      rw [hhandle] at h hrest
      exact ih answered.1 hrest h.of_some

/-- What every operation that is asked for keeps, a run of the program keeps. -/
theorem Asks.leaves_run {P : Operation → Prop} {K : σ → Prop}
    (hstep : ∀ operation s, P operation → K s → Leaves K (handle operation s))
    {p : Program α} (hp : p.Asks P) {s : σ} (hs : K s) : Leaves K (p.run handle s) :=
  (hp.performs s).leaves_run hstep hs

theorem asks_any (p : Program α) : p.Asks fun _ => True := by
  induction p with
  | done | fail => trivial
  | perform operation next ih => exact ⟨trivial, ih⟩

/-- What every operation keeps, a run of a program keeps. -/
theorem leaves_run {P : σ → Prop} (hstep : ∀ operation s, P s → Leaves P (handle operation s))
    (p : Program α) {s : σ} (hs : P s) : Leaves P (p.run handle s) :=
  p.asks_any.leaves_run (fun operation s _ => hstep operation s) hs

/-- What every orderly operation keeps, a run of an orderly program keeps. -/
theorem Orderly.leaves_run {P : σ → Prop}
    (hstep : ∀ operation s, operation.isOrderly → P s → Leaves P (handle operation s))
    {p : Program α} (hp : p.Orderly) {s : σ} (hs : P s) : Leaves P (p.run handle s) :=
  (orderly_iff_asks.mp hp).leaves_run hstep hs

/-- If the operations that are asked for have the same answers on related states and leave related
states, so have runs of the program, and one of them ends if the other one does. -/
theorem Asks.run_rel {P : Operation → Prop} {R : σ → τ → Prop}
    (hstep : ∀ operation s t, P operation → R s t →
      Option.Rel (fun x y => x.1 = y.1 ∧ R x.2 y.2) (handle operation s) (handle' operation t))
    {p : Program α} (hp : p.Asks P) {s : σ} {t : τ} (hst : R s t) :
    Option.Rel (fun x y => x.1 = y.1 ∧ R x.2 y.2) (p.run handle s) (p.run handle' t) := by
  induction p generalizing s t with
  | done => exact .some ⟨rfl, hst⟩
  | fail => exact .some ⟨rfl, hst⟩
  | perform operation next ih =>
    have h := hstep operation s t hp.1 hst
    simp only [run]
    cases hs : handle operation s with
    | none =>
      cases ht : handle' operation t with
      | none => exact .none
      | some answered => rw [hs, ht] at h; cases h
    | some answered =>
      cases ht : handle' operation t with
      | none => rw [hs, ht] at h; cases h
      | some answered' =>
        rw [hs, ht] at h
        obtain ⟨answer, s₁⟩ := answered
        obtain ⟨answer', t₁⟩ := answered'
        obtain ⟨rfl, hst₁⟩ : answer = answer' ∧ R s₁ t₁ := by cases h; assumption
        exact ih answer (hp.2 answer) hst₁

/-- Runs of an orderly program on related states end in related states if orderly operations do. -/
theorem Orderly.run_rel {R : σ → τ → Prop}
    (hstep : ∀ operation s t, operation.isOrderly → R s t →
      Option.Rel (fun x y => x.1 = y.1 ∧ R x.2 y.2) (handle operation s) (handle' operation t))
    {p : Program α} (hp : p.Orderly) {s : σ} {t : τ} (hst : R s t) :
    Option.Rel (fun x y => x.1 = y.1 ∧ R x.2 y.2) (p.run handle s) (p.run handle' t) :=
  (orderly_iff_asks.mp hp).run_rel hstep hst

end Program

end TemplateEngine
