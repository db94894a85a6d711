import Mathlib.Data.List.Perm.Basic
import Mathlib.Data.List.Nodup
import Mathlib.Data.List.Range
import TemplateEngine.Section.Operation

/-!
# Where written text goes

Regions are opened, ended, dropped one by one or many at once, in any order and not only in pairs.
A ledger follows such a history without holding any text of a region: it numbers the regions,
knows which of them are open, and notes for each text which region was the innermost one when it
was written. What the capture holds and hands out is at any time what the ledger tells, so that no
text is lost, doubled or moved.

## Main definitions

* `CanvasOperation.isCaptureCall`: the calls that act on the capture alone.
* `Ledger`, `Ledger.record`: regions and writes, and how a call changes them.
* `Ledger.text`: what was written at a place.
* `Ledger.Describes`: a ledger tells what a capture holds.
* `Ledger.Call`: what a call answers and leaves.
* `Canvas.handedOut`: the texts that a history hands out.

## Main results

* `Ledger.Describes.record`: a call keeps ledger and capture in line.
* `Canvas.capture_conserves`: after and during any history nothing is lost, doubled or moved.
-/

namespace TemplateEngine

/-- Whether an operation acts on the capture alone. Regions are never unwound to a negative
number. -/
def CanvasOperation.isCaptureCall : CanvasOperation → Bool
  | .openRegion | .closeRegion | .discard | .write _ | .peek | .depth => true
  | .unwind kept => 0 ≤ kept
  | _ => false

/-- The regions and the writes of a history. A place is the number of a region, or none for what
is outside. -/
structure Ledger where
  /-- The number of regions that were opened. -/
  opened : Nat := 0
  /-- The open regions, innermost first. -/
  stack : List Nat := []
  /-- The regions whose texts were handed out, in order. -/
  returned : List Nat := []
  /-- The regions whose texts were dropped. -/
  dropped : List Nat := []
  /-- What was written, in order, and where. -/
  writes : List (Option Nat × String) := []

namespace Ledger

/-- What was written at a place, in order. -/
def text (l : Ledger) (place : Option Nat) : String :=
  String.join ((l.writes.filter (·.1 = place)).map (·.2))

/-- The number of innermost regions that a call closes. -/
def closes (l : Ledger) : CanvasOperation → Nat
  | .closeRegion | .discard => 1
  | .unwind kept => l.stack.length - kept.toNat
  | _ => 0

/-- The ledger after a call. -/
def record (l : Ledger) (operation : CanvasOperation) : Ledger :=
  match operation with
  | .openRegion => { l with opened := l.opened + 1, stack := l.opened :: l.stack }
  | .write text => { l with writes := l.writes ++ [(l.stack.head?, text)] }
  | .closeRegion =>
    { l with stack := l.stack.drop 1, returned := l.returned ++ l.stack.take 1 }
  | .discard | .unwind _ =>
    { l with
      stack := l.stack.drop (l.closes operation)
      dropped := l.dropped ++ l.stack.take (l.closes operation) }
  | _ => l

/-- The ledger after a history. -/
def after (l : Ledger) (history : List CanvasOperation) : Ledger := history.foldl record l

/-- The ledger of a capture whose regions were opened one inside the other, each with its text
written to it at once. -/
def ofRegions (outside : String) : List String → Ledger
  | [] => record {} (.write outside)
  | held :: outer => ((ofRegions outside outer).record .openRegion).record (.write held)

/-- The ledger of a capture that is taken as it is. -/
def ofCapture (c : Capture) : Ledger := ofRegions c.outside c.regions

/-- A ledger tells what a capture holds: the texts of the open regions and the text outside. Every
region is open, handed out or dropped, and is so once, and nothing was written to others. -/
structure Describes (l : Ledger) (c : Capture) : Prop where
  regions_eq : c.regions = l.stack.map fun n => l.text (some n)
  outside_eq : c.outside = l.text none
  perm_range : (l.stack ++ l.returned ++ l.dropped).Perm (List.range l.opened)
  lt_opened : ∀ n text, (some n, text) ∈ l.writes → n < l.opened

/-- What is closed in a ledger stays closed in a later one, and nothing was written to it. -/
structure Settles (l later : Ledger) : Prop where
  returned_prefix : l.returned <+: later.returned
  dropped_prefix : l.dropped <+: later.dropped
  text_eq : ∀ n ∈ l.returned ++ l.dropped, later.text (some n) = l.text (some n)

/-- What a call answers and leaves, given the ledger before it and that of the whole history. A
region that was handed out or dropped was never written to again, so its text is that in the ledger
of the whole history. -/
inductive Call (before whole : Ledger) (c : Canvas) :
    CanvasOperation → Except Fault Value → Canvas → Prop
  | opened : Call before whole c .openRegion (.ok (.int (c.capture.depth + 1)))
      { c with capture := ⟨"" :: c.capture.regions, c.capture.outside⟩ }
  | ended {n : Nat} {held : String} {outer : List String} (hstack : before.stack.head? = some n)
      (hregions : c.capture.regions = held :: outer) (hheld : held = whole.text (some n))
      (hreturned : n ∈ whole.returned) :
      Call before whole c .closeRegion (.ok (.str held))
        { c with capture := ⟨outer, c.capture.outside⟩ }
  | nothingToEnd (hdepth : c.capture.depth = 0) :
      Call before whole c .closeRegion (.error .noRegionToEnd) c
  | discarded {n : Nat} {held : String} {outer : List String}
      (hstack : before.stack.head? = some n) (hregions : c.capture.regions = held :: outer)
      (hheld : held = whole.text (some n)) (hdropped : n ∈ whole.dropped) :
      Call before whole c .discard (.ok .null) { c with capture := ⟨outer, c.capture.outside⟩ }
  | nothingToDiscard (hdepth : c.capture.depth = 0) :
      Call before whole c .discard (.error .noRegionToDiscard) c
  | unwound {kept : Int} {inner outer : List String} (hregions : c.capture.regions = inner ++ outer)
      (hinner : (inner.length : Int) = max 0 (c.capture.depth - kept))
      (houter : (outer.length : Int) = min (c.capture.depth : Int) kept)
      (hheld : inner = (before.stack.take inner.length).map fun n => whole.text (some n))
      (hdropped : ∀ n ∈ before.stack.take inner.length, n ∈ whole.dropped) :
      Call before whole c (.unwind kept) (.ok (.int inner.length))
        { c with capture := ⟨outer, c.capture.outside⟩ }
  | written {text : String} :
      Call before whole c (.write text) (.ok .null) { c with capture := c.capture.write text }
  | peeked {held : String}
      (hheld : held = before.stack.head?.elim "" fun n => before.text (some n)) :
      Call before whole c .peek (.ok (.str held)) c
  | measured : Call before whole c .depth (.ok (.int c.capture.depth)) c

end Ledger

namespace Canvas

/-- What a history of calls leaves. -/
def after (c : Canvas) (history : List CanvasOperation) : Canvas :=
  history.foldl (fun c operation => (operation.perform c).2) c

/-- The texts that the ends of regions hand out in the course of a history. -/
def handedOut (c : Canvas) : List CanvasOperation → List String
  | [] => []
  | operation :: rest =>
    match operation, (operation.perform c).1 with
    | .closeRegion, .ok (.str text) => text :: handedOut (operation.perform c).2 rest
    | _, _ => handedOut (operation.perform c).2 rest

end Canvas

namespace Ledger

variable {l : Ledger} {c : Capture} {operation : CanvasOperation} {n : Nat}

/-! ### The text at a place -/

theorem text_write (l : Ledger) (text : String) (place : Option Nat) :
    (l.record (.write text)).text place =
      if l.stack.head? = place then l.text place ++ text else l.text place := by
  simp only [Ledger.text, record, List.filter_append, List.map_append, String.join_append]
  by_cases hplace : l.stack.head? = place <;> simp [hplace]

/-- Only writes change the text at a place. -/
theorem text_record_of_not_write (h : ∀ text, operation ≠ .write text) (place : Option Nat) :
    (l.record operation).text place = l.text place := by
  cases operation <;> first | rfl | exact absurd rfl (h _)

/-- A call changes no text but that of the innermost region, or the text outside. -/
theorem text_record_of_ne {place : Option Nat} (h : l.stack.head? ≠ place) :
    (l.record operation).text place = l.text place := by
  by_cases hwrite : ∃ text, operation = .write text
  · obtain ⟨text, rfl⟩ := hwrite
    rw [text_write, if_neg h]
  · push Not at hwrite
    exact text_record_of_not_write hwrite place

/-- A region that nothing was written to has an empty text. -/
theorem text_eq_empty {place : Option Nat} (h : ∀ text, (place, text) ∉ l.writes) :
    l.text place = "" := by
  have hfilter : l.writes.filter (·.1 = place) = [] := by
    rw [List.filter_eq_nil_iff]
    rintro ⟨other, text⟩ hmem hother
    obtain rfl : other = place := by simpa using hother
    exact h text hmem
  simp [Ledger.text, hfilter]

/-! ### Regions -/

/-- Regions that move from the open ones to those handed out are still there once. -/
theorem perm_returned (stack returned dropped : List Nat) (k : Nat) :
    (stack.drop k ++ (returned ++ stack.take k) ++ dropped).Perm
      (stack ++ returned ++ dropped) := by
  refine List.Perm.append_right dropped ?_
  calc stack.drop k ++ (returned ++ stack.take k)
      = (stack.drop k ++ returned) ++ stack.take k := (List.append_assoc _ _ _).symm
    _ |>.Perm (stack.take k ++ (stack.drop k ++ returned)) := List.perm_append_comm
    _ = stack ++ returned := by rw [← List.append_assoc, List.take_append_drop]

/-- Regions that move from the open ones to those dropped are still there once. -/
theorem perm_dropped (stack returned dropped : List Nat) (k : Nat) :
    (stack.drop k ++ returned ++ (dropped ++ stack.take k)).Perm
      (stack ++ returned ++ dropped) := by
  calc stack.drop k ++ returned ++ (dropped ++ stack.take k)
      = (stack.drop k ++ returned ++ dropped) ++ stack.take k := (List.append_assoc _ _ _).symm
    _ |>.Perm (stack.take k ++ (stack.drop k ++ returned ++ dropped)) := List.perm_append_comm
    _ = stack ++ returned ++ dropped := by
      simp only [← List.append_assoc, List.take_append_drop]

/-- The numbers of the regions after one more was opened. -/
theorem perm_opened {regions : List Nat} {opened : Nat} (h : regions.Perm (List.range opened)) :
    (opened :: regions).Perm (List.range (opened + 1)) := by
  rw [List.range_succ]
  exact (h.cons opened).trans (List.perm_append_singleton opened (List.range opened)).symm

namespace Describes

theorem length_stack (h : l.Describes c) : l.stack.length = c.depth := by
  rw [Capture.depth, h.regions_eq, List.length_map]

theorem nodup (h : l.Describes c) : (l.stack ++ l.returned ++ l.dropped).Nodup :=
  h.perm_range.nodup_iff.mpr List.nodup_range

theorem lt_of_mem (h : l.Describes c) (hn : n ∈ l.stack ++ l.returned ++ l.dropped) :
    n < l.opened :=
  List.mem_range.mp (h.perm_range.mem_iff.mp hn)

/-- A region whose text was handed out or dropped is not open. -/
theorem not_mem_stack (h : l.Describes c) (hn : n ∈ l.returned ∨ n ∈ l.dropped) :
    n ∉ l.stack := by
  have hnodup := h.nodup
  rw [List.append_assoc, List.nodup_append] at hnodup
  exact fun hstack => hnodup.2.2 n hstack n (List.mem_append.mpr hn) rfl

/-! ### One call -/

theorem openRegion (h : l.Describes c) : (l.record .openRegion).Describes c.openRegion where
  regions_eq := by
    have hempty : l.text (some l.opened) = "" :=
      text_eq_empty fun text hmem => absurd (h.lt_opened _ text hmem) (Nat.lt_irrefl _)
    change "" :: c.regions = l.text (some l.opened) :: l.stack.map fun n => l.text (some n)
    rw [hempty, ← h.regions_eq]
  outside_eq := h.outside_eq
  perm_range := perm_opened h.perm_range
  lt_opened n text hmem := Nat.lt_succ_of_lt (h.lt_opened n text hmem)

theorem write (h : l.Describes c) (text : String) :
    (l.record (.write text)).Describes (c.write text) := by
  obtain ⟨regions, outside⟩ := c
  have hregions : regions = l.stack.map fun n => l.text (some n) := h.regions_eq
  have houtside : outside = l.text none := h.outside_eq
  have hlt (n : Nat) (other : String) (hmem : (some n, other) ∈ (l.record (.write text)).writes) :
      n < l.opened := by
    rcases List.mem_append.mp hmem with hbefore | hnow
    · exact h.lt_opened n other hbefore
    · obtain ⟨hhead, -⟩ := Prod.mk.inj (List.mem_singleton.mp hnow)
      have hstack : n ∈ l.stack := List.mem_of_head? hhead.symm
      exact h.lt_of_mem (List.mem_append_left _ (List.mem_append_left _ hstack))
  cases hstack : l.stack with
  | nil =>
    subst houtside
    obtain rfl : regions = [] := by rw [hregions, hstack, List.map_nil]
    refine ⟨?_, ?_, h.perm_range, hlt⟩
    · change [] = l.stack.map _
      rw [hstack, List.map_nil]
    · rw [text_write, hstack]
      rfl
  | cons n outer =>
    rw [hstack, List.map_cons] at hregions
    subst hregions
    refine ⟨?_, ?_, h.perm_range, hlt⟩
    · change (l.text (some n) ++ text) :: _ = l.stack.map _
      rw [hstack, List.map_cons, text_write, if_pos (by rw [hstack]; rfl)]
      congr 1
      refine List.map_congr_left fun m hm => ?_
      have hnodup : (n :: outer).Nodup := hstack ▸ (h.nodup.of_append_left).of_append_left
      have hne : n ≠ m := fun heq => (List.nodup_cons.mp hnodup).1 (heq ▸ hm)
      rw [text_write, hstack, if_neg (by simpa using hne)]
    · rw [text_write, hstack, if_neg (by simp)]
      exact houtside

/-- A ledger without some of the innermost regions tells what the capture without them holds. -/
theorem close (h : l.Describes c) {l' : Ledger} (k : Nat) (hopened : l'.opened = l.opened)
    (hwrites : l'.writes = l.writes) (hstack : l'.stack = l.stack.drop k)
    (hperm : (l'.stack ++ l'.returned ++ l'.dropped).Perm (l.stack ++ l.returned ++ l.dropped)) :
    l'.Describes ⟨c.regions.drop k, c.outside⟩ where
  regions_eq := by
    simp only [Ledger.text, hwrites, hstack, h.regions_eq, List.map_drop]
  outside_eq := by
    simp only [Ledger.text, hwrites, h.outside_eq]
  perm_range := hopened ▸ hperm.trans h.perm_range
  lt_opened n text hmem := hopened ▸ h.lt_opened n text (hwrites ▸ hmem)

end Describes

end Ledger

/-! ### What closing calls leave -/

theorem Capture.finish_snd (c : Capture) : c.finish.2 = ⟨c.regions.drop 1, c.outside⟩ := by
  obtain ⟨regions, outside⟩ := c
  cases regions <;> rfl

theorem Capture.discard_snd (c : Capture) : c.discard.2 = ⟨c.regions.drop 1, c.outside⟩ := by
  obtain ⟨regions, outside⟩ := c
  cases regions <;> rfl

theorem Capture.unwindTo_of_nonneg (c : Capture) {kept : Int} (hkept : 0 ≤ kept) :
    c.unwindTo kept = (.ok (c.excess kept.toNat), c.unwind kept.toNat) := by
  rw [Capture.unwindTo, if_neg (Int.not_lt.mpr hkept)]

namespace Ledger

variable {l : Ledger} {c : Canvas} {operation : CanvasOperation} {n : Nat}

/-- A call keeps ledger and capture in line. -/
theorem Describes.record (h : l.Describes c.capture) (ho : operation.isCaptureCall) :
    (l.record operation).Describes (operation.perform c).2.capture := by
  cases operation with
  | openRegion => exact h.openRegion
  | closeRegion =>
    change (l.record .closeRegion).Describes c.capture.finish.2
    rw [Capture.finish_snd]
    exact h.close 1 rfl rfl rfl (perm_returned l.stack l.returned l.dropped 1)
  | discard =>
    change (l.record .discard).Describes c.capture.discard.2
    rw [Capture.discard_snd]
    exact h.close 1 rfl rfl rfl (perm_dropped l.stack l.returned l.dropped 1)
  | unwind kept =>
    have hkept : 0 ≤ kept := of_decide_eq_true ho
    change (l.record (.unwind kept)).Describes (c.capture.unwindTo kept).2
    rw [Capture.unwindTo_of_nonneg _ hkept, Capture.unwind, ← h.length_stack]
    exact h.close _ rfl rfl rfl (perm_dropped l.stack l.returned l.dropped _)
  | write text => exact h.write text
  | peek => exact h
  | depth => exact h
  | _ => cases ho

/-- A history of calls keeps ledger and capture in line. -/
theorem Describes.after (h : l.Describes c.capture) {history : List CanvasOperation}
    (ho : ∀ operation ∈ history, operation.isCaptureCall) :
    (l.after history).Describes (c.after history).capture := by
  induction history generalizing l c with
  | nil => exact h
  | cons operation rest ih =>
    exact ih (h.record (ho operation List.mem_cons_self)) fun other hother =>
      ho other (List.mem_cons_of_mem operation hother)

theorem describes_ofRegions (outside : String) (regions : List String) :
    (ofRegions outside regions).Describes ⟨regions, outside⟩ := by
  induction regions with
  | nil =>
    have hfresh : Describes {} {} := ⟨rfl, rfl, .refl _, fun _ _ h => by cases h⟩
    rw [ofRegions]
    simpa using hfresh.write outside
  | cons held outer ih =>
    rw [ofRegions]
    simpa [Capture.openRegion] using ih.openRegion.write held

/-- Every capture is described by the ledger of what it holds. -/
theorem describes_ofCapture (c : Capture) : (ofCapture c).Describes c :=
  describes_ofRegions c.outside c.regions

theorem returned_ofCapture (c : Capture) : (ofCapture c).returned = [] := by
  obtain ⟨regions, outside⟩ := c
  induction regions with
  | nil => rfl
  | cons held outer ih => exact ih

theorem after_append_cons (l : Ledger) (before later : List CanvasOperation)
    (operation : CanvasOperation) :
    l.after (before ++ operation :: later) = ((l.after before).record operation).after later := by
  simp only [Ledger.after, List.foldl_append, List.foldl_cons]

/-! ### Closed regions -/

theorem Settles.refl (l : Ledger) : l.Settles l :=
  ⟨List.prefix_rfl, List.prefix_rfl, fun _ _ => rfl⟩

theorem Settles.trans {l₁ l₂ l₃ : Ledger} (h : l₁.Settles l₂) (h' : l₂.Settles l₃) :
    l₁.Settles l₃ where
  returned_prefix := h.returned_prefix.trans h'.returned_prefix
  dropped_prefix := h.dropped_prefix.trans h'.dropped_prefix
  text_eq n hn := by
    have hnext : n ∈ l₂.returned ++ l₂.dropped :=
      List.mem_append.mpr ((List.mem_append.mp hn).imp (h.returned_prefix.subset ·)
        (h.dropped_prefix.subset ·))
    exact (h'.text_eq n hnext).trans (h.text_eq n hn)

/-- A call writes to no region that is closed. -/
theorem Describes.settles_record (h : l.Describes c.capture) (operation : CanvasOperation) :
    l.Settles (l.record operation) where
  returned_prefix := by
    cases operation <;> first | exact List.prefix_append _ _ | exact List.prefix_rfl
  dropped_prefix := by
    cases operation <;> first | exact List.prefix_append _ _ | exact List.prefix_rfl
  text_eq _ hn := text_record_of_ne fun hhead =>
    h.not_mem_stack (List.mem_append.mp hn) (List.mem_of_head? hhead)

theorem Describes.settles_after (h : l.Describes c.capture) {history : List CanvasOperation}
    (ho : ∀ operation ∈ history, operation.isCaptureCall) : l.Settles (l.after history) := by
  induction history generalizing l c with
  | nil => exact .refl l
  | cons operation rest ih =>
    have hnext := h.record (ho operation List.mem_cons_self)
    exact (h.settles_record operation).trans
      (ih hnext fun other hother => ho other (List.mem_cons_of_mem operation hother))

/-! ### What calls answer -/

/-- The innermost region of a capture, in its ledger. -/
theorem Describes.innermost {capture : Capture} {held : String} {outer : List String}
    (h : l.Describes capture) (hregions : capture.regions = held :: outer) :
    ∃ n more, l.stack = n :: more ∧ held = l.text (some n) := by
  have hmap := h.regions_eq
  cases hstack : l.stack with
  | nil => simp [hregions, hstack] at hmap
  | cons n more =>
    rw [hregions, hstack, List.map_cons] at hmap
    exact ⟨n, more, rfl, (List.cons_eq_cons.mp hmap).1⟩

/-- The texts of the innermost regions are in the end what they are when they are dropped. -/
theorem Describes.inner_eq {capture : Capture} {whole : Ledger} (h : l.Describes capture)
    {kept : Int} (hwhole : (l.record (.unwind kept)).Settles whole) :
    capture.regions.take (l.closes (.unwind kept)) =
      (l.stack.take (l.closes (.unwind kept))).map fun n => whole.text (some n) := by
  rw [h.regions_eq, ← List.map_take]
  refine List.map_congr_left fun n hn => ?_
  have hdropped : n ∈ (l.record (.unwind kept)).dropped := List.mem_append_right _ hn
  exact (hwhole.text_eq n (List.mem_append_right _ hdropped)).symm

/-- A call answers and leaves what the ledgers tell. -/
theorem Describes.call (h : l.Describes c.capture) (ho : operation.isCaptureCall)
    {whole : Ledger} (hwhole : (l.record operation).Settles whole) :
    l.Call whole c operation (operation.perform c).1 (operation.perform c).2 := by
  obtain ⟨store, regions, outside⟩ := c
  cases operation with
  | openRegion => exact .opened
  | closeRegion =>
    cases regions with
    | nil => exact .nothingToEnd rfl
    | cons held outer =>
      obtain ⟨n, more, hstack, hheld⟩ := h.innermost rfl
      have hreturned : n ∈ (l.record .closeRegion).returned := by simp [Ledger.record, hstack]
      have htext := hwhole.text_eq n (List.mem_append_left _ hreturned)
      exact .ended (by rw [hstack]; rfl) rfl (hheld.trans htext.symm)
        (hwhole.returned_prefix.subset hreturned)
  | discard =>
    cases regions with
    | nil => exact .nothingToDiscard rfl
    | cons held outer =>
      obtain ⟨n, more, hstack, hheld⟩ := h.innermost rfl
      have hdropped : n ∈ (l.record .discard).dropped := by simp [Ledger.record, closes, hstack]
      have htext := hwhole.text_eq n (List.mem_append_right _ hdropped)
      exact .discarded (by rw [hstack]; rfl) rfl (hheld.trans htext.symm)
        (hwhole.dropped_prefix.subset hdropped)
  | unwind kept =>
    have hkept : 0 ≤ kept := of_decide_eq_true ho
    have hlength : l.stack.length = regions.length := h.length_stack
    have hcloses : l.closes (.unwind kept) = regions.length - kept.toNat := by
      rw [closes, hlength]
    -- The regions that are dropped are the innermost ones, beyond those that are kept.
    have htake : (regions.take (l.closes (.unwind kept))).length = l.closes (.unwind kept) := by
      rw [List.length_take]
      omega
    have hleft : CanvasOperation.perform ⟨store, regions, outside⟩ (.unwind kept) =
        (.ok (.int (regions.take (l.closes (.unwind kept))).length),
          ⟨store, regions.drop (l.closes (.unwind kept)), outside⟩) := by
      rw [htake, hcloses]
      simp only [CanvasOperation.perform, Capture.unwindTo_of_nonneg _ hkept]
      rfl
    rw [hleft]
    refine .unwound (List.take_append_drop _ regions).symm ?_ ?_ ?_ ?_
    · change _ = max 0 ((regions.length : Int) - kept)
      omega
    · change _ = min (regions.length : Int) kept
      rw [List.length_drop]
      omega
    · rw [htake]
      exact h.inner_eq hwhole
    · rw [htake]
      exact fun n hn => hwhole.dropped_prefix.subset (List.mem_append_right _ hn)
  | write text => exact .written
  | peek =>
    refine .peeked ?_
    cases regions with
    | nil =>
      have hstack : l.stack = [] := List.length_eq_zero_iff.mp h.length_stack
      rw [hstack]
      rfl
    | cons held outer =>
      obtain ⟨n, more, hstack, hheld⟩ := h.innermost rfl
      rw [hstack]
      exact hheld
  | depth => exact .measured
  | _ => cases ho

end Ledger

namespace Canvas

variable {c : Canvas} {history : List CanvasOperation}

theorem handedOut_cons_of_ne {operation : CanvasOperation} (h : operation ≠ .closeRegion) :
    c.handedOut (operation :: history) = (operation.perform c).2.handedOut history := by
  cases operation <;> first | rfl | exact absurd rfl h

/-- One call hands out the text of the region that it ends, if it ends one. -/
theorem map_returned_record {l : Ledger} (h : l.Describes c.capture) (operation : CanvasOperation) :
    (l.record operation).returned.map (fun n => (l.record operation).text (some n)) ++
        (operation.perform c).2.handedOut history =
      l.returned.map (fun n => l.text (some n)) ++ c.handedOut (operation :: history) := by
  have htext : l.returned.map (fun n => (l.record operation).text (some n)) =
      l.returned.map fun n => l.text (some n) :=
    List.map_congr_left fun n hn =>
      (h.settles_record operation).text_eq n (List.mem_append_left _ hn)
  by_cases hclose : operation = .closeRegion
  · subst hclose
    obtain ⟨store, regions, outside⟩ := c
    cases regions with
    | nil =>
      have hstack : l.stack = [] := List.length_eq_zero_iff.mp h.length_stack
      have hreturned : (l.record .closeRegion).returned = l.returned := by
        simp [Ledger.record, hstack]
      rw [hreturned, htext]
      rfl
    | cons held outer =>
      obtain ⟨n, more, hstack, hheld⟩ := h.innermost rfl
      have hreturned : (l.record .closeRegion).returned = l.returned ++ [n] := by
        simp [Ledger.record, hstack]
      rw [hreturned, List.map_append, htext, List.append_assoc]
      subst hheld
      rfl
  · have hreturned : (l.record operation).returned = l.returned := by
      cases operation <;> first | rfl | exact absurd rfl hclose
    rw [handedOut_cons_of_ne hclose, hreturned, htext]

/-- The texts that are handed out are those of the regions that were ended. -/
theorem map_returned_after {l : Ledger} (h : l.Describes c.capture)
    (ho : ∀ operation ∈ history, operation.isCaptureCall) :
    (l.after history).returned.map (fun n => (l.after history).text (some n)) =
      l.returned.map (fun n => l.text (some n)) ++ c.handedOut history := by
  induction history generalizing l c with
  | nil => exact (List.append_nil _).symm
  | cons operation rest ih =>
    have hnext := h.record (ho operation List.mem_cons_self)
    rw [← map_returned_record h operation]
    exact ih hnext fun other hother => ho other (List.mem_cons_of_mem operation hother)

/-- In every history of calls on a capture, at any time, the open regions and the outside hold what
was written while they were the innermost place, and each call answers in line with that. In the
end the texts handed out are those of the regions that were ended, and every region is open, handed
out or dropped, and is so once. -/
theorem capture_conserves (c : Canvas) (history : List CanvasOperation)
    (ho : ∀ operation ∈ history, operation.isCaptureCall) :
    ((Ledger.ofCapture c.capture).after history).Describes (c.after history).capture ∧
      c.handedOut history = ((Ledger.ofCapture c.capture).after history).returned.map (fun n =>
        ((Ledger.ofCapture c.capture).after history).text (some n)) ∧
      ∀ before operation later, history = before ++ operation :: later →
        ((Ledger.ofCapture c.capture).after before).Describes (c.after before).capture ∧
        ((Ledger.ofCapture c.capture).after before).Call
          ((Ledger.ofCapture c.capture).after history) (c.after before) operation
          (operation.perform (c.after before)).1 (operation.perform (c.after before)).2 := by
  have hstart := Ledger.describes_ofCapture c.capture
  refine ⟨hstart.after ho, ?_, ?_⟩
  · rw [map_returned_after hstart ho, Ledger.returned_ofCapture, List.map_nil, List.nil_append]
  · rintro before operation later rfl
    have hoperation := ho operation (by simp)
    have hbefore := hstart.after fun other hother => ho other (List.mem_append_left _ hother)
    refine ⟨hbefore, hbefore.call hoperation ?_⟩
    rw [Ledger.after_append_cons]
    exact (hbefore.record hoperation).settles_after fun other hother => ho other (by simp [hother])

/-- A history in which regions are ended and unwound, and text is written on every level. -/
def interleaved : List CanvasOperation :=
  [.write "a", .openRegion, .write "b", .openRegion, .write "c", .closeRegion, .write "d",
    .openRegion, .write "e", .unwind 1, .peek, .write "f", .closeRegion, .closeRegion, .write "g"]

theorem capture_conserves_interleaved :
    (∀ operation ∈ interleaved, operation.isCaptureCall) ∧
      ((Ledger.ofCapture {}).after interleaved).Describes (after ⟨{}, {}⟩ interleaved).capture ∧
      ((Ledger.ofCapture {}).after interleaved).returned.map (fun n =>
        ((Ledger.ofCapture {}).after interleaved).text (some n)) = ["c", "bdf"] ∧
      ((Ledger.ofCapture {}).after interleaved).text none = "ag" := by
  have hcalls : ∀ operation ∈ interleaved, operation.isCaptureCall := by decide
  obtain ⟨hdescribes, hhanded, -⟩ := capture_conserves ⟨{}, {}⟩ interleaved hcalls
  exact ⟨hcalls, hdescribes, hhanded.symm.trans rfl, hdescribes.outside_eq.symm.trans rfl⟩

end Canvas

end TemplateEngine
