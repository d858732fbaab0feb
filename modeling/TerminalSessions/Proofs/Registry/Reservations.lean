import Mathlib.Data.List.Induction
import TerminalSessions.Proofs.Registry.Captions
import TerminalSessions.Proofs.Registry.Edits
import TerminalSessions.Proofs.Registry.Requests

/-! A named creation that succeeds reserves its caption, and the caption is pending until a terminal that has
it is stored or all terminals are terminated. -/

namespace TerminalSessions

namespace Edit

def Releases (caption : String) : Edit → Prop
  | store terminal => terminal.caption = caption
  | clear => True
  | erase _ | issue _ => False

variable {registry : Registry} {caption : String}

lemma pending_apply (edit : Edit) : caption ∈ (edit.apply registry).pending ↔
    edit = .issue (some caption) ∨ caption ∈ registry.pending ∧ ¬ edit.Releases caption := by
  cases edit with
  | store terminal =>
    have hs : terminal.caption = caption ↔ caption = terminal.caption := eq_comm
    simp [apply, Registry.store, Releases, hs]
  | erase handle => simp [apply, Registry.erase, Releases]
  | clear => simp [apply, Releases]
  | issue named => cases named <;> simp [apply, Releases, eq_comm]

lemma pending_foldl {edits : List Edit} (h : ∀ named, .issue (some named) ∉ edits) :
    caption ∈ (edits.foldl apply registry).pending ↔
      caption ∈ registry.pending ∧ ∀ edit ∈ edits, ¬ edit.Releases caption := by
  induction edits generalizing registry with
  | nil => simp
  | cons edit edits ih =>
    have he : edit ≠ .issue (some caption) := fun he => h caption (he ▸ List.mem_cons_self)
    have ht : ∀ named, .issue (some named) ∉ edits := fun named hm => h named (List.mem_cons_of_mem _ hm)
    rw [List.foldl_cons, ih ht, pending_apply, or_iff_right he, List.forall_mem_cons, and_assoc]

lemma captions_apply (edit : Edit) (h : caption ∈ (edit.apply registry).captions) :
    caption ∈ registry.captions ∨ edit.Releases caption := by
  cases edit with
  | store terminal =>
    obtain ⟨other, hm, rfl⟩ := List.mem_map.mp h
    rcases Terminals.mem_put hm with rfl | hm
    · exact .inr rfl
    · exact .inl (List.mem_map_of_mem hm)
  | erase handle => exact .inl ((List.eraseP_sublist.map _).subset h)
  | clear => exact .inr trivial
  | issue named => exact .inl h

lemma captions_foldl {edits : List Edit} (h : caption ∈ (edits.foldl apply registry).captions) :
    caption ∈ registry.captions ∨ ∃ edit ∈ edits, edit.Releases caption := by
  induction edits generalizing registry with
  | nil => exact .inl h
  | cons edit edits ih =>
    rcases ih h with h | ⟨other, hm, hr⟩
    · exact (edit.captions_apply h).imp_right fun hr => ⟨edit, List.mem_cons_self, hr⟩
    · exact .inr ⟨other, List.mem_cons_of_mem _ hm, hr⟩

end Edit

namespace Registry

def Reserves (caption : String) (step : Registry × Operation) : Prop :=
  step.2 = .createNamed caption ∧ caption ≠ "" ∧ (step.1.createNamed caption).answer ≠ none

def Releases (caption : String) (step : Registry × Operation) : Prop :=
  ∃ edit ∈ step.2.edits step.1, edit.Releases caption

def Reserved (caption : String) (trace : List (Registry × Operation)) : Prop :=
  ∃ earlier reservation later, trace = earlier ++ reservation :: later ∧ Reserves caption reservation ∧
    ∀ step ∈ later, ¬ Releases caption step

variable {registry : Registry} {operation : Operation} {caption : String}

lemma createNamed_free (hc : caption ≠ "") (hf : caption ∉ registry.captions)
    (hp : caption ∉ registry.pending) :
    registry.createNamed caption =
      { registry with
        highestSequence := registry.nextSequence
        pending := caption :: registry.pending }.start (some registry.nextSequence)
          (registry.freshRequest registry.nextSequence (some caption)) := by
  have he : ¬ caption.isEmpty = true := by simpa using hc
  rw [createNamed, if_neg he, if_pos ⟨isCaptionFree_iff.mpr hf, hp⟩]

lemma createNamed_taken (hc : caption ≠ "") (h : caption ∈ registry.captions ∨ caption ∈ registry.pending) :
    registry.createNamed caption = registry.unchanged none := by
  have he : ¬ caption.isEmpty = true := by simpa using hc
  have hn : ¬ (registry.isCaptionFree caption ∧ caption ∉ registry.pending) := by
    rw [isCaptionFree_iff]
    tauto
  rw [createNamed, if_neg he, if_neg hn]

lemma createNamed_eq_none_iff (hc : caption ≠ "") : (registry.createNamed caption).answer = none ↔
    caption ∈ registry.captions ∨ caption ∈ registry.pending := by
  by_cases h : caption ∈ registry.captions ∨ caption ∈ registry.pending
  · rw [createNamed_taken hc h]
    exact iff_of_true rfl h
  · obtain ⟨hf, hp⟩ := not_or.mp h
    rw [createNamed_free hc hf hp]
    exact iff_of_false (Option.some_ne_none _) h

lemma reserves_iff : Reserves caption (registry, operation) ↔
    operation = .createNamed caption ∧ caption ≠ "" ∧ caption ∉ registry.captions ∧
      caption ∉ registry.pending := by
  refine and_congr_right fun _ => and_congr_right fun hc => ?_
  rw [Ne, createNamed_eq_none_iff hc, not_or]

lemma edits_of_reserves (h : Reserves caption (registry, operation)) :
    operation.edits registry = [.issue (some caption)] := by
  obtain ⟨rfl, hc, hf, hp⟩ := reserves_iff.mp h
  have he : ¬ caption.isEmpty = true := by simpa using hc
  rw [Operation.edits, if_neg he, if_pos ⟨isCaptionFree_iff.mpr hf, hp⟩]

lemma request_of_reserves (h : Reserves caption (registry, operation)) :
    operation.request? registry = some (registry.freshRequest registry.nextSequence (some caption)) := by
  obtain ⟨rfl, hc, hf, hp⟩ := reserves_iff.mp h
  have he : ¬ caption.isEmpty = true := by simpa using hc
  rw [Operation.request?, if_neg he, if_pos ⟨isCaptionFree_iff.mpr hf, hp⟩]

lemma reserves_of_issue (h : .issue (some caption) ∈ operation.edits registry) :
    Reserves caption (registry, operation) := by
  obtain ⟨-, ha, hn⟩ := edits_of_issue h
  obtain ⟨rfl, hc⟩ := hn caption rfl
  have hs : (registry.createNamed caption).answer = some registry.nextSequence := Answer.sequence.inj ha
  exact ⟨rfl, hc, by rw [hs]; exact Option.some_ne_none _⟩

lemma pending_perform : caption ∈ (registry.perform operation).registry.pending ↔
    Reserves caption (registry, operation) ∨
      caption ∈ registry.pending ∧ ¬ Releases caption (registry, operation) := by
  rw [perform_edits]
  -- An operation that issues a sequence for a caption does nothing else, and no other one makes it pending.
  by_cases hi : ∃ named, .issue (some named) ∈ operation.edits registry
  · obtain ⟨named, hi⟩ := hi
    have hn := reserves_of_issue hi
    have hr : Reserves caption (registry, operation) ↔ named = caption := by
      constructor
      · intro h
        exact Operation.createNamed.inj (hn.1.symm.trans h.1)
      · rintro rfl
        exact hn
    simp [Releases, edits_of_reserves hn, Edit.pending_apply, Edit.Releases, hr]
  · push Not at hi
    have hr : ¬ Reserves caption (registry, operation) := fun h =>
      hi caption (by simp [edits_of_reserves h])
    rw [Edit.pending_foldl hi, or_iff_right hr]
    simp [Releases]

lemma perform_pending (h : caption ∈ (registry.perform operation).registry.pending) :
    caption ∈ registry.pending ∨ ∃ request, operation.request? registry = some request ∧
      request.caption = some caption ∧ caption ≠ "" := by
  rcases pending_perform.mp h with hr | ⟨hp, -⟩
  · exact .inr ⟨_, request_of_reserves hr, rfl, hr.2.1⟩
  · exact .inl hp

lemma captions_perform (h : caption ∈ (registry.perform operation).registry.captions) :
    caption ∈ registry.captions ∨ Releases caption (registry, operation) := by
  rw [perform_edits] at h
  exact Edit.captions_foldl h

lemma pending_unused_perform (h : ∀ caption ∈ registry.pending, caption ∉ registry.captions) :
    ∀ caption ∈ (registry.perform operation).registry.pending,
      caption ∉ (registry.perform operation).registry.captions := by
  intro caption hp hc
  have hc' := captions_perform hc
  rcases pending_perform.mp hp with hr | ⟨hp, hr⟩
  · obtain ⟨-, -, hf, -⟩ := reserves_iff.mp hr
    have hn : ¬ Releases caption (registry, operation) := by
      simp [Releases, edits_of_reserves hr, Edit.Releases]
    exact hc'.elim hf hn
  · exact hc'.elim (h caption hp) hr

lemma reserved_snoc (trace : List (Registry × Operation)) (step : Registry × Operation) :
    Reserved caption (trace ++ [step]) ↔
      Reserves caption step ∨ Reserved caption trace ∧ ¬ Releases caption step := by
  constructor
  · rintro ⟨earlier, reservation, later, ht, hr, hl⟩
    rcases List.eq_nil_or_concat later with rfl | ⟨later, last, rfl⟩
    · obtain ⟨-, he⟩ := List.append_inj' ht rfl
      obtain rfl := List.singleton_inj.mp he
      exact .inl hr
    · rw [List.concat_eq_append, ← List.cons_append, ← List.append_assoc] at ht
      obtain ⟨rfl, he⟩ := List.append_inj' ht rfl
      obtain rfl := List.singleton_inj.mp he
      refine .inr ⟨⟨earlier, reservation, later, rfl, hr, fun other hm => ?_⟩, ?_⟩
      · exact hl other (by simp [hm])
      · exact hl step (by simp)
  · rintro (hr | ⟨⟨earlier, reservation, later, rfl, hr, hl⟩, hn⟩)
    · exact ⟨trace, step, [], rfl, hr, by simp⟩
    · refine ⟨earlier, reservation, later ++ [step], by simp, hr, ?_⟩
      intro other hm
      rcases List.mem_append.mp hm with hm | hm
      · exact hl other hm
      · exact List.mem_singleton.mp hm ▸ hn

variable (preferences : Preferences) (operations : List Operation)

lemma pending_iff_reserved : caption ∈ ((empty preferences).performAll operations).registry.pending ↔
    Reserved caption ((empty preferences).trace operations) := by
  induction operations using List.reverseRecOn with
  | nil =>
    refine iff_of_false List.not_mem_nil ?_
    rintro ⟨earlier, reservation, later, ht, -⟩
    simp [trace] at ht
  | append_singleton operations operation ih =>
    rw [performAll_snoc, trace_snoc, pending_perform, reserved_snoc, ih]

lemma pending_unused : ∀ caption ∈ ((empty preferences).performAll operations).registry.pending,
    caption ∉ ((empty preferences).performAll operations).registry.captions := by
  induction operations using List.reverseRecOn with
  | nil => exact fun _ hm => absurd hm List.not_mem_nil
  | append_singleton operations operation ih =>
    rw [performAll_snoc]
    exact pending_unused_perform ih

/-- After any operations from an empty registry the pending captions are those that are reserved, and none of
them is in use. A named creation fails exactly when its caption is in use or pending; then it does nothing. Of two
creations that succeed with the same caption, the first one's reservation was released before the second. -/
theorem pending_follows_history (preferences : Preferences) (operations : List Operation) (caption : String) :
    let registry := ((empty preferences).performAll operations).registry
    let trace := (empty preferences).trace operations
    (caption ∈ registry.pending ↔ Reserved caption trace) ∧
      (caption ∈ registry.pending → caption ∉ registry.captions) ∧
      (caption ≠ "" →
        ((registry.createNamed caption).answer = none ↔
            caption ∈ registry.captions ∨ caption ∈ registry.pending) ∧
          ((registry.createNamed caption).answer = none →
            registry.createNamed caption = registry.unchanged none)) ∧
      ∀ earlier first between second later,
        trace = earlier ++ first :: between ++ second :: later →
          Reserves caption first → Reserves caption second → ∃ step ∈ between, Releases caption step := by
  intro registry trace
  refine ⟨pending_iff_reserved preferences operations, pending_unused preferences operations caption, ?_, ?_⟩
  · intro hc
    refine ⟨createNamed_eq_none_iff hc, fun hn => ?_⟩
    exact createNamed_taken hc ((createNamed_eq_none_iff hc).mp hn)
  · intro earlier first between second later ht hf hs
    by_contra hn
    push Not at hn
    obtain ⟨performed, hp, hr⟩ := trace_split ht
    obtain ⟨-, -, -, hfree⟩ := reserves_iff.mp hs
    refine hfree ?_
    rw [← hr, pending_iff_reserved, hp]
    exact ⟨earlier, first, between, rfl, hf, hn⟩

theorem pending_follows_history_removed :
    let terminal : Terminal := { handle := "h", caption := "a", sequence := 1 }
    let operations := [.createNamed "a", .createNamed "a", .add terminal, .remove "h", .createNamed "a"]
    let registry := ((empty {}).performAll operations).registry
    let trace := (empty {}).trace operations
    Reserved "a" trace ∧ registry.createNamed "a" = registry.unchanged none ∧
      ∃ step ∈ (trace.drop 1).take 3, Releases "a" step := by
  intro terminal operations registry trace
  obtain ⟨hr, -, hn, hb⟩ := pending_follows_history {} operations "a"
  have hp : "a" ∈ registry.pending := by decide
  obtain ⟨he, hu⟩ := hn (by decide)
  refine ⟨hr.mp hp, hu (he.mpr (.inr hp)), ?_⟩
  exact hb [] _ _ _ [] rfl ⟨rfl, by decide, by decide⟩ ⟨rfl, by decide, by decide⟩

end Registry

end TerminalSessions
