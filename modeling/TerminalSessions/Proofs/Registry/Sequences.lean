import Mathlib.Data.List.Induction
import Mathlib.Data.UInt
import TerminalSessions.Proofs.Registry.Captions
import TerminalSessions.Proofs.Registry.Edits

namespace TerminalSessions

lemma lastSequence_toNat : (0xFFFFFFFF : UInt32).toNat = 4294967295 := rfl

lemma followingSequence_toNat (sequence : UInt32) :
    (followingSequence sequence).toNat = min (sequence.toNat + 1) 4294967295 := by
  have hl := sequence.toNat_lt
  rw [followingSequence]
  split_ifs with h
  · rw [h]
    rfl
  · have hn : sequence.toNat ≠ 4294967295 := fun he => h (UInt32.toNat_inj.mp he)
    have ho : (1 : UInt32).toNat = 1 := rfl
    rw [UInt32.toNat_add, ho]
    omega

lemma le_followingSequence (sequence : UInt32) : sequence ≤ followingSequence sequence := by
  have hn := followingSequence_toNat sequence
  have hl := sequence.toNat_lt
  rw [UInt32.le_iff_toNat_le]
  omega

lemma foldl_max_le {sequences : List UInt32} {start bound : UInt32} (hs : start ≤ bound)
    (h : ∀ sequence ∈ sequences, sequence ≤ bound) : sequences.foldl max start ≤ bound := by
  induction sequences generalizing start with
  | nil => exact hs
  | cons first others ih =>
    have hf := h first List.mem_cons_self
    refine ih ?_ fun sequence hm => h sequence (List.mem_cons_of_mem _ hm)
    rw [UInt32.le_iff_toNat_le, UInt32.toNat_max] at *
    omega

namespace Registry

lemma highest_le_next (registry : Registry) : registry.highestSequence ≤ registry.nextSequence := by
  have hf : max registry.highestSequence _ ≤ registry.nextSequence := le_followingSequence _
  rw [UInt32.le_iff_toNat_le, UInt32.toNat_max] at hf
  exact UInt32.le_iff_toNat_le.mpr ((le_max_left _ _).trans hf)

lemma next_issue (registry : Registry) (named : Option String) :
    ((Edit.issue named).apply registry).nextSequence = followingSequence registry.nextSequence := by
  let present := (registry.terminals.map (·.sequence)).foldl max 0
  have hf : max registry.highestSequence present ≤ registry.nextSequence := le_followingSequence _
  rw [UInt32.le_iff_toNat_le, UInt32.toNat_max] at hf
  change followingSequence (max registry.nextSequence present) = _
  congr 1
  rw [← UInt32.toNat_inj, UInt32.toNat_max]
  exact max_eq_left ((le_max_right _ _).trans hf)

lemma next_store {registry : Registry} {terminal : Terminal} (hh : terminal.handle ∉ registry.handles)
    (hs : terminal.sequence ≤ registry.highestSequence) :
    (registry.store terminal).nextSequence = registry.nextSequence := by
  have hb := UInt32.le_iff_toNat_le.mp hs
  rw [nextSequence, terminals_store hh, nextSequence]
  congr 1
  simp only [store, List.map_append, List.foldl_append, List.map_cons, List.map_nil, List.foldl_cons,
    List.foldl_nil, ← UInt32.toNat_inj, UInt32.toNat_max]
  omega

def Issues (sequence : UInt32) (step : Registry × Operation) : Prop :=
  (step.1.perform step.2).answer = .sequence (some sequence)

def Meets (sequence : UInt32) (step : Registry × Operation) : Prop :=
  (∃ terminal, .store terminal ∈ step.2.edits step.1 ∧ terminal.sequence = sequence) ∨ Issues sequence step

structure Counts (met : UInt32 → Prop) (registry : Registry) : Prop where
  terminals : ∀ terminal ∈ registry.terminals, met terminal.sequence
  bounded : ∀ sequence, met sequence → sequence ≤ registry.highestSequence
  attained : registry.highestSequence = 0 ∨ met registry.highestSequence

namespace Counts

variable {met others : UInt32 → Prop} {registry : Registry}

lemma nextSequence (h : Counts met registry) :
    registry.nextSequence = followingSequence registry.highestSequence := by
  have hf : (registry.terminals.map (·.sequence)).foldl max 0 ≤ registry.highestSequence := by
    refine foldl_max_le UInt32.zero_le fun sequence hm => ?_
    obtain ⟨terminal, ht, rfl⟩ := List.mem_map.mp hm
    exact h.bounded _ (h.terminals terminal ht)
  rw [Registry.nextSequence]
  congr 1
  rw [← UInt32.toNat_inj, UInt32.toNat_max]
  exact max_eq_left (UInt32.le_iff_toNat_le.mp hf)

lemma next_toNat (h : Counts met registry) :
    registry.nextSequence.toNat = min (registry.highestSequence.toNat + 1) 4294967295 := by
  rw [h.nextSequence, followingSequence_toNat]

lemma lt_next (h : Counts met registry) {sequence : UInt32} (hm : met sequence) :
    sequence = 0xFFFFFFFF ∨ sequence < registry.nextSequence := by
  have hb := UInt32.le_iff_toNat_le.mp (h.bounded sequence hm)
  have hl := sequence.toNat_lt
  have hn := h.next_toNat
  rw [← UInt32.toNat_inj, UInt32.lt_iff_toNat_lt, lastSequence_toNat]
  omega

lemma next_of_last (h : Counts met registry) (hm : met 0xFFFFFFFF) : registry.nextSequence = 0xFFFFFFFF := by
  have hb := UInt32.le_iff_toNat_le.mp (h.bounded _ hm)
  have hn := h.next_toNat
  rw [lastSequence_toNat] at hb
  rw [← UInt32.toNat_inj, lastSequence_toNat]
  omega

lemma next_mono {later : Registry} (h : Counts met registry) (hl : Counts others later)
    (hm : ∀ sequence, met sequence → others sequence) : registry.nextSequence ≤ later.nextSequence := by
  have hh : registry.highestSequence ≤ later.highestSequence := by
    rcases h.attained with hz | ha
    · rw [hz]
      exact UInt32.zero_le
    · exact hl.bounded _ (hm _ ha)
  have hn := h.next_toNat
  have hn' := hl.next_toNat
  rw [UInt32.le_iff_toNat_le] at *
  omega

lemma congr (h : Counts met registry) (he : ∀ sequence, met sequence ↔ others sequence) :
    Counts others registry := by
  obtain rfl : met = others := funext fun sequence => propext (he sequence)
  exact h

lemma store (h : Counts met registry) (terminal : Terminal) :
    Counts (fun sequence => met sequence ∨ terminal.sequence = sequence) (registry.store terminal) where
  terminals other hm := by
    rcases Terminals.mem_put hm with rfl | hm
    · exact .inr rfl
    · exact .inl (h.terminals other hm)
  bounded sequence hm := by
    have hs : (registry.store terminal).highestSequence =
      max registry.highestSequence terminal.sequence := rfl
    rw [hs, UInt32.le_iff_toNat_le, UInt32.toNat_max]
    rcases hm with hm | rfl
    · have hb := UInt32.le_iff_toNat_le.mp (h.bounded sequence hm)
      omega
    · omega
  attained := by
    have hs : (registry.store terminal).highestSequence = registry.highestSequence ∨
        (registry.store terminal).highestSequence = terminal.sequence := by
      simp only [Registry.store, ← UInt32.toNat_inj, UInt32.toNat_max]
      omega
    rcases hs with hs | hs <;> rw [hs]
    · exact h.attained.imp_right .inl
    · exact .inr (.inr rfl)

lemma issue (h : Counts met registry) (caption : Option String) :
    Counts (fun sequence => met sequence ∨ registry.nextSequence = sequence)
      ((Edit.issue caption).apply registry) where
  terminals terminal hm := .inl (h.terminals terminal hm)
  bounded sequence hm := by
    change sequence ≤ registry.nextSequence
    have hn := h.next_toNat
    rw [UInt32.le_iff_toNat_le]
    rcases hm with hm | rfl
    · have hb := UInt32.le_iff_toNat_le.mp (h.bounded sequence hm)
      have hl := sequence.toNat_lt
      omega
    · exact le_rfl
  attained := .inr (.inr rfl)

lemma foldl {edits : List Edit} (h : Counts met registry) (hi : ∀ caption, .issue caption ∉ edits) :
    Counts (fun sequence => met sequence ∨ ∃ terminal, .store terminal ∈ edits ∧ terminal.sequence = sequence)
      (edits.foldl Edit.apply registry) := by
  induction edits generalizing registry met with
  | nil => exact h.congr (by simp)
  | cons edit edits ih =>
    have ht : ∀ caption, .issue caption ∉ edits := fun caption hm => hi caption (List.mem_cons_of_mem _ hm)
    cases edit with
    | store terminal =>
      refine (ih (h.store terminal) ht).congr fun sequence => ?_
      simp [or_assoc]
    | erase handle =>
      have he : Counts met (registry.erase handle) :=
        ⟨fun terminal hm => h.terminals terminal (List.eraseP_sublist.subset hm), h.bounded, h.attained⟩
      exact (ih he ht).congr (by simp)
    | clear =>
      have hc : Counts met (Edit.clear.apply registry) :=
        ⟨fun _ hm => absurd hm List.not_mem_nil, h.bounded, h.attained⟩
      exact (ih hc ht).congr (by simp)
    | issue caption => exact absurd List.mem_cons_self (hi caption)

end Counts

variable {registry : Registry} {operation : Operation} {sequence : UInt32}

lemma issues_iff : Issues sequence (registry, operation) ↔
    (∃ caption, .issue caption ∈ operation.edits registry) ∧ registry.nextSequence = sequence := by
  constructor
  · intro h
    obtain ⟨caption, hm⟩ := issue_of_answer h
    obtain ⟨-, ha, -⟩ := edits_of_issue hm
    exact ⟨⟨caption, hm⟩, Option.some.inj (Answer.sequence.inj (ha.symm.trans h))⟩
  · rintro ⟨⟨caption, hm⟩, rfl⟩
    exact (edits_of_issue hm).2.1

lemma Counts.perform {met : UInt32 → Prop} (h : Counts met registry) (operation : Operation) :
    Counts (fun sequence => met sequence ∨ Meets sequence (registry, operation))
      (registry.perform operation).registry := by
  rw [perform_edits]
  by_cases hi : ∃ caption, .issue caption ∈ operation.edits registry
  · obtain ⟨caption, hm⟩ := hi
    have he := (edits_of_issue hm).1
    rw [he]
    refine (h.issue caption).congr fun sequence => or_congr_right ?_
    rw [Meets, issues_iff]
    simp [he]
  · refine (h.foldl (not_exists.mp hi)).congr fun sequence => or_congr_right ?_
    rw [Meets, issues_iff, or_iff_left (fun hs => hi hs.1)]

variable (preferences : Preferences) (operations : List Operation)

def Met (trace : List (Registry × Operation)) (sequence : UInt32) : Prop :=
  ∃ step ∈ trace, Meets sequence step

lemma counts_performAll : Counts (Met ((empty preferences).trace operations))
    ((empty preferences).performAll operations).registry := by
  induction operations using List.reverseRecOn with
  | nil => exact ⟨fun _ hm => absurd hm List.not_mem_nil, fun _ hm => by simp [Met, trace] at hm, .inl rfl⟩
  | append_singleton operations operation ih =>
    rw [performAll_snoc, trace_snoc]
    refine (ih.perform operation).congr fun sequence => ?_
    simp only [Met, List.mem_append, List.mem_singleton, or_and_right, exists_or, exists_eq_left]

/-- After any operations from an empty registry the next sequence is one more than the highest one that was
met, or the last one there is. It is not less than in any earlier state, and greater than the sequences of all
terminals that ever were there and than all that were given out, except for the last sequence. A creation gives
out a greater sequence than all creations before it; once the last one was met, it gives out that one. -/
theorem nextSequence_follows_history (preferences : Preferences) (operations : List Operation) :
    let registry := ((empty preferences).performAll operations).registry
    let trace := (empty preferences).trace operations
    (∃ highest, (highest = 0 ∨ Met trace highest) ∧ (∀ sequence, Met trace sequence → sequence ≤ highest) ∧
        registry.nextSequence.toNat = min (highest.toNat + 1) 4294967295) ∧
      (∀ step ∈ trace, step.1.nextSequence ≤ registry.nextSequence) ∧
      (∀ terminal, (terminal ∈ registry.terminals ∨
          ∃ step ∈ trace, terminal ∈ step.1.terminals ∨ .store terminal ∈ step.2.edits step.1) →
        terminal.sequence = 0xFFFFFFFF ∨ terminal.sequence < registry.nextSequence) ∧
      (∀ step ∈ trace, ∀ sequence, Issues sequence step →
        sequence = 0xFFFFFFFF ∨ sequence < registry.nextSequence) ∧
      ∀ earlier creation later sequence, trace = earlier ++ creation :: later → Issues sequence creation →
        (Met earlier 0xFFFFFFFF → sequence = 0xFFFFFFFF) ∧
        (¬ Met earlier 0xFFFFFFFF →
          ∀ step ∈ earlier, ∀ previous, Issues previous step → previous < sequence) := by
  intro registry trace
  have hc : Counts (Met trace) registry := counts_performAll preferences operations
  have hsplit : ∀ {earlier step later}, trace = earlier ++ step :: later → Counts (Met earlier) step.1 := by
    intro earlier step later ht
    obtain ⟨performed, rfl, hr⟩ := trace_split ht
    exact hr ▸ counts_performAll preferences performed
  have hmet : ∀ {earlier step later}, trace = earlier ++ step :: later →
      ∀ sequence, Met earlier sequence → Met trace sequence := by
    rintro earlier step later ht sequence ⟨other, hm, hs⟩
    exact ⟨other, ht ▸ List.mem_append_left _ hm, hs⟩
  refine ⟨⟨_, hc.attained, hc.bounded, hc.next_toNat⟩, ?_, ?_, ?_, ?_⟩
  · intro step hm
    obtain ⟨earlier, later, ht⟩ := List.append_of_mem hm
    exact (hsplit ht).next_mono hc (hmet ht)
  · rintro terminal (hm | ⟨step, hs, hm | hm⟩)
    · exact hc.lt_next (hc.terminals terminal hm)
    · obtain ⟨earlier, later, ht⟩ := List.append_of_mem hs
      exact hc.lt_next (hmet ht _ ((hsplit ht).terminals terminal hm))
    · exact hc.lt_next ⟨step, hs, .inl ⟨terminal, hm, rfl⟩⟩
  · intro step hm sequence hi
    exact hc.lt_next ⟨step, hm, .inr hi⟩
  · intro earlier creation later sequence ht hi
    obtain ⟨-, rfl⟩ := issues_iff.mp hi
    refine ⟨(hsplit ht).next_of_last, fun hn step hm previous hp => ?_⟩
    have hs : Met earlier previous := ⟨step, hm, .inr hp⟩
    exact ((hsplit ht).lt_next hs).resolve_left fun hl => hn (hl ▸ hs)

theorem nextSequence_follows_history_last :
    let terminal : Terminal := { handle := "h", caption := "a", sequence := 0xFFFFFFFF }
    let operations := [.createNew, .createNamed "b", .add terminal, .remove "h", .createNew]
    let trace := (empty {}).trace operations
    ((empty {}).performAll operations).answer =
        [.sequence (some 1), .sequence (some 2), .done, .done, .sequence (some 0xFFFFFFFF)] ∧
      ∀ step ∈ trace.drop 4, ∀ sequence, Issues sequence step → sequence = 0xFFFFFFFF := by
  intro terminal operations trace
  obtain ⟨-, -, -, -, hc⟩ := nextSequence_follows_history {} operations
  refine ⟨by decide, fun step hm sequence hi => ?_⟩
  obtain rfl := List.mem_singleton.mp hm
  have hs : .store terminal ∈ [Edit.store terminal] := List.mem_singleton_self _
  have hm : Met (trace.take 4) 0xFFFFFFFF := ⟨_, List.mem_of_getElem? (i := 2) rfl, .inl ⟨terminal, hs, rfl⟩⟩
  exact (hc (trace.take 4) _ [] sequence rfl hi).1 hm

end Registry

end TerminalSessions
