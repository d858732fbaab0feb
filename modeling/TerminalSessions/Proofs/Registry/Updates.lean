import TerminalSessions.Proofs.Registry.Reservations
import TerminalSessions.Proofs.Registry.Sequences

/-! Updates of registered terminals. They store a terminal again, which could raise the highest sequence, release a
caption or add a terminal; in a registry that operations lead to it does none of these. -/

namespace TerminalSessions

open Terminals

lemma Update.apply_sequence (update : Update) (terminal : Terminal) :
    (update.apply terminal).sequence = terminal.sequence := by
  cases update <;> rfl

namespace Registry

def adjust (registry : Registry) (handle : String) (adjusted : Terminal → Terminal) : Registry :=
  { registry with
    terminals := registry.terminals.map fun terminal =>
      if terminal.handle = handle then adjusted terminal else terminal }

section Adjusting

variable {registry : Registry} {handle : String} {adjusted : Terminal → Terminal}

lemma field_kept {α : Type} (field : Terminal → α) (hk : ∀ terminal, field (adjusted terminal) = field terminal)
    (terminal : Terminal) :
    field (if terminal.handle = handle then adjusted terminal else terminal) = field terminal := by
  split_ifs
  · exact hk terminal
  · rfl

lemma map_adjust {α : Type} (field : Terminal → α) (hk : ∀ terminal, field (adjusted terminal) = field terminal) :
    (registry.adjust handle adjusted).terminals.map field = registry.terminals.map field := by
  rw [adjust, List.map_map]
  apply List.map_congr_left
  intro terminal _
  exact field_kept field hk terminal

lemma find_adjust (registry : Registry) (handle other : String)
    (hh : ∀ terminal, (adjusted terminal).handle = terminal.handle) :
    (registry.adjust handle adjusted).find? other =
      if handle = other then (registry.find? handle).map adjusted else registry.find? other := by
  have hm : (registry.adjust handle adjusted).find? other = (registry.find? other).map fun terminal =>
      if terminal.handle = handle then adjusted terminal else terminal := by
    rw [find?, adjust, List.find?_map]
    simp only [Function.comp_def, field_kept (·.handle) hh]
    rfl
  rw [hm]
  split_ifs with ho
  · subst ho
    cases hf : registry.find? handle with
    | none => rfl
    | some terminal => rw [Option.map_some, if_pos (handle_of_find hf), Option.map_some]
  · cases hf : registry.find? other with
    | none => rfl
    | some terminal =>
      have hn : terminal.handle ≠ handle := fun he => ho (he.symm.trans (handle_of_find hf))
      rw [Option.map_some, if_neg hn]

lemma next_adjust (hs : ∀ terminal, (adjusted terminal).sequence = terminal.sequence) :
    (registry.adjust handle adjusted).nextSequence = registry.nextSequence := by
  rw [nextSequence, map_adjust (·.sequence) hs]
  rfl

lemma adjust_eq_self (hn : registry.handles.Nodup)
    (h : ∀ terminal, registry.find? handle = some terminal → adjusted terminal = terminal) :
    registry.adjust handle adjusted = registry := by
  have hm : ∀ terminal ∈ registry.terminals,
      (if terminal.handle = handle then adjusted terminal else terminal) = terminal := by
    intro terminal hm
    split_ifs with hh
    · exact h terminal (hh ▸ find_of_mem hn hm)
    · rfl
  rw [adjust, List.map_congr_left hm, List.map_id']

lemma put_adjusted {known : Terminal} (hn : registry.handles.Nodup) (hf : registry.find? handle = some known)
    (hh : ∀ terminal, (adjusted terminal).handle = terminal.handle) :
    putTerminal (adjusted known) registry.terminals = (registry.adjust handle adjusted).terminals := by
  have hk : (adjusted known).handle = handle := (hh known).trans (handle_of_find hf)
  have hm : (adjusted known).handle ∈ registry.handles := hk ▸ mem_handles_iff.mpr ⟨known, hf⟩
  apply ext_find (nodup_put _ _ hn)
  · rw [handles_put, map_adjust (·.handle) hh]
    exact if_pos hm
  · intro other
    have ha := find_adjust registry handle other hh
    rw [hf, Option.map_some] at ha
    rw [find_put, hk]
    exact ha.symm

end Adjusting

structure Steady (registry : Registry) : Prop where
  nodup : registry.handles.Nodup
  highest : ∀ terminal ∈ registry.terminals, terminal.sequence ≤ registry.highestSequence
  unused : ∀ caption ∈ registry.pending, caption ∉ registry.captions

lemma steady_of_reachable {registry : Registry} (h : registry.Reachable) : registry.Steady := by
  have hn := nodup_of_reachable h
  obtain ⟨preferences, operations, rfl⟩ := h
  have hc := counts_performAll preferences operations
  exact ⟨hn, fun terminal hm => hc.bounded _ (hc.terminals terminal hm), pending_unused preferences operations⟩

namespace Steady

variable {registry : Registry} {handle : String} {known : Terminal}

lemma pending_known (h : registry.Steady) (hf : registry.find? handle = some known) :
    registry.pending.filter (· ≠ known.caption) = registry.pending := by
  apply List.filter_eq_self.mpr
  intro caption hp
  have hc : known.caption ∈ registry.captions := List.mem_map_of_mem (List.mem_of_find?_eq_some hf)
  exact decide_eq_true fun he => h.unused caption hp (he ▸ hc)

lemma store_adjusted (h : registry.Steady) (hf : registry.find? handle = some known)
    (adjusted : Terminal → Terminal) (hh : ∀ terminal, (adjusted terminal).handle = terminal.handle)
    (hs : (adjusted known).sequence = known.sequence) :
    registry.store (adjusted known) =
      { registry.adjust handle adjusted with
        pending := registry.pending.filter (· ≠ (adjusted known).caption) } := by
  have hb := UInt32.le_iff_toNat_le.mp (h.highest known (List.mem_of_find?_eq_some hf))
  have hm : max registry.highestSequence (adjusted known).sequence = registry.highestSequence := by
    rw [hs, ← UInt32.toNat_inj, UInt32.toNat_max]
    exact max_eq_left hb
  rw [store, put_adjusted h.nodup hf hh, hm]
  rfl

lemma set_registry (h : registry.Steady) (handle : String) (update : Update) :
    (registry.set handle update).registry = registry.adjust handle (update.apply ·) := by
  -- only a known terminal without the value is stored again; otherwise there is nothing to adjust
  cases hf : registry.find? handle with
  | none =>
    rw [set_unknown update hf, adjust_eq_self h.nodup]
    · rfl
    · intro terminal hk
      rw [hf] at hk
      cases hk
  | some known =>
    by_cases hu : update.Holds known
    · rw [set_same hf hu, adjust_eq_self h.nodup]
      · rfl
      · intro terminal hk
        obtain rfl := Option.some.inj (hf.symm.trans hk)
        exact Update.apply_of_holds hu
    · have hs : (update.apply known).sequence = known.sequence := update.apply_sequence known
      rw [set_other hf hu]
      change registry.store (update.apply known) = _
      rw [h.store_adjusted hf (update.apply ·) update.apply_handle hs, update.apply_caption, h.pending_known hf]
      rfl

end Steady

structure Adjusts (before after : Registry) (handle : String) (adjusted : Terminal → Terminal) : Prop where
  whole : after = before.adjust handle adjusted
  handles : after.handles = before.handles
  found : after.find? handle = (before.find? handle).map adjusted
  others : ∀ other, handle ≠ other → after.find? other = before.find? other
  next : after.nextSequence = before.nextSequence

variable {registry after : Registry} {handle : String}

lemma adjusts_update {update : Update} (h : after = registry.adjust handle (update.apply ·)) :
    registry.Adjusts after handle (update.apply ·) where
  whole := h
  handles := by rw [h, Registry.handles, map_adjust (·.handle) update.apply_handle, Registry.handles]
  found := by rw [h, find_adjust registry handle handle update.apply_handle, if_pos rfl]
  others other ho := by rw [h, find_adjust registry handle other update.apply_handle, if_neg ho]
  next := by rw [h, next_adjust update.apply_sequence]

lemma set_answer (update : Update) : (registry.set handle update).answer = true ↔
    ∃ terminal, registry.find? handle = some terminal ∧ ¬ update.Holds terminal := by
  cases hf : registry.find? handle with
  | none => simp [set_unknown update hf, unchanged]
  | some known =>
    by_cases hu : update.Holds known
    · simp [set_same hf hu, unchanged, hu]
    · simp [set_other hf hu, Step.map, hu]

theorem updates_touch_one_field (hr : registry.Reachable) (handle : String) :
    (∀ title,
        registry.Adjusts (registry.retitle handle title).registry handle (fun terminal => { terminal with title }) ∧
          ((registry.retitle handle title).answer = true ↔
            ∃ terminal, registry.find? handle = some terminal ∧ terminal.title ≠ title)) ∧
      (∀ busy, registry.Adjusts (registry.notify (.subprocessesChanged handle busy)).registry handle
        fun terminal => { terminal with busy }) ∧
      ∀ workingDirectory,
        registry.Adjusts (registry.notify (.workingDirectoryChanged handle workingDirectory)).registry handle
          fun terminal => { terminal with workingDirectory } := by
  have hs := steady_of_reachable hr
  refine ⟨fun title => ⟨?_, set_answer (.title title)⟩, fun busy => ?_, fun directory => ?_⟩
  · exact adjusts_update (hs.set_registry handle (.title title))
  · exact adjusts_update (hs.set_registry handle (.busy busy))
  · exact adjusts_update (hs.set_registry handle (.workingDirectory directory))

theorem updates_touch_one_field_pending :
    let registry := ((empty {}).performAll
      [.restore [{ handle := "a", caption := "x", sequence := 7 }, { handle := "b", sequence := 2 }],
        .createNamed "c"]).registry
    let after := (registry.retitle "b" "t").registry
    (registry.retitle "b" "t").answer = true ∧ (registry.retitle "d" "t").registry = registry ∧
      after.terminals =
        [{ handle := "a", caption := "x", sequence := 7 }, { handle := "b", sequence := 2, title := "t" }] ∧
      after.highestSequence = 8 ∧ after.nextSequence = 9 ∧ after.pending = ["c"] := by
  intro registry after
  have hr : registry.Reachable := ⟨{}, _, rfl⟩
  obtain ⟨hb, ha⟩ := (updates_touch_one_field hr "b").1 "t"
  obtain ⟨hd, -⟩ := (updates_touch_one_field hr "d").1 "t"
  have hw : after = registry.adjust "b" fun terminal => { terminal with title := "t" } := hb.whole
  refine ⟨ha.mpr ⟨{ handle := "b", sequence := 2 }, rfl, by decide⟩, hd.whole, ?_, ?_, hb.next, ?_⟩
  · exact congrArg Registry.terminals hw
  · exact congrArg Registry.highestSequence hw
  · exact congrArg Registry.pending hw

end Registry

end TerminalSessions
