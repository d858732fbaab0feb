import TerminalSessions.Proofs.Registry.Changes

/-! Lookups by handle, by index and by caption. Each goes through the list of terminals on its own; they agree because
no registry that operations lead to has a handle twice. -/

namespace TerminalSessions.Registry

variable {registry : Registry} {handle caption : String} {index : ℕ} {terminal : Terminal}

lemma handleAt_iff : registry.handleAt? index = some handle ↔
    ∃ terminal, registry.terminals[index]? = some terminal ∧ terminal.handle = handle :=
  Option.map_eq_some_iff

lemma find_eq_at (registry : Registry) (handle : String) :
    registry.find? handle = (registry.indexOf? handle).bind (registry.terminals[·]?) :=
  List.find?_eq_bind_findIdx?_getElem?

lemma indexOf_at (hn : registry.handles.Nodup) (h : registry.terminals[index]? = some terminal) :
    registry.indexOf? terminal.handle = some index :=
  Terminals.findIdx_of_getElem hn h

lemma find_at (hn : registry.handles.Nodup) (h : registry.terminals[index]? = some terminal) :
    registry.find? terminal.handle = some terminal := by
  rw [find_eq_at, indexOf_at hn h]
  exact h

lemma indexOf_iff (hn : registry.handles.Nodup) :
    registry.indexOf? handle = some index ↔ registry.handleAt? index = some handle := by
  rw [handleAt_iff]
  constructor
  · intro h
    obtain ⟨hl, hh, -⟩ := List.findIdx?_eq_some_iff_getElem.mp h
    exact ⟨registry.terminals[index], List.getElem?_eq_getElem hl, by simpa using hh⟩
  · rintro ⟨terminal, ht, rfl⟩
    exact indexOf_at hn ht

structure FirstWith (registry : Registry) (caption : String) (index : ℕ) (terminal : Terminal) : Prop where
  at_index : registry.terminals[index]? = some terminal
  has_caption : terminal.caption = caption
  before : ∀ earlier < index, ∀ other, registry.terminals[earlier]? = some other → other.caption ≠ caption

lemma find_caption_iff : registry.terminals.find? (·.caption = caption) = some terminal ↔
    ∃ index, registry.FirstWith caption index terminal := by
  rw [List.find?_eq_some_iff_getElem]
  constructor
  · rintro ⟨hc, index, hl, ht, hb⟩
    refine ⟨index, List.getElem?_eq_some_iff.mpr ⟨hl, ht⟩, by simpa using hc, fun earlier he other ho => ?_⟩
    obtain ⟨-, rfl⟩ := List.getElem?_eq_some_iff.mp ho
    simpa using hb earlier he
  · rintro ⟨index, hi, hc, hb⟩
    obtain ⟨hl, ht⟩ := List.getElem?_eq_some_iff.mp hi
    refine ⟨by simpa using hc, index, hl, ht, fun earlier he => ?_⟩
    simpa using hb earlier he _ (List.getElem?_eq_getElem (Nat.lt_trans he hl))

lemma handleFor_iff (hn : registry.handles.Nodup) : registry.handleFor? caption = some handle ↔
    ∃ index terminal, registry.indexOf? handle = some index ∧ registry.find? handle = some terminal ∧
      registry.FirstWith caption index terminal := by
  rw [handleFor?, Option.map_eq_some_iff]
  constructor
  · rintro ⟨terminal, hf, rfl⟩
    obtain ⟨index, hw⟩ := find_caption_iff.mp hf
    exact ⟨index, terminal, indexOf_at hn hw.at_index, find_at hn hw.at_index, hw⟩
  · rintro ⟨index, terminal, -, hf, hw⟩
    exact ⟨terminal, find_caption_iff.mpr ⟨index, hw⟩, Terminals.handle_of_find hf⟩

lemma isCaptionFree_iff_handleFor : registry.isCaptionFree caption = true ↔ registry.handleFor? caption = none := by
  simp [isCaptionFree, handleFor?]

theorem lookups_agree (hr : registry.Reachable) :
    (∀ handle index, registry.indexOf? handle = some index ↔ registry.handleAt? index = some handle) ∧
    (∀ handle, registry.find? handle = (registry.indexOf? handle).bind (registry.terminals[·]?)) ∧
    (∀ terminal ∈ registry.terminals, registry.find? terminal.handle = some terminal) ∧
    (∀ caption handle, registry.handleFor? caption = some handle ↔
      ∃ index terminal, registry.indexOf? handle = some index ∧ registry.find? handle = some terminal ∧
        registry.FirstWith caption index terminal) ∧
    ∀ caption, registry.isCaptionFree caption = true ↔ registry.handleFor? caption = none := by
  have hn := nodup_of_reachable hr
  exact ⟨fun handle index => indexOf_iff hn, registry.find_eq_at, fun terminal hm => Terminals.find_of_mem hn hm,
    fun caption handle => handleFor_iff hn, fun caption => isCaptionFree_iff_handleFor⟩

theorem lookups_agree_removed :
    let registry := ((empty {}).performAll
      [.restore [{ handle := "a", caption := "x", sequence := 1 }, { handle := "b", caption := "y", sequence := 2 },
        { handle := "c", caption := "y", sequence := 3 }, { handle := "b", caption := "z", sequence := 4 }],
        .remove "a"]).registry
    registry.handles = ["b", "c"] ∧ registry.indexOf? "c" = some 1 ∧ registry.handleAt? 1 = some "c" ∧
      registry.handleFor? "y" = some "c" ∧ registry.isCaptionFree "x" = true := by
  intro registry
  have hr : registry.Reachable := ⟨{}, _, rfl⟩
  obtain ⟨hi, -, -, hc, hf⟩ := lookups_agree hr
  have hx : registry.indexOf? "c" = some 1 := by decide
  refine ⟨by decide, hx, (hi "c" 1).mp hx, ?_, (hf "x").mpr (by decide)⟩
  refine (hc "y" "c").mpr ⟨1, { handle := "c", caption := "y", sequence := 3 }, hx, by decide, rfl, rfl, ?_⟩
  intro earlier he other ho
  obtain rfl : earlier = 0 := by omega
  obtain rfl := Option.some.inj ho
  decide

end TerminalSessions.Registry
