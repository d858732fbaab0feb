import TerminalSessions.Proofs.Registry.Requests
import TerminalSessions.Proofs.Registry.Updates

/-! Sessions of known terminals that are resumed. The backend answers with a terminal that is put in the place of the
known one; when nothing happened in between, it is the same terminal again. -/

namespace TerminalSessions

lemma SessionRequest.terminal_resume_uncaptioned {terminal : Terminal} (h : terminal.caption = "") (blinking : Bool) :
    (resume terminal blinking).terminal terminal.handle =
      { terminal with caption := defaultCaption terminal.sequence } := by
  have hc : (resume terminal blinking).chosenCaption = defaultCaption terminal.sequence := by
    simp [chosenCaption, resume, h]
  simp only [SessionRequest.terminal, hc]
  rfl

namespace Registry

variable {registry : Registry} {handle : String} {known : Terminal}

lemma Steady.store_known (h : registry.Steady) (hf : registry.find? handle = some known) :
    registry.store known = registry := by
  have ha : registry.adjust handle id = registry := adjust_eq_self h.nodup fun _ _ => rfl
  have hs : registry.store known =
      { registry.adjust handle id with pending := registry.pending.filter (· ≠ known.caption) } :=
    h.store_adjusted hf id (fun _ => rfl) rfl
  rw [hs, ha, h.pending_known hf]

lemma reconnect_known (hf : registry.find? handle = some known) : registry.reconnect handle =
    registry.start true (.resume known registry.preferences.blinkingCursor) := by
  simp only [reconnect, hf]

theorem resumed_as_known (hr : registry.Reachable) (hm : handle ∈ registry.handles) :
    ∃ terminal request, registry.find? handle = some terminal ∧ (registry.reconnect handle).answer = true ∧
      Effect.requests (registry.reconnect handle).effects = [request] ∧
      let added := ((registry.reconnect handle).registry.add (request.terminal handle)).registry
      (terminal.caption ≠ "" → added = registry) ∧
        (terminal.caption = "" →
          added =
            { registry.adjust handle (fun terminal => { terminal with caption := defaultCaption terminal.sequence })
              with pending := registry.pending.filter (· ≠ defaultCaption terminal.sequence) }) := by
  have hs := steady_of_reachable hr
  obtain ⟨known, hf⟩ := mem_handles_iff.mp hm
  obtain rfl : known.handle = handle := Terminals.handle_of_find hf
  rw [reconnect_known hf]
  refine ⟨known, .resume known registry.preferences.blinkingCursor, hf, rfl, rfl, fun hc => ?_, fun hc => ?_⟩
  · rw [SessionRequest.terminal_resume hc]
    exact hs.store_known hf
  · rw [SessionRequest.terminal_resume_uncaptioned hc]
    exact hs.store_adjusted hf (fun terminal => { terminal with caption := defaultCaption terminal.sequence })
      (fun _ => rfl) rfl

theorem resumed_as_known_uncaptioned :
    let registry := ((empty {}).performAll
      [.restore [{ handle := "a", caption := "x", sequence := 2, zombie := true }, { handle := "b", sequence := 5 }],
        .createNamed "Terminal 5"]).registry
    let added handle request := ((registry.reconnect handle).registry.add (request.terminal handle)).registry
    (∃ request, Effect.requests (registry.reconnect "a").effects = [request] ∧ added "a" request = registry) ∧
      ∃ request, Effect.requests (registry.reconnect "b").effects = [request] ∧
        (added "b" request).captions = ["x", "Terminal 5"] ∧ (added "b" request).highestSequence = 6 ∧
        registry.pending = ["Terminal 5"] ∧ (added "b" request).pending = [] := by
  intro registry added
  have hr : registry.Reachable := ⟨{}, _, rfl⟩
  obtain ⟨first, request, hf, -, ha, hsame, -⟩ := resumed_as_known hr (by decide : "a" ∈ registry.handles)
  obtain ⟨second, other, hs, -, hb, -, hnamed⟩ := resumed_as_known hr (by decide : "b" ∈ registry.handles)
  obtain rfl : { handle := "a", caption := "x", sequence := 2, zombie := true } = first := Option.some.inj hf
  obtain rfl : { handle := "b", sequence := 5 } = second := Option.some.inj hs
  have hadded := hnamed rfl
  refine ⟨⟨request, ha, hsame (by decide)⟩, other, hb, ?_, ?_, rfl, ?_⟩
  · exact (congrArg Registry.captions hadded).trans (by decide)
  · exact congrArg Registry.highestSequence hadded
  · exact (congrArg Registry.pending hadded).trans (by decide)

end Registry

end TerminalSessions
