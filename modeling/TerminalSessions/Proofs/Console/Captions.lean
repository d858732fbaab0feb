import Mathlib.Data.List.Induction
import TerminalSessions.Proofs.Console.Handles
import TerminalSessions.Proofs.Console.Starting

/-! Captions at a console that takes in all events after each line. A named session gets a caption that no
terminal has, and a resumed one keeps its own; one without a name may get the caption of another terminal. -/

namespace TerminalSessions

namespace Console

def settle (console : Console) (times : EntryTimes) (text : String) : Console :=
  (console.after (.line times text)).deliverAll.2

structure Settled (console : Console) : Prop where
  sound : console.Sound
  listening : console.backend.listening = true
  waiting : console.backend.waiting = []
  pending : console.registry.pending = []
  captioned : "" ∉ console.registry.captions

variable {console : Console} (times : EntryTimes) (text : String)

lemma settle_registry : (console.settle times text).registry =
    (console.after (.line times text)).backend.waiting.foldl Registry.absorb
      (console.after (.line times text)).registry := by
  rw [settle, deliverAll_console]

lemma absorb_reaped {registry : Registry} {events : List BackendEvent}
    (h : ∀ terminal, .started terminal ∉ events) : events.foldl Registry.absorb registry = registry := by
  induction events with
  | nil => rfl
  | cons event events ih =>
    cases event with
    | started terminal => exact absurd List.mem_cons_self (h terminal)
    | reaped handle => exact ih fun terminal hm => h terminal (List.mem_cons_of_mem _ hm)

lemma settle_quiet (h : console.Settled) (hr : console.request? (.line times text) = none) :
    (console.settle times text).registry = (console.after (.line times text)).registry := by
  obtain ⟨sent, hw, hs⟩ := (console.line_extends times text).sent
  rw [settle_registry]
  refine absorb_reaped fun terminal hm => ?_
  rw [hw, h.waiting, List.nil_append] at hm
  obtain ⟨request, hq, _⟩ := hs terminal hm
  rw [hr] at hq
  exact List.not_mem_nil hq

lemma settle_start (h : console.Settled) {request : SessionRequest}
    (hr : console.request? (.line times text) = some request) :
    (console.settle times text).registry = (console.after (.line times text)).registry.store
      (request.terminal (request.handle.getD (console.backend.supply console.backend.opened))) := by
  rw [settle_registry, requested_waiting h.listening hr, h.waiting]
  rfl

variable {times text}

lemma after_terminals {request : SessionRequest} (hr : console.request? (.line times text) = some request) :
    (console.after (.line times text)).registry.terminals = console.registry.terminals := by
  obtain ⟨operation, ho, hq⟩ := Option.bind_eq_some_iff.mp hr
  have hc : operation.changes console.registry.preferences.defaults = [] := by
    cases operation with
    | createNew | createNamed | reconnect => rfl
    | add | restore | remove | close | terminateAll | retitle | notify => cases hq
  rw [after_operation ho, carryOut, follow, Registry.perform_terminals, hc]
  rfl

lemma captions_quiet (h : console.Settled) (hr : console.request? (.line times text) = none) :
    (console.settle times text).registry.captions.Sublist console.registry.captions := by
  rw [settle_quiet times text h hr]
  exact console.line_captions times text

lemma captions_resumed (h : console.Settled) {request : SessionRequest}
    (hr : console.request? (.line times text) = some request)
    {handle : String} (hh : request.handle = some handle) :
    (console.settle times text).registry.captions = console.registry.captions := by
  obtain ⟨operation, _, hq⟩ := Option.bind_eq_some_iff.mp hr
  rcases Operation.request_cases hq with hn | ⟨known, blinking, hf, rfl⟩
  · exact absurd (hh.symm.trans hn) (by simp)
  · have hc : known.caption ≠ "" := by
      rintro hc
      exact h.captioned (hc ▸ List.mem_map_of_mem (List.mem_of_find?_eq_some hf))
    have hk : (SessionRequest.resume known blinking).chosenCaption = known.caption :=
      SessionRequest.chosenCaption_some rfl hc
    rw [settle_start times text h hr, Registry.captions, Registry.store, after_terminals hr]
    exact Terminals.captions_put_found hf hk

lemma captions_opened (h : console.Settled) {request : SessionRequest}
    (hr : console.request? (.line times text) = some request) (hh : request.handle = none) :
    (console.settle times text).registry.captions =
      console.registry.captions ++ [request.chosenCaption] := by
  have hn : console.backend.supply console.backend.opened ∉ console.registry.handles :=
    fun hm => h.sound.registered _ hm _ le_rfl rfl
  rw [settle_start times text h hr, Registry.captions, Registry.store, after_terminals hr, hh,
    Terminals.put_unused _ _ hn, List.map_append]
  rfl

lemma after_pending {caption : String} (h : caption ∈ (console.after (.line times text)).registry.pending) :
    caption ∈ console.registry.pending ∨ ∃ request, console.request? (.line times text) = some request ∧
      request.caption = some caption ∧ caption ≠ "" := by
  cases ho : (Move.line times text).operation? with
  | none => exact .inl (by rwa [after_no_operation ho] at h)
  | some operation =>
    rw [after_operation ho] at h
    simpa only [request?, ho, Option.bind_some] using Registry.perform_pending h

lemma pending_settle (h : console.Settled) (times : EntryTimes) (text : String) :
    (console.settle times text).registry.pending = [] := by
  have hn : ∀ caption, caption ∉ console.registry.pending := by simp [h.pending]
  refine List.eq_nil_iff_forall_not_mem.mpr fun caption hm => ?_
  cases hr : console.request? (.line times text) with
  | none =>
    rw [settle_quiet times text h hr] at hm
    rcases after_pending hm with hm | ⟨request, hq, _⟩
    · exact hn caption hm
    · exact absurd (hr.symm.trans hq) (by simp)
  | some request =>
    rw [settle_start times text h hr] at hm
    obtain ⟨hm, hc⟩ := List.mem_filter.mp hm
    rcases after_pending hm with hm | ⟨asked, hq, hs, he⟩
    · exact hn caption hm
    · obtain rfl := Option.some.inj (hr.symm.trans hq)
      exact absurd (SessionRequest.chosenCaption_some hs he).symm (of_decide_eq_true hc)

lemma Settled.settle (h : console.Settled) (times : EntryTimes) (text : String) :
    (console.settle times text).Settled where
  sound := by
    rw [Console.settle, deliverAll, deliver_moves]
    exact (h.sound.line times text).play _
  listening := by
    rw [Console.settle, deliverAll_console]
    exact (console.line_extends times text).listening.trans h.listening
  waiting := by rw [Console.settle, deliverAll_console]
  pending := pending_settle h times text
  captioned := by
    cases hr : console.request? (.line times text) with
    | none => exact fun hm => h.captioned ((captions_quiet h hr).subset hm)
    | some request =>
      cases hh : request.handle with
      | some handle => rw [captions_resumed h hr hh]; exact h.captioned
      | none =>
        rw [captions_opened h hr hh, List.mem_append, List.mem_singleton]
        exact not_or.mpr ⟨h.captioned, request.chosenCaption_ne_empty.symm⟩

lemma opened_caption {request : SessionRequest} (hr : console.request? (.line times text) = some request)
    (hh : request.handle = none) :
    (Command.ofLine text = .ok (.new "") ∧
      request.chosenCaption = defaultCaption console.registry.nextSequence) ∨
    console.registry.isCaptionFree request.chosenCaption := by
  obtain ⟨operation, ho, hq⟩ := Option.bind_eq_some_iff.mp hr
  obtain ⟨command, hc, hk⟩ := Option.bind_eq_some_iff.mp ho
  obtain ⟨_, _, hm, hl⟩ := Move.line_of_command hc
  obtain ⟨rfl, rfl⟩ := Move.line.inj hm
  cases command with
  | new caption =>
    obtain rfl := Option.some.inj hk
    simp only [Operation.request?] at hq
    split_ifs at hq with he hf
    · obtain rfl : caption = "" := by simpa using he
      exact .inl ⟨hl, by rw [← Option.some.inj hq]; rfl⟩
    · rw [← Option.some.inj hq, SessionRequest.chosenCaption_some rfl (by simpa using he)]
      exact .inr hf.1
  | reconnect handle =>
    obtain rfl := Option.some.inj hk
    obtain ⟨known, _, rfl⟩ := Option.map_eq_some_iff.mp hq
    cases hh
  | list | retitle | close | subprocs | cwd | find | busy | save | terminateAll | quit =>
    cases hk <;> cases hq

lemma unnamed_request (hc : Command.ofLine text = .ok (.new "")) :
    console.request? (.line times text) =
      some (console.registry.freshRequest console.registry.nextSequence none) := by
  rw [request?, Move.operation_of_line hc]
  rfl

lemma nodup_settle_iff (h : console.Settled) (hn : console.registry.captions.Nodup) :
    (console.settle times text).registry.captions.Nodup ↔
      (Command.ofLine text = .ok (.new "") →
        console.registry.isCaptionFree (defaultCaption console.registry.nextSequence)) := by
  constructor
  · intro hs hc
    rw [captions_opened h (unnamed_request hc) rfl] at hs
    rw [Registry.isCaptionFree_iff]
    exact (List.disjoint_singleton.mp (List.disjoint_of_nodup_append hs))
  · intro hf
    cases hr : console.request? (.line times text) with
    | none => exact hn.sublist (captions_quiet h hr)
    | some request =>
      cases hh : request.handle with
      | some handle => rwa [captions_resumed h hr hh]
      | none =>
        have hfree : request.chosenCaption ∉ console.registry.captions := by
          rw [← Registry.isCaptionFree_iff]
          rcases opened_caption hr hh with ⟨hc, hd⟩ | hfree
          · exact hd ▸ hf hc
          · exact hfree
        rw [captions_opened h hr hh]
        exact hn.append (List.nodup_singleton _) (List.disjoint_singleton.mpr hfree)

def typeLines (console : Console) : List (EntryTimes × String) → StateM FileTree Console
  | [] => return console
  | (times, text) :: lines => do
    let turn ← console.runLine times text
    turn.console.deliverAll.2.typeLines lines

lemma typeLines_console (console : Console) (files : FileTree) (lines : List (EntryTimes × String)) :
    (console.typeLines lines files).1 =
      lines.foldl (fun console line => console.settle line.1 line.2) console := by
  induction lines generalizing console files with
  | nil => rfl
  | cons line lines ih =>
    rw [List.foldl_cons, settle, ← runLine_console console files line.1 line.2]
    exact ih _ _

lemma settled_empty (preferences : Preferences) {supply : Nat → String} (h : supply.Injective)
    (stateFile : String) (log : AuditLog) : (empty preferences supply stateFile log).Settled where
  sound :=
    ⟨h, List.nodup_nil, fun _ hm => absurd hm List.not_mem_nil, fun _ hm => absurd hm List.not_mem_nil⟩
  listening := rfl
  waiting := rfl
  pending := rfl
  captioned := List.not_mem_nil

lemma Settled.typeLines (h : console.Settled) (lines : List (EntryTimes × String)) (files : FileTree) :
    (console.typeLines lines files).1.Settled := by
  rw [typeLines_console]
  induction lines generalizing console with
  | nil => exact h
  | cons line lines ih => exact ih (h.settle line.1 line.2)

lemma typeLines_snoc (console : Console) (files : FileTree) (lines : List (EntryTimes × String))
    (times : EntryTimes) (text : String) : (console.typeLines (lines ++ [(times, text)]) files).1 =
      (console.typeLines lines files).1.settle times text := by
  rw [typeLines_console, typeLines_console, List.foldl_append]
  rfl

/-- The captions of the terminals stay distinct exactly as long as the default caption is free whenever a
session without a name is opened. -/
theorem captions_nodup_iff (preferences : Preferences) {supply : Nat → String}
    (hinjective : supply.Injective) (stateFile : String) (log : AuditLog) (files : FileTree)
    (lines : List (EntryTimes × String)) :
    let console := empty preferences supply stateFile log
    let registryAfter typed := (console.typeLines typed files).1.registry
    (∀ typed, typed <+: lines → (registryAfter typed).captions.Nodup) ↔
      ∀ typed times text, typed ++ [(times, text)] <+: lines → Command.ofLine text = .ok (.new "") →
        (registryAfter typed).isCaptionFree (defaultCaption (registryAfter typed).nextSequence) := by
  intro console registryAfter
  have hsettled : ∀ typed, (console.typeLines typed files).1.Settled := fun typed =>
    (settled_empty preferences hinjective stateFile log).typeLines typed files
  constructor
  · intro hn typed times text ht hc
    have hnext := hn _ ht
    simp only [registryAfter, typeLines_snoc] at hnext
    exact (nodup_settle_iff (hsettled typed) (hn typed ((List.prefix_append _ _).trans ht))).mp hnext hc
  · intro hf typed ht
    induction typed using List.reverseRecOn with
    | nil => exact List.nodup_nil
    | append_singleton typed line ih =>
      obtain ⟨times, text⟩ := line
      simp only [registryAfter, typeLines_snoc]
      refine (nodup_settle_iff (hsettled typed) (ih ((List.prefix_append _ _).trans ht))).mpr ?_
      exact hf typed times text ht

theorem captions_nodup_unnamed :
    (Backend.numberedHandle []).Injective ∧
      ∀ typed, typed <+: [(default, "new a"), (default, "new")] →
        (plain.typeLines typed plainFiles).1.registry.captions.Nodup := by
  refine ⟨Backend.numberedHandle_injective [], (captions_nodup_iff {} (Backend.numberedHandle_injective [])
    "terminals.json" ⟨"audit.log", 1000⟩ plainFiles [(default, "new a"), (default, "new")]).mpr ?_⟩
  intro typed times text ht hc
  rcases typed with _ | ⟨first, _ | ⟨second, others⟩⟩
  · obtain ⟨-, rfl⟩ : times = default ∧ text = "new a" := by simpa using ht
    exact absurd hc (by decide)
  · obtain ⟨rfl, -, -⟩ : first = (default, "new a") ∧ times = default ∧ text = "new" := by simpa using ht
    simp only [typeLines_console]
    decide
  · simp at ht

theorem caption_given_twice :
    (plain.typeLines [(default, "new Terminal 2"), (default, "new")] plainFiles).1.registry.captions =
      ["Terminal 2", "Terminal 2"] := by
  rw [typeLines_console]
  decide

end Console

end TerminalSessions
