import TerminalSessions.Proofs.Console.Reservations
import TerminalSessions.Proofs.Registry.Openings

/-! Lines that open sessions: their answers, and the terminals that they lead to, do not depend on when the starts
are delivered. A console mirrors a registry that is asked for the same sessions and gets none of them. -/

namespace TerminalSessions

open TerminalSessions.Text (decimal)

def Move.text? : Move → Option String
  | line _ text => some text
  | delivery => none

namespace Console

def announced (caption : String) : Option UInt32 → Except Failure Reply
  | some sequence => .ok (.output ("starting terminal " ++ decimal sequence.toNat))
  | none => .error (.captionInUse caption)

def answers (console : Console) : List Move → StateM FileTree (List (Except Failure Reply))
  | [] => return []
  | .line times text :: moves => do
    let turn ← console.runLine times text
    return turn.answer :: (← turn.console.answers moves)
  | .delivery :: moves => (console.deliver 1).2.answers moves

def sessions (console : Console) : List Terminal :=
  console.registry.terminals ++ console.backend.starting

variable {console : Console} {caption text : String}

lemma new_answer (h : Command.ofLine text = .ok (.new caption)) (times : EntryTimes) (files : FileTree) :
    (console.runLine (m := StateM FileTree) times text files).1.answer =
      announced caption (console.registry.createNamed caption).answer := by
  simp only [runLine, h]
  change ((Command.new caption).apply console.registry).answer.map Reply.output = _
  rw [Command.apply, Step.map]
  cases (console.registry.createNamed caption).answer <;> rfl

lemma new_operation (h : Command.ofLine text = .ok (.new caption)) (times : EntryTimes) :
    (Move.line times text).operation? = some (.createNamed caption) :=
  Move.operation_of_line h

lemma after_refused (h : Command.ofLine text = .ok (.new caption)) (times : EntryTimes)
    (hg : console.registry.grant? caption = none) : console.after (.line times text) = console := by
  rw [after_operation (new_operation h times), carryOut, Registry.perform, Registry.createNamed_refused hg]
  rfl

lemma after_granted (h : Command.ofLine text = .ok (.new caption)) (times : EntryTimes)
    (hl : console.backend.listening = true) {named : Option String}
    (hg : console.registry.grant? caption = some named) :
    console.after (.line times text) =
      { console with
        registry := (Edit.issue named).apply console.registry
        backend :=
          { console.backend with
            opened := console.backend.opened + 1
            waiting := console.backend.waiting ++ [.started ((console.registry.freshRequest
              console.registry.nextSequence (some caption)).terminal
                (console.backend.supply console.backend.opened))] } } := by
  let request := console.registry.freshRequest console.registry.nextSequence named
  have hs := Backend.start_new hl (show request.handle = none from rfl)
  rw [after_operation (new_operation h times), carryOut, Registry.perform, Registry.createNamed_granted hg]
  change ({ console with registry := _, backend := console.backend.start request } : Console) = _
  rw [hs, Registry.terminal_granted hg]
  rfl

lemma line_new (h : Command.ofLine text = .ok (.new caption)) (times : EntryTimes)
    (hl : console.backend.listening = true) :
    (console.after (.line times text)).backend.supply = console.backend.supply ∧
      (console.after (.line times text)).backend.opened =
        console.backend.opened + (console.registry.opening? caption).toList.length ∧
      (console.after (.line times text)).sessions = console.sessions ++ SessionRequest.terminals
        console.backend.supply console.backend.opened (console.registry.opening? caption).toList := by
  rw [Registry.opening?]
  cases hg : console.registry.grant? caption with
  | none =>
    rw [after_refused h times hg, Registry.createNamed_refused hg]
    exact ⟨rfl, rfl, (List.append_nil _).symm⟩
  | some named =>
    rw [after_granted h times hl hg, Registry.createNamed_granted hg]
    refine ⟨rfl, rfl, ?_⟩
    simp only [sessions, Backend.starting, BackendEvent.starts_snoc, List.append_assoc]
    rfl

structure Ready (console : Console) : Prop where
  listening : console.backend.listening = true
  injective : console.backend.supply.Injective
  guards : ∀ caption, (∀ n, caption ≠ defaultCaption n) → Guards caption console
  counted : ∀ terminal ∈ console.backend.starting, terminal.sequence ≤ console.registry.highestSequence
  handles : ∃ first count, first + count = console.backend.opened ∧
    console.backend.starting.map (·.handle) = (List.range' first count).map console.backend.supply ∧
    ∀ n, first ≤ n → console.backend.supply n ∉ console.registry.handles

namespace Ready

lemma unregistered (h : console.Ready) {terminal : Terminal} {others : List Terminal}
    (hs : console.backend.starting = terminal :: others) : terminal.handle ∉ console.registry.handles := by
  obtain ⟨first, count, -, hh, hu⟩ := h.handles
  cases count with
  | zero => simp [hs] at hh
  | succ count =>
    rw [hs, List.range'_succ, List.map_cons, List.map_cons] at hh
    rw [(List.cons.inj hh).1]
    exact hu first le_rfl

lemma delivery (h : console.Ready) : (console.after .delivery).Ready := by
  obtain ⟨hs, ho, hl⟩ := console.delivery_backend
  have hg := fun caption hd => (h.guards caption hd).delivery
  obtain ⟨first, count, hc, hh, hu⟩ := h.handles
  rcases console.delivery_cases with ⟨hr, he⟩ | ⟨terminal, hr, he⟩
  · refine ⟨hl.trans h.listening, hs ▸ h.injective, hg, ?_, first, count, ?_, ?_, ?_⟩
    · rw [hr, he]
      exact h.counted
    · rw [ho, hc]
    · rw [he, hs, hh]
    · rw [hr, hs]
      exact hu
  · have hn := h.unregistered he
    refine ⟨hl.trans h.listening, hs ▸ h.injective, hg, ?_, ?_⟩
    · intro other hm
      have hm' := h.counted other (he ▸ List.mem_cons_of_mem _ hm)
      rw [hr, UInt32.le_iff_toNat_le]
      simp only [Registry.store, UInt32.toNat_max]
      exact (UInt32.le_iff_toNat_le.mp hm').trans (le_max_left _ _)
    · -- The start that is delivered brings the first handle of the range.
      cases count with
      | zero => simp [he] at hh
      | succ count =>
        rw [he, List.range'_succ, List.map_cons, List.map_cons] at hh
        obtain ⟨hf, ht⟩ := List.cons.inj hh
        refine ⟨first + 1, count, ?_, ?_, ?_⟩
        · rw [ho]
          omega
        · rw [hs, ht]
        · intro n hfn hm
          rw [hr, hs, Registry.handles_store hn, List.mem_append, List.mem_singleton, hf] at hm
          rcases hm with hm | hm
          · exact hu n (by omega) hm
          · have hi := h.injective hm
            omega

lemma line (h : console.Ready) (hc : Command.ofLine text = .ok (.new caption)) (times : EntryTimes) :
    (console.after (.line times text)).Ready := by
  cases hn : console.registry.grant? caption with
  | none => rwa [after_refused hc times hn]
  | some named =>
    have hm : ∀ command ∈ (Move.line times text).command?, command.keepsReservations := by
      simp [Move.command?, hc, Except.toOption, Command.keepsReservations]
    have hg := fun other ho => (h.guards other ho).line h.listening ho hm
    obtain ⟨first, count, ho, hh, hu⟩ := h.handles
    rw [after_granted hc times h.listening hn] at hg ⊢
    refine ⟨h.listening, h.injective, hg, ?_, first, count + 1, ?_, ?_, hu⟩
    · intro terminal hs
      rw [Backend.starting, BackendEvent.starts_snoc, List.mem_append, List.mem_singleton] at hs
      change terminal.sequence ≤ console.registry.nextSequence
      rw [UInt32.le_iff_toNat_le]
      rcases hs with hs | rfl
      · have hb := UInt32.le_iff_toNat_le.mp (h.counted terminal hs)
        exact hb.trans (UInt32.le_iff_toNat_le.mp console.registry.highest_le_next)
      · exact le_rfl
    · change first + (count + 1) = console.backend.opened + 1
      omega
    · rw [Backend.starting, BackendEvent.starts_snoc, List.map_append]
      change console.backend.starting.map (·.handle) ++ [console.backend.supply console.backend.opened] = _
      rw [hh, List.range'_1_concat, List.map_append, ho]
      rfl

lemma sessions_delivery (h : console.Ready) : (console.after .delivery).sessions = console.sessions := by
  rcases console.delivery_cases with ⟨hr, hs⟩ | ⟨terminal, hr, hs⟩
  · rw [sessions, hr, hs, sessions]
  · have ht := Registry.terminals_store (h.unregistered hs)
    rw [sessions, hr, ht, List.append_assoc, sessions, hs]
    rfl

lemma deliverAll (h : console.Ready) : console.deliverAll.2.registry.terminals = console.sessions := by
  have hd : ∀ (count : ℕ) {console : Console}, console.Ready →
      ((List.replicate count Move.delivery).foldl Console.after console).sessions = console.sessions := by
    intro count
    induction count with
    | zero => exact fun _ => rfl
    | succ count ih =>
      intro console h
      rw [List.replicate_succ, List.foldl_cons, ih h.delivery, h.sessions_delivery]
  have hs : console.deliverAll.2.sessions = console.sessions := by
    rw [Console.deliverAll, deliver_moves]
    exact hd _ h
  have hw : console.deliverAll.2.backend.starting = [] := by
    rw [deliverAll_console]
    rfl
  rw [← hs, sessions, hw, List.append_nil]

end Ready

/-- The console gives the answers that the registry gives. They may differ in what is registered and what is
pending, but not in which captions are taken. -/
structure Mirrors (asked : Registry) (console : Console) : Prop where
  ready : console.Ready
  preferences : console.registry.preferences = asked.preferences
  next : console.registry.nextSequence = asked.nextSequence
  takes : ∀ caption, (∀ n, caption ≠ defaultCaption n) →
    (console.registry.Takes caption ↔ asked.Takes caption)

namespace Mirrors

variable {asked : Registry}

lemma delivery (h : Mirrors asked console) : Mirrors asked (console.after .delivery) := by
  have hready := h.ready.delivery
  rcases console.delivery_cases with ⟨hr, -⟩ | ⟨terminal, hr, hs⟩
  · exact ⟨hready, hr ▸ h.preferences, hr ▸ h.next, hr ▸ h.takes⟩
  · have hm : terminal ∈ console.backend.starting := hs ▸ List.mem_cons_self
    have hn := h.ready.unregistered hs
    refine ⟨hready, ?_, ?_, fun caption hd => ?_⟩ <;> rw [hr]
    · exact h.preferences
    · rw [Registry.next_store hn (h.ready.counted terminal hm), h.next]
    · rw [Registry.takes_store hn, h.takes caption hd]
      rintro rfl
      exact (h.ready.guards _ hd).pending (List.mem_map_of_mem hm)

lemma grant (h : Mirrors asked console) (hd : ∀ n, caption ≠ defaultCaption n) :
    console.registry.grant? caption = asked.grant? caption := by
  simp only [Registry.grant?, h.takes caption hd]

lemma answer (h : Mirrors asked console) (hd : ∀ n, caption ≠ defaultCaption n) :
    (console.registry.createNamed caption).answer = (asked.createNamed caption).answer := by
  have hg := h.grant hd
  cases ha : asked.grant? caption with
  | none =>
    rw [Registry.createNamed_refused ha, Registry.createNamed_refused (hg.trans ha)]
    rfl
  | some named =>
    rw [Registry.createNamed_granted ha, Registry.createNamed_granted (hg.trans ha)]
    exact congrArg some h.next

lemma opening (h : Mirrors asked console) (hd : ∀ n, caption ≠ defaultCaption n) :
    console.registry.opening? caption = asked.opening? caption := by
  rw [Registry.opening?, Registry.opening?, h.answer hd]
  simp only [Registry.freshRequest, h.preferences]

lemma line (h : Mirrors asked console) (hc : Command.ofLine text = .ok (.new caption))
    (hd : ∀ n, caption ≠ defaultCaption n) (times : EntryTimes) :
    Mirrors (asked.createNamed caption).registry (console.after (.line times text)) := by
  have hready := h.ready.line hc times
  have hg := h.grant hd
  cases ha : asked.grant? caption with
  | none =>
    rw [after_refused hc times (hg.trans ha), Registry.createNamed_refused ha]
    exact h
  | some named =>
    rw [after_granted hc times h.ready.listening (hg.trans ha)] at hready ⊢
    rw [Registry.createNamed_granted ha]
    refine ⟨hready, h.preferences, ?_, fun other ho => ?_⟩
    · calc ((Edit.issue named).apply console.registry).nextSequence
          = followingSequence console.registry.nextSequence := Registry.next_issue _ _
        _ = followingSequence asked.nextSequence := by rw [h.next]
        _ = ((Edit.issue named).apply asked).nextSequence := (Registry.next_issue _ _).symm
    · calc ((Edit.issue named).apply console.registry).Takes other
          ↔ named = some other ∨ console.registry.Takes other := Registry.takes_issue _
        _ ↔ named = some other ∨ asked.Takes other := or_congr_right (h.takes other ho)
        _ ↔ ((Edit.issue named).apply asked).Takes other := (Registry.takes_issue _).symm

lemma play (h : Mirrors asked console) {moves : List Move} {captions : List String}
    (hmoves : (moves.filterMap Move.text?).map Command.ofLine = captions.map fun caption => .ok (.new caption))
    (hd : ∀ caption ∈ captions, ∀ n, caption ≠ defaultCaption n) (files : FileTree) :
    (console.answers moves files).1 = List.zipWith announced captions (asked.granted captions) ∧
      (moves.foldl Console.after console).deliverAll.2.registry.terminals =
        console.sessions ++ SessionRequest.terminals console.backend.supply console.backend.opened
          (asked.openings captions) := by
  -- A delivery leaves the sessions as they are, and nobody is asked; a line brings the console and the registry
  -- that is asked to the next caption.
  induction moves generalizing console asked captions files with
  | nil =>
    obtain rfl : captions = [] := List.map_eq_nil_iff.mp hmoves.symm
    exact ⟨rfl, h.ready.deliverAll.trans (List.append_nil _).symm⟩
  | cons move moves ih =>
    cases move with
    | delivery =>
      obtain ⟨hs, ho, -⟩ := console.delivery_backend
      obtain ⟨hanswers, hterminals⟩ := ih h.delivery hmoves hd files
      rw [hs, ho, h.ready.sessions_delivery] at hterminals
      exact ⟨hanswers, hterminals⟩
    | line times text =>
      cases captions with
      | nil => cases hmoves
      | cons caption captions =>
        obtain ⟨hc, hmoves⟩ := List.cons.inj hmoves
        have hcaption := hd caption List.mem_cons_self
        have hothers := fun other ho => hd other (List.mem_cons_of_mem _ ho)
        obtain ⟨hs, ho, hopened⟩ := line_new hc times h.ready.listening
        obtain ⟨hanswers, hterminals⟩ := ih (h.line hc hcaption times) hmoves hothers
          (console.runLine (m := StateM FileTree) times text files).2
        constructor
        · rw [Registry.granted, List.zipWith_cons_cons, ← h.answer hcaption, ← new_answer hc times files,
            ← hanswers, ← runLine_console console files]
          rfl
        · rw [List.foldl_cons, hterminals, hs, ho, hopened, h.opening hcaption, List.append_assoc,
            ← SessionRequest.terminals_append, Registry.openings_cons]

end Mirrors

structure Idle (console : Console) : Prop where
  listening : console.backend.listening = true
  waiting : console.backend.waiting = []
  injective : console.backend.supply.Injective
  unused : ∀ n, console.backend.opened ≤ n → console.backend.supply n ∉ console.registry.handles

lemma Idle.ready (h : console.Idle) : console.Ready := by
  have hs : console.backend.starting = [] := by
    rw [Backend.starting, h.waiting]
    rfl
  refine ⟨h.listening, h.injective, fun caption _ => ⟨?_, ?_, ?_⟩, ?_, console.backend.opened, 0, rfl, ?_,
    h.unused⟩ <;> simp [startingCaptions, hs]

lemma Idle.mirrors (h : console.Idle) : Mirrors console.registry console :=
  ⟨h.ready, rfl, rfl, fun _ _ => Iff.rfl⟩

lemma Idle.sessions (h : console.Idle) : console.sessions = console.registry.terminals := by
  rw [Console.sessions, Backend.starting, h.waiting]
  exact List.append_nil _

/-- When the starts are delivered makes no difference to lines that open sessions: they get the same answers, and
lead to the same terminals up to their handles. Behind the terminals that were there before stand those of the
lines that were granted, in the order of the lines. -/
theorem openings_independent_of_schedule {first second : Console} (hfirst : first.Idle) (hsecond : second.Idle)
    (hregistry : second.registry = first.registry) (lines captions : List String)
    (hlines : lines.map Command.ofLine = captions.map fun caption => .ok (.new caption))
    (hcaptions : ∀ caption ∈ captions, ∀ n, caption ≠ defaultCaption n) (moves others : List Move)
    (hmoves : moves.filterMap Move.text? = lines) (hothers : others.filterMap Move.text? = lines)
    (files files' : FileTree) :
    let reached := (first.play moves files).1.deliverAll.2.registry.terminals
    let reached' := (second.play others files').1.deliverAll.2.registry.terminals
    let requests := first.registry.openings captions
    (first.answers moves files).1 = (second.answers others files').1 ∧
      (first.answers moves files).1 = List.zipWith announced captions (first.registry.granted captions) ∧
      reached.map Terminal.anonymous = reached'.map Terminal.anonymous ∧
      reached = first.registry.terminals ++
        SessionRequest.terminals first.backend.supply first.backend.opened requests ∧
      reached' = first.registry.terminals ++
        SessionRequest.terminals second.backend.supply second.backend.opened requests := by
  intro reached reached' requests
  obtain ⟨ha, ht⟩ := hfirst.mirrors.play (hmoves ▸ hlines) hcaptions files
  obtain ⟨ha', ht'⟩ := hsecond.mirrors.play (hothers ▸ hlines) hcaptions files'
  rw [← play_console first files, hfirst.sessions] at ht
  rw [← play_console second files', hsecond.sessions] at ht'
  rw [hregistry] at ha' ht'
  refine ⟨ha.trans ha'.symm, ha, ?_, ht, ht'⟩
  simp only [reached, reached', ht, ht', List.map_append, SessionRequest.terminals_anonymous]

theorem openings_independent_of_schedule_restored :
    let other := { restored with backend := { supply := Backend.numberedHandle [1] } }
    let moves := [.line default "new b", .line default "new", .line default "new b", .line default "new a"]
    let others := [.line default "new b", .line default "new", .delivery, .line default "new b", .delivery,
      .line default "new a"]
    let reached := (restored.play moves savedFiles).1.deliverAll.2.registry.terminals
    let reached' := (other.play others savedFiles).1.deliverAll.2.registry.terminals
    (restored.answers moves savedFiles).1 =
        [announced "b" (some 4), announced "" (some 5), announced "b" none, announced "a" none] ∧
      (restored.answers moves savedFiles).1 = (other.answers others savedFiles).1 ∧
      reached.map (fun terminal => (terminal.sequence, terminal.caption)) =
        [(3, "a"), (4, "b"), (5, "Terminal 5")] ∧
      reached.map Terminal.anonymous = reached'.map Terminal.anonymous := by
  intro other moves others reached reached'
  have hu : ∀ bytes n, Backend.numberedHandle bytes n ∉ restored.registry.handles := by
    intro bytes n hm
    have hl := Backend.length_numberedHandle bytes n
    rw [List.mem_singleton.mp hm] at hl
    exact absurd hl (by decide)
  have hfirst : restored.Idle := ⟨rfl, rfl, Backend.numberedHandle_injective _, fun n _ => hu _ n⟩
  have hsecond : other.Idle := ⟨rfl, rfl, Backend.numberedHandle_injective _, fun n _ => hu _ n⟩
  have hd : ∀ caption ∈ ["b", "", "b", "a"], ∀ n, caption ≠ defaultCaption n := by
    have hs : ∀ caption ∈ ["b", "", "b", "a"], caption.length < 9 := by decide
    rintro caption hm n rfl
    exact absurd (hs _ hm) (length_defaultCaption n).not_gt
  obtain ⟨ha, hg, ht, hr, -⟩ := openings_independent_of_schedule hfirst hsecond rfl
    ["new b", "new", "new b", "new a"] ["b", "", "b", "a"] (by decide) hd moves others rfl rfl
    savedFiles savedFiles
  refine ⟨?_, ha, ?_, ht⟩
  · rw [hg]
    decide
  · simp only [reached, hr]
    decide

end Console

end TerminalSessions
