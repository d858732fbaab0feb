import TerminalSessions.Proofs.Console.Captions
import TerminalSessions.Proofs.Console.Texts
import TerminalSessions.Proofs.Registry.Reaping

/-! How terminals are addressed in lines. Each of them has a caption that can be typed, by which it is found unless
another one before it has the same, and a line with its handle acts on it and on no other. -/

namespace TerminalSessions

open TerminalSessions.Text (IsWord wordsOf)

namespace Command

variable {command : Command} {handle text word : String} {active : Bool} {others : List String}

lemma ofLine_addressed (verb : Verb) (hw : IsWord handle)
    (ht : wordsOf text = wordsOf (phrase (verb.name :: handle :: others))) :
    ofLine text = ofWords verb (handle :: others.flatMap wordsOf) := by
  have hs : ofLine text = ofLine (phrase (verb.name :: handle :: others)) := by rw [ofLine, ofLine, ht]
  rw [hs, ofLine_phrase, List.flatMap_cons, Text.wordsOf_word hw]
  rfl

lemma isWord_state (h : IsState word active) : IsWord word := by
  cases active <;>
  · simp only [IsState, if_true, Bool.false_eq_true, if_false, List.mem_cons, List.not_mem_nil, or_false] at h
    rcases h with rfl | rfl | rfl <;> decide

lemma ofWords_state (h : IsState word active) :
    ofWords .subprocs (handle :: (word :: others).flatMap wordsOf) = .ok (subprocs handle active) := by
  rw [List.flatMap_cons, Text.wordsOf_word (isWord_state h)]
  simp [ofWords, state_iff.mpr h]

lemma ofWords_directory (handle : String) (words : List String) : ofWords .cwd (handle :: words) =
    .ok (cwd handle (if words = [] then none else some (phrase words))) := by
  cases words <;> rfl

lemma find_line (caption : String) : (find caption).line = "find " ++ caption := by
  change phrase ["find", caption] = _
  rw [phrase, String.intercalate_cons_cons, String.intercalate_singleton]
  rfl

lemma operation_of_change {change : Change} (h : command.change? = some change) (registry : Registry) :
    ∃ operation, command.operation? = some operation ∧ operation.request? registry = none := by
  cases command with
  | retitle | close | subprocs | cwd | terminateAll => exact ⟨_, rfl, rfl⟩
  | new | list | reconnect | find | busy | save | quit => cases h

end Command

namespace Console

open Command (phrase)

variable {console : Console} {times : EntryTimes} {text : String} {files : FileTree} {command : Command}
  {terminal : Terminal} {before behind : List Terminal}

def left (console : Console) (times : EntryTimes) (text : String) (files : FileTree) :
    List Terminal × List BackendEvent :=
  let found := (console.runLine (m := StateM FileTree) times text files).1.console
  (found.registry.terminals, found.backend.waiting)

lemma left_after : console.left times text files =
    ((console.after (.line times text)).registry.terminals, (console.after (.line times text)).backend.waiting) := by
  rw [left, runLine_console]

lemma left_changed (hl : console.backend.listening = true) (hc : Command.ofLine text = .ok command) {change : Change}
    (hk : command.change? = some change) {operation : Operation} (ho : command.operation? = some operation) :
    console.left times text files = (change.apply console.registry.terminals,
      console.backend.waiting ++ (operation.reaps console.registry).map .reaped) := by
  have hr : Effect.requests (console.registry.perform operation).effects = [] := by
    obtain ⟨known, hn, hq⟩ := Command.operation_of_change hk console.registry
    obtain rfl := Option.some.inj (ho.symm.trans hn)
    rw [Registry.perform_requests, hq]
    rfl
  have hw := Backend.reaped_waiting hl hr
  rw [Registry.perform_reaped] at hw
  rw [left_after, line_terminals, Move.change_of_line hc, hk, after_operation ((Move.operation_of_line hc).trans ho)]
  exact congrArg (change.apply console.registry.terminals, ·) hw

section Acting

variable (hl : console.backend.listening = true) (hm : console.registry.terminals = before ++ terminal :: behind)
  (hn : terminal.handle ∉ before.map (·.handle))

include hl hm hn

lemma left_updated (hc : Command.ofLine text = .ok command) {update : Update}
    (hk : command.change? = some (.set terminal.handle update)) :
    console.left times text files = (before ++ update.apply terminal :: behind, console.backend.waiting) := by
  have ho : ∃ operation, command.operation? = some operation ∧ operation.reaps console.registry = [] := by
    cases command with
    | retitle | subprocs | cwd => exact ⟨_, rfl, rfl⟩
    | new | list | close | reconnect | find | busy | save | terminateAll | quit => cases hk
  obtain ⟨operation, ho, hr⟩ := ho
  rw [left_changed hl hc hk ho, hm, Change.apply_set_between update hn, hr]
  exact congrArg _ (List.append_nil _)

lemma left_closed (hc : Command.ofLine text = .ok (.close terminal.handle)) :
    console.left times text files = (before ++ behind, console.backend.waiting ++ [.reaped terminal.handle]) := by
  have hh : terminal.handle ∈ console.registry.handles := by simp [Registry.handles, hm]
  rw [left_changed hl hc rfl rfl, hm, Operation.reaps, if_pos hh]
  exact congrArg (·, console.backend.waiting ++ [.reaped terminal.handle]) (Terminals.erase_between hn)

lemma left_resumed (hc : Command.ofLine text = .ok (.reconnect terminal.handle)) (hcaption : terminal.caption ≠ "") :
    console.left times text files =
      (before ++ terminal :: behind, console.backend.waiting ++ [.started terminal]) := by
  have hr : console.request? (.line times text) =
      some (.resume terminal console.registry.preferences.blinkingCursor) := by
    rw [request?, Move.operation_of_line hc, Command.operation?, Option.bind_some, Operation.request?, Registry.find?,
      hm, Terminals.find_between hn]
    rfl
  -- with an empty caption the session would come back under the default one
  have hs := SessionRequest.terminal_resume hcaption console.registry.preferences.blinkingCursor
  rw [left_after, after_terminals hr, requested_waiting hl hr, hm]
  simp only [SessionRequest.resume, Option.getD_some] at hs ⊢
  rw [hs]

end Acting

lemma found_answer {caption : String} (hc : Command.ofLine text = .ok (.find caption)) {first : Terminal}
    (hf : console.registry.terminals.find? (·.caption = caption) = some first) :
    (console.runLine (m := StateM FileTree) times text files).1.answer = .ok (.output first.handle) := by
  have ha : console.registry.handleFor? caption = some first.handle := by rw [Registry.handleFor?, hf]; rfl
  simp only [runLine, hc]
  change Except.ok (Reply.output ((console.registry.handleFor? caption).getD _)) = _
  rw [ha]
  rfl

/-- At a console that started without terminals, and whose new sessions get handles that are words and not given
twice, each terminal has a caption, and the first terminal with it is found by it. A line with the handle changes
that terminal, resumes it or closes it, and leaves all others as they are. -/
theorem terminals_addressable (preferences : Preferences) {supply : ℕ → String} (hinjective : supply.Injective)
    (hwords : ∀ n, IsWord (supply n)) (stateFile : String) (log : AuditLog) (files : FileTree) (moves : List Move)
    (times : EntryTimes) :
    let reached := (Console.empty preferences supply stateFile log).play moves files
    let console := reached.1
    let waiting := console.backend.waiting
    let answer text := (console.runLine (m := StateM FileTree) times text reached.2).1.answer
    let left text := console.left times text reached.2
    ∀ before terminal behind, console.registry.terminals = before ++ terminal :: behind →
      terminal.caption ≠ "" ∧
      (∃ first, console.registry.terminals.find? (·.caption = terminal.caption) = some first ∧
        answer ("find " ++ terminal.caption) = .ok (.output first.handle)) ∧
      ∀ text others,
        let typed words := wordsOf text = wordsOf (phrase words)
        let rest := others.flatMap wordsOf
        (typed ("retitle" :: terminal.handle :: others) →
          left text = (before ++ { terminal with title := String.intercalate " " rest } :: behind, waiting)) ∧
        (∀ word active, Command.IsState word active →
          typed ("subprocs" :: terminal.handle :: word :: others) →
          left text = (before ++ { terminal with busy := active } :: behind, waiting)) ∧
        (typed ("cwd" :: terminal.handle :: others) →
          let directory := if rest = [] then none else some (String.intercalate " " rest)
          left text = (before ++ { terminal with workingDirectory := directory } :: behind, waiting)) ∧
        (typed ("reconnect" :: terminal.handle :: others) →
          left text = (before ++ terminal :: behind, waiting ++ [.started terminal])) ∧
        (typed ("close" :: terminal.handle :: others) →
          left text = (before ++ behind, waiting ++ [.reaped terminal.handle])) := by
  intro reached console waiting answer left before terminal behind hm
  have he : console = moves.foldl Console.after (Console.empty preferences supply stateFile log) :=
    play_console _ files moves
  have hl : console.backend.listening = true := by
    rw [he, (backend_play _ _).2]
    rfl
  have hn : terminal.handle ∉ before.map (·.handle) := by
    refine Sound.unused_before ?_ hm
    rw [he]
    exact (settled_empty preferences hinjective stateFile log).sound.play moves
  have ht : terminal.IsTyped := by
    have hs : console.Everywhere Terminal.IsTyped := he ▸ typed_play hwords moves
    exact hs.registered terminal (by simp [hm])
  refine ⟨ht.captioned, ?_, fun text others => ⟨fun hr => ?_, fun word active hs hb => ?_, fun hd => ?_,
    fun hr => ?_, fun hc => ?_⟩⟩
  · have hc : Command.ofLine ("find " ++ terminal.caption) = .ok (.find terminal.caption) := by
      rw [← Command.find_line]
      exact Command.ofLine_line ⟨ht.caption, ht.captioned⟩
    have hf : (console.registry.terminals.find? (·.caption = terminal.caption)).isSome := by
      rw [List.find?_isSome]
      exact ⟨terminal, by simp [hm], by simp⟩
    obtain ⟨first, hf⟩ := Option.isSome_iff_exists.mp hf
    exact ⟨first, hf, found_answer hc hf⟩
  · exact left_updated hl hm hn (Command.ofLine_addressed .retitle ht.handle hr) rfl
  · have hc := (Command.ofLine_addressed .subprocs ht.handle hb).trans (Command.ofWords_state hs)
    exact left_updated hl hm hn hc rfl
  · have hc := (Command.ofLine_addressed .cwd ht.handle hd).trans (Command.ofWords_directory _ _)
    exact left_updated hl hm hn hc rfl
  · exact left_resumed hl hm hn (Command.ofLine_addressed .reconnect ht.handle hr) ht.captioned
  · exact left_closed hl hm hn (Command.ofLine_addressed .close ht.handle hc)

theorem terminals_addressable_twice :
    let moves : List Move := [.line default "new Terminal\t2", .delivery, .line default "new", .delivery]
    let reached := plain.play moves plainFiles
    let left text := reached.1.left default text reached.2
    let first : Terminal := { handle := "00000000", caption := "Terminal 2", sequence := 1, busy := true }
    let second : Terminal := { handle := "00000001", caption := "Terminal 2", sequence := 2, busy := true }
    reached.1.registry.terminals = [first, second] ∧
      (reached.1.runLine (m := StateM FileTree) default "find Terminal 2" reached.2).1.answer =
        .ok (.output "00000000") ∧
      left " retitle  00000001 my   box" = ([first, { second with title := "my box" }], []) ∧
      left "subprocs 00000001 no" = ([first, { second with busy := false }], []) ∧
      left "cwd 00000001 /home" = ([first, { second with workingDirectory := some "/home" }], []) ∧
      left "reconnect 00000001" = ([first, second], [.started second]) ∧
      left "close 00000001" = ([first], [.reaped "00000001"]) := by
  intro moves reached left first second
  have hm : reached.1.registry.terminals = [first] ++ second :: [] := by
    rw [play_console]
    decide
  have hw : reached.1.backend.waiting = [] := by
    rw [play_console]
    decide
  have ha := terminals_addressable {} (Backend.numberedHandle_injective []) (Backend.isWord_numberedHandle [])
    "terminals.json" ⟨"audit.log", 1000⟩ plainFiles moves default
  have hr : (empty {} (Backend.numberedHandle []) "terminals.json" ⟨"audit.log", 1000⟩).play moves plainFiles =
      reached := rfl
  rw [hr] at ha
  clear_value reached
  obtain ⟨-, ⟨found, hf, hfound⟩, hlines⟩ := ha [first] second [] hm
  rw [hm] at hf
  obtain rfl : first = found := Option.some.inj hf
  have hc : "find " ++ second.caption = "find Terminal 2" := by decide
  rw [hc] at hfound
  rw [hw] at hlines
  refine ⟨hm, hfound, ?_, ?_, ?_, ?_, ?_⟩
  · exact (hlines _ ["my   box"]).1 (by decide)
  · exact (hlines _ []).2.1 "no" false (by decide) (by decide)
  · exact (hlines _ ["/home"]).2.2.1 (by decide)
  · exact (hlines _ []).2.2.2.1 (by decide)
  · exact (hlines _ []).2.2.2.2 (by decide)

end Console

end TerminalSessions
