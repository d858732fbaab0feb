import TerminalSessions.Proofs.Console.Handles

/-! What a start that waits at the backend does to a handle that is closed or updated before its delivery. -/

namespace TerminalSessions

lemma Update.holds_resume (update : Update) (terminal : Terminal) (blinking : Bool) (handle : String) :
    update.Holds ((SessionRequest.resume terminal blinking).terminal handle) ↔ update.Holds terminal := by
  cases update <;> rfl

namespace Console

variable {console : Console} {handle : String} {fits : Terminal → Prop}

lemma line_find (h : console.registry.handles.Nodup) (times : EntryTimes) (text : String) :
    (console.after (.line times text)).registry.find? handle =
      (Move.line times text).change?.elim (console.registry.find? handle)
        (Change.applyAt handle (console.registry.find? handle)) := by
  rw [Registry.find?, line_terminals]
  cases (Move.line times text).change? with
  | none => rfl
  | some change => exact Change.find_apply change h

lemma waiting_play (console : Console) {moves : List Move}
    (h : moves.count .delivery ≤ console.backend.waiting.length) :
    ∃ sent, (moves.foldl Console.after console).backend.waiting =
      console.backend.waiting.drop (moves.count .delivery) ++ sent := by
  induction moves generalizing console with
  | nil => exact ⟨[], by simp⟩
  | cons move moves ih =>
    cases move with
    | line times text =>
      obtain ⟨sent, hw, _⟩ := console.line_sent times text
      rw [List.count_cons_of_ne (by simp)] at h ⊢
      obtain ⟨others, ho⟩ := ih (console.after (.line times text)) (by simp [hw]; omega)
      refine ⟨sent ++ others, ?_⟩
      rw [List.foldl_cons, ho, hw, List.drop_append_of_le_length h, List.append_assoc]
    | delivery =>
      rw [List.count_cons_self] at h ⊢
      cases hw : console.backend.waiting with
      | nil => simp [hw] at h
      | cons event events =>
        have hd := after_delivery_cons hw
        obtain ⟨others, ho⟩ := ih (console.after .delivery) (by simpa [hd, hw] using h)
        exact ⟨others, by rw [List.foldl_cons, ho, hd, List.drop_succ_cons]⟩

lemma find_delivered {moves : List Move} {terminal : Terminal}
    (h : console.backend.waiting[moves.count .delivery]? = some (.started terminal)) :
    ((moves ++ [Move.delivery]).foldl Console.after console).registry.find? terminal.handle =
      some terminal := by
  obtain ⟨hl, he⟩ := List.getElem?_eq_some_iff.mp h
  obtain ⟨sent, hw⟩ := console.waiting_play hl.le
  rw [List.drop_eq_getElem_cons hl, he, List.cons_append] at hw
  rw [List.foldl_append, List.foldl_cons, List.foldl_nil, after_delivery_cons hw]
  exact (Terminals.find_put terminal _ _).trans (if_pos rfl)

section

variable (fits) (hresume : ∀ terminal blinking, fits terminal →
  fits ((SessionRequest.resume terminal blinking).terminal handle))

include hresume

lemma fits_sent (ht : console.Taken handle)
    (hr : ∀ terminal, console.registry.find? handle = some terminal → fits terminal)
    (times : EntryTimes) (text : String) :
    ∃ sent, (console.after (.line times text)).backend.waiting = console.backend.waiting ++ sent ∧
      ∀ terminal, .started terminal ∈ sent → terminal.handle = handle → fits terminal := by
  obtain ⟨sent, hw, hs⟩ := console.line_sent times text
  refine ⟨sent, hw, ?_⟩
  rintro terminal hm rfl
  rcases hs terminal hm with ⟨known, blinking, hf, he⟩ | ⟨n, hl, _, he⟩
  · rw [he]
    exact hresume known blinking (hr known hf)
  · exact absurd he.symm (ht n hl)

omit hresume in
lemma fits_line (hn : console.registry.handles.Nodup)
    (hr : ∀ terminal, console.registry.find? handle = some terminal → fits terminal)
    {times : EntryTimes} {text : String}
    (hset : ∀ update, (Move.line times text).change? = some (.set handle update) →
      ∀ terminal, fits terminal → fits (update.apply terminal)) :
    ∀ terminal, (console.after (.line times text)).registry.find? handle = some terminal →
      fits terminal := by
  intro terminal hf
  rw [line_find hn] at hf
  cases hc : (Move.line times text).change? with
  | none =>
    rw [hc] at hf
    exact hr terminal hf
  | some change =>
    rw [hc, Option.elim_some] at hf
    cases change with
    | put added => exact absurd hc (Move.change_ne_put _ added)
    | drop dropped =>
      simp only [Change.applyAt] at hf
      split at hf
      · cases hf
      · exact hr terminal hf
    | dropAll => cases hf
    | set updated update =>
      simp only [Change.applyAt] at hf
      split at hf
      · rename_i hu
        subst hu
        obtain ⟨known, hk, rfl⟩ := Option.map_eq_some_iff.mp hf
        exact hset update hc known (hr known hk)
      · exact hr terminal hf

omit hresume in
lemma fits_delivery {event : BackendEvent} {events : List BackendEvent}
    (hw : console.backend.waiting = event :: events)
    (hr : ∀ terminal, console.registry.find? handle = some terminal → fits terminal)
    (he : ∀ reported, event = .started reported → reported.handle = handle → fits reported) :
    ∀ terminal, (console.after .delivery).registry.find? handle = some terminal → fits terminal := by
  intro terminal hf
  rw [after_delivery_cons hw] at hf
  rcases absorb_find hf with hf | ⟨rfl, hh⟩
  · exact hr terminal hf
  · exact he terminal rfl hh

/-- A property of the terminals of a handle that resumptions and updates keep is lost only with the delivery of
a start that has been waiting all the time and reports a terminal without it. -/
lemma fits_until_delivered (hn : console.registry.handles.Nodup) (ht : console.Taken handle)
    (hr : ∀ terminal, console.registry.find? handle = some terminal → fits terminal) {moves : List Move}
    (hset : ∀ move ∈ moves, ∀ update, move.change? = some (.set handle update) →
      ∀ terminal, fits terminal → fits (update.apply terminal))
    {terminal : Terminal}
    (hf : (moves.foldl Console.after console).registry.find? handle = some terminal) (hu : ¬ fits terminal) :
    ∃ n < moves.count .delivery, ∃ reported, console.backend.waiting[n]? = some (.started reported) ∧
      reported.handle = handle ∧ ¬ fits reported := by
  -- A line may send starts, but they report what is registered and fits. The first event that waits is either
  -- the start that is looked for, or its delivery leaves what fits.
  induction moves generalizing console with
  | nil => exact absurd (hr terminal hf) hu
  | cons move moves ih =>
    have hset' := fun move hm => hset move (List.mem_cons_of_mem _ hm)
    cases move with
    | line times text =>
      have hrl := fits_line fits hn hr (hset _ List.mem_cons_self)
      obtain ⟨n, hc, reported, hw, hh, hm⟩ := ih (line_nodup hn times text) (ht.line times text) hrl hset' hf
      obtain ⟨sent, hws, hs⟩ := fits_sent fits hresume ht hr times text
      refine ⟨n, by rwa [List.count_cons_of_ne (by simp)], reported, ?_, hh, hm⟩
      rw [hws] at hw
      rw [List.getElem?_append] at hw
      split at hw
      · exact hw
      · exact absurd (hs reported (List.mem_of_getElem? hw) hh) hm
    | delivery =>
      rw [List.count_cons_self]
      rw [List.foldl_cons] at hf
      cases hw : console.backend.waiting with
      | nil =>
        rw [after_delivery_nil hw] at hf
        obtain ⟨n, _, reported, hn, _⟩ := ih hn ht hr hset' hf
        simp [hw] at hn
      | cons event events =>
        have hd := after_delivery_cons hw
        by_cases he : ∃ reported, event = .started reported ∧ reported.handle = handle ∧ ¬ fits reported
        · obtain ⟨reported, rfl, hh, hm⟩ := he
          exact ⟨0, Nat.succ_pos _, reported, rfl, hh, hm⟩
        · push Not at he
          obtain ⟨n, hc, reported, hs, hm⟩ := ih (by rw [hd]; exact absorb_nodup event hn) ht.delivery
            (fits_delivery fits hw hr he) hset' hf
          rw [hd] at hs
          exact ⟨n + 1, Nat.succ_lt_succ hc, reported, hs, hm⟩

lemma fits_until_late_start (hs : console.Sound) (ht : console.Taken handle) {times : EntryTimes}
    {text : String} {change : Change} (hk : (Move.line times text).change? = some change)
    (hr : ∀ terminal, change.applyAt handle (console.registry.find? handle) = some terminal → fits terminal)
    {moves : List Move} (hset : ∀ move ∈ moves, ∀ update, move.change? = some (.set handle update) →
      ∀ terminal, fits terminal → fits (update.apply terminal))
    {terminal : Terminal}
    (hf : (moves.foldl Console.after (console.after (.line times text))).registry.find? handle =
      some terminal)
    (hu : ¬ fits terminal) :
    ∃ n < moves.count .delivery, ∃ reported, console.backend.waiting[n]? = some (.started reported) ∧
      reported.handle = handle ∧ ¬ fits reported := by
  have hrl : ∀ terminal, (console.after (.line times text)).registry.find? handle = some terminal →
      fits terminal := by
    rwa [line_find hs.nodup, hk]
  obtain ⟨n, hn, reported, hw, rfl, hm⟩ :=
    fits_until_delivered fits hresume (line_nodup hs.nodup times text) (ht.line times text) hrl hset hf hu
  refine ⟨n, hn, reported, ?_, rfl, hm⟩
  obtain ⟨sent, hws, hsent⟩ := console.change_sent times text hk
  rw [hws, List.getElem?_append] at hw
  split at hw
  · exact hw
  · exact absurd (List.mem_of_getElem? hw) (hsent reported)

end

lemma find_late_start {times : EntryTimes} {text : String} {moves : List Move} {terminal : Terminal}
    (h : console.backend.waiting[moves.count .delivery]? = some (.started terminal)) :
    ((moves ++ [Move.delivery]).foldl Console.after
      (console.after (.line times text))).registry.find? terminal.handle = some terminal := by
  obtain ⟨sent, hw, _⟩ := console.line_sent times text
  obtain ⟨hl, _⟩ := List.getElem?_eq_some_iff.mp h
  exact find_delivered (by rwa [hw, List.getElem?_append_left hl])

lemma close_answer (console : Console) (files : FileTree) (times : EntryTimes) {text : String}
    (h : Command.ofLine text = .ok (.close handle)) :
    (console.runLine (m := StateM FileTree) times text files).1.answer =
      if handle ∈ console.registry.handles then .ok (.output (handle ++ " closed"))
      else .error (.unknownTerminal handle) := by
  simp only [runLine, h]
  change ((Command.close handle).apply console.registry).answer.map Reply.output = _
  rw [Command.apply, Registry.close]
  by_cases hm : handle ∈ console.registry.handles
  · rw [if_pos (Registry.contains_iff.mpr hm), if_pos hm]
    rfl
  · rw [if_neg (mt Registry.contains_iff.mp hm), if_neg hm]
    rfl

variable {preferences : Preferences} {supply : Nat → String} {stateFile : String} {log : AuditLog}
  {saved files : FileTree}

/-- A handle that is closed, or whose session was restored or opened before all terminals are terminated, is
not registered again until a start of the session is delivered that was waiting at that time. Such a delivery
does register it again. -/
theorem closed_until_late_start
    (hopen : Console.open? (m := StateM FileTree) preferences { supply } stateFile log saved =
      (.ok console, files))
    (hinjective : supply.Injective) (hunused : ∀ n, supply n ∉ console.registry.handles)
    (moves : List Move) (times : EntryTimes) (line handle : String) :
    let now := console.play moves files
    let answer := (now.1.runLine (m := StateM FileTree) times line now.2).1.answer
    let waiting := now.1.backend.waiting
    let later others := (console.play (moves ++ .line times line :: others) files).1
    Command.ofLine line = .ok (.close handle) ∧ answer = .ok (.output (handle ++ " closed")) ∨
        Command.ofLine line = .ok .terminateAll ∧
          (handle ∈ console.registry.handles ∨ ∃ n < now.1.backend.opened, supply n = handle) →
      (∀ others : List Move, handle ∈ (later others).registry.handles →
        ∃ n < others.count .delivery, ∃ terminal,
          waiting[n]? = some (.started terminal) ∧ terminal.handle = handle) ∧
      ∀ (others : List Move) terminal, waiting[others.count .delivery]? = some (.started terminal) →
        terminal.handle = handle → handle ∈ (later (others ++ [.delivery])).registry.handles := by
  intro now answer waiting later hline
  have hsound : now.1.Sound := sound_of_open hopen hinjective hunused moves
  have hlater : ∀ others, later others = others.foldl Console.after (now.1.after (.line times line)) :=
    console.play_later files moves (.line times line)
  obtain ⟨change, hk, ht, hn⟩ : ∃ change, (Move.line times line).change? = some change ∧
      now.1.Taken handle ∧ change.applyAt handle (now.1.registry.find? handle) = none := by
    rcases hline with ⟨hc, ha⟩ | ⟨hc, hr | ⟨n, hn, rfl⟩⟩
    · have hm : handle ∈ now.1.registry.handles := by
        by_contra hm
        simp only [answer, close_answer _ _ _ hc, if_neg hm] at ha
        cases ha
      exact ⟨.drop handle, Move.change_of_line hc, hsound.registered handle hm, if_pos rfl⟩
    · have ht : now.1.Taken handle := by
        simp only [now, play_console]
        exact ((sound_of_open hopen hinjective hunused []).registered handle hr).play moves
      exact ⟨.dropAll, Move.change_of_line hc, ht, rfl⟩
    · have hs : now.1.backend.supply = supply := by
        obtain ⟨saved, rfl⟩ := open_eq hopen
        simp only [now, play_console, (backend_play _ _).1]
      exact ⟨.dropAll, Move.change_of_line hc, hs ▸ hsound.taken_opened hn, rfl⟩
  constructor
  · intro others hm
    obtain ⟨terminal, hf⟩ := Registry.mem_handles_iff.mp hm
    rw [hlater] at hf
    -- The handle is to stay away, which means that no terminal fits.
    obtain ⟨n, hl, reported, hw, hh, _⟩ := fits_until_late_start (fun _ => False) (fun _ _ h => h)
      hsound ht hk (by simp [hn]) (fun _ _ _ _ _ h => h) hf not_false
    exact ⟨n, hl, reported, hw, hh⟩
  · rintro others terminal hw rfl
    rw [hlater]
    exact Registry.mem_handles_iff.mpr ⟨terminal, find_late_start hw⟩

theorem closed_while_resumed :
    let moves : List Move := [.line default "new a", .delivery, .line default "reconnect 00000000"]
    let later others := (plain.play (moves ++ .line default "close 00000000" :: others) plainFiles).1
    (∀ others : List Move, .delivery ∉ others → "00000000" ∉ (later others).registry.handles) ∧
      "00000000" ∈ (later [.delivery]).registry.handles := by
  intro moves later
  have hm : "00000000" ∈ (plain.play moves plainFiles).1.registry.handles := by
    rw [play_console]
    decide
  have hc : Command.ofLine "close 00000000" = .ok (.close "00000000") := by decide
  have ha := close_answer (plain.play moves plainFiles).1 (plain.play moves plainFiles).2 default hc
  rw [if_pos hm] at ha
  obtain ⟨hback, hstart⟩ := closed_until_late_start open_plain (Backend.numberedHandle_injective [])
    (fun _ => List.not_mem_nil) moves default "close 00000000" "00000000" (.inl ⟨hc, ha⟩)
  constructor
  · intro others hd h
    obtain ⟨n, hn, _⟩ := hback others h
    exact absurd hn (by simp [List.count_eq_zero.mpr hd])
  · have hs := hstart [] { handle := "00000000", caption := "a", sequence := 1, busy := true }
      (by rw [play_console]; decide) rfl
    rwa [List.nil_append] at hs

theorem late_start_after_close :
    let resumed : List Move := [.line default "new a", .delivery, .line default "reconnect 00000000"]
    let now := plain.play resumed plainFiles
    (now.1.runLine (m := StateM FileTree) default "close 00000000" now.2).1.answer =
        .ok (.output ("00000000" ++ " closed")) ∧
      "00000000" ∈ (plain.play (resumed ++ [.line default "close 00000000", .delivery])
        plainFiles).1.registry.handles ∧
      "00000000" ∈ (plain.play [.line default "new a", .line default "terminate-all", .delivery]
        plainFiles).1.registry.handles := by
  intro resumed now
  have hc : Command.ofLine "close 00000000" = .ok (.close "00000000") := by decide
  have hm : "00000000" ∈ now.1.registry.handles := by
    simp only [now, play_console]
    decide
  have ha := close_answer now.1 now.2 default hc
  rw [if_pos hm] at ha
  refine ⟨ha, ?_, ?_⟩
  · rw [play_console]
    decide
  · rw [play_console]
    decide

/-- A field of a registered terminal that a line sets keeps its value, until another line sets it or a start
with another value is delivered that was waiting at that time. Such a delivery does bring the old terminal
back. -/
theorem updated_until_late_start
    (hopen : Console.open? (m := StateM FileTree) preferences { supply } stateFile log saved =
      (.ok console, files))
    (hinjective : supply.Injective) (hunused : ∀ n, supply n ∉ console.registry.handles)
    (moves : List Move) (times : EntryTimes) (line handle : String) (update : Update) :
    let now := console.play moves files
    let waiting := now.1.backend.waiting
    let later others := (console.play (moves ++ .line times line :: others) files).1
    (Move.line times line).change? = some (.set handle update) → handle ∈ now.1.registry.handles →
      (∀ others : List Move,
        (∀ move ∈ others, ∀ other, move.change? = some (.set handle other) → other.field ≠ update.field) →
        ∀ terminal, (later others).registry.find? handle = some terminal → ¬ update.Holds terminal →
          ∃ n < others.count .delivery, ∃ reported, waiting[n]? = some (.started reported) ∧
            reported.handle = handle ∧ ¬ update.Holds reported) ∧
      ∀ (others : List Move) terminal, waiting[others.count .delivery]? = some (.started terminal) →
        terminal.handle = handle →
        (later (others ++ [.delivery])).registry.find? handle = some terminal := by
  intro now waiting later hk hm
  have hsound : now.1.Sound := sound_of_open hopen hinjective hunused moves
  have hlater : ∀ others, later others = others.foldl Console.after (now.1.after (.line times line)) :=
    console.play_later files moves (.line times line)
  constructor
  · intro others hset terminal hf hu
    rw [hlater] at hf
    refine fits_until_late_start (update.Holds ·) ?_ hsound (hsound.registered handle hm) hk ?_ ?_ hf hu
    · exact fun terminal blinking h => (update.holds_resume terminal blinking handle).mpr h
    · intro terminal ht
      rw [Change.applyAt, if_pos rfl] at ht
      obtain ⟨known, _, rfl⟩ := Option.map_eq_some_iff.mp ht
      exact update.holds_apply known
    · intro move hm other hc terminal h
      exact (Update.holds_apply_other (hset move hm other hc)).mpr h
  · rintro others terminal hw rfl
    rw [hlater]
    exact find_late_start hw

theorem retitled_while_resumed :
    let moves : List Move := [.line default "new a", .delivery, .line default "reconnect 00000000"]
    let later others := (plain.play (moves ++ .line default "retitle 00000000 x" :: others) plainFiles).1
    (∀ others : List Move, .delivery ∉ others →
      (∀ move ∈ others, ∀ other, move.change? = some (.set "00000000" other) → other.field ≠ .title) →
      ∀ terminal, (later others).registry.find? "00000000" = some terminal → terminal.title = "x") ∧
    (later [.delivery]).registry.find? "00000000" =
      some { handle := "00000000", caption := "a", sequence := 1, busy := true } := by
  intro moves later
  have hm : "00000000" ∈ (plain.play moves plainFiles).1.registry.handles := by
    rw [play_console]
    decide
  obtain ⟨hkept, hstart⟩ := updated_until_late_start open_plain (Backend.numberedHandle_injective [])
    (fun _ => List.not_mem_nil) moves default "retitle 00000000 x" "00000000" (.title "x") (by decide) hm
  constructor
  · intro others hd hset terminal hf
    by_contra ht
    obtain ⟨n, hn, _⟩ := hkept others hset terminal hf ht
    exact absurd hn (by simp [List.count_eq_zero.mpr hd])
  · have hs := hstart [] { handle := "00000000", caption := "a", sequence := 1, busy := true }
      (by rw [play_console]; decide) rfl
    rwa [List.nil_append] at hs

theorem late_start_after_updates :
    let moves : List Move := [.line default "new a", .delivery, .line default "reconnect 00000000",
      .line default "retitle 00000000 x", .line default "subprocs 00000000 off",
      .line default "cwd 00000000 d"]
    let terminal : Terminal := { handle := "00000000", caption := "a", sequence := 1 }
    (plain.play moves plainFiles).1.registry.find? "00000000" =
        some { terminal with title := "x", busy := false, workingDirectory := some "d" } ∧
      (plain.play (moves ++ [.delivery]) plainFiles).1.registry.find? "00000000" =
        some { terminal with title := "", busy := true, workingDirectory := none } := by
  intro moves terminal
  constructor <;> rw [play_console] <;> decide

end Console

end TerminalSessions
