import TerminalSessions.Proofs.Console.Events

namespace TerminalSessions

namespace Backend

def hexValue (c : Char) : ℕ :=
  if c.isDigit then c.toNat - '0'.toNat else c.toNat - 'a'.toNat + 10

def numberOf (digits : List Char) : ℕ :=
  digits.foldl (fun number c => 16 * number + hexValue c) 0

lemma hexValue_digitChar : ∀ n < 16, hexValue (Nat.digitChar n) = n := by
  decide

lemma numberOf_toDigits (n : ℕ) : numberOf (Nat.toDigits 16 n) = n := by
  induction n using Nat.strongRecOn with
  | ind n ih =>
    rw [Nat.toDigits_eq_if (by decide)]
    split
    · rename_i hn
      simp [numberOf, hexValue_digitChar n hn]
    · rename_i hn
      have hq : numberOf (Nat.toDigits 16 (n / 16)) = n / 16 := ih _ (by omega)
      rw [numberOf] at hq
      rw [numberOf, List.foldl_append, hq]
      simp only [List.foldl_cons, List.foldl_nil, hexValue_digitChar _ (Nat.mod_lt n (by decide))]
      omega

lemma numberOf_zeros (count : ℕ) (digits : List Char) :
    numberOf (List.replicate count '0' ++ digits) = numberOf digits := by
  induction count with
  | zero => rfl
  | succ count ih => exact ih

theorem numberedHandle_injective (bytes : List UInt8) : (numberedHandle bytes).Injective := by
  intro first second h
  have hd := String.ofList_injective h
  simp only [List.append_assoc, List.append_cancel_left_eq] at hd
  simpa only [numberOf_zeros, numberOf_toDigits] using congrArg numberOf hd

lemma length_numberedHandle (bytes : List UInt8) (n : ℕ) : 8 ≤ (numberedHandle bytes n).length := by
  simp only [numberedHandle, String.length_ofList, List.length_append, List.length_replicate]
  omega

end Backend

namespace Console

/-- No session that is still to be opened gets the handle. -/
def Taken (console : Console) (handle : String) : Prop :=
  ∀ n, console.backend.opened ≤ n → console.backend.supply n ≠ handle

structure Sound (console : Console) : Prop where
  injective : console.backend.supply.Injective
  nodup : console.registry.handles.Nodup
  registered : ∀ handle ∈ console.registry.handles, console.Taken handle
  started : ∀ terminal, .started terminal ∈ console.backend.waiting → console.Taken terminal.handle

variable {console : Console} {handle : String}

lemma open_eq {preferences : Preferences} {backend : Backend} {stateFile : String} {log : AuditLog}
    {before files : FileTree}
    (h : Console.open? (m := StateM FileTree) preferences backend stateFile log before =
      (.ok console, files)) :
    ∃ saved, console = ⟨((Registry.empty preferences).restore saved).registry, backend, stateFile, log⟩ := by
  simp only [Console.open?, bind, StateT.bind] at h
  rcases hl : SavedTerminal.load (m := StateM FileTree) stateFile before with ⟨_ | saved, files'⟩ <;>
    rw [hl] at h
  · cases h
  · exact ⟨saved, (Except.ok.inj (congrArg Prod.fst h)).symm⟩

def empty (preferences : Preferences) (supply : Nat → String) (stateFile : String) (log : AuditLog) :
    Console :=
  ⟨.empty preferences, { supply }, stateFile, log⟩

lemma open_missing {preferences : Preferences} {supply : Nat → String} {stateFile : String} {log : AuditLog}
    {files : FileTree} (h : files.read stateFile = .error .notFound) :
    Console.open? (m := StateM FileTree) preferences { supply } stateFile log files =
      (.ok (empty preferences supply stateFile log), (log.prepare (m := StateM FileTree) files).2) := by
  have hr : FileAccess.read (m := StateM FileTree) stateFile files = (.error .notFound, files) :=
    congrArg (·, files) h
  simp only [Console.open?, SavedTerminal.load, Files.readText, bind, StateT.bind, hr]
  rfl

lemma open_restored {preferences : Preferences} {supply : Nat → String} {stateFile : String} {log : AuditLog}
    {files : FileTree} {text : String} {saved : List SavedTerminal}
    (hf : files.read stateFile = .ok text.toUTF8) (hs : SavedTerminal.readAll text = .ok saved) :
    Console.open? (m := StateM FileTree) preferences { supply } stateFile log files =
      (.ok ⟨((Registry.empty preferences).restore saved).registry, { supply }, stateFile, log⟩,
        (log.prepare (m := StateM FileTree) files).2) := by
  have hr : FileAccess.read (m := StateM FileTree) stateFile files = (.ok text.toUTF8, files) :=
    congrArg (·, files) hf
  have hu : String.fromUTF8? text.toUTF8 = some text := dif_pos text.isValidUTF8
  have ht : Files.readText (m := StateM FileTree) stateFile files = (.ok text, files) := by
    simp only [Files.readText, bind, StateT.bind, hr, hu]
    rfl
  have hl : SavedTerminal.load (m := StateM FileTree) stateFile files = (.ok saved, files) := by
    simp only [SavedTerminal.load, bind, StateT.bind, ht, hs]
    rfl
  simp only [Console.open?, bind, StateT.bind, hl]
  rfl

def plain : Console :=
  empty {} (Backend.numberedHandle []) "terminals.json" ⟨"audit.log", 1000⟩

def plainFiles : FileTree :=
  (plain.log.prepare (m := StateM FileTree) {}).2

lemma open_plain : Console.open? (m := StateM FileTree) {} { supply := Backend.numberedHandle [] }
    "terminals.json" ⟨"audit.log", 1000⟩ {} = (.ok plain, plainFiles) :=
  open_missing (by decide)

def restored : Console :=
  { plain with
    registry := ((Registry.empty {}).restore [{ handle := "h", caption := "a", sequence := 3 }]).registry }

def savedText : String :=
  "[\x7b\"handle\":\"h\",\"caption\":\"a\",\"terminalSequence\":3\x7d]"

def savedFiles : FileTree :=
  { entries := [(["terminals.json"], .file savedText.toUTF8)] }

lemma readAll_savedText :
    SavedTerminal.readAll savedText = .ok [{ handle := "h", caption := "a", sequence := 3 }] := by
  rfl

lemma open_saved : Console.open? (m := StateM FileTree) {} { supply := Backend.numberedHandle [] }
    "terminals.json" ⟨"audit.log", 1000⟩ savedFiles =
      (.ok restored, (restored.log.prepare (m := StateM FileTree) savedFiles).2) :=
  open_restored rfl readAll_savedText

lemma Taken.line (h : console.Taken handle) (times : EntryTimes) (text : String) :
    (console.after (.line times text)).Taken handle := by
  have he := console.line_extends times text
  intro n hn
  rw [he.supply]
  exact h n (he.opened.trans hn)

lemma Taken.delivery (h : console.Taken handle) : (console.after .delivery).Taken handle := by
  obtain ⟨hs, ho, -⟩ := console.delivery_backend
  intro n hn
  rw [hs]
  exact h n (ho ▸ hn)

lemma Taken.play (h : console.Taken handle) (moves : List Move) :
    (moves.foldl Console.after console).Taken handle := by
  induction moves generalizing console with
  | nil => exact h
  | cons move moves ih =>
    cases move with
    | line times text => exact ih (h.line times text)
    | delivery => exact ih h.delivery

lemma backend_play (console : Console) (moves : List Move) :
    (moves.foldl Console.after console).backend.supply = console.backend.supply ∧
      (moves.foldl Console.after console).backend.listening = console.backend.listening := by
  induction moves generalizing console with
  | nil => exact ⟨rfl, rfl⟩
  | cons move moves ih =>
    rw [List.foldl_cons, (ih _).1, (ih _).2]
    cases move with
    | line times text => exact ⟨(console.line_extends times text).supply, (console.line_extends times text).listening⟩
    | delivery => exact ⟨console.delivery_backend.1, console.delivery_backend.2.2⟩

lemma line_handles (times : EntryTimes) (text : String) :
    (console.after (.line times text)).registry.handles ⊆ console.registry.handles := by
  rw [Registry.handles, line_terminals]
  cases hc : (Move.line times text).change? with
  | none => exact List.Subset.refl _
  | some change =>
    cases change with
    | put terminal => exact absurd hc (Move.change_ne_put _ terminal)
    | drop dropped =>
      change (console.registry.terminals.eraseP (·.handle = dropped)).map (·.handle) ⊆ _
      rw [Terminals.handles_erase]
      exact List.erase_subset
    | dropAll => exact List.nil_subset _
    | set updated update =>
      change ((Change.set updated update).apply console.registry.terminals).map (·.handle) ⊆ _
      rw [Change.handles_set]
      exact List.Subset.refl _

lemma line_nodup (h : console.registry.handles.Nodup) (times : EntryTimes) (text : String) :
    (console.after (.line times text)).registry.handles.Nodup := by
  rw [Registry.handles, line_terminals]
  cases (Move.line times text).change? with
  | none => exact h
  | some change => exact Change.nodup_apply change h

lemma absorb_find {registry : Registry} {event : BackendEvent} {terminal : Terminal}
    (h : (registry.absorb event).find? handle = some terminal) :
    registry.find? handle = some terminal ∨ event = .started terminal ∧ terminal.handle = handle := by
  cases event with
  | started reported =>
    rw [Registry.absorb, Registry.find?, Registry.store, Terminals.find_put] at h
    split at h
    · rename_i hh
      obtain rfl := Option.some.inj h
      exact .inr ⟨rfl, hh⟩
    · exact .inl h
  | reaped reaped => exact .inl h

lemma absorb_nodup {registry : Registry} (event : BackendEvent) (h : registry.handles.Nodup) :
    (registry.absorb event).handles.Nodup := by
  cases event with
  | started terminal => exact Terminals.nodup_put terminal _ h
  | reaped handle => exact h

lemma play_nodup (h : console.registry.handles.Nodup) (moves : List Move) :
    (moves.foldl Console.after console).registry.handles.Nodup := by
  induction moves generalizing console with
  | nil => exact h
  | cons move moves ih =>
    apply ih
    cases move with
    | line times text => exact line_nodup h times text
    | delivery =>
      cases hw : console.backend.waiting with
      | nil => rwa [after_delivery_nil hw]
      | cons event events =>
        rw [after_delivery_cons hw]
        exact absorb_nodup event h

lemma Sound.line (h : console.Sound) (times : EntryTimes) (text : String) :
    (console.after (.line times text)).Sound := by
  have he := console.line_extends times text
  refine ⟨he.supply ▸ h.injective, line_nodup h.nodup times text, ?_, ?_⟩
  · intro handle hm
    exact (h.registered handle (line_handles times text hm)).line times text
  · intro terminal hm
    obtain ⟨sent, hw, hs⟩ := console.line_sent times text
    rw [hw] at hm
    rcases List.mem_append.mp hm with hm | hm
    · exact (h.started terminal hm).line times text
    · rcases hs terminal hm with ⟨known, _, hf, _⟩ | ⟨n, _, hu, ht⟩
      · exact (h.registered _ (Registry.mem_handles_iff.mpr ⟨known, hf⟩)).line times text
      · intro m hm
        rw [he.supply, ht]
        exact h.injective.ne (by omega)

lemma Sound.delivery (h : console.Sound) : (console.after .delivery).Sound := by
  cases hw : console.backend.waiting with
  | nil => rwa [after_delivery_nil hw]
  | cons event events =>
    rw [after_delivery_cons hw]
    refine ⟨h.injective, absorb_nodup event h.nodup, ?_, ?_⟩
    · intro handle hm
      obtain ⟨terminal, hf⟩ := Registry.mem_handles_iff.mp hm
      rcases absorb_find hf with hf | ⟨rfl, rfl⟩
      · exact h.registered handle (Registry.mem_handles_iff.mpr ⟨terminal, hf⟩)
      · exact h.started terminal (by rw [hw]; exact List.mem_cons_self)
    · intro terminal hm
      exact h.started terminal (by rw [hw]; exact List.mem_cons_of_mem _ hm)

lemma Sound.taken_opened (h : console.Sound) {n : ℕ} (hn : n < console.backend.opened) :
    console.Taken (console.backend.supply n) :=
  fun _ hm => h.injective.ne (hn.trans_le hm).ne'

lemma Sound.after (h : console.Sound) (move : Move) : (console.after move).Sound := by
  cases move with
  | line times text => exact h.line times text
  | delivery => exact h.delivery

lemma Sound.play (h : console.Sound) (moves : List Move) : (moves.foldl Console.after console).Sound := by
  induction moves generalizing console with
  | nil => exact h
  | cons move moves ih => exact ih (h.after move)

lemma Sound.unused_before (h : console.Sound) {before behind : List Terminal} {terminal : Terminal}
    (hm : console.registry.terminals = before ++ terminal :: behind) :
    terminal.handle ∉ before.map (·.handle) := by
  have hn := h.nodup
  rw [Registry.handles, hm, List.map_append, List.map_cons] at hn
  exact fun hb => (List.disjoint_of_nodup_append hn) hb List.mem_cons_self

lemma sound_of_open {preferences : Preferences} {supply : Nat → String} {stateFile : String} {log : AuditLog}
    {before files : FileTree}
    (h : Console.open? (m := StateM FileTree) preferences { supply } stateFile log before =
      (.ok console, files))
    (hi : supply.Injective) (hf : ∀ n, supply n ∉ console.registry.handles) (moves : List Move) :
    (console.play moves files).1.Sound := by
  obtain ⟨saved, rfl⟩ := open_eq h
  rw [play_console]
  refine Sound.play ⟨hi, ?_, ?_, ?_⟩ moves
  · exact Registry.perform_nodup (.empty preferences) (.restore saved) List.nodup_nil
  · intro handle hm n _ he
    exact hf n (by rwa [← he] at hm)
  · intro terminal hw
    exact absurd hw List.not_mem_nil

end Console

end TerminalSessions
