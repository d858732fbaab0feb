import TerminalSessions.Proofs.Console.Texts
import TerminalSessions.Proofs.Text.Columns

namespace TerminalSessions

open TerminalSessions.Text (IsClosed IsSpaced IsWord alignLeft alignRight decimal isClosed_intercalate isClosed_word
  isSpaced_alignLeft isSpaced_alignRight isSpaced_intercalate isSpaced_spaces isSpaced_word wordsOf)
open Command (IsPhrase)

lemma isSpaced_phrase {text : String} (h : IsPhrase text) : IsSpaced text := by
  obtain ⟨words, hw, rfl⟩ := h
  exact isSpaced_intercalate (isSpaced_spaces 1) fun word hm => isSpaced_word (hw word hm)

lemma isClosed_phrase {text : String} (h : IsPhrase text) (hn : text ≠ "") : IsClosed text := by
  obtain ⟨words, hw, rfl⟩ := h
  rcases List.eq_nil_or_concat words with rfl | ⟨others, last, rfl⟩
  · exact absurd rfl hn
  · rw [List.concat_eq_append] at hw ⊢
    exact isClosed_intercalate " " others (isClosed_word (hw last (by simp)))

namespace Terminal

variable {terminal : Terminal}

lemma IsTyped.directory_spaced (h : terminal.IsTyped) : IsSpaced (terminal.workingDirectory.getD "-") := by
  cases hd : terminal.workingDirectory with
  | none => exact isSpaced_word (by decide)
  | some directory => exact isSpaced_phrase (h.directory directory hd).1

lemma IsTyped.directory_closed (h : terminal.IsTyped) : IsClosed (terminal.workingDirectory.getD "-") := by
  cases hd : terminal.workingDirectory with
  | none => exact isClosed_word (by decide)
  | some directory =>
    obtain ⟨hp, hn⟩ := h.directory directory hd
    exact isClosed_phrase hp hn

lemma row_spaced (h : terminal.IsTyped) (index : ℕ) : IsSpaced (terminal.row index) := by
  have hb : IsSpaced (if terminal.busy then "busy" else "") := by
    cases terminal.busy
    · exact isSpaced_spaces 0
    · exact isSpaced_word (by decide)
  apply isSpaced_intercalate (isSpaced_spaces 2)
  simp only [List.forall_mem_cons, List.not_mem_nil, false_implies, implies_true, and_true]
  exact ⟨isSpaced_alignRight 2 (isSpaced_word (Text.isWord_decimal index)),
    isSpaced_alignLeft 36 (isSpaced_word h.handle), isSpaced_alignLeft 16 (isSpaced_phrase h.caption),
    isSpaced_alignLeft 16 (isSpaced_phrase h.title), isSpaced_alignLeft 4 hb, h.directory_spaced⟩

lemma row_closed (h : terminal.IsTyped) (index : ℕ) : IsClosed (terminal.row index) :=
  isClosed_intercalate "  " [_, _, _, _, _] h.directory_closed

lemma wordsOf_row (h : terminal.IsTyped) (index : ℕ) :
    (wordsOf (terminal.row index)).take 2 = [decimal index, terminal.handle] := by
  rw [row, Text.wordsOf_columns, List.flatMap_cons, List.flatMap_cons,
    Text.wordsOf_alignRight (Text.isWord_decimal index), Text.wordsOf_alignLeft h.handle]
  rfl

end Terminal

namespace Registry

variable {registry : Registry}

lemma mem_rows {row : String} (h : row ∈ registry.rows) :
    ∃ terminal ∈ registry.terminals, ∃ index, row = terminal.row index := by
  obtain ⟨index, hi, rfl⟩ := List.mem_mapIdx.mp h
  exact ⟨_, List.getElem_mem hi, index, rfl⟩

lemma listing_rows (hn : registry.terminals ≠ []) (h : ∀ terminal ∈ registry.terminals, terminal.IsTyped) :
    registry.listing = "\n".intercalate registry.rows := by
  have he : ¬ registry.terminals.isEmpty = true := by simpa using hn
  have hr : registry.rows ≠ [] := by simpa [rows] using hn
  -- the last row ends in no blank, so that the line break behind it is all that is taken off
  have hc : IsClosed ("\n".intercalate registry.rows) := by
    obtain ⟨others, last, hl⟩ := (List.eq_nil_or_concat registry.rows).resolve_left hr
    rw [List.concat_eq_append] at hl
    obtain ⟨terminal, hm, index, rfl⟩ := mem_rows (by simp [hl] : last ∈ registry.rows)
    rw [hl]
    exact isClosed_intercalate "\n" others (terminal.row_closed (h terminal hm) index)
  rw [listing, if_neg he, Text.flatMap_line _ hr, Text.trimEnd_closed hc, String.ofList_toList]

lemma split_rows (hn : registry.terminals ≠ []) (h : ∀ terminal ∈ registry.terminals, terminal.IsTyped) :
    (("\n".intercalate registry.rows).split '\n').toList.map (·.copy) = registry.rows := by
  have hs : "\n" = String.singleton '\n' := rfl
  rw [hs, String.toList_split_intercalate]
  · rw [if_neg (by simpa [rows] using hn)]
  · intro row hm
    obtain ⟨terminal, ht, index, rfl⟩ := mem_rows hm
    exact (terminal.row_spaced (h terminal ht) index).newline_not_mem

end Registry

namespace Console

variable {console : Console} {times : EntryTimes} {text : String} {files : FileTree}

lemma listed_answer (hc : Command.ofLine text = .ok .list) :
    (console.runLine (m := StateM FileTree) times text files).1.answer =
      .ok (.output console.registry.listing) := by
  simp only [runLine, hc]
  rfl

/-- At a console that started without terminals, and whose new sessions get handles that are words, the table of the
terminals consists of their rows, one on each line. A line begins with the index of the terminal and its handle. -/
theorem listing_lines (preferences : Preferences) {supply : ℕ → String} (hwords : ∀ n, IsWord (supply n))
    (stateFile : String) (log : AuditLog) (files : FileTree) (moves : List Move) (times : EntryTimes) {text : String}
    (htext : Command.ofLine text = .ok .list) :
    let reached := (Console.empty preferences supply stateFile log).play moves files
    let registry := reached.1.registry
    registry.terminals ≠ [] →
      ∃ listing, (reached.1.runLine (m := StateM FileTree) times text reached.2).1.answer = .ok (.output listing) ∧
        listing = "\n".intercalate registry.rows ∧
        let lines := (listing.split '\n').toList.map (·.copy)
        lines.length = registry.terminals.length ∧
          ∀ index terminal, registry.terminals[index]? = some terminal →
            lines[index]? = some (terminal.row index) ∧
              (wordsOf (terminal.row index)).take 2 = [decimal index, terminal.handle] ∧
              registry.indexOf? terminal.handle = some index := by
  intro reached registry hne
  have he : reached.1 = moves.foldl Console.after (Console.empty preferences supply stateFile log) :=
    play_console _ files moves
  have ht : ∀ terminal ∈ registry.terminals, terminal.IsTyped := by
    have hs : reached.1.Everywhere Terminal.IsTyped := he ▸ typed_play hwords moves
    exact hs.registered
  have hn : registry.handles.Nodup := by
    change reached.1.registry.handles.Nodup
    rw [he]
    have h0 : (Console.empty preferences supply stateFile log).registry.handles.Nodup := List.nodup_nil
    exact play_nodup h0 moves
  refine ⟨_, listed_answer htext, Registry.listing_rows hne ht, ?_⟩
  rw [Registry.listing_rows hne ht, Registry.split_rows hne ht]
  refine ⟨by simp [Registry.rows], fun index terminal hi => ⟨?_, ?_, Terminals.findIdx_of_getElem hn hi⟩⟩
  · rw [Registry.rows, List.getElem?_mapIdx, hi]
    rfl
  · exact terminal.wordsOf_row (ht terminal (List.mem_of_getElem? hi)) index

theorem listing_lines_two :
    let moves : List Move :=
      [.line default "new build  box", .delivery, .line default "new", .delivery,
        .line default "retitle 00000000 my   title", .line default "cwd 00000001 /tmp/a  b"]
    let reached := plain.play moves plainFiles
    let first := " 0  00000000                              build box         my title          busy  -"
    let second := " 1  00000001                              Terminal 2                          busy  /tmp/a b"
    ∃ listing,
      (reached.1.runLine (m := StateM FileTree) default " list\tall" reached.2).1.answer = .ok (.output listing) ∧
        listing = first ++ "\n" ++ second ∧
        let lines := (listing.split '\n').toList.map (·.copy)
        lines.length = 2 ∧ lines[0]? = some first ∧ lines[1]? = some second ∧
          (wordsOf second).take 2 = ["1", "00000001"] ∧ reached.1.registry.indexOf? "00000001" = some 1 := by
  intro moves reached first second
  have ht : reached.1.registry.terminals =
      [{ handle := "00000000", caption := "build box", title := "my title", sequence := 1, busy := true },
        { handle := "00000001", caption := "Terminal 2", sequence := 2, busy := true,
          workingDirectory := some "/tmp/a b" }] := by
    rw [play_console]
    decide
  have hrows : reached.1.registry.rows = [first, second] := by
    rw [Registry.rows, ht]
    decide
  have hc : Command.ofLine " list\tall" = .ok .list := by decide
  have ha := listing_lines {} (Backend.isWord_numberedHandle []) "terminals.json" ⟨"audit.log", 1000⟩ plainFiles moves
    default hc
  have hr : (empty {} (Backend.numberedHandle []) "terminals.json" ⟨"audit.log", 1000⟩).play moves plainFiles =
      reached := rfl
  rw [hr] at ha
  obtain ⟨listing, ha, hl, hlength, hlines⟩ := ha (by simp [ht])
  rw [hrows] at hl
  rw [ht] at hlength hlines
  obtain ⟨hfirst, -, -⟩ := hlines 0 _ rfl
  obtain ⟨hsecond, hwords, hindex⟩ := hlines 1 _ rfl
  exact ⟨listing, ha, hl, hlength, hfirst, hsecond, hwords, hindex⟩

end Console

end TerminalSessions
