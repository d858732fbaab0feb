import TerminalSessions.Proofs.Files.Directories
import TerminalSessions.Proofs.SavedTerminal.Text
import TerminalSessions.SavedTerminal

namespace TerminalSessions

namespace FileTree

variable {tree after : FileTree} {path text : String}

lemma readText_ok (h : tree.read path = .ok text.toUTF8) :
    Files.readText (m := StateM FileTree) path tree = (.ok text, tree) := by
  have hr : FileAccess.read (m := StateM FileTree) path tree = (.ok text.toUTF8, tree) := congrArg (·, tree) h
  have hu : String.fromUTF8? text.toUTF8 = some text := dif_pos text.isValidUTF8
  rw [Files.readText, bind_run, hr]
  simp only [hu]
  rfl

lemma writeText_eq (path text : String) (tree : FileTree) :
    Files.writeText (m := StateM FileTree) path text tree =
      match tree.write path text.toUTF8 with
      | .ok after => (.ok (), after)
      | .error fault => (.error fault, tree) := rfl

end FileTree

open FileTree
open TerminalSessions.Json

namespace SavedTerminal

variable {tree before after : FileTree} {path : String} {terminals : List SavedTerminal}

def prepared (path : String) (tree : FileTree) : FileTree :=
  (prepareDirectory (m := StateM FileTree) path tree).2

lemma prepared_grows (path : String) (tree : FileTree) :
    Grows (Relation.TransGen Files.Holds path) tree (prepared path tree) := by
  rw [prepared, prepareDirectory]
  cases hh : Files.parent? path with
  | none => exact Grows.refl _ _
  | some parent =>
    dsimp only
    split_ifs
    · exact Grows.refl _ _
    · exact (makeDirectoriesFrom_grows parent.length parent tree).weaken fun _ ho =>
        Relation.TransGen.head' hh ho

lemma save_eq (path : String) (terminals : List SavedTerminal) (tree : FileTree) :
    save (m := StateM FileTree) path terminals tree =
      match (prepareDirectory (m := StateM FileTree) path tree).1 with
      | .error fault => (.error (.files fault), prepared path tree)
      | .ok () =>
        match (prepared path tree).write path (writeAll terminals).toUTF8 with
        | .error fault => (.error (.files fault), prepared path tree)
        | .ok after => (.ok (), after) := by
  rw [save, bind_run, ← prepared]
  cases (prepareDirectory (m := StateM FileTree) path tree).1 with
  | error fault => rfl
  | ok done =>
    change (Files.writeText path (writeAll terminals) >>= _ : StateM FileTree _) (prepared path tree) = _
    rw [bind_run, writeText_eq]
    cases (prepared path tree).write path (writeAll terminals).toUTF8 <;> rfl

lemma save_ok (h : save (m := StateM FileTree) path terminals before = (.ok (), after)) :
    ∃ place, after.LeadsTo path place ∧ Keeps (prepared path before) after ∧
      after = (prepared path before).put place (.file (writeAll terminals).toUTF8) := by
  rw [save_eq] at h
  split at h
  case h_1 => cases h
  case h_2 =>
    split at h
    case h_1 => cases h
    case h_2 after' hw =>
      cases h
      obtain ⟨place, hl, hd, rfl⟩ := modify_ok.mp hw
      have hk := keeps_put_file hl.ne_nil hd (writeAll terminals).toUTF8
      exact ⟨place, hl.kept hk, hk, rfl⟩

lemma prepareDirectory_again (hp : (prepareDirectory (m := StateM FileTree) path before).1 = .ok ())
    (hk : Keeps (prepared path before) after) :
    prepareDirectory (m := StateM FileTree) path after = (.ok (), after) := by
  rw [prepared] at hk
  rw [prepareDirectory] at *
  cases hh : Files.parent? path with
  | none => rfl
  | some parent =>
    rw [hh] at hp hk
    dsimp only at *
    split_ifs at * with he
    · rfl
    · rcases makeDirectories_ok (Prod.ext hp rfl) with rfl | hs
      · exact absurd rfl he
      · exact makeDirectories_there (status_kept hk hs)

lemma save_again (h : save (m := StateM FileTree) path terminals before = (.ok (), after)) :
    save (m := StateM FileTree) path terminals after = (.ok (), after) := by
  obtain ⟨place, hl, hk, ha⟩ := save_ok h
  have hp : (prepareDirectory (m := StateM FileTree) path before).1 = .ok () := by
    rw [save_eq] at h
    split at h
    case h_1 => cases h
    case h_2 ho => exact ho
  have hd := prepareDirectory_again hp hk
  have hr : prepared path after = after := by
    rw [prepared, hd]
  have hn : after.node? place = some (.file (writeAll terminals).toUTF8) :=
    ha ▸ node_put_self hl.ne_nil _
  have hw : after.write path (writeAll terminals).toUTF8 = .ok after :=
    modify_ok.mpr ⟨place, hl, by simp [hn], (put_same hl.ne_nil hn).symm⟩
  simp only [save_eq, hd, hr, hw]

lemma load_saved (h : save (m := StateM FileTree) path terminals before = (.ok (), after)) :
    load (m := StateM FileTree) path after = (.ok terminals, after) := by
  obtain ⟨place, hl, -, ha⟩ := save_ok h
  have hn : after.node? place = some (.file (writeAll terminals).toUTF8) :=
    ha ▸ node_put_self hl.ne_nil _
  rw [load, bind_run, readText_ok (read_ok.mpr ⟨place, hl, hn⟩)]
  simp only [readAll_writeAll]
  rfl

theorem load_save (h : save (m := StateM FileTree) path terminals before = (.ok (), after)) :
    load (m := StateM FileTree) path after = (.ok terminals, after) ∧
      ∃ place, after.LeadsTo path place ∧ ∀ names, names ≠ place →
        after.node? names = before.node? names ∨
          before.node? names = none ∧ after.node? names = some .directory ∧
            ∃ upper, Relation.TransGen Files.Holds path upper ∧ after.locate upper = .ok (names, .directory) := by
  refine ⟨load_saved h, ?_⟩
  obtain ⟨place, hl, hk, ha⟩ := save_ok h
  refine ⟨place, hl, fun names hn => ?_⟩
  have hp : after.node? names = (prepared path before).node? names := by
    rw [ha, node_put hl.ne_nil, if_neg hn]
  rw [hp]
  rcases (prepared_grows path before).node names with he | ⟨hb, hd, upper, hu, hlu⟩
  · exact .inl he
  · exact .inr ⟨hb, hd, upper, hu, locate_kept hk hlu⟩

theorem load_save_missing_directory :
    let first : SavedTerminal :=
      { handle := "a\"\\\n\x01\x7fé", sequence := 0xFFFFFFFF, shell := .powerShell64, workingDirectory := some "" }
    let terminals := [first, { first with zombie := true }]
    let files : FileTree := { entries := [(["notes"], .file "kept".toUTF8)] }
    ∃ after, save (m := StateM FileTree) "state/terminals.json" terminals files = (.ok (), after) ∧
      load (m := StateM FileTree) "state/terminals.json" after = (.ok terminals, after) ∧
      after.read "notes" = .ok "kept".toUTF8 := by
  intro first terminals files
  have hs : (save (m := StateM FileTree) "state/terminals.json" terminals files).1 = .ok () := by
    decide +kernel
  have hr : (save (m := StateM FileTree) "state/terminals.json" terminals files).2.read "notes" =
      .ok "kept".toUTF8 := by
    decide +kernel
  generalize hf : save (m := StateM FileTree) "state/terminals.json" terminals files = result at hs hr
  obtain ⟨answer, after⟩ := result
  obtain rfl : answer = .ok () := hs
  exact ⟨after, rfl, (load_save hf).1, hr⟩

theorem layouts_read :
    (∀ (terminal : SavedTerminal) (text : String), Surrounded (ObjectLayout terminal) text → read text = .ok terminal) ∧
      ∀ (terminals : List SavedTerminal) (text : String), Surrounded (ListLayout terminals) text →
        ∀ (path : String) (tree : FileTree), tree.read path = .ok text.toUTF8 →
          load (m := StateM FileTree) path tree = (.ok terminals, tree) := by
  refine ⟨fun terminal text h => read_layout h, fun terminals text h path tree hr => ?_⟩
  rw [load, bind_run, readText_ok hr]
  simp only [readAll_layout h]
  rfl

theorem layouts_read_unknown :
    let terminal : SavedTerminal := { handle := "t/1", sequence := 7 }
    let object :=
      "\x7b\"later\" : [1.5e+3, \x7b\"\\ud800\":null\x7d ] ,\"terminalSequence\":7,\t\"h\\u0061ndle\":\"t\\/1\"\x7d"
    let files : FileTree := { entries := [(["state"], .file (" [" ++ object ++ " ]\n").toUTF8)] }
    read object = .ok terminal ∧ load (m := StateM FileTree) "state" files = (.ok [terminal], files) := by
  intro terminal object files
  have hthree : Digits ['3'] := ⟨by decide, List.forall_mem_singleton.mpr rfl⟩
  have hfive : Digits ['5'] := ⟨by decide, List.forall_mem_singleton.mpr rfl⟩
  have hone : Whole ['1'] := .more rfl (by decide) (List.forall_mem_nil _)
  have hnumber : ValueText "1.5e+3".toList :=
    show ValueText (['1'] ++ (['.', '5'] ++ ['e', '+', '3'])) from
      .scalar (.number (.positive hone (.some hfive) (.some (.inl rfl) (show ['+'] ∈ _ by decide) hthree)))
  have h0 : HexDigit '0' 0 := ⟨by decide, .inl rfl⟩
  have h1 : HexDigit '1' 1 := ⟨by decide, .inl rfl⟩
  have h6 : HexDigit '6' 6 := ⟨by decide, .inl rfl⟩
  have h8 : HexDigit '8' 8 := ⟨by decide, .inl rfl⟩
  have hd : HexDigit 'd' 13 := ⟨by decide, .inl rfl⟩
  have hhalf : StringBody ['\\', 'u', 'd', '8', '0', '0'] := .code (.mk hd h8 h0 h0) .nil
  have ha : CharSpelling 'a' ['\\', 'u', '0', '0', '6', '1'] := .code (.mk h0 h0 h6 h1)
  have hslash : CharSpelling '/' ['\\', '/'] := .short (by decide)
  let half : Entry := ⟨[], '"' :: (['\\', 'u', 'd', '8', '0', '0'] ++ ['"', ':']), "null".toList, []⟩
  let values : List Entry := [⟨[], [], "1.5e+3".toList, []⟩, ⟨[' '], [], Frame.object.text [half] [], [' ']⟩]
  let later : Entry := ⟨[], '"' :: ("later".toList ++ ['"', ' ', ':', ' ']), Frame.list.text values [], [' ']⟩
  let sequence : Entry := ⟨[], '"' :: ("terminalSequence".toList ++ ['"', ':']), ['7'], []⟩
  let handle : Entry := ⟨['\t'], '"' :: ("h\\u0061ndle".toList ++ ['"', ':']), "\"t\\/1\"".toList, []⟩
  have hlabel : ∀ key, Label key ('"' :: (key ++ ['"', ':'])) := fun key =>
    show Label key ('"' :: (key ++ '"' :: ([] ++ ':' :: []))) from .mk (by decide) (by decide)
  have hwide : ∀ key, Label key ('"' :: (key ++ ['"', ' ', ':', ' '])) := fun key =>
    show Label key ('"' :: (key ++ '"' :: ([' '] ++ ':' :: [' ']))) from .mk (by decide) (by decide)
  have hhandle : Spelling "handle".toList "h\\u0061ndle".toList :=
    .cons (.plain (by decide) (by decide) (by decide)) (.cons ha (spelling_written "ndle".toList))
  have hvalue : Spelling "t/1".toList "t\\/1".toList :=
    .cons (.plain (by decide) (by decide) (by decide)) (.cons hslash (spelling_written "1".toList))
  have hinner : ValueText (Frame.object.text [half] []) := by
    refine .nested ?_ ?_ ?_ (by decide)
    · exact List.forall_mem_singleton.mpr ⟨by decide, by decide⟩
    · exact List.forall_mem_singleton.mpr ⟨_, hhalf, hlabel _⟩
    · exact List.forall_mem_singleton.mpr (.scalar (.word (by decide)))
  have hvalues : ValueText (Frame.list.text values []) := by
    refine .nested ?_ ?_ ?_ (by decide)
    · exact List.forall_mem_cons.mpr ⟨⟨by decide, by decide⟩, List.forall_mem_singleton.mpr ⟨by decide, by decide⟩⟩
    · exact List.forall_mem_cons.mpr ⟨rfl, List.forall_mem_singleton.mpr rfl⟩
    · exact List.forall_mem_cons.mpr ⟨hnumber, List.forall_mem_singleton.mpr hinner⟩
  have hf : List.Forall₂ (Tells terminal) [later, sequence, handle] [none, some .sequence, some .handle] := by
    refine .cons (.unknown ?_ (spelling_written "later".toList) (hwide _) hvalues) (.cons ?_ (.cons ?_ .nil))
    · intro field
      cases field <;> decide
    · exact .known (spelling_written _) (hlabel _) (.integer 7)
    · exact .known hhandle (hlabel _) (.string hvalue)
  have hl : ObjectLayout terminal (Frame.object.text [later, sequence, handle] []) := by
    refine .mk ?_ (by decide) hf (by decide) fun field hn => ?_
    · simp only [List.forall_mem_cons]
      exact ⟨⟨by decide, by decide⟩, ⟨by decide, by decide⟩, ⟨by decide, by decide⟩, List.forall_mem_nil _⟩
    · cases field <;> first | rfl | exact absurd (by decide) hn
  have hlist : ListLayout [terminal] (Frame.list.text [⟨[], [], _, [' ']⟩] []) :=
    .mk (List.forall_mem_singleton.mpr ⟨by decide, by decide⟩) (by decide) (List.forall_mem_singleton.mpr rfl)
      (.cons hl .nil)
  have hfile : Surrounded (ListLayout [terminal]) (" [" ++ object ++ " ]\n") :=
    ⟨[' '], _, ['\n'], by decide +kernel, by decide, by decide, hlist⟩
  exact ⟨layouts_read.1 terminal object ⟨[], _, [], by decide +kernel, by decide, by decide, hl⟩,
    layouts_read.2 [terminal] _ hfile "state" files (by decide +kernel)⟩

end SavedTerminal

end TerminalSessions
