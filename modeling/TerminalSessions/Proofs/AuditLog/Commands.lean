import TerminalSessions.Proofs.AuditLog.Entries
import TerminalSessions.Proofs.Command
import TerminalSessions.Proofs.Console.Failures

namespace TerminalSessions

open FileTree
open TerminalSessions.Json

namespace Text

def behind? (separator : List Char) : List Char → Option (List Char)
  | [] => none
  | c :: cs => if separator <+: c :: cs then some ((c :: cs).drop separator.length) else behind? separator cs

end Text

open Text (behind?)

namespace AuditLog

def object? (line : List Char) : Option (List Char) :=
  (behind? bar line).bind (behind? bar)

inductive Abridged : String × Value → String × Value → Prop
  | left {key text : String} (h : 256 < text.utf8ByteSize) :
      Abridged (key, .string text) (key, .string "<truncated for log>")
  | kept {key : String} {value : Value} (h : ∀ text, value = .string text → text.utf8ByteSize ≤ 256) :
      Abridged (key, value) (key, value)

structure Tells (command : Command) (line : List Char) : Prop where
  single : ∃ start, line = start ++ ['\n'] ∧ '\n' ∉ start
  object : ∃ object fields kept, object? line = some object ∧
    readValue (String.ofList object) = .ok (.object kept) ∧ command.toJson = .object fields ∧
      List.Forall₂ Abridged fields kept

variable {before rest : List Char} {field : String × Value} {command other : Command}

lemma behind_bar (h : '|' ∉ before) (rest : List Char) : behind? bar (before ++ (bar ++ rest)) = some rest := by
  induction before with
  | nil => rfl
  | cons c cs ih =>
    have hp : ¬ bar <+: c :: (cs ++ (bar ++ rest)) := by
      rintro ⟨others, ho⟩
      -- the bar would have its stroke in the text before it, or in its own blank
      cases cs with
      | nil => cases ho
      | cons next cs =>
        obtain ⟨-, ho⟩ := List.cons.inj ho
        have hn : '|' = next := (List.cons.inj ho).1
        exact h (List.mem_cons_of_mem _ (hn ▸ List.mem_cons_self))
    rw [List.cons_append, behind?, if_neg hp]
    exact ih fun hm => h (List.mem_cons_of_mem _ hm)

lemma abridged_shortened (field : String × Value) : Abridged field (field.1, shortened field.2) := by
  obtain ⟨key, value⟩ := field
  cases value with
  | string text =>
    by_cases hl : 256 < text.utf8ByteSize
    · rw [shortened, if_pos (show longestText < _ from hl)]
      exact .left hl
    · rw [shortened, if_neg (show ¬ longestText < _ from hl)]
      exact .kept fun other ho => Value.string.inj ho ▸ Nat.le_of_not_lt hl
  | _ => exact .kept fun text ht => by cases ht

lemma shortened_plain {value : Value} (h : value.isPlain = true) : (shortened value).isPlain = true := by
  cases value with
  | string text =>
    rw [shortened]
    split_ifs <;> rfl
  | _ => exact h

def commandFields (command : Command) : List (String × Value) :=
  insertAll [] command.fields

def keptFields (command : Command) : List (String × Value) :=
  (commandFields command).map fun (key, value) => (key, shortened value)

lemma logged_command (command : Command) : logged command.toJson = .object (keptFields command) := rfl

lemma mem_commandFields (h : field ∈ commandFields command) : field ∈ command.fields :=
  (mem_insertAll h).resolve_left List.not_mem_nil

lemma keptFields_plain : ∀ field ∈ keptFields command, field.2.isPlain = true := by
  intro field h
  obtain ⟨original, hm, rfl⟩ := List.mem_map.mp h
  exact shortened_plain (Command.plain_fields (mem_commandFields hm))

lemma keptFields_ordered (command : Command) : Ordered (keptFields command) :=
  List.pairwise_map.mpr (insertAll_ordered List.Pairwise.nil command.fields)

lemma name_apart {c : Char} (hl : c.isLower = false) (hh : c ≠ '-') (hb : c ≠ ' ') (verb : Verb) :
    c ∉ (Text.alignLeft 14 verb.name).toList := by
  intro h
  rcases Text.mem_alignLeft h with hm | hm
  · rcases Verb.mem_name hm with hn | hn
    · rw [hl] at hn
      cases hn
    · exact hh hn
  · exact hb hm

lemma object_entry (time : Instant) (command : Command) :
    object? (entry time command.verb.name command.toJson).toList =
      some ((Value.object (keptFields command)).write ++ ['\n']) := by
  have ht : '|' ∉ time.timestamp.toList := Instant.not_mem_timestamp rfl (by decide) time
  have hn : '|' ∉ (Text.alignLeft 14 command.verb.name).toList := name_apart rfl (by decide) (by decide) _
  rw [entry_toList, object?, behind_bar ht, Option.bind_some, behind_bar hn, logged_command]

lemma readValue_entry (command : Command) :
    readValue (String.ofList ((Value.object (keptFields command)).write ++ ['\n'])) =
      .ok (.object (keptFields command)) :=
  readValue_object keptFields_plain (keptFields_ordered command) (List.forall_mem_singleton.mpr rfl)

lemma tells_entry (time : Instant) (command : Command) :
    Tells command (entry time command.verb.name command.toJson).toList := by
  have hn : '\n' ∉ command.verb.name.toList := fun h => by
    rcases Verb.mem_name h with hm | hm <;> cases hm
  exact ⟨entry_line time hn command.toJson, _, commandFields command, keptFields command, object_entry time command,
    readValue_entry command, rfl,
    List.forall₂_map_right_iff.mpr (List.forall₂_same.mpr fun field _ => abridged_shortened field)⟩

lemma keptFields_short (h : ∀ text ∈ command.texts, text.utf8ByteSize ≤ 256) :
    keptFields command = commandFields command := by
  have hv : ∀ verb : Verb, verb.name.utf8ByteSize ≤ 256 := by
    intro verb
    cases verb <;> decide
  refine (List.map_congr_left fun field hm => ?_).trans (List.map_id _)
  have hk : shortened field.2 = field.2 := by
    rcases Command.mem_fields (mem_commandFields hm) with hf | ⟨_, hf⟩ | ⟨text, hf, ht⟩
    · rw [hf, shortened]
      exact fun _ => Value.noConfusion
    · rw [hf, shortened]
      exact fun _ => Value.noConfusion
    · have hs : text.utf8ByteSize ≤ 256 := ht.elim (fun he => he ▸ hv _) (h text)
      rw [hf, shortened, if_neg (show ¬ longestText < _ from Nat.not_lt.mpr hs)]
  exact Prod.ext rfl hk

lemma command_of_object {time time' : Instant} {object object' : List Char}
    (h : ∀ text ∈ command.texts, text.utf8ByteSize ≤ 256) (h' : ∀ text ∈ other.texts, text.utf8ByteSize ≤ 256)
    (ho : object? (entry time command.verb.name command.toJson).toList = some object)
    (ho' : object? (entry time' other.verb.name other.toJson).toList = some object')
    (hr : readValue (String.ofList object) = readValue (String.ofList object')) : command = other := by
  rw [object_entry] at ho ho'
  obtain rfl := Option.some.inj ho
  obtain rfl := Option.some.inj ho'
  rw [readValue_entry, readValue_entry, keptFields_short h, keptFields_short h'] at hr
  exact Command.toJson_injective (Except.ok.inj hr)

end AuditLog

namespace Console

open AuditLog

variable {console : Console} {times : EntryTimes} {line : String} {command : Command} {before after : FileTree}

/-- A line that is a command is logged before it is carried out. What is appended to the log, once a full one is put
aside, is one line. The object behind its second bar has the fields of the command, but for the texts that are too
long, and commands without such texts never log the same object. -/
theorem command_logged (hc : Command.ofLine line = .ok command)
    (hr : console.log.record (m := StateM FileTree) times command.verb.name command.toJson before = (.ok (), after)) :
    console.runLine (m := StateM FileTree) times line before = console.perform (m := StateM FileTree) command after ∧
      ∃ aside place, ∃ text : String,
        console.log.rotateIfFull (m := StateM FileTree) times.rotation before = (.ok (), aside) ∧
        aside.LeadsTo console.log.path place ∧
          after = aside.put place (.file (aside.bytesAt place ++ text.toUTF8)) ∧ Tells command text.toList ∧
            ∀ time other object object', object? text.toList = some object →
              object? (entry time other.verb.name other.toJson).toList = some object' →
                readValue (String.ofList object) = readValue (String.ofList object') →
                  (∀ typed ∈ command.texts ++ other.texts, typed.utf8ByteSize ≤ 256) → command = other := by
  obtain ⟨aside, place, hm, hl, -, ha⟩ := record_ok hr
  refine ⟨by rw [runLine_read hc, hr], aside, place, _, hm, hl, ha, tells_entry _ _, ?_⟩
  intro time other object object' ho ho' hv hs
  exact command_of_object (fun typed hm => hs typed (List.mem_append_left _ hm))
    (fun typed hm => hs typed (List.mem_append_right _ hm)) ho ho' hv

theorem command_logged_bar :
    let console : Console :=
      { registry := { }
        backend := { supply := fun _ => "u" }
        stateFile := "state"
        log := { path := "a.log", limit := 1 } }
    let files : FileTree := { entries := [(["a.log"], .file "old".toUTF8)] }
    let command := Command.retitle "t|" "\" | \\ <truncated for log>"
    ∃ after aside : FileTree, ∃ place, ∃ text : String,
      console.runLine (m := StateM FileTree) default "retitle  t| \" | \\ <truncated for log>" files =
        console.perform (m := StateM FileTree) command after ∧
      after = aside.put place (.file (aside.bytesAt place ++ text.toUTF8)) ∧ Tells command text.toList := by
  intro console files command
  have hc : Command.ofLine "retitle  t| \" | \\ <truncated for log>" = .ok command := by
    decide +kernel
  have hr : (console.log.record (m := StateM FileTree) default command.verb.name command.toJson files).1 = .ok () := by
    decide +kernel
  obtain ⟨hp, aside, place, text, -, -, ha, ht, -⟩ := command_logged hc (Prod.ext hr rfl)
  exact ⟨_, aside, place, text, hp, ha, ht⟩

end Console

end TerminalSessions
