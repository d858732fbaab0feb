import TerminalSessions.Command
import TerminalSessions.Proofs.Json.Objects

namespace TerminalSessions

open TerminalSessions.Json

lemma Verb.mem_name {verb : Verb} {c : Char} (h : c ∈ verb.name.toList) : c.isLower = true ∨ c = '-' := by
  have ha : verb.name.toList.all (fun c => c.isLower || c == '-') = true := by
    cases verb <;> decide
  simpa using List.all_eq_true.mp ha c h

namespace Command

def texts : Command → List String
  | new caption => [caption]
  | retitle handle title => [handle, title]
  | close handle => [handle]
  | reconnect handle => [handle]
  | subprocs handle _ => [handle]
  | cwd handle directory => handle :: directory.toList
  | find caption => [caption]
  | list | busy | save | terminateAll | quit => []

def fields (command : Command) : List (String × Value) :=
  ("command", .string command.verb.name) :: toJson.arguments command

variable {command : Command} {field : String × Value}

lemma toJson_eq (command : Command) : command.toJson = .object (insertAll [] command.fields) := rfl

lemma mem_fields (h : field ∈ command.fields) : field.2 = .null ∨ (∃ value, field.2 = .bool value) ∨
    ∃ text, field.2 = .string text ∧ (text = command.verb.name ∨ text ∈ command.texts) := by
  rcases List.mem_cons.mp h with rfl | h
  · exact .inr (.inr ⟨_, rfl, .inl rfl⟩)
  · cases command with
    | cwd handle directory =>
      cases directory <;> simp only [toJson.arguments, List.mem_cons, List.not_mem_nil, or_false] at h <;>
        rcases h with rfl | rfl <;> simp [texts]
    | retitle | subprocs =>
      simp only [toJson.arguments, List.mem_cons, List.not_mem_nil, or_false] at h
      rcases h with rfl | rfl <;> simp [texts]
    | new | close | reconnect | find =>
      obtain rfl := List.mem_singleton.mp h
      simp [texts]
    | _ => cases h

lemma plain_fields (h : field ∈ command.fields) : field.2.isPlain = true := by
  rcases mem_fields h with hv | ⟨_, hv⟩ | ⟨_, hv, -⟩ <;> rw [hv] <;> rfl

def ofFields? (field? : String → Option Value) : Verb → Option Command
  | .new => do
    let .string caption ← field? "caption" | none
    return new caption
  | .retitle => do
    let .string handle ← field? "handle" | none
    let .string title ← field? "title" | none
    return retitle handle title
  | .close => do
    let .string handle ← field? "handle" | none
    return close handle
  | .reconnect => do
    let .string handle ← field? "handle" | none
    return reconnect handle
  | .subprocs => do
    let .string handle ← field? "handle" | none
    let .bool active ← field? "active" | none
    return subprocs handle active
  | .cwd => do
    let .string handle ← field? "handle" | none
    match ← field? "cwd" with
    | .string directory => return cwd handle (some directory)
    | .null => return cwd handle none
    | _ => none
  | .find => do
    let .string caption ← field? "caption" | none
    return find caption
  | .list => some list
  | .busy => some busy
  | .save => some save
  | .terminateAll => some terminateAll
  | .quit => some quit

lemma ofFields_fields (command : Command) :
    ofFields? (command.fields.reverse.lookup ·) command.verb = some command := by
  cases command with
  | cwd handle directory => cases directory <;> rfl
  | _ => rfl

lemma verb_field (command : Command) :
    command.fields.reverse.lookup "command" = some (.string command.verb.name) := by
  cases command with
  | cwd handle directory => cases directory <;> rfl
  | _ => rfl

theorem toJson_injective : toJson.Injective := by
  intro command other h
  have hf : ∀ key, command.fields.reverse.lookup key = other.fields.reverse.lookup key := fun key => by
    have hk := congrArg (Value.field? key) h
    simpa only [toJson_eq, Value.field?, lookup_insertAll, List.append_nil] using hk
  have hv : command.verb = other.verb := by
    have hn := hf "command"
    rw [verb_field, verb_field] at hn
    exact Verb.names.name_injective (Value.string.inj (Option.some.inj hn))
  have ho := ofFields_fields other
  simp only [← hf, ← hv, ofFields_fields] at ho
  exact Option.some.inj ho

end Command

end TerminalSessions
