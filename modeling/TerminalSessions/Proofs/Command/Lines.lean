import TerminalSessions.Proofs.Command
import TerminalSessions.Proofs.Text.Words

/-! The lines that commands are typed in. Only the words of a line count, and each command that can be typed has a
line of its own. -/

namespace TerminalSessions

open TerminalSessions.Text (HasWords IsWord wordsOf)

namespace Command

def IsPhrase (text : String) : Prop :=
  ∃ words, (∀ word ∈ words, IsWord word) ∧ text = String.intercalate " " words

def IsState (word : String) (active : Bool) : Prop :=
  word ∈ if active then ["on", "true", "yes"] else ["off", "false", "no"]

instance (word : String) (active : Bool) : Decidable (IsState word active) :=
  inferInstanceAs (Decidable (_ ∈ _))

/-- The commands and their words. A command takes no notice of words that it has no use for. -/
inductive Accepts : List String → Command → Prop
  | new (caption : List String) : Accepts ("new" :: caption) (.new (String.intercalate " " caption))
  | list {word : String} (h : word ∈ ["list", "ls"]) (ignored : List String) : Accepts (word :: ignored) .list
  | retitle (handle : String) (title : List String) :
    Accepts ("retitle" :: handle :: title) (.retitle handle (String.intercalate " " title))
  | close (handle : String) (ignored : List String) : Accepts ("close" :: handle :: ignored) (.close handle)
  | reconnect (handle : String) (ignored : List String) :
    Accepts ("reconnect" :: handle :: ignored) (.reconnect handle)
  | subprocs (handle : String) {word : String} {active : Bool} (h : IsState word active) (ignored : List String) :
    Accepts ("subprocs" :: handle :: word :: ignored) (.subprocs handle active)
  | forget (handle : String) : Accepts ["cwd", handle] (.cwd handle none)
  | cwd (handle : String) {directory : List String} (h : directory ≠ []) :
    Accepts ("cwd" :: handle :: directory) (.cwd handle (some (String.intercalate " " directory)))
  | find {caption : List String} (h : caption ≠ []) :
    Accepts ("find" :: caption) (.find (String.intercalate " " caption))
  | busy (ignored : List String) : Accepts ("busy" :: ignored) .busy
  | save (ignored : List String) : Accepts ("save" :: ignored) .save
  | terminateAll (ignored : List String) : Accepts ("terminate-all" :: ignored) .terminateAll
  | quit {word : String} (h : word ∈ ["quit", "exit"]) (ignored : List String) : Accepts (word :: ignored) .quit

def verbWords : List String :=
  ["new", "list", "ls", "retitle", "close", "reconnect", "subprocs", "cwd", "find", "busy", "save", "terminate-all",
    "quit", "exit"]

inductive Refuses : List String → LineFault → Prop
  | empty : Refuses [] .empty
  | unknown {word : String} (h : word ∉ verbWords) (others : List String) : Refuses (word :: others) (.unknown word)
  | handle (verb : Verb) (h : verb ∈ [.retitle, .close, .reconnect, .subprocs, .cwd]) :
    Refuses [verb.name] (.missing .handle verb)
  | state (handle : String) : Refuses ["subprocs", handle] (.missing .state .subprocs)
  | invalidState (handle : String) {word : String} (h : ∀ active, ¬ IsState word active) (ignored : List String) :
    Refuses ("subprocs" :: handle :: word :: ignored) (.invalidState word)
  | caption : Refuses ["find"] (.missing .caption .find)

def IsTyped : Command → Prop
  | new caption => IsPhrase caption
  | retitle handle title => IsWord handle ∧ IsPhrase title
  | close handle => IsWord handle
  | reconnect handle => IsWord handle
  | subprocs handle _ => IsWord handle
  | cwd handle directory => IsWord handle ∧ ∀ text ∈ directory, IsPhrase text ∧ text ≠ ""
  | find caption => IsPhrase caption ∧ caption ≠ ""
  | list | busy | save | terminateAll | quit => True

def pieces : Command → List String
  | subprocs handle active => [handle, if active then "on" else "off"]
  | command => command.texts

def line (command : Command) : String :=
  phrase (command.verb.name :: command.pieces)

lemma wordsOf_phrase (texts : List String) : wordsOf (phrase texts) = texts.flatMap wordsOf := by
  induction texts with
  | nil => rfl
  | cons first others ih =>
    cases others with
    | nil => simp [phrase, String.intercalate_singleton]
    | cons second others =>
      rw [phrase, String.intercalate_cons_cons, Text.wordsOf_spaced, List.flatMap_cons, ← ih]
      rfl

lemma wordsOf_words {words : List String} (h : ∀ word ∈ words, IsWord word) : wordsOf (phrase words) = words := by
  rw [wordsOf_phrase]
  induction words with
  | nil => rfl
  | cons word words ih =>
    obtain ⟨hw, hs⟩ := List.forall_mem_cons.mp h
    rw [List.flatMap_cons, Text.wordsOf_word hw, ih hs]
    rfl

lemma isPhrase_iff {text : String} : IsPhrase text ↔ phrase (wordsOf text) = text := by
  constructor
  · rintro ⟨words, hw, rfl⟩
    exact congrArg phrase (wordsOf_words hw)
  · intro h
    exact ⟨wordsOf text, fun word hm => Text.isWord_of_mem hm, h.symm⟩

lemma wordsOf_ne_nil {text : String} (hp : IsPhrase text) (hn : text ≠ "") : wordsOf text ≠ [] := by
  intro h
  rw [isPhrase_iff, h] at hp
  exact hn hp.symm

variable {command : Command} {words : List String}

lemma phrase_ne_empty (hw : ∀ word ∈ words, IsWord word) (hn : words ≠ []) : phrase words ≠ "" := by
  intro h
  have ho := wordsOf_words hw
  rw [h] at ho
  exact hn ho.symm

lemma state_iff {word : String} {active : Bool} : state? word = some active ↔ IsState word active := by
  rw [state?, IsState]
  constructor
  · intro h
    split_ifs at h with ht hf <;> cases h <;> assumption
  · intro h
    cases active with
    | true => exact if_pos h
    | false =>
      have hn : word ∉ ["on", "true", "yes"] := by
        simp only [Bool.false_eq_true, if_false, List.mem_cons, List.not_mem_nil, or_false] at h
        rcases h with rfl | rfl | rfl <;> decide
      exact (if_neg hn).trans (if_pos h)

lemma state_none {word : String} (h : ∀ active, ¬ IsState word active) : state? word = none :=
  Option.eq_none_iff_forall_ne_some.mpr fun active => mt state_iff.mp (h active)

lemma accepts_or_refuses (words : List String) :
    (∃ command, Accepts words command) ∨ ∃ fault, Refuses words fault := by
  match words with
  | [] => exact .inr ⟨_, .empty⟩
  | word :: others =>
    by_cases hn : word ∈ verbWords
    · simp only [verbWords, List.mem_cons, List.not_mem_nil, or_false] at hn
      -- the words in their order in `verbWords`
      rcases hn with rfl | rfl | rfl | rfl | rfl | rfl | rfl | rfl | rfl | rfl | rfl | rfl | rfl | rfl
      · exact .inl ⟨_, .new others⟩
      · exact .inl ⟨_, .list (by decide) others⟩
      · exact .inl ⟨_, .list (by decide) others⟩
      · cases others with
        | nil => exact .inr ⟨_, .handle .retitle (by decide)⟩
        | cons handle title => exact .inl ⟨_, .retitle handle title⟩
      · cases others with
        | nil => exact .inr ⟨_, .handle .close (by decide)⟩
        | cons handle ignored => exact .inl ⟨_, .close handle ignored⟩
      · cases others with
        | nil => exact .inr ⟨_, .handle .reconnect (by decide)⟩
        | cons handle ignored => exact .inl ⟨_, .reconnect handle ignored⟩
      · match others with
        | [] => exact .inr ⟨_, .handle .subprocs (by decide)⟩
        | [handle] => exact .inr ⟨_, .state handle⟩
        | handle :: word :: ignored =>
          by_cases hs : ∃ active, IsState word active
          · obtain ⟨active, hs⟩ := hs
            exact .inl ⟨_, .subprocs handle hs ignored⟩
          · exact .inr ⟨_, .invalidState handle (not_exists.mp hs) ignored⟩
      · match others with
        | [] => exact .inr ⟨_, .handle .cwd (by decide)⟩
        | [handle] => exact .inl ⟨_, .forget handle⟩
        | handle :: first :: directory => exact .inl ⟨_, .cwd handle (List.cons_ne_nil first directory)⟩
      · cases others with
        | nil => exact .inr ⟨_, .caption⟩
        | cons first caption => exact .inl ⟨_, .find (List.cons_ne_nil first caption)⟩
      · exact .inl ⟨_, .busy others⟩
      · exact .inl ⟨_, .save others⟩
      · exact .inl ⟨_, .terminateAll others⟩
      · exact .inl ⟨_, .quit (by decide) others⟩
      · exact .inl ⟨_, .quit (by decide) others⟩
    · exact .inr ⟨_, .unknown hn others⟩

lemma ofLine_accepted {text : String} (h : Accepts (wordsOf text) command) : ofLine text = .ok command := by
  rw [ofLine]
  generalize wordsOf text = words at h
  cases h with
  | list h ignored | quit h ignored =>
    simp only [List.mem_cons, List.not_mem_nil, or_false] at h
    rcases h with rfl | rfl <;> rfl
  | subprocs handle h ignored =>
    change ofWords .subprocs _ = _
    simp only [ofWords, state_iff.mpr h]
  | cwd handle h | find h =>
    obtain ⟨first, others, rfl⟩ := List.exists_cons_of_ne_nil h
    rfl
  | _ => rfl

lemma unknown_word {word : String} (h : word ∉ verbWords) : Verb.ofWord? word = none := by
  have hl : word ≠ "ls" ∧ word ≠ "exit" := by
    constructor <;> rintro rfl <;> exact h (by decide)
  rw [Verb.ofWord?, if_neg hl.1, if_neg hl.2]
  refine Names.ofName_unknown fun verb hv => h ?_
  subst hv
  cases verb <;> decide

lemma ofLine_refused {text : String} {fault : LineFault} (h : Refuses (wordsOf text) fault) :
    ofLine text = .error fault := by
  rw [ofLine]
  generalize wordsOf text = words at h
  cases h with
  | unknown h others => simp only [unknown_word h]
  | handle verb h =>
    simp only [List.mem_cons, List.not_mem_nil, or_false] at h
    rcases h with rfl | rfl | rfl | rfl | rfl <;> rfl
  | invalidState handle h ignored =>
    change ofWords .subprocs _ = _
    simp only [ofWords, state_none h]
  | _ => rfl

variable {text : String}

lemma ofLine_ok_iff : ofLine text = .ok command ↔ Accepts (wordsOf text) command := by
  refine ⟨fun h => ?_, ofLine_accepted⟩
  rcases accepts_or_refuses (wordsOf text) with ⟨found, hf⟩ | ⟨fault, hf⟩
  · obtain rfl := Except.ok.inj (h.symm.trans (ofLine_accepted hf))
    exact hf
  · cases h.symm.trans (ofLine_refused hf)

lemma ofLine_error_iff {fault : LineFault} : ofLine text = .error fault ↔ Refuses (wordsOf text) fault := by
  refine ⟨fun h => ?_, ofLine_refused⟩
  rcases accepts_or_refuses (wordsOf text) with ⟨command, hf⟩ | ⟨found, hf⟩
  · cases h.symm.trans (ofLine_accepted hf)
  · obtain rfl := Except.error.inj (h.symm.trans (ofLine_refused hf))
    exact hf

lemma accepts_typed (hw : ∀ word ∈ words, IsWord word) (h : Accepts words command) : command.IsTyped := by
  cases h with
  | new caption => exact ⟨caption, (List.forall_mem_cons.mp hw).2, rfl⟩
  | retitle handle title =>
    obtain ⟨hh, ht⟩ := List.forall_mem_cons.mp (List.forall_mem_cons.mp hw).2
    exact ⟨hh, title, ht, rfl⟩
  | close handle ignored | reconnect handle ignored | subprocs handle _ ignored => exact hw handle (by simp)
  | forget handle => exact ⟨hw handle (by simp), fun text hm => by cases hm⟩
  | @cwd handle directory h =>
    obtain ⟨hh, hd⟩ := List.forall_mem_cons.mp (List.forall_mem_cons.mp hw).2
    refine ⟨hh, fun text hm => ?_⟩
    obtain rfl := Option.mem_some_iff.mp hm
    exact ⟨⟨directory, hd, rfl⟩, phrase_ne_empty hd h⟩
  | @find caption h =>
    have hc := (List.forall_mem_cons.mp hw).2
    exact ⟨⟨caption, hc, rfl⟩, phrase_ne_empty hc h⟩
  | list | busy | save | terminateAll | quit => trivial

lemma ofLine_typed (h : ofLine text = .ok command) : command.IsTyped :=
  accepts_typed (fun _ => Text.isWord_of_mem) (ofLine_ok_iff.mp h)

lemma isWord_name (verb : Verb) : IsWord verb.name := by
  cases verb <;> decide

lemma ofWord_name (verb : Verb) : Verb.ofWord? verb.name = some verb := by
  cases verb <;> rfl

lemma ofLine_phrase (verb : Verb) (texts : List String) :
    ofLine (phrase (verb.name :: texts)) = ofWords verb (texts.flatMap wordsOf) := by
  rw [ofLine, wordsOf_phrase, List.flatMap_cons, Text.wordsOf_word (isWord_name verb)]
  simp [ofWord_name]

lemma ofLine_line (h : command.IsTyped) : ofLine command.line = .ok command := by
  rw [line, ofLine_phrase]
  cases command with
  | new caption => simp [pieces, texts, verb, ofWords, isPhrase_iff.mp h]
  | retitle handle title => simp [pieces, texts, verb, ofWords, Text.wordsOf_word h.1, isPhrase_iff.mp h.2]
  | close | reconnect => simp [pieces, texts, verb, ofWords, Text.wordsOf_word h]
  | subprocs handle active =>
    have hs : wordsOf (if active then "on" else "off") = [if active then "on" else "off"] := by
      cases active <;> exact Text.wordsOf_word (by decide)
    simp only [pieces, verb, List.flatMap_cons, List.flatMap_nil, Text.wordsOf_word h, hs]
    cases active <;> rfl
  | cwd handle directory =>
    obtain ⟨hh, hd⟩ := h
    cases directory with
    | none => simp [pieces, texts, verb, ofWords, Text.wordsOf_word hh]
    | some directory =>
      obtain ⟨hp, hn⟩ := hd directory rfl
      obtain ⟨first, others, hw⟩ := List.exists_cons_of_ne_nil (wordsOf_ne_nil hp hn)
      have ho := isPhrase_iff.mp hp
      rw [hw] at ho
      simp [pieces, texts, verb, ofWords, Text.wordsOf_word hh, hw, ho]
  | find caption =>
    obtain ⟨hp, hn⟩ := h
    obtain ⟨first, others, hw⟩ := List.exists_cons_of_ne_nil (wordsOf_ne_nil hp hn)
    have ho := isPhrase_iff.mp hp
    rw [hw] at ho
    simp [pieces, texts, verb, ofWords, hw, ho]
  | list | busy | save | terminateAll | quit => rfl

/-- Lines with the same words are the same command, or fail in the same way, and the words tell which command they
are or what is wrong with them. The commands that lines give are those that can be typed: each of them is given by
its own line. -/
theorem ofLine_words : (∀ text : String, ∃! words, HasWords text.toList words) ∧
    (∀ (first second : String) words, HasWords first.toList words → HasWords second.toList words →
      ofLine first = ofLine second) ∧
    (∀ (text : String) words, HasWords text.toList words →
      (∀ command, ofLine text = .ok command ↔ Accepts (words.map String.ofList) command) ∧
        ∀ fault, ofLine text = .error fault ↔ Refuses (words.map String.ofList) fault) ∧
    (∀ text command, ofLine text = .ok command → command.IsTyped) ∧
    ∀ command : Command, command.IsTyped → ofLine command.line = .ok command := by
  refine ⟨fun text => ?_, fun first second words hf hs => ?_, fun text words hw => ?_, fun _ _ => ofLine_typed,
    fun _ => ofLine_line⟩
  · exact ⟨_, Text.hasWords text.toList, fun words h => h.words_eq.symm⟩
  · rw [ofLine, ofLine, wordsOf, wordsOf, hf.words_eq, hs.words_eq]
  · rw [← hw.words_eq]
    exact ⟨fun _ => ofLine_ok_iff, fun _ => ofLine_error_iff⟩

theorem ofLine_words_title :
    let first := "retitle h1 my   build box"
    let second := "\u3000retitle  h1\tmy build\u00a0box "
    let command := retitle "h1" (phrase ["my", "build", "box"])
    ofLine first = ofLine second ∧ ofLine first = .ok command ∧ command.IsTyped ∧
      command.line = "retitle h1 my build box" ∧ ofLine command.line = .ok command ∧
        ofLine "ls h1" = .ok list ∧ ofLine " subprocs h1 ON" = .error (.invalidState "ON") := by
  intro first second command
  obtain ⟨-, hsame, hforms, htyped, hline⟩ := ofLine_words
  have hf : ofLine first = .ok command := by decide
  have hs : Text.words second.toList = Text.words first.toList := by decide
  have ht := htyped first command hf
  have hn : ∀ active, ¬ IsState "ON" active := by rintro (_ | _) <;> decide
  refine ⟨hsame first second _ (Text.hasWords _) (hs ▸ Text.hasWords _), hf, ht, by decide, hline command ht, ?_, ?_⟩
  · exact ((hforms _ _ (Text.hasWords _)).1 _).mpr (.list (show "ls" ∈ ["list", "ls"] by decide) ["h1"])
  · exact ((hforms _ _ (Text.hasWords _)).2 _).mpr (.invalidState "h1" hn [])

end Command

end TerminalSessions
