import TokenNet.Proofs.Lines
import TokenNet.Proofs.Readers
import TokenNet.Scenario.Script

namespace TokenNet

/-!
# What scripts can say

A command is written on a line of its own (`Command.Written`), and whether a line is a command has
nothing to do with the lines around it: its number appears in an error and nowhere else
(`Scenario.readCommand_behind`).  So a script is read line by line.  With a line feed between them, two
scripts are read one after the other (`Scenario.parseScript_append`), and whatever leaves the rows of
fields alone leaves the commands alone (`Scenario.parseScript_relaid`).
-/

/-- The fields are the words of the command. -/
inductive Command.Written : List (List Char) → Command → Prop where
  /-- The word, both ends and the tokens. -/
  | send (source target : List Char) {amount : List Char} {tokens : UInt64}
      (hTokens : Text.Spells amount tokens) :
      Written [Scenario.sendWord, source, target, amount]
        (.send (String.ofList source) (String.ofList target) tokens)
  /-- The word and the node. -/
  | snapshot (node : List Char) :
      Written [Scenario.snapshotWord, node] (.snapshot (String.ofList node))
  /-- The word alone lets one tick pass. -/
  | tick : Written [Scenario.tickWord] (.tick 1)
  /-- The word and the number of ticks. -/
  | ticks {amount : List Char} {count : UInt64} (hCount : Text.Spells amount count) :
      Written [Scenario.tickWord, amount] (.tick count)

/-- The error with more lines in front of the text. -/
def ParseError.behind (ahead : Nat) (error : ParseError) : ParseError :=
  { error with line := error.line + ahead }

namespace Scenario

variable {fields : List (List Char)} {command : Command}

/-! ### Commands -/

theorem snapshotWord_ne_sendWord : snapshotWord ≠ sendWord := by decide

theorem tickWord_ne_sendWord : tickWord ≠ sendWord := by decide

theorem tickWord_ne_snapshotWord : tickWord ≠ snapshotWord := by decide

theorem readCommand_of_written (hWritten : command.Written fields) (line : Nat) :
    readCommand line fields = .ok command := by
  cases hWritten with
  | send source target hTokens =>
      simp [readCommand, number_eq_ok_iff.mpr hTokens]
  | snapshot node => simp [readCommand, snapshotWord_ne_sendWord]
  | tick => simp [readCommand, tickWord_ne_sendWord, tickWord_ne_snapshotWord]
  | ticks hCount =>
      simp [readCommand, tickWord_ne_sendWord, tickWord_ne_snapshotWord,
        number_eq_ok_iff.mpr hCount]

/-- Fields that are no command are refused for a cause that does not depend on the line. -/
theorem written_or_refused (fields : List (List Char)) :
    (∃ command : Command, command.Written fields) ∨
      ∃ cause, ∀ line, readCommand line fields = .error ⟨line, cause⟩ := by
  cases fields with
  | nil => exact Or.inr ⟨.emptyCommand, fun _ => rfl⟩
  | cons word arguments =>
      by_cases hSend : word = sendWord
      · subst hSend
        match arguments with
        | [source, target, amount] =>
            rcases spells_or_refused .tokenAmount amount with ⟨tokens, hTokens⟩ | ⟨cause, hCause⟩
            · exact Or.inl ⟨_, .send source target hTokens⟩
            · exact Or.inr ⟨cause, fun line => by simp [readCommand, hCause, bind, Except.bind]⟩
        | [] | [_] | [_, _] | _ :: _ :: _ :: _ :: _ =>
            exact Or.inr ⟨.malformedCommand (String.ofList sendWord), fun _ => by simp [readCommand]⟩
      by_cases hSnapshot : word = snapshotWord
      · subst hSnapshot
        match arguments with
        | [node] => exact Or.inl ⟨_, .snapshot node⟩
        | [] | _ :: _ :: _ =>
            exact Or.inr ⟨.malformedCommand (String.ofList snapshotWord), fun _ => by
              simp [readCommand, snapshotWord_ne_sendWord]⟩
      by_cases hTick : word = tickWord
      · subst hTick
        match arguments with
        | [] => exact Or.inl ⟨_, .tick⟩
        | [amount] =>
            rcases spells_or_refused .tickCount amount with ⟨count, hCount⟩ | ⟨cause, hCause⟩
            · exact Or.inl ⟨_, .ticks hCount⟩
            · exact Or.inr ⟨cause, fun line => by
                simp [readCommand, tickWord_ne_sendWord, tickWord_ne_snapshotWord, hCause, bind,
                  Except.bind]⟩
        | _ :: _ :: _ =>
            exact Or.inr ⟨.malformedCommand (String.ofList tickWord), fun _ => by
              simp [readCommand, tickWord_ne_sendWord, tickWord_ne_snapshotWord]⟩
      · exact Or.inr ⟨.malformedCommand (String.ofList word), fun _ => by
          simp [readCommand, hSend, hSnapshot, hTick]⟩

theorem reads_command :
    Reads (fun line => readCommand line.number line.fields)
      fun line command => command.Written line.fields := by
  constructor
  · intro line command
    refine ⟨fun hRead => ?_, fun hWritten => readCommand_of_written hWritten line.number⟩
    rcases written_or_refused line.fields with ⟨other, hOther⟩ | ⟨cause, hCause⟩
    · cases hRead.symm.trans (readCommand_of_written hOther line.number)
      exact hOther
    · cases hRead.symm.trans (hCause line.number)
  · intro line error hRefused
    rcases written_or_refused line.fields with ⟨command, hWritten⟩ | ⟨cause, hCause⟩
    · cases hRefused.symm.trans (readCommand_of_written hWritten line.number)
    · cases hRefused.symm.trans (hCause line.number)
      rfl

/-- With more lines in front, an error names a later line; nothing else changes. -/
theorem readCommand_behind (line ahead : Nat) (fields : List (List Char)) :
    readCommand (line + ahead) fields =
      (readCommand line fields).mapError (ParseError.behind ahead) := by
  rcases written_or_refused fields with ⟨command, hWritten⟩ | ⟨cause, hCause⟩
  · rw [readCommand_of_written hWritten, readCommand_of_written hWritten]
    rfl
  · rw [hCause, hCause]
    rfl

/-- The cause of an error does not depend on the line. -/
theorem readCommand_cause (line : Nat) (fields : List (List Char)) :
    (readCommand line fields).mapError ParseError.cause =
      (readCommand 0 fields).mapError ParseError.cause := by
  have hBehind := readCommand_behind 0 line fields
  rw [Nat.zero_add] at hBehind
  rw [hBehind]
  cases readCommand 0 fields <;> rfl

/-! ### Scripts -/

/-- With a line feed between them, two scripts are read one after the other; errors of the second name
lines that come behind those of the first. -/
theorem parseScript_append (text other : String) :
    parseScript (text ++ "\n" ++ other) = do
      let commands ← parseScript text
      let more ← (parseScript other).mapError (ParseError.behind (1 + text.toList.count '\n'))
      return commands ++ more := by
  have hMore : ∀ line : Text.ContentLine, ∀ ahead,
      readCommand (line.behind ahead).number (line.behind ahead).fields =
        (readCommand line.number line.fields).mapError (ParseError.behind ahead) := fun line ahead =>
    readCommand_behind line.number ahead line.fields
  simp only [parseScript, Text.contentLines_append, List.mapM_append, List.mapM_map,
    Function.comp_def, hMore, mapError_mapM]

/-- Two scripts with the same rows of fields say the same, apart from the lines that errors name. -/
theorem parseScript_cause (text : String) :
    (parseScript text).mapError ParseError.cause =
      ((Text.contentLines text).map Text.ContentLine.fields).mapM fun fields =>
        (readCommand 0 fields).mapError ParseError.cause := by
  simp only [parseScript, mapError_mapM, readCommand_cause, List.mapM_map, Function.comp_def]

theorem parseScript_relaid {text other : String}
    (hRelaid : Relation.EqvGen Text.Adds (text.toList.splitOn '\n') (other.toList.splitOn '\n')) :
    (parseScript text).mapError ParseError.cause =
      (parseScript other).mapError ParseError.cause := by
  rw [parseScript_cause, parseScript_cause, Text.map_fields_contentLines_eq,
    Text.map_fields_contentLines_eq, Text.rows_eq_of_relaid hRelaid]

/-- A script is read line by line.  Each content line, with its number among the lines between line
feeds, is one command, and the first that is none is blamed.  Of two scripts with a line feed between
them both lists of commands are read, or the first error: that of the first script as it is, or that of
the second with the number of its line in the text as a whole.  White space around lines and lines
without content, put in or taken out, change neither the commands nor the cause of an error. -/
theorem parseScript_line_by_line :
    (∀ text : String,
      Text.contentLines text =
        ((text.toList.splitOn '\n').zipIdx 1).filterMap
          (fun entry => Text.contentOf? entry.2 entry.1) ∧
      (∀ commands, parseScript text = .ok commands ↔
        List.Forall₂ (fun line command => Command.Written line.fields command)
          (Text.contentLines text) commands) ∧
      ∀ error, parseScript text = .error error →
        ∃ earlier line later, Text.contentLines text = earlier ++ line :: later ∧
          (∀ other ∈ earlier, ∃ command : Command, command.Written other.fields) ∧
          (¬ ∃ command : Command, command.Written line.fields) ∧ error.line = line.number) ∧
    ∀ text other : String,
      (∀ commands more, parseScript text = .ok commands → parseScript other = .ok more →
        parseScript (text ++ "\n" ++ other) = .ok (commands ++ more)) ∧
      (∀ commands error, parseScript text = .ok commands → parseScript other = .error error →
        parseScript (text ++ "\n" ++ other) =
          .error ⟨error.line + 1 + text.toList.count '\n', error.cause⟩) ∧
      (∀ error, parseScript text = .error error →
        parseScript (text ++ "\n" ++ other) = .error error) ∧
      (Relation.EqvGen Text.Adds (text.toList.splitOn '\n') (other.toList.splitOn '\n') →
        (parseScript text).mapError ParseError.cause =
          (parseScript other).mapError ParseError.cause) := by
  constructor
  · exact fun text => ⟨Text.contentLines_eq text, fun commands => reads_command.mapM_eq_ok_iff,
      fun error hRefused => reads_command.mapM_eq_error hRefused⟩
  · intro text other
    refine ⟨fun commands more hText hOther => ?_, fun commands error hText hOther => ?_,
      fun error hText => ?_, parseScript_relaid⟩
    · rw [parseScript_append, hText, hOther]
      rfl
    · rw [parseScript_append, hText, hOther, Nat.add_assoc]
      rfl
    · rw [parseScript_append, hText]
      rfl

/-- A comment and white space around a command make no difference to what the script says, but for the
line of an error. -/
example :
    parseScript "tick 2\nsend A B 1" = .ok [.tick 2, .send "A" "B" 1] ∧
      parseScript "# two ticks\n\t tick 2 \r\n\nsend A B 1\n" = .ok [.tick 2, .send "A" "B" 1] ∧
      parseScript "tick 2\n\nsend A B" = .error ⟨3, .malformedCommand "send"⟩ := by
  decide +kernel

end Scenario
end TokenNet
