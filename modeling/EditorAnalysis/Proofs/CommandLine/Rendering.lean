/-
EditorAnalysis.Proofs.CommandLine.Rendering — a printed command is read back, as a line and as
JSON.

JSON holds a command's words whatever they are: the writer escapes what a terminal could take
for a code. The line for a shell is quoted word by word, and then printed without codes for the
terminal, unless it goes to one. A code lies within the quotes of one word, since none holds a
quote (`withoutCodes_quoted`), so that dropping codes from the line is dropping them from its
words (`split?_dropCodes_join`), and both renderings agree exactly where no word holds a code
(`commandText_read_back`).
-/
import EditorAnalysis.CommandLine.Run
import EditorAnalysis.Proofs.Console.Codes
import EditorAnalysis.Proofs.Json.Array
import EditorAnalysis.Proofs.Text.ShellWord

namespace EditorAnalysis.CommandLine

open Console Text.ShellWord

/-! ## Codes in quotes -/

theorem quoteChar_of_ne {c : Char} (h : c ≠ '\'') : quoteChar c = [c] := by
  simp [quoteChar, h]

theorem dropWhile_isCodeChar_quoted (cs tail : List Char) :
    (cs.flatMap quoteChar ++ '\'' :: tail).dropWhile isCodeChar
      = (cs.dropWhile isCodeChar).flatMap quoteChar ++ '\'' :: tail := by
  induction cs with
  | nil => rfl
  | cons c cs ih =>
    by_cases hquote : c = '\''
    · subst hquote
      rfl
    · rw [List.flatMap_cons, quoteChar_of_ne hquote, List.singleton_append, List.cons_append,
          List.dropWhile_cons, List.dropWhile_cons]
      split
      · exact ih
      · rw [List.flatMap_cons, quoteChar_of_ne hquote, List.singleton_append, List.cons_append]

/-- A code ends before the closing quote, or there is none. -/
theorem behindCode?_quoted (c : Char) (cs tail : List Char) :
    behindCode? (c :: (cs.flatMap quoteChar ++ '\'' :: tail))
      = (behindCode? (c :: cs)).map fun rest => rest.flatMap quoteChar ++ '\'' :: tail := by
  cases cs with
  | nil => rfl
  | cons d cs =>
    by_cases hbracket : d = '['
    · subst hbracket
      have hopen : quoteChar '[' = ['['] := rfl
      rw [List.flatMap_cons, hopen, List.singleton_append, List.cons_append, behindCode?,
          dropWhile_isCodeChar_quoted, behindCode?]
      split
      · rfl
      · cases cs.dropWhile isCodeChar with
        | nil => rfl
        | cons e rest =>
          by_cases hquote : e = '\''
          · subst hquote
            rfl
          · rw [List.flatMap_cons, quoteChar_of_ne hquote, List.singleton_append, List.cons_append]
            simp only
            split <;> rfl
    · rw [behindCode?_of_ne_bracket hbracket, List.flatMap_cons]
      by_cases hquote : d = '\''
      · subst hquote
        rfl
      · rw [quoteChar_of_ne hquote, List.singleton_append, List.cons_append,
            behindCode?_of_ne_bracket hbracket]
        rfl

/-- In single quotes the codes are those of the quoted characters. -/
theorem withoutCodes_quoted (cs tail : List Char) :
    withoutCodes (cs.flatMap quoteChar ++ '\'' :: tail)
      = (withoutCodes cs).flatMap quoteChar ++ '\'' :: withoutCodes tail := by
  induction cs using codes_induction with
  | nil => exact withoutCodes_cons_of_ne_escape (by decide) tail
  | single c cs hcode ih =>
    rw [withoutCodes_cons_of_none hcode, List.flatMap_cons, List.flatMap_cons, List.append_assoc,
        List.append_assoc, ← ih]
    by_cases hquote : c = '\''
    · subst hquote
      exact withoutCodes_append_of_ne_escape (by simp [quoteChar, escape]) _
    · rw [quoteChar_of_ne hquote, List.singleton_append, List.singleton_append]
      exact withoutCodes_cons_of_none (by rw [behindCode?_quoted, hcode]; rfl)
  | code c cs rest hcode ih =>
    have hquote : c ≠ '\'' := by
      rintro rfl
      rw [behindCode?_of_ne_escape (by decide)] at hcode
      cases hcode
    rw [withoutCodes_cons_of_some hcode, List.flatMap_cons, quoteChar_of_ne hquote,
        List.singleton_append, List.cons_append, ← ih]
    exact withoutCodes_cons_of_some (by rw [behindCode?_quoted, hcode]; rfl)

/-! ## The line for a shell -/

/-- What is printed for a word when codes are dropped. -/
def pieceWithoutCodes (word : List Char) : List Char :=
  if isBare word then word else '\'' :: ((withoutCodes word).flatMap quoteChar ++ ['\''])

theorem ne_escape_of_isBare {word : List Char} (h : isBare word = true) :
    ∀ c ∈ word, c ≠ escape := by
  rintro c hc rfl
  exact absurd (isPlain_of_isBare h escape hc) (by decide)

theorem withoutCodes_quoteChars_append (word tail : List Char) :
    withoutCodes (quoteChars word ++ tail) = pieceWithoutCodes word ++ withoutCodes tail := by
  unfold quoteChars pieceWithoutCodes
  split
  · rename_i hbare
    exact withoutCodes_append_of_ne_escape (ne_escape_of_isBare hbare) tail
  · rw [List.cons_append, withoutCodes_cons_of_ne_escape (by decide), List.append_assoc,
        List.singleton_append, withoutCodes_quoted, List.cons_append, List.append_assoc,
        List.singleton_append]

theorem spells_pieceWithoutCodes (word : List Char) :
    Spells (pieceWithoutCodes word) (withoutCodes word) := by
  unfold pieceWithoutCodes
  split
  · rename_i hbare
    have hsame := withoutCodes_append_of_ne_escape (ne_escape_of_isBare hbare) []
    rw [List.append_nil, withoutCodes_nil, List.append_nil] at hsame
    rw [hsame]
    exact spells_bare hbare
  · exact spells_quoted (withoutCodes word)

theorem withoutCodes_intercalate_append (words : List (List Char)) (tail : List Char) :
    withoutCodes ([' '].intercalate (words.map quoteChars) ++ tail)
      = [' '].intercalate (words.map pieceWithoutCodes) ++ withoutCodes tail := by
  induction words with
  | nil => rfl
  | cons word words ih =>
    cases words with
    | nil =>
      simp only [List.map_cons, List.map_nil, List.intercalate_singleton]
      exact withoutCodes_quoteChars_append word tail
    | cons next words =>
      simp only [List.map_cons, List.intercalate_cons_cons, List.append_assoc] at ih ⊢
      rw [withoutCodes_quoteChars_append, List.singleton_append, List.singleton_append,
          withoutCodes_cons_of_ne_escape (by decide), ih]

/-- The line as it is printed without codes. -/
theorem toList_dropCodes_join_append (words : List String) (tail : String) :
    (dropCodes (join words ++ tail)).toList
      = [' '].intercalate (words.map fun word => pieceWithoutCodes word.toList)
        ++ withoutCodes tail.toList := by
  have hline := withoutCodes_intercalate_append (words.map String.toList) tail.toList
  simp only [List.map_map, Function.comp_def] at hline
  rw [toList_dropCodes, String.toList_append, toList_join, hline]

/-- Dropping codes from the line behaves to a shell like dropping them from its words. -/
theorem split?_dropCodes_join (words : List String) :
    split? (dropCodes (join words)) = some (words.map dropCodes) := by
  have hline := toList_dropCodes_join_append words ""
  rw [String.append_empty, String.toList_empty, withoutCodes_nil, List.append_nil] at hline
  have hspells : List.Forall₂ Spells (words.map fun word => pieceWithoutCodes word.toList)
      (words.map fun word => withoutCodes word.toList) := by
    rw [List.forall₂_map_left_iff, List.forall₂_map_right_iff, List.forall₂_same]
    exact fun word _ => spells_pieceWithoutCodes word.toList
  rw [split?, hline, splitFrom_intercalate hspells]
  simp [dropCodes, withoutCodes]

theorem dropCodes_join_newLine (words : List String) :
    dropCodes (join words ++ "\n") = dropCodes (join words) ++ "\n" := by
  have hline := toList_dropCodes_join_append words ""
  rw [String.append_empty, String.toList_empty, withoutCodes_nil, List.append_nil] at hline
  rw [← String.toList_inj, toList_dropCodes_join_append, String.toList_append, hline]
  rfl

/-! ## Both renderings -/

/-- The words in the JSON that is printed for a command. -/
def wordsOfJson? (printed : String) : Option (List String) :=
  (Json.read {} printed.toList).toOption.bind Json.Value.textsIn?

theorem wordsOfJson?_commandText (out : Output) (tool : String) (command : Command) :
    wordsOfJson? (commandText out true tool command) = some (Command.withTool tool command) := by
  have hread := @Json.read_compact_texts {} (Command.withTool tool command) (by decide) ['\n'] rfl
  have hprinted : (commandText out true tool command).toList
      = (Json.Value.texts (Command.withTool tool command)).compact.toList ++ ['\n'] := by
    rw [commandText, if_pos rfl, String.toList_append]
    rfl
  rw [wordsOfJson?, hprinted, hread]
  exact Json.textsIn?_texts _

theorem commandText_line (out : Output) (tool : String) (command : Command) :
    commandText out false tool command = plainly out (Command.line tool command) ++ "\n" := by
  rw [commandText, if_neg Bool.false_ne_true, plainly, plainly]
  split
  · rfl
  · exact dropCodes_join_newLine _

theorem split?_plainly_line (out : Output) (tool : String) (command : Command) :
    split? (plainly out (Command.line tool command))
      = some (if out.isTerminal then Command.withTool tool command
        else (Command.withTool tool command).map dropCodes) := by
  rw [plainly, Command.line]
  split
  · exact split?_join _
  · exact split?_dropCodes_join _

theorem length_withTool (tool : String) (command : Command) :
    (Command.withTool tool command).length = command.length + if tool = "" then 0 else 1 := by
  unfold Command.withTool
  split <;> simp

/-- Commands of different lengths are printed differently, on a terminal or elsewhere. -/
theorem length_eq_of_commandText_eq {out : Output} {asJson : Bool} {tool : String}
    {command other : Command}
    (h : commandText out asJson tool command = commandText out asJson tool other) :
    command.length = other.length := by
  have hwords : (Command.withTool tool command).length = (Command.withTool tool other).length := by
    cases asJson with
    | true =>
      have hread := congrArg wordsOfJson? h
      rw [wordsOfJson?_commandText, wordsOfJson?_commandText, Option.some_inj] at hread
      rw [hread]
    | false =>
      rw [commandText_line, commandText_line, String.append_left_inj] at h
      have hsplit := congrArg split? h
      rw [split?_plainly_line, split?_plainly_line, Option.some_inj] at hsplit
      have hlength := congrArg List.length hsplit
      split at hlength
      · exact hlength
      · simpa using hlength
  rw [length_withTool, length_withTool] at hwords
  omega

theorem map_dropCodes_eq_self_iff {words : List String} :
    words.map dropCodes = words ↔ ∀ word ∈ words, ¬ HoldsCode word := by
  have hwords : words.map dropCodes = words ↔ words.map dropCodes = words.map id := by
    rw [List.map_id]
  rw [hwords, List.map_inj_left]
  simp only [id_eq, dropCodes_eq_self_iff]

/-- **Printed commands are read back.** The JSON that is printed for a command holds the tool,
if there is one, and the words of the command, whatever they are, and to a shell the command's
line reads as the same words. On a terminal that line is printed. Elsewhere the words of the
printed line lack their codes for the terminal, so that it reads as the command exactly if no
word holds one. -/
theorem commandText_read_back (out : Output) (tool : String) (command : Command) :
    let words := Command.withTool tool command
    let printed := plainly out (Command.line tool command)
    wordsOfJson? (commandText out true tool command) = some words ∧
      split? (Command.line tool command) = some words ∧
      commandText out false tool command = printed ++ "\n" ∧
      split? printed = some (if out.isTerminal then words else words.map dropCodes) ∧
      (split? printed = some words ↔ out.isTerminal = true ∨ ∀ word ∈ words, ¬ HoldsCode word) := by
  intro words printed
  have hsplit := split?_plainly_line out tool command
  refine ⟨wordsOfJson?_commandText out tool command, split?_join words,
    commandText_line out tool command, hsplit, ?_⟩
  rw [hsplit, Option.some_inj]
  cases out.isTerminal with
  | true => simp [words]
  | false => simp [map_dropCodes_eq_self_iff, words]

/-- The command is to analyse a file whose name begins with the code for red. To a shell the
printed line names another file. -/
theorem printed_line_names_other_file :
    let command := ["analyze", "/tmp/\x1b[31ma.php"]
    wordsOfJson? (commandText .plain true "" command) = some command ∧
      commandText .plain false "" command = "analyze '/tmp/a.php'\n" ∧
      split? "analyze '/tmp/a.php'" = some ["analyze", "/tmp/a.php"] := by
  decide +kernel

end EditorAnalysis.CommandLine
