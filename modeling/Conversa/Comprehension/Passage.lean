import Conversa.Data.Access

/-!
# Questions about passages

A reading-comprehension dataset is articles of paragraphs, each a passage with questions, each
question with answers (a text and its first character's position).  A passage is cut into words
and every character gets its word (a break the word before it); an answer is located by the
words of its first and last characters.  Answers are read for training (the first) and
evaluation (all), from questions not marked impossible.
-/

namespace Conversa.Comprehension

/-- The words of a passage, and for every character the number of the word it belongs to. -/
structure PassageWords where
  words : List String
  /-- For every character, its word: the word before it for a break, -1 before the first word. -/
  wordOf : List Int
deriving Inhabited, Repr

/-- One more character of a passage read: the words so far (the last first, each reversed),
their number, every character's word (the last first), and whether the last was a break. -/
def scanChar (acc : List (List Char) × Nat × List Int × Bool) (c : Char) :
    List (List Char) × Nat × List Int × Bool :=
  let (ws, n, offs, afterBreak) := acc
  if Text.isWordBreak c then (ws, n, ((n : Int) - 1) :: offs, true)
  else
    let (ws, n) := match ws, afterBreak with
      | w :: rest, false => ((c :: w) :: rest, n)
      | _, _ => ([c] :: ws, n + 1)
    (ws, n, ((n : Int) - 1) :: offs, false)

/-- The words of a passage: maximal runs of characters that are not word breaks. -/
def PassageWords.ofText (s : String) : PassageWords :=
  let (ws, _, offs, _) := s.toList.foldl scanChar ([], 0, [], true)
  ⟨ws.reverse.map fun w => String.ofList w.reverse, offs.reverse⟩

/-- What a dataset is read for: which answers are kept. -/
inductive Mode where
  /-- The first answer of each question is kept. -/
  | training
  /-- The first answer and the list of all answers are kept. -/
  | evaluation
  | inference
deriving DecidableEq, Inhabited, Repr

/-- The mode of a name: `train`, `eval`, and anything else reads no answers. -/
def Mode.ofName : String → Mode
  | "train" => .training
  | "eval" => .evaluation
  | _ => .inference

/-- A question about a passage, with its answer located by words. -/
structure Question where
  id : Data
  text : Data
  title : Data
  context : String
  passage : PassageWords
  /-- The text of the answer kept, if one was read. -/
  answerText : Data
  /-- Whether the question is marked as having no answer. -/
  impossible : Data
  answers : Data
  /-- The word of the answer's first character, or 0. -/
  startWord : Int
  /-- The word of the answer's last character, or 0. -/
  endWord : Int
deriving Inhabited, Repr

def passageText (d : Data) : Result String :=
  match d with
  | .str s => .ok s
  | other => .error (.type s!"'{other.kindName}' object is not iterable")

/-- The word of the character at a position of a passage, counted from the end when negative. -/
def wordAt (p : PassageWords) (i : Int) : Result Int := do
  Data.asIndex (← (Data.ints p.wordOf).item i)

/-- A question read from its record, the passage and the article's title. -/
def Question.read (mode : Mode) (title : Data) (context : Data) (qa : Data) : Result Question := do
  let id ← qa.key "id"
  let text ← qa.key "question"
  let impossible ← if ← qa.holds (.str "is_impossible") then qa.key "is_impossible" else pure (.bool false)
  let (answerText, startChar, answers) ← if impossible.truthy then pure (Data.null, Data.null, Data.list [])
    else do
      let (answerText, startChar) ← if mode == .training || mode == .evaluation then do
          let answer ← (← qa.key "answers").item 0
          pure (← answer.key "text", ← answer.key "answer_start")
        else pure (.null, .null)
      let answers ← if mode == .evaluation then qa.key "answers" else pure (.list [])
      pure (answerText, startChar, answers)
  let contextText ← passageText context
  let passage := PassageWords.ofText contextText
  let (startWord, endWord) ← if startChar.isNull || impossible.truthy then pure (0, 0)
    else do
      let first ← Data.asIndex startChar
      let startWord ← wordAt passage first
      let last := min (first + (← answerText.size) - 1) ((passage.wordOf.length : Int) - 1)
      pure (startWord, ← wordAt passage last)
  pure ⟨id, text, title, contextText, passage, answerText, impossible, answers, startWord, endWord⟩

/-- The questions of a dataset, article by article and paragraph by paragraph. -/
def readQuestions (mode : Mode) (articles : Data) : Result (List Question) := do
  (← articles.elements).foldlM (fun acc entry => do
    let title ← entry.key "title"
    (← (← entry.key "paragraphs").elements).foldlM (fun acc paragraph => do
      let context ← paragraph.key "context"
      (← (← paragraph.key "qas").elements).foldlM (fun acc qa => do
        pure (acc ++ [← Question.read mode title context qa])) acc) acc) []

end Conversa.Comprehension
