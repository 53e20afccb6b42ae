import Conversa.Failure
import Conversa.Text.Unicode

/-!
# Abbreviations in transcripts

Common abbreviations with a full stop (`dr.`, `mr.`, `jan.`) are written out as the words they
stand for, in lower case only.  An abbreviation counts where it starts a word: the character
before it is no letter, digit or underscore.  The lists are applied one abbreviation after the
other, so of two expansions of `st.` the first (`saint`) wins.  The speech-synthesis list adds
titles and a few other words and leaves out `etc.`.
-/

namespace Conversa.Transcript

/-- The common abbreviations and their expansions, in the order they are applied. -/
def commonAbbreviations : List (String × String) :=
  [("ms", "miss"), ("mrs", "misess"), ("mr", "mister"), ("messrs", "messeurs"), ("dr", "doctor"),
   ("drs", "doctors"), ("st", "saint"), ("co", "company"), ("jr", "junior"), ("sr", "senior"),
   ("rev", "reverend"), ("hon", "honorable"), ("sgt", "sergeant"), ("capt", "captain"),
   ("maj", "major"), ("col", "colonel"), ("lt", "lieutenant"), ("gen", "general"),
   ("prof", "professor"), ("lb", "pounds"), ("rep", "representative"), ("st", "street"),
   ("ave", "avenue"), ("etc", "et cetera"), ("jan", "january"), ("feb", "february"),
   ("mar", "march"), ("apr", "april"), ("jun", "june"), ("jul", "july"), ("aug", "august"),
   ("sep", "september"), ("oct", "october"), ("nov", "november"), ("dec", "december")]

/-- The abbreviations for speech synthesis, in the order they are applied. -/
def synthesisAbbreviations : List (String × String) :=
  [("ms", "miss"), ("mrs", "misess"), ("mr", "mister"), ("dr", "doctor"), ("drs", "doctors"),
   ("st", "saint"), ("co", "company"), ("jr", "junior"), ("sr", "senior"), ("rev", "reverend"),
   ("hon", "honorable"), ("sgt", "sergeant"), ("capt", "captain"), ("maj", "major"),
   ("col", "colonel"), ("lt", "lieutenant"), ("gen", "general"), ("prof", "professor"),
   ("lb", "pounds"), ("rep", "representative"), ("st", "street"), ("ave", "avenue"),
   ("jan", "january"), ("feb", "february"), ("mar", "march"), ("apr", "april"), ("jun", "june"),
   ("jul", "july"), ("aug", "august"), ("sep", "september"), ("oct", "october"),
   ("nov", "november"), ("dec", "december"), ("ltd", "limited"), ("fig", "figure"),
   ("figs", "figures"), ("gent", "gentlemen"), ("ft", "fort"), ("esq", "esquire"),
   ("prep", "preperation"), ("bros", "brothers"), ("ind", "independent"), ("mme", "madame"),
   ("pro", "professional"), ("vs", "versus")]

def isWordChar (c : Char) : Bool := Text.isAlnum c || c == '_'

/-- Every occurrence of `abbr` followed by a full stop that starts a word, replaced by `word`;
`afterWord` says whether the character before `cs` is part of a word. -/
def expandOne (abbr word : List Char) (afterWord : Bool) : List Char → List Char
  | [] => []
  | c :: r =>
    if !afterWord && (c :: r).take (abbr.length + 1) == abbr ++ ['.'] then
      word ++ expandOne abbr word false (r.drop abbr.length)
    else c :: expandOne abbr word (isWordChar c) r
termination_by cs => cs.length
decreasing_by all_goals (simp; try omega)

def expandAbbreviations (list : List (String × String)) (s : String) : String :=
  String.ofList (list.foldl (fun cs (a, w) => expandOne a.toList w.toList false cs) s.toList)

/-- The abbreviation list a version names: the speech-synthesis list for `fastpitch`, the
common list otherwise.  The extended list cannot be added to the common one. -/
def abbreviationsFor (version : Option String) : Result (List (String × String)) :=
  match version with
  | some "fastpitch" => .ok synthesisAbbreviations
  | some "expanded" => .error ⟨"AttributeError", "'list' object attribute 'extend' is read-only"⟩
  | _ => .ok commonAbbreviations

end Conversa.Transcript
