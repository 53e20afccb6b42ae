import Conversa.Service.Fault
import Conversa.Speech.Phonemes
import Conversa.Speech.Words

/-!
# Speech vocabulary requests

A phoneme vocabulary is made from the request's options and encodes the phonemes the request
gives as the front end's output; the answer shows the vocabulary, the ids and their decoding, or
why the encoding was refused.  The character vocabulary of this version cannot be made: its
parser is given the labels in the place of another argument, so the labels are missing.
-/

namespace Conversa.Service

open Speech

def flagField (req : Data) (name : String) (default : Bool) : Bool :=
  match req.get? name with
  | some v => v.truthy
  | none => default

def textOption (req : Data) (name : String) (default : String) : Result String :=
  match req.get? name with
  | none => .ok default
  | some (.str s) => .ok s
  | some _ => .error (badField name)

def phonemeOptions (req : Data) : Result PhonemeOptions := do
  let blankAt ← match req.get? "add_blank_at" with
    | none => pure BlankPlacement.lastButOne
    | some .null => pure .none
    | some (.str "last") => pure .last
    | some (.str _) => pure .lastButOne
    | some _ => throw (badField "add_blank_at")
  let silence ← match req.getD "silence" with
    | .null => pure none
    | .str s => pure (some s)
    | _ => throw (badField "silence")
  pure { punct := flagField req "punct" true, stresses := flagField req "stresses" false,
         spaces := flagField req "spaces" true, chars := flagField req "chars" false,
         space := ← textOption req "space" " ", silence, apostrophe := flagField req "apostrophe" true,
         oov := ← textOption req "oov" "<oov>", sep := ← textOption req "sep" "|", blankAt,
         padWithSpace := flagField req "pad_with_space" false }

def vocabPhonemes (req : Data) : Result Data := do
  let v := PhonemeVocabulary.make (← phonemeOptions req)
  let phonemes ← match req.getD "g2p" with
    | .list xs => xs.mapM fun x => match x with
      | .str s => pure s
      | _ => throw (badField "g2p")
    | _ => throw (badField "g2p")
  let shape : Entries :=
    [("labels", .list (v.labels.map .str)), ("pad", .int v.pad), ("blank", .int v.blank), ("oov", .int v.oov)]
  match v.encode phonemes with
  | .ok ids => pure (.dict (shape ++ [("ids", .list (ids.map fun (i : Nat) => Data.int i)), ("decoded", .str (v.decode ids))]))
  | .error f => pure (.dict (shape ++ [("encode_error", failureData f)]))

def vocabChars (_ : Data) : Result Data :=
  .error (.type "CharParser.__init__() missing 1 required positional argument: 'labels'")

/-- A text in plain form, or cut into word pieces. -/
def vocabText (req : Data) : Result Data := do
  let text ← textField req "text"
  match req.getD "func" with
  | .str "text_preprocessing" => pure (.dict [("result", .str (plainText text))])
  | .str "word_tokenize" => pure (.dict [("result", .list ((wordPieces text).map .str))])
  | _ => throw (badField "func")

end Conversa.Service
