import Conversa.Entry.Arrays
import Conversa.Entry.Call
import Conversa.Speech.Pronouncing

/-!
# Speech synthesis helpers by name

* `mas(attn_map, width=1)` is the monotonic alignment search that checks its result;
* `mas_width1(attn_map)` is the search of width one.

Both give the marks as an array of the element type of the map.

`G2p._construct_grapheme2phoneme_dict(phoneme_dict_path=None, encoding='latin-1')` reads a
pronouncing dictionary file in an encoding into the pronunciations of each word.
-/

namespace Conversa.Callees

open Entry

def marksData (dtype : String) (marks : List (List Bool)) : Data :=
  rowsData dtype (marks.map fun r => r.map fun b => if b then 1.0 else 0.0)

def masCallee : Callee := function "mas" [req "attn_map", opt "width" (.int 1)] fun vals => do
  let (elems, dtype) := arrayOf (arg vals 0)
  let width := ((arg vals 1).int?.getD 1).toNat
  pure (marksData dtype (← Speech.alignment (Speech.windowChoice width) true (Speech.logMap Float.log (-(1.0 / 0.0)) (rowsOf elems))))

def masWidthOneCallee : Callee := function "mas_width1" [req "attn_map"] fun vals => do
  let (elems, dtype) := arrayOf (arg vals 0)
  pure (marksData dtype (← Speech.alignment Speech.stepChoice false (Speech.logMap Float.log (-(1.0 / 0.0)) (rowsOf elems))))

/-- A file's text decoded in an encoding: UTF-8 as it is, Latin-1 byte by byte, ASCII when every
character is one. -/
def decodedAs (encoding : String) (text : String) : Result String :=
  let name := (Text.lower encoding).replace "_" "-"
  if ["utf-8", "utf8", "u8", "utf"].contains name then .ok text
  else if ["latin-1", "latin1", "latin", "l1", "iso-8859-1", "iso8859-1", "8859", "cp819"].contains name then
    .ok (Speech.PronouncingDictionary.latin1View text)
  else if ["ascii", "us-ascii", "646"].contains name then
    match (text.toUTF8.toList.zipIdx).find? (fun (b, _) => b ≥ 128) with
    | some (b, i) =>
      let hex := Text.hexDigits b.toNat 2
      .error ⟨"UnicodeDecodeError", s!"'ascii' codec can't decode byte 0x{hex} in position {i}: ordinal not in range(128)"⟩
    | none => .ok text
  else .error ⟨"LookupError", s!"unknown encoding: {encoding}"⟩

def graphemeDictionaryCallee : Callee :=
  function "G2p._construct_grapheme2phoneme_dict" [opt "phoneme_dict_path" .null, opt "encoding" (.str "latin-1")]
    fun vals => do
      let path := plainArg vals 0
      if path.isNull then throw (.unavailable "nltk")
      let encoding := (plainArg vals 1).text
      let raw ← Work.readFile path.text
      let text ← decodedAs encoding raw
      let entries ← Speech.PronouncingDictionary.graphemeEntries text
      pure (.dict (entries.map fun (w, ps) => (w, .list (ps.map Data.strs))))

def synthesisCallees : List (String × Callee) :=
  [("nemo.collections.tts.helpers.helpers:mas", masCallee),
   ("nemo.collections.tts.helpers.helpers:mas_width1", masWidthOneCallee),
   ("nemo.collections.asr.data.vocabs:G2p._construct_grapheme2phoneme_dict", graphemeDictionaryCallee)]

end Conversa.Callees
