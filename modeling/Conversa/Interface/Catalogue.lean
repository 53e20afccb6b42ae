import Conversa.Interface.Listing
import Conversa.Text.LongTexts

/-!
# The catalogue of modules

Every module of the toolkit by its dotted name, and every script by its path, each with the
interface loading it gives: the speech recognition collection, the shared parts, language,
synthesis, the core, text normalization and the scripts.  The catalogue is read from one listing
(`Interface.Listing.read`), kept packed; a script's name in it is its path after `path:`.
-/

namespace Conversa.Interface

def listing : String := Text.longTexts.getD 0 ""

def catalogue : List (String × Loading) := Listing.read listing

def modules : List (String × Loading) := catalogue.filter fun (name, _) => !name.startsWith "path:"

def scripts : List (String × Loading) :=
  catalogue.filterMap fun (name, m) => if name.startsWith "path:" then some (String.ofList (name.toList.drop 5), m) else none

end Conversa.Interface
