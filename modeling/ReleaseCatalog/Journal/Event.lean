import ReleaseCatalog.Journal.Level
import ReleaseCatalog.Text.Quoted

/-!
# Events of the journal

The journal explains afterwards why a release was or was not attached to an
entry.  It has one event for each decision.  An event holds what the decision
was about.  The wording is one function, `Event.message`, and texts that come
from outside are quoted in it.
-/

namespace ReleaseCatalog.Journal

/-- A decision that the journal records. -/
inductive Event where
  /-- The quality tags of a name could not be read. -/
  | qualityUnread (raw reason : Text)
  /-- A name was read as a scene. -/
  | sceneRecognised (studio : Option Text) (date title : Text)
  /-- A name has the shape of a date that is no day. -/
  | malformedDate (raw : Text)
  /-- No entry has one of the titles. -/
  | noEntry (titles : List Text) (year : Option Int)
  /-- An alias of a studio is looked up. -/
  | aliasTried (studio alternate : Text)
  /-- No studio has the title or one of its aliases. -/
  | unknownStudio (studio : Text)
  /-- The studio has no scene on that day. -/
  | noScene (studio date : Text)
  /-- One of several scenes of a day was chosen. -/
  | sceneChosen (count : Nat) (date entry : Text) (performers title : Nat)
  /-- A second alias of a studio was ignored. -/
  | aliasIgnored (canonical alternate : Text)
  /-- The register of aliases was built. -/
  | aliasRegisterBuilt (size : Nat)
deriving DecidableEq, Repr

namespace Event

/-- The level of an event.  Only the building of the register matters more than a decision. -/
def level : Event → Level
  | aliasRegisterBuilt _ => .info
  | _ => .debug

/-- A year in a message, or the word for no year. -/
def yearText : Option Int → Text
  | some year => Text.ofInt year
  | none => "None".toList

open Text.Quoted (quote quote? quoteList)

/-- The wording of an event. -/
def message : Event → Text
  | qualityUnread raw reason =>
      "guessit n'a pas pu analyser ".toList ++ quote raw ++ ": ".toList ++ reason
  | sceneRecognised studio date title =>
      "Release scene reconnue: studio=".toList ++ quote? studio ++ " date=".toList ++ date ++
        " titre=".toList ++ quote title
  | malformedDate raw => "Fragment de date invalide ignore dans: ".toList ++ quote raw
  | noEntry titles year =>
      "Aucune entree pour ".toList ++ quoteList titles ++ " (".toList ++ yearText year ++ [')']
  | aliasTried studio alternate =>
      "Studio ".toList ++ quote studio ++ ": essai de l'alias ".toList ++ quote alternate
  | unknownStudio studio => "Studio inconnu: ".toList ++ quote studio
  | noScene studio date => "Aucune scene ".toList ++ quote studio ++ " le ".toList ++ date
  | sceneChosen count date entry performers title =>
      Text.ofNat count ++ " scenes le ".toList ++ date ++ ", retenue: ".toList ++ entry ++
        " (performers=".toList ++ Text.ofNat performers ++ ", titre=".toList ++
        Text.ofNat title ++ [')']
  | aliasIgnored canonical alternate =>
      "Alias ignore pour ".toList ++ quote canonical ++ " -> ".toList ++ quote alternate ++
        ": studio deja enregistre".toList
  | aliasRegisterBuilt size =>
      "Table d'alias studios construite: ".toList ++ Text.ofNat size ++ " alias".toList

end Event

end ReleaseCatalog.Journal
