import ReleaseCatalog.Holdings.Entry
import ReleaseCatalog.Title.Tokens

/-!
# The scene of a release

A studio may publish several scenes on one day.  They are ranked by how many
of the release's tokens are names of their performers, and a policy breaks
ties: fewest performers, lowest number, or most tokens found in the title.
Every policy ends on the number of the entry, and scenes that are still equal
keep their order.

A rank is a list of integers.  Lower is better, and lists are compared part by
part, the first difference deciding.
-/

namespace ReleaseCatalog.Matching

open Journal (Event)

-- The order of the standard library, also where another one on lists is at hand.
attribute [local instance (high)] List.instLE

/-! ## Overlaps -/

/-- The tokens of the performers' names. -/
def castTokens (e : Entry) : List Text :=
  distinctBy id (e.credits.flatMap fun c => Title.tokens c.performerName)

/-- The number of performer tokens among the tokens of a release. -/
def performerHits (e : Entry) (release : List Text) : Nat :=
  (castTokens e).countP release.contains

/-- The number of title tokens among the tokens of a release. -/
def titleHits (e : Entry) (release : List Text) : Nat :=
  (Title.tokens e.title).countP release.contains

/-! ## Ranking -/

/-- How scenes with equal performer overlap are told apart. -/
inductive TieBreak where
  /-- Fewest performers, then lowest number. -/
  | fewestPerformers
  | lowestId
  /-- Most tokens in the title, then as for fewest performers. -/
  | titleOverlap
deriving DecidableEq, Repr

namespace TieBreak

/-- The policies. -/
def all : List TieBreak := [fewestPerformers, lowestId, titleOverlap]

/-- The name of a policy. -/
def name : TieBreak → Text
  | fewestPerformers => "fewest_performers".toList
  | lowestId => "lowest_id".toList
  | titleOverlap => "title_overlap".toList

/-- The policy with a name, if there is one. -/
def ofName? (t : Text) : Option TieBreak := all.find? fun policy => policy.name = t

end TieBreak

/-- A value that names no policy, as it is shown. -/
structure UnknownPolicy where
  /-- The value as it is shown. -/
  shown : Text
deriving DecidableEq, Repr

/-- The wording of the refusal of a value that names no policy. -/
def UnknownPolicy.message (e : UnknownPolicy) : Text :=
  e.shown ++ " is not a valid SceneTieBreak".toList

/-- The policy with a name. -/
def TieBreak.read (name : Text) : Except UnknownPolicy TieBreak :=
  match ofName? name with
  | some policy => .ok policy
  | none => .error ⟨Text.Quoted.quote name⟩

/-- A scene with its overlaps. -/
structure ScoredScene where
  entry : Entry
  performerHits : Nat
  titleHits : Nat
deriving DecidableEq, Repr

namespace ScoredScene

/-- The number of credited performers. -/
def castSize (s : ScoredScene) : Nat := s.entry.credits.length

/-- The rank of a scene. -/
def rank (policy : TieBreak) (s : ScoredScene) : List Int :=
  match policy with
  | .fewestPerformers => [-s.performerHits, s.castSize, s.entry.id]
  | .lowestId => [-s.performerHits, s.entry.id]
  | .titleOverlap => [-s.performerHits, -s.titleHits, s.castSize, s.entry.id]

end ScoredScene

/-- The score of a scene for the tokens of a release. -/
def score (release : List Text) (e : Entry) : ScoredScene :=
  ⟨e, performerHits e release, titleHits e release⟩

/-- Words as tokens, whatever their form. -/
def wordTokens (words : List Text) : List Text := Title.tokens (Text.unwords words)

/-- The scenes with their scores, best first. -/
def rankedScenes (policy : TieBreak) (candidates : List Entry) (words : List Text) :
    List ScoredScene :=
  (candidates.map (score (wordTokens words))).mergeSort fun a b => a.rank policy ≤ b.rank policy

/-! ## Selection -/

/-- The scenes published on a day. -/
def scenesOn (date : Text) (candidates : List Entry) : List Entry :=
  candidates.filter fun e => e.releaseDate = some date

/-- The best of the scenes published on a day. -/
def bestScene (policy : TieBreak) (candidates : List Entry) (date : Text) (words : List Text) :
    Option ScoredScene :=
  (rankedScenes policy (scenesOn date candidates) words).head?

/-- The scene that a release of a day is taken for.  A single candidate is taken untested. -/
def chosenScene (policy : TieBreak) (candidates : List Entry) (date : Text) (words : List Text) :
    Option Entry :=
  match scenesOn date candidates with
  | [] => none
  | [e] => some e
  | _ => (bestScene policy candidates date words).map ScoredScene.entry

/-- What the journal notes of a selection: the choice among several. -/
def choiceEvents (policy : TieBreak) (candidates : List Entry) (date : Text)
    (words : List Text) : List Event :=
  let count := (scenesOn date candidates).length
  match bestScene policy candidates date words with
  | some best =>
      if 1 < count then
        [.sceneChosen count date best.entry.describe best.performerHits best.titleHits]
      else []
  | none => []

end ReleaseCatalog.Matching
