import ReleaseCatalog.Text.Basic

/-!
# Networks under other names

Aggregators record some networks under names that the sources do not use.  A
network that is listed here is replaced, either by a fixed name or by a name
followed by the title of the studio.  Any other network keeps its name.
-/

namespace ReleaseCatalog

/-- What the sources call a network. -/
inductive NetworkName where
  /-- This name. -/
  | fixed (name : Text)
  /-- This name, a space and the title of the studio. -/
  | withStudio (name : Text)
deriving DecidableEq, Repr

/-- The networks that sources call otherwise. -/
def renamedNetworks : List (Text × NetworkName) :=
  [("Anal Vids".toList, .fixed "LegalPorno".toList),
   ("The Score Group".toList, .fixed "PornMegaLoad".toList),
   ("ManyVids".toList, .withStudio "ManyVids".toList)]

/-- What the sources call the network of a studio. -/
def sourceNetwork (network studioTitle : Text) : Text :=
  match renamedNetworks.lookup network with
  | some (.fixed name) => name
  | some (.withStudio name) => name ++ [' '] ++ studioTitle
  | none => network

end ReleaseCatalog
