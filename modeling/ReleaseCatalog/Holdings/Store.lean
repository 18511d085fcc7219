import ReleaseCatalog.Holdings.Entry

/-!
# Stores

The rest of the library reads entries and studios through a *store*: four
questions, each answered with a list or with a failure.  A failure is passed on
as it is, never mended.

A store may fail on some questions and answer the others.  `Store.failing`
makes such a store of any other.
-/

namespace ReleaseCatalog

/-! ## Failures -/

/-- The kinds of failure of a store. -/
inductive FailureKind where
  | timeout
  | connection
  | value
  | key
  | runtime
deriving DecidableEq, Repr

/-- A failure of a store. -/
structure StoreFailure where
  kind : FailureKind
  /-- What the store said. -/
  reason : Text
deriving DecidableEq, Repr

/-- The text of a failure.  A missed key is quoted. -/
def StoreFailure.message (f : StoreFailure) : Text :=
  match f.kind with
  | .key => Text.Quoted.quote f.reason
  | _ => f.reason

/-! ## Stores -/

/-- What a store answers. -/
structure Store where
  /-- The entries whose title has the key of one of the titles. -/
  entriesByTitle : List Text → Except StoreFailure (List Entry)
  entriesByStudioAndDate : Text → Text → Except StoreFailure (List Entry)
  allStudios : Except StoreFailure (List Studio)
  /-- The studios whose title has the key of the title. -/
  studiosByTitle : Text → Except StoreFailure (List Studio)

/-- The four questions. -/
inductive Question where
  | entriesByTitle
  | entriesByStudioAndDate
  | allStudios
  | studiosByTitle
deriving DecidableEq, Repr

/-- The store on which the questions that `failure` names fail. -/
def Store.failing (store : Store) (failure : Question → Option StoreFailure) : Store where
  entriesByTitle titles :=
    match failure .entriesByTitle with
    | some f => .error f
    | none => store.entriesByTitle titles
  entriesByStudioAndDate studio date :=
    match failure .entriesByStudioAndDate with
    | some f => .error f
    | none => store.entriesByStudioAndDate studio date
  allStudios :=
    match failure .allStudios with
    | some f => .error f
    | none => store.allStudios
  studiosByTitle title :=
    match failure .studiosByTitle with
    | some f => .error f
    | none => store.studiosByTitle title

end ReleaseCatalog
