import ReleaseCatalog.Release.Quality
import ReleaseCatalog.Title.Tokens

/-!
# What a name says

A name of a release is recognised in one of four ways.  It is a *scene* if it
has a release date, with the studio that published it if one is named.  It is a
*film* if it has a title and a year.  Otherwise the whole cleaned name is the
title, and it is noted whether that is so because of a malformed date.

A *reading* of a name is the flat record of that, with the raw name, the
tokens of the title and the quality beside it.
-/

namespace ReleaseCatalog.Release

/-- What a name of a release was recognised as. -/
inductive Recognition where
  /-- A scene: studio, release date and title. -/
  | scene (studio : Option Text) (date title : Text)
  /-- A film: title and year. -/
  | film (title : Text) (year : Int)
  /-- A title alone, in a name with the shape of a date that is no day. -/
  | malformedDate (title : Text)
  /-- A title alone. -/
  | plain (title : Text)
deriving DecidableEq, Repr

/-- What a name of a release says. -/
structure NameReading where
  /-- The name as it was given. -/
  rawName : Text
  title : Text
  studioTitle : Option Text := none
  releaseDate : Option Text := none
  year : Option Int := none
  isScene : Bool := false
  tokens : List Text := []
  quality : Quality := {}
deriving DecidableEq, Repr

/-- Whether the name was recognised as a film. -/
def NameReading.isFilm (r : NameReading) : Bool := !r.isScene && r.year.isSome

namespace Recognition

/-- The title, whatever was recognised. -/
def title : Recognition → Text
  | scene _ _ title => title
  | film title _ => title
  | malformedDate title => title
  | plain title => title

/-- The record of a recognition. -/
def toReading (raw : Text) (quality : Quality) (r : Recognition) : NameReading :=
  let bare : NameReading :=
    { rawName := raw, title := r.title, tokens := Title.tokens r.title, quality }
  match r with
  | scene studio date _ =>
      { bare with studioTitle := studio, releaseDate := some date, isScene := true }
  | film _ year => { bare with year := some year }
  | malformedDate _ => bare
  | plain _ => bare

end Recognition

end ReleaseCatalog.Release
