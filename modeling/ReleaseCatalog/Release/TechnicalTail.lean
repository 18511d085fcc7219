import ReleaseCatalog.Release.Tag

/-!
# The technical tail of a name

The end of a name often holds nothing but technical tags and the name of the
group that made the release.  This *tail* begins at the first tag that cannot
belong to the title.  A quality tag never can.  A release flag cannot if
something precedes it and if only technical tags follow it, up to the next
quality tag or to the end; otherwise it is taken for a word of the title.
-/

namespace ReleaseCatalog.Release

/-- A text up to its first quality tag. -/
def beforeQualityTag (t : Text) : Text :=
  match (boundedTag qualityTag).first? t with
  | some o => o.before
  | none => t

/-- Whether a text has nothing but technical tags and separators. -/
def isOnlyTags (t : Text) : Bool :=
  ((boundedTag technicalTag).replaceAll (fun _ _ => [' ']) t).all isSeparator

/-- Whether the tail of a name begins at a technical tag of it. -/
def startsTail (o : Occurrence Unit) : Bool :=
  isQualityTag o.fragment || (!o.before.all isSeparator && isOnlyTags (beforeQualityTag o.after))

/-- A name without its technical tail. -/
def beforeTail (t : Text) : Text :=
  match ((boundedTag technicalTag).occurrences t).find? startsTail with
  | some o => o.before
  | none => t

/-! ## Tests -/

example : beforeTail "Title.XXX.1080p.MP4-KTR".toList = "Title.".toList := by decide +kernel
example : beforeTail "Internal.Affairs".toList = "Internal.Affairs".toList := by decide +kernel

end ReleaseCatalog.Release
