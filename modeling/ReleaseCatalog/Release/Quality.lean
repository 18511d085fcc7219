import ReleaseCatalog.Text.Basic

/-!
# Quality of a release

The quality of a release is described by five texts.  They come from a
detector outside this library, which looks at the raw name and may answer with
values of several kinds, or fail.  A value of several parts stands for its
first part, and every part has a text.

So whatever reads names takes the detector as an argument, a function from raw
names to what it answers.  `Detector.off` is the one that is never asked.
-/

namespace ReleaseCatalog.Release

/-- What is known about the quality of a release. -/
structure Quality where
  /-- The resolution, such as 1080p. -/
  resolution : Option Text := none
  videoCodec : Option Text := none
  audioCodec : Option Text := none
  /-- The source, such as Web. -/
  source : Option Text := none
  releaseGroup : Option Text := none
deriving DecidableEq, Repr

namespace Quality

/-- The five fields in their fixed order. -/
def fields (q : Quality) : List (Option Text) :=
  [q.resolution, q.videoCodec, q.audioCodec, q.source, q.releaseGroup]

/-- The tags that are present and not empty. -/
def tags (q : Quality) : List Text := q.fields.filterMap fun field => field.filter (· ≠ [])

end Quality

/-- One part of a detected value. -/
inductive DetectedPart where
  | text (t : Text)
  | number (n : Int)
  | truth (b : Bool)
  | nothing
deriving DecidableEq, Repr

/-- A detected value: one part, or a list of them. -/
inductive DetectedValue where
  | single (part : DetectedPart)
  | several (parts : List DetectedPart)
deriving DecidableEq, Repr

/-- The text of a part, nothing included. -/
def DetectedPart.write : DetectedPart → Text
  | text t => t
  | number n => Text.ofInt n
  | truth true => "True".toList
  | truth false => "False".toList
  | nothing => "None".toList

/-- The text of a value.  No value and an empty list have none. -/
def DetectedValue.write : DetectedValue → Option Text
  | single .nothing => none
  | single part => some part.write
  | several [] => none
  | several (part :: _) => some part.write

/-- The values that a detector found, each of which may be missing. -/
structure Detected where
  screenSize : Option DetectedValue := none
  videoCodec : Option DetectedValue := none
  audioCodec : Option DetectedValue := none
  source : Option DetectedValue := none
  releaseGroup : Option DetectedValue := none
deriving DecidableEq, Repr

/-- The quality that detected values describe. -/
def Detected.quality (d : Detected) : Quality where
  resolution := d.screenSize.bind DetectedValue.write
  videoCodec := d.videoCodec.bind DetectedValue.write
  audioCodec := d.audioCodec.bind DetectedValue.write
  source := d.source.bind DetectedValue.write
  releaseGroup := d.releaseGroup.bind DetectedValue.write

/-- How the detection of quality tags goes. -/
inductive Detection where
  | off
  | found (detected : Detected)
  | failed (reason : Text)
deriving DecidableEq, Repr

/-- The quality that a detection gives, which is unknown if it is off or fails. -/
def Detection.quality : Detection → Quality
  | found detected => detected.quality
  | _ => {}

/-- A detector of quality tags, which looks at raw names. -/
abbrev Detector := Text → Detection

/-- The detector that is never asked. -/
def Detector.off : Detector := fun _ => .off

end ReleaseCatalog.Release
