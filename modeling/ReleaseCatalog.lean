import ReleaseCatalog.Calendar.Day
import ReleaseCatalog.Distinct
import ReleaseCatalog.Engine
import ReleaseCatalog.Holdings.Entry
import ReleaseCatalog.Holdings.Library
import ReleaseCatalog.Holdings.Store
import ReleaseCatalog.Journal.Event
import ReleaseCatalog.Journal.Level
import ReleaseCatalog.Journal.Output
import ReleaseCatalog.Journal.Traced
import ReleaseCatalog.Json.Basic
import ReleaseCatalog.Json.Reader
import ReleaseCatalog.Matching.SceneRank
import ReleaseCatalog.Matching.TitleMatch
import ReleaseCatalog.Proofs.Calendar.DayText
import ReleaseCatalog.Proofs.Calendar.WrittenDay
import ReleaseCatalog.Proofs.Engine.AliasLookup
import ReleaseCatalog.Proofs.Engine.LetterCase
import ReleaseCatalog.Proofs.Engine.OverAnswering
import ReleaseCatalog.Proofs.Engine.SceneLookup
import ReleaseCatalog.Proofs.Engine.StudioLookup
import ReleaseCatalog.Proofs.Engine.TitleLookup
import ReleaseCatalog.Proofs.Matching.BestScene
import ReleaseCatalog.Proofs.Matching.CastNames
import ReleaseCatalog.Proofs.Matching.Lowest
import ReleaseCatalog.Proofs.Matching.ReleaseTokens
import ReleaseCatalog.Proofs.Matching.Reordering
import ReleaseCatalog.Proofs.Matching.Retries
import ReleaseCatalog.Proofs.Matching.SceneOrder
import ReleaseCatalog.Proofs.Release.BracketGroups
import ReleaseCatalog.Proofs.Release.DateFragment
import ReleaseCatalog.Proofs.Release.DateRecognition
import ReleaseCatalog.Proofs.Release.DatelessName
import ReleaseCatalog.Proofs.Release.FileCopies
import ReleaseCatalog.Proofs.Release.FileEndings
import ReleaseCatalog.Proofs.Release.FilmName
import ReleaseCatalog.Proofs.Release.FilmYears
import ReleaseCatalog.Proofs.Release.LeftmostDate
import ReleaseCatalog.Proofs.Release.LetterCase
import ReleaseCatalog.Proofs.Release.LocalDate
import ReleaseCatalog.Proofs.Release.MarkerPlaces
import ReleaseCatalog.Proofs.Release.NotesGroup
import ReleaseCatalog.Proofs.Release.PlainWords
import ReleaseCatalog.Proofs.Release.Preparing
import ReleaseCatalog.Proofs.Release.Provenance
import ReleaseCatalog.Proofs.Release.QualityWords
import ReleaseCatalog.Proofs.Release.Recognition
import ReleaseCatalog.Proofs.Release.SceneName
import ReleaseCatalog.Proofs.Release.SoleDate
import ReleaseCatalog.Proofs.Release.TagFragment
import ReleaseCatalog.Proofs.Release.TagScan
import ReleaseCatalog.Proofs.Release.TailCut
import ReleaseCatalog.Proofs.Release.TidyTitles
import ReleaseCatalog.Proofs.Release.TitleTags
import ReleaseCatalog.Proofs.Release.TrackerName
import ReleaseCatalog.Proofs.Release.TrailingDate
import ReleaseCatalog.Proofs.Session.FrozenRegister
import ReleaseCatalog.Proofs.Session.InertReads
import ReleaseCatalog.Proofs.Session.Runs
import ReleaseCatalog.Proofs.Settings.AcceptedYears
import ReleaseCatalog.Proofs.Studio.AliasPairs
import ReleaseCatalog.Proofs.Studio.Precedence
import ReleaseCatalog.Proofs.Studio.Registration
import ReleaseCatalog.Proofs.Text.Joining
import ReleaseCatalog.Proofs.Text.Needs
import ReleaseCatalog.Proofs.Text.ReadFragments
import ReleaseCatalog.Proofs.Text.Renaming
import ReleaseCatalog.Proofs.Text.Scanning
import ReleaseCatalog.Proofs.Text.Solid
import ReleaseCatalog.Proofs.Text.Spacing
import ReleaseCatalog.Proofs.Text.WordPlaces
import ReleaseCatalog.Proofs.Text.WordSpans
import ReleaseCatalog.Proofs.Title.NormalForm
import ReleaseCatalog.Proofs.Title.StackedEndings
import ReleaseCatalog.Proofs.Title.TokenForm
import ReleaseCatalog.Proofs.Title.TokenSet
import ReleaseCatalog.Proofs.Unicode.Classes
import ReleaseCatalog.Proofs.Unicode.FoldedClasses
import ReleaseCatalog.Proofs.Unicode.Folding
import ReleaseCatalog.Proofs.Unicode.SmallLetters
import ReleaseCatalog.Release.BracketGroup
import ReleaseCatalog.Release.DateSearch
import ReleaseCatalog.Release.DateShape
import ReleaseCatalog.Release.EpisodeMarker
import ReleaseCatalog.Release.FileName
import ReleaseCatalog.Release.FilmYear
import ReleaseCatalog.Release.NameReading
import ReleaseCatalog.Release.Parser
import ReleaseCatalog.Release.Quality
import ReleaseCatalog.Release.Tag
import ReleaseCatalog.Release.TechnicalTail
import ReleaseCatalog.Release.TitleText
import ReleaseCatalog.Session
import ReleaseCatalog.Settings.Basic
import ReleaseCatalog.Settings.IntegerText
import ReleaseCatalog.Settings.Issue
import ReleaseCatalog.Settings.PosixPath
import ReleaseCatalog.Settings.Scalar
import ReleaseCatalog.Studio.AliasRegister
import ReleaseCatalog.Studio.Network
import ReleaseCatalog.Text.Basic
import ReleaseCatalog.Text.Quoted
import ReleaseCatalog.Text.Reader
import ReleaseCatalog.Text.Segments
import ReleaseCatalog.Text.Words
import ReleaseCatalog.Title.Key
import ReleaseCatalog.Title.Tokens
import ReleaseCatalog.Unicode.Alphanumeric
import ReleaseCatalog.Unicode.Blank
import ReleaseCatalog.Unicode.CaseFold
import ReleaseCatalog.Unicode.Decimal
import ReleaseCatalog.Unicode.Printable
import ReleaseCatalog.Unicode.Punctuation
import ReleaseCatalog.Unicode.Ranges
