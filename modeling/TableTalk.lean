import TableTalk.Catalog.Updates
import TableTalk.File.Snapshot
import TableTalk.Main
import TableTalk.Proofs.Engine.MostFrequent
import TableTalk.Proofs.Language.LongestMatch
import TableTalk.Proofs.Language.Phrases
import TableTalk.Proofs.Language.Separators
import TableTalk.Proofs.Language.WholePhrase
import TableTalk.Proofs.Query.Decoding
import TableTalk.Proofs.Query.Precedence
import TableTalk.Proofs.Query.Refusal
import TableTalk.Proofs.Query.RoundTrip
import TableTalk.Proofs.Query.Template
import TableTalk.Proofs.Query.Verdict
import TableTalk.Proofs.Question.Columns
import TableTalk.Proofs.Question.ConfiguredWords
import TableTalk.Proofs.Question.DecisionTable
import TableTalk.Proofs.Question.Distinct
import TableTalk.Proofs.Question.Effects
import TableTalk.Proofs.Question.FixedPoint
import TableTalk.Proofs.Question.Linking
import TableTalk.Proofs.Question.Mentions
import TableTalk.Proofs.Question.Pinning
import TableTalk.Proofs.Question.Provenance
import TableTalk.Proofs.Question.Ranking
import TableTalk.Proofs.Question.Translation
import TableTalk.Proofs.Question.WholeExample
import TableTalk.Proofs.Catalog.Selection
import TableTalk.Proofs.Query.ResultNames
import TableTalk.Proofs.Settings.Expansion
import TableTalk.Proofs.Database.Records
import TableTalk.Proofs.Sql.Parameters
import TableTalk.Proofs.Sql.Quoting
import TableTalk.Proofs.Sql.Written
import TableTalk.Proofs.Database.Containing
import TableTalk.Proofs.Language.GivenPhrases
