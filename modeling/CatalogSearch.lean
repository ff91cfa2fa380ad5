import CatalogSearch.Cache.Backend
import CatalogSearch.Cache.Digest
import CatalogSearch.Cache.Key
import CatalogSearch.Cache.Memory
import CatalogSearch.Cache.Remote
import CatalogSearch.Catalog.Files
import CatalogSearch.Catalog.Load
import CatalogSearch.Catalog.Rows
import CatalogSearch.Catalog.Source
import CatalogSearch.Catalog.Warning
import CatalogSearch.Cli.Argument
import CatalogSearch.Cli.Report
import CatalogSearch.Cli.Session
import CatalogSearch.Fuzzy.Matcher
import CatalogSearch.Fuzzy.Phonetic
import CatalogSearch.Fuzzy.Similarity
import CatalogSearch.Fuzzy.Spelling
import CatalogSearch.Http.Parameter
import CatalogSearch.Http.Reply
import CatalogSearch.Http.Request
import CatalogSearch.Http.Server
import CatalogSearch.Json.Basic
import CatalogSearch.Json.Reader
import CatalogSearch.Json.Shown
import CatalogSearch.Json.Writer
import CatalogSearch.Main
import CatalogSearch.Number.Binary64
import CatalogSearch.Number.Decimal
import CatalogSearch.Number.Literal
import CatalogSearch.Number.Magnitude
import CatalogSearch.Number.Number
import CatalogSearch.Price.Label
import CatalogSearch.Price.Predicate
import CatalogSearch.Product.Basic
import CatalogSearch.Product.Row
import CatalogSearch.Proofs.Cache.Kept
import CatalogSearch.Proofs.Cache.KeyText
import CatalogSearch.Proofs.Cache.StoredResponse
import CatalogSearch.Proofs.Json.NumberReadBack
import CatalogSearch.Proofs.Json.ReadBack
import CatalogSearch.Proofs.Json.ShownText
import CatalogSearch.Proofs.Json.StringReadBack
import CatalogSearch.Proofs.Number.DecimalDigits
import CatalogSearch.Proofs.Number.Rounding
import CatalogSearch.Proofs.Number.ShortestDecimal
import CatalogSearch.Proofs.Query.ExpressionCuts
import CatalogSearch.Proofs.Query.Expressions
import CatalogSearch.Proofs.Query.Findings
import CatalogSearch.Proofs.Query.Hits
import CatalogSearch.Proofs.Query.LetterForms
import CatalogSearch.Proofs.Query.PhraseCuts
import CatalogSearch.Proofs.Query.PriceConditions
import CatalogSearch.Proofs.Query.PriceFindings
import CatalogSearch.Proofs.Query.PriceGrammar
import CatalogSearch.Proofs.Query.Phrases
import CatalogSearch.Proofs.Query.RequiredTerms
import CatalogSearch.Proofs.Query.Spans
import CatalogSearch.Proofs.Results.Candidates
import CatalogSearch.Proofs.Results.Criteria
import CatalogSearch.Proofs.Results.ExactIds
import CatalogSearch.Proofs.Results.Merging
import CatalogSearch.Proofs.Results.PageByPage
import CatalogSearch.Proofs.Results.Paging
import CatalogSearch.Proofs.Results.RankOrder
import CatalogSearch.Proofs.Results.Scores
import CatalogSearch.Proofs.Results.Selection
import CatalogSearch.Proofs.Results.Summary
import CatalogSearch.Proofs.Service.Answer
import CatalogSearch.Proofs.Service.ResponseNames
import CatalogSearch.Proofs.Service.Run
import CatalogSearch.Proofs.Service.Transparency
import CatalogSearch.Proofs.Text.Characters
import CatalogSearch.Proofs.Text.CutAfterCut
import CatalogSearch.Proofs.Text.Cuts
import CatalogSearch.Proofs.Text.CutsInPlace
import CatalogSearch.Proofs.Text.Digits
import CatalogSearch.Proofs.Text.DocumentBytes
import CatalogSearch.Proofs.Text.LowerWords
import CatalogSearch.Proofs.Text.Occurrence
import CatalogSearch.Proofs.Text.Untouched
import CatalogSearch.Proofs.Text.Words
import CatalogSearch.Query.Canonical
import CatalogSearch.Query.Expression
import CatalogSearch.Query.Intent
import CatalogSearch.Query.Interpretation
import CatalogSearch.Query.Numeral
import CatalogSearch.Query.Pattern
import CatalogSearch.Query.Phrase
import CatalogSearch.Query.Reading
import CatalogSearch.Results.Evaluation
import CatalogSearch.Results.Facets
import CatalogSearch.Results.Merge
import CatalogSearch.Results.Order
import CatalogSearch.Results.Page
import CatalogSearch.Results.Ranking
import CatalogSearch.Results.Refinement
import CatalogSearch.Service.Basic
import CatalogSearch.Service.Response
import CatalogSearch.Service.Settings
import CatalogSearch.Text.Alphanumeric
import CatalogSearch.Text.BaseLetter
import CatalogSearch.Text.Blank
import CatalogSearch.Text.CaseFold
import CatalogSearch.Text.CaseRun
import CatalogSearch.Text.CodeRange
import CatalogSearch.Text.Digit
import CatalogSearch.Text.Encoding
import CatalogSearch.Text.LowerCase
import CatalogSearch.Text.Occurrence
import CatalogSearch.Text.Printable
import CatalogSearch.Text.Quoted
import CatalogSearch.Text.Transliteration
import CatalogSearch.Text.UpperCase
import CatalogSearch.Proofs.Number.Range
import CatalogSearch.Proofs.Product.RowPrices
import CatalogSearch.Proofs.Catalog.RowByRow
import CatalogSearch.Proofs.Product.Revalidation
import CatalogSearch.Proofs.Results.Independence
import CatalogSearch.Proofs.Cache.MemoryRun
import CatalogSearch.Proofs.Cache.Recency
import CatalogSearch.Proofs.Cache.Inclusion
import CatalogSearch.Proofs.Service.Interleaving
import CatalogSearch.Proofs.Service.NeverStale
import CatalogSearch.Proofs.Service.Reload
import CatalogSearch.Proofs.Service.SharedStore
import CatalogSearch.Proofs.Service.OwnAnswers
import CatalogSearch.Proofs.Results.SortedResults
import CatalogSearch.Proofs.Query.Parts
import CatalogSearch.Proofs.Query.Agreement
import CatalogSearch.Proofs.Query.Respacing
import CatalogSearch.Proofs.Query.Amounts
import CatalogSearch.Proofs.Query.Lasting
import CatalogSearch.Proofs.Query.Blanking
import CatalogSearch.Proofs.Query.Stripping
import CatalogSearch.Proofs.Text.LowerNumbers
import CatalogSearch.Proofs.Text.WordByWord
import CatalogSearch.Proofs.Query.FreeNumerals
import CatalogSearch.Proofs.Query.WholeAmounts
import CatalogSearch.Proofs.Query.WholeBounds
import CatalogSearch.Proofs.Number.CompactText
import CatalogSearch.Proofs.Query.PriceForms
import CatalogSearch.Proofs.Query.ShownPrice
import CatalogSearch.Proofs.Results.FirstOfEachId
import CatalogSearch.Proofs.Results.RankedProducts
import CatalogSearch.Proofs.Query.CanonicalPrice
import CatalogSearch.Proofs.Number.Differences
import CatalogSearch.Proofs.Fuzzy.Thresholds
import CatalogSearch.Proofs.Fuzzy.Ratios
import CatalogSearch.Proofs.Fuzzy.SharedWords
import CatalogSearch.Proofs.Cache.RemoteRun
import CatalogSearch.Proofs.Query.PriceOnly
import CatalogSearch.Proofs.Results.PriceBounds
import CatalogSearch.Proofs.Results.TermByTerm
import CatalogSearch.Proofs.Text.FoldedEnds
import CatalogSearch.Proofs.Results.NameFilters
import CatalogSearch.Proofs.Catalog.FirstLoad
import CatalogSearch.Proofs.Text.NormalForm
import CatalogSearch.Proofs.Text.LowerInPlace
import CatalogSearch.Proofs.Results.Admission
import CatalogSearch.Proofs.Results.CopiedWords
import CatalogSearch.Proofs.Service.SearchKeys
