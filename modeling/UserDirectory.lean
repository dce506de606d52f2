import UserDirectory.Journal.Line
import UserDirectory.Service
import UserDirectory.Time.Clock
import UserDirectory.Proofs.Number.Numeral
import UserDirectory.Proofs.Text.NormalForm
import UserDirectory.Proofs.Paging.Token
import UserDirectory.Proofs.Paging.Grammar
import UserDirectory.Proofs.Input.Email
import UserDirectory.Proofs.Input.Request
import UserDirectory.Proofs.Action
import UserDirectory.Proofs.Coupling
import UserDirectory.Proofs.Store.PostgresUpsert
import UserDirectory.Proofs.Directory.Reading
import UserDirectory.Proofs.Directory.Page
import UserDirectory.Proofs.Directory.Edit
import UserDirectory.Proofs.Directory.History
import UserDirectory.Proofs.Directory.Walk
import UserDirectory.Proofs.Directory.StillWalk
import UserDirectory.Proofs.Directory.Interleaving
import UserDirectory.Proofs.Transaction
import UserDirectory.Proofs.Directory.Operation
import UserDirectory.Proofs.Directory.Transcript
import UserDirectory.Proofs.Directory.Dialect
import UserDirectory.Proofs.Directory.Erasure
import UserDirectory.Proofs.Directory.Listed
import UserDirectory.Proofs.Service.Call
import UserDirectory.Proofs.Service.Failure
import UserDirectory.Proofs.Service.PageSize
import UserDirectory.Proofs.Service.WriteBack
import UserDirectory.Proofs.Paging.Respelling
import UserDirectory.Proofs.Directory.Found
import UserDirectory.Proofs.Directory.Selection
import UserDirectory.Proofs.Directory.Unreadable
import UserDirectory.Proofs.Search.Similarity
import UserDirectory.Proofs.Directory.Addressless
import UserDirectory.Proofs.Directory.LetterCase
import UserDirectory.Proofs.Service.Identity
import UserDirectory.Proofs.Directory.Ties
import UserDirectory.Proofs.Paging.Timestamp
import UserDirectory.Proofs.Config.Reload
import UserDirectory.Proofs.Connection.Server
