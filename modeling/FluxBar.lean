import FluxBar.Library.KeyedTable
import FluxBar.Library.TransitionSystem
import FluxBar.Library.WriteBehind
import FluxBar.Library.AnsweredView
import FluxBar.Library.CursorPaging
import FluxBar.Library.Procedure
import FluxBar.Library.OwnedRows
import FluxBar.Library.Json
import FluxBar.Domain
import FluxBar.StoreRuns
import FluxBar.PaginationProofs
import FluxBar.Sync
import FluxBar.DeliveryProofs
import FluxBar.TransportProofs
import FluxBar.NavigationProofs
import FluxBar.SnapshotProofs
import FluxBar.ServiceProofs
import FluxBar.SyncExactness
import FluxBar.PopoverProofs
import FluxBar.AccountIsolation
import FluxBar.UndoJournal
import FluxBar.LocalChanges
import FluxBar.FlushDelivery
import FluxBar.DeliveryDisplay
import FluxBar.ConfigurationProofs
import FluxBar.SnapshotFigures
import FluxBar.PublicationOrder
import FluxBar.MarkedRowsProofs
import FluxBar.UndoDelay
import FluxBar.MalformedAnswers
import FluxBar.ScrolloverProofs
import FluxBar.IconServiceProofs
import FluxBar.IconAppearanceProofs
import FluxBar.PreviewText
import FluxBar.ResponsiveImages
import FluxBar.StateLock
import FluxBar.ReceiptIds
import FluxBar.Library.UtcTimestamps
import FluxBar.Library.StableSort
import FluxBar.NavigationOrder
import FluxBar.PendingOrder
import FluxBar.Localization
import FluxBar.RequestDecoding
import FluxBar.Library.Places
import FluxBar.Library.SingleFlight
import FluxBar.GoIconsProofs
import FluxBar.ImagePipeline
import FluxBar.AppLaunchProofs
import FluxBar.SpotlightIndexer
import FluxBar.UndoBatches
import FluxBar.GoStore
import FluxBar.GoStoreProofs
import FluxBar.CoreAgreement
import FluxBar.Library.Tandem
import FluxBar.GoMiniflux
import FluxBar.BrowseAgreement
import FluxBar.GoService
import FluxBar.SnapshotAgreement
import FluxBar.ServiceAgreement
import FluxBar.GoCoreAPI
import FluxBar.WireAgreement
import FluxBar.ArticleAgreement
