import Lyv.Library.Results
import Lyv.Library.Counting
import Lyv.Library.Transition
import Lyv.Library.Descent
import Lyv.Library.Base64
import Lyv.Library.FloatFormat
import Lyv.Firebase.Node
import Lyv.Firebase.StringArray
import Lyv.Models.Platform
import Lyv.Models.User
import Lyv.Models.Beacon
import Lyv.Controllers.HomeController
import Lyv.Controllers.UpdateController
import Lyv.Services.Network
import Lyv.Services.Calls
import Lyv.App.MainScene
import Lyv.App.Client
import Lyv.App.Screens
import Lyv.App.World
import Lyv.App.Steps
import Lyv.Verified.MarkerSafety
import Lyv.Verified.MarkerScaling
import Lyv.Verified.RecordFormats
import Lyv.Verified.SceneMirror
import Lyv.Verified.SessionIdentity
import Lyv.App.Invariants
import Lyv.App.Held
import Lyv.App.UnderWay
import Lyv.Verified.KeyProvenance
import Lyv.Verified.RemovedBeacons
import Lyv.Verified.SignInOverwrite
import Lyv.Verified.StrandedAccounts
import Lyv.Verified.SessionCopies
import Lyv.Verified.OwnerIndex
import Lyv.Verified.EditSessions
import Lyv.Verified.ProfileRoutes
import Lyv.Verified.SessionPresence
import Lyv.Verified.SelectedRecord
import Lyv.Verified.CreatedBeacons
import Lyv.Verified.DetailsSegue
import Lyv.Verified.UsedPositions
import Lyv.App.Authors
import Lyv.Verified.ProcessStops
import Lyv.Verified.StoredRecords
import Lyv.Verified.WriteAccounting
import Lyv.Verified.Quiescence
import Lyv.Verified.ListSnapshots
import Lyv.App.Accounts
import Lyv.Library.Refinement
import Lyv.App.Board
import Lyv.Verified.BoardRefinement
import Lyv.Firebase.Path
import Lyv.Verified.RequestPaths
import Lyv.Verified.AccountCards
import Lyv.Library.Decimal
import Lyv.Verified.DetailsScreen
import Lyv.Firebase.KeyOrder
import Lyv.Verified.ListingOrder
import Lyv.Firebase.NormalForm
import Lyv.Verified.ReadBack
import Lyv.Verified.SessionLists
import Lyv.Verified.AccountProfiles
import Lyv.Verified.OwnerStability
import Lyv.Verified.OwnerPresses
import Lyv.Library.Leads
import Lyv.Verified.CatchUp
