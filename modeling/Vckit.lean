import Vckit.Allocation
import Vckit.Reconfigure
import Vckit.RetryOutcome
import Vckit.UnlockedAllocations
import Vckit.UnlockedStatusChanges
import Vckit.LockedRuns
import Vckit.StatusGuard
import Vckit.StatusUrl
import Vckit.StoreMiddleware
import Vckit.FetchArguments
import Vckit.ApiKeyAuth
import Vckit.WebDidDoc
import Vckit.KeyPurposes
import Vckit.WebDidRouter
import Vckit.CreateObjects
import Vckit.PlainData
import Vckit.ObjectTermination
import Vckit.ObjectInline
import Vckit.HolderController
import Vckit.ObjectTrace
import Vckit.ObjectSharing
import Vckit.BackoffTrace
import Vckit.VcApiErrors
import Vckit.ProvenPresentations
import Vckit.Renderer
import Vckit.ConnectedDb
import Vckit.QrLink
import Vckit.DataGenerator
import Vckit.ListRouter
import Vckit.AgentEndpoint
import Vckit.Sharing
import Vckit.CredentialPage
import Vckit.VcService
import Vckit.ServerRoutes
import Vckit.StatusCheck
