import RescueStream.Domain
import RescueStream.Database.Store
import RescueStream.Database.Repo
import RescueStream.Service.KeyGen
import RescueStream.Service.Auth
import RescueStream.Service.StreamKey
import RescueStream.Service.Revoke
import RescueStream.Service.Reads
import RescueStream.Service.MediaMTX
import RescueStream.Go.Time
import RescueStream.Handler.Webhook
import RescueStream.Handler.Middleware
import RescueStream.Handler.Admin
import RescueStream.System.Step
import RescueStream.System.Change
import RescueStream.System.Invariant
import RescueStream.System.Run
import RescueStream.System.Streams
import RescueStream.System.Keys
import RescueStream.System.KeyRows
import RescueStream.System.Sequential
import RescueStream.System.Api
import RescueStream.System.DataModel
import RescueStream.System.Admission
import RescueStream.System.Serial
import RescueStream.System.Isolation
