import Gotilert.Go.Strings
import Gotilert.Go.Maps
import Gotilert.Go.Errors
import Gotilert.Go.Url
import Gotilert.Alertmanager.Client
import Gotilert.Alertmanager.Retry
import Gotilert.Gotify.Extras
import Gotilert.Gotify.Message
import Gotilert.Config.Validate
import Gotilert.Server.Message
import Gotilert.Main.Severity
import Gotilert.Main.Forwarder
import Gotilert.Main.Concurrent
import Gotilert.Go.Context
import Gotilert.Server.Http
import Gotilert.Main.Metrics
import Gotilert.Main.Wiring
import Gotilert.Main.Run
