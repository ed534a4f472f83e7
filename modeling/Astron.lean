import Astron.Util.Datagram
import Astron.Net.Framing
import Astron.MessageDirector.Routing
import Astron.MessageDirector.ProcessDatagram
import Astron.Net.Client
import Astron.MessageDirector.Lifecycle
import Astron.MessageDirector.Threading
import Astron.Config.Yaml
import Astron.Config.Validator
import Astron.ClientAgent.ChannelTracker
import Astron.Net.Address
import Astron.Util.EventSender
import Astron.Database.MongoDatabase
import Astron.Database.MongoModify
import Astron.Database.MongoRefinement
import Astron.Util.Timeout
import Astron.Config.Section
import Astron.ClientAgent.Configure
import Astron.Net.Acceptor
