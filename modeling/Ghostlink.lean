import Ghostlink.Groups.Acknowledgements
import Ghostlink.Groups.AdmittedNames
import Ghostlink.Groups.ArrivalOrder
import Ghostlink.Groups.DrainWindow
import Ghostlink.Groups.ReadReceipts
import Ghostlink.Groups.RelayServer
import Ghostlink.Groups.Resync
import Ghostlink.Groups.SenderKeyDelivery
import Ghostlink.Invites.Loading
import Ghostlink.Messaging.Delivery
import Ghostlink.Messaging.KeyExchange
import Ghostlink.Messaging.OutboxCoherence
import Ghostlink.Portal.Backups
import Ghostlink.Portal.OneTimeCodes
import Ghostlink.Portal.PasskeyKeys
import Ghostlink.Relay.Redemption
import Ghostlink.Relay.Waiters
import Ghostlink.Transfer.Downloads
import Ghostlink.Transfer.OfferLimits
import Ghostlink.Transfer.Quota
import Ghostlink.Transport.Custody
import Ghostlink.Transport.WebSocket
import Ghostlink.Groups.SignatureScope
import Ghostlink.Messaging.InboxOrder
import Ghostlink.Messaging.Transcripts
import Ghostlink.Transfer.Resume
import Ghostlink.Transport.Heartbeat
import Ghostlink.Portal.RateLimit
import Ghostlink.Portal.Migrations
import Ghostlink.Portal.Placeholders
