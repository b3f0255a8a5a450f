import Ace.GoStrings
import Ace.NetUrl
import Ace.Zcapld
import Ace.Models
import Ace.Hub
import Ace.HandleAuthz
import Ace.HandleEqOp
import Ace.Coordinates
import Ace.TokenRoundTrip
import Ace.Comparator
import Ace.DidSignature
import Ace.Protocol
import Ace.StartCmd
