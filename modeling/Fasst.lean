import Fasst.Go.Bytes
import Fasst.Go.Net
import Fasst.Go.Strings
import Fasst.Ssh.Window
import Fasst.Ssh.Negotiate
import Fasst.Ssh.Wire
import Fasst.Ssh.Handshake.Defs
import Fasst.Ssh.Handshake.Step
import Fasst.Ssh.Handshake.Invariant
import Fasst.Ssh.Handshake.Progress
import Fasst.Ssh.Handshake.WriteError
import Fasst.Ssh.Handshake.Rekey
import Fasst.Ssh.Handshake.Session
import Fasst.Ssh.Handshake.ReadPath
import Fasst.Ssh.Handshake.Exchange
import Fasst.Ssh.Handshake.Lifecycle
import Fasst.Ssh.Config
import Fasst.Ssh.ClientConn
import Fasst.Ssh.Client
import Fasst.Mqtt.Varint
import Fasst.Mqtt.Packet
import Fasst.Mqtt.Scan
import Fasst.Radius
import Fasst.Sip
import Fasst.Tftp
import Fasst.Doq
import Fasst.Bolt
import Fasst.Terraria
import Fasst.X11
import Fasst.Rethinkdb
