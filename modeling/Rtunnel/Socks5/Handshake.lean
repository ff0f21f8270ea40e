import Rtunnel.Anytls.Inbound.Fallback
import Rtunnel.Anytls.Uot
import Rtunnel.Data.Duplex
import Rtunnel.Socks5.Codec

namespace Rtunnel.Socks5

open Rtunnel.Data Rtunnel.Anytls Rtunnel.Anytls.Uot
open Rtunnel.Anytls.Inbound (UserConfig)

/-! The SOCKS5 control connection, both sides.

The outbound offers one authentication method, the inbound accepts exactly the
one that its configuration asks for.  Credentials, the request and the reply
are written in pieces and read in other pieces.
-/

/-- The credentials in the outbound's configuration. -/
structure Socks5Outbound where
  username : Option String
  password : Option String

inductive SocksRequest where
  | connect (target : TargetAddr)
  | udpAssociate (target : TargetAddr)
deriving DecidableEq

def commandCode : Command → UInt8
  | .connect => cmdConnect
  | .udpAssociate => cmdUdpAssociate

def SocksRequest.ofCommand : Command → TargetAddr → SocksRequest
  | .connect, target => .connect target
  | .udpAssociate, target => .udpAssociate target

namespace Socks5Outbound

def auth (outbound : Socks5Outbound) : Bool :=
  outbound.username.isSome || outbound.password.isSome

/-- The second half of `connectControl`, for a server that asks for a password. -/
def sendCredentials (outbound : Socks5Outbound) : Process Failure Unit := do
  let username := utf8Bytes (outbound.username.getD "")
  let password := utf8Bytes (outbound.password.getD "")
  Process.ensure (username.length ≤ 255 ∧ password.length ≤ 255) "socks5 credentials are too long"
  Process.send [0x01]
  Process.send [UInt8.ofNat username.length]
  Process.send username
  Process.send [UInt8.ofNat password.length]
  Process.send password
  let resp ← Process.receive (Demand.field 2 earlyEof)
  Process.ensure (resp.bytes = [0x01, 0x00]) "socks5 outbound authentication failed"

/-- What follows the server's choice of a method. -/
def acceptMethod (outbound : Socks5Outbound) (resp : Octets 2) : Process Failure Unit := do
  Process.ensure (¬ (resp.bytes.getD 0 0 ≠ version ∨ resp.bytes.getD 1 0 = 0xff))
    "socks5 outbound rejected auth method"
  if resp.bytes.getD 1 0 = 0x02 then outbound.sendCredentials else return ()

def connectControl (outbound : Socks5Outbound) : Process Failure Unit := do
  Process.send [version, 0x01, if outbound.auth then 0x02 else 0x00]
  let resp ← Process.receive (Demand.field 2 earlyEof)
  outbound.acceptMethod resp

end Socks5Outbound

def writeRequest (command : UInt8) (target : TargetAddr) : Process Failure Unit := do
  Process.send [version, command, 0]
  let address ← Process.ofExcept (encodeAddr target)
  Process.send address

/-- The address of a response up to its port, as it stands on the wire. -/
def readResponseHost : Demand Failure (List UInt8) := do
  let atyp ← readU8 endOfFile
  if atyp = atypIpv4 then
    let addr ← Demand.field 4 earlyEof
    return atyp :: addr.bytes
  else if atyp = atypDomain then
    let len ← readU8 endOfFile
    let host ← Demand.field len.toNat earlyEof
    return atyp :: len :: host.bytes
  else if atyp = atypIpv6 then
    let addr ← Demand.field 16 earlyEof
    return atyp :: addr.bytes
  else .fail s!"unsupported socks5 response address type {atyp}"

def readResponse : Demand Failure (UInt8 × TargetAddr) := do
  let ver ← readU8 endOfFile
  let status ← readU8 endOfFile
  let rsv ← readU8 endOfFile
  if ver ≠ version ∨ rsv ≠ 0 then .fail "invalid socks5 outbound response"
  else
    let encoded ← readResponseHost
    let port ← readU16 "missing socks5 bind port"
    match decodeAddr (encoded ++ toBe 2 port.toNat) with
    | .ok (target, _) => return (status, target)
    | .error reason => .fail reason

def authenticate (users : Option (List UserConfig)) : Process Failure Unit := do
  let ver ← Process.receive (readU8 endOfFile)
  Process.ensure (ver = 0x01) "invalid username/password auth version"
  let ulen ← Process.receive (readU8 endOfFile)
  let username ← Process.receive (Demand.field ulen.toNat earlyEof)
  let plen ← Process.receive (readU8 endOfFile)
  let password ← Process.receive (Demand.field plen.toNat earlyEof)
  match ofUtf8 username.bytes, ofUtf8 password.bytes with
  | some username, some password =>
      let ok := users.any fun users => users.any fun user =>
        decide (user.username = username) && decide (user.password = password)
      Process.send [0x01, if ok then 0x00 else 0x01]
      Process.ensure ok "invalid socks5 credentials"
  | none, _ => .fail "username is not utf-8"
  | _, none => .fail "password is not utf-8"

def needsAuth (users : Option (List UserConfig)) : Bool := users.any fun users => !users.isEmpty

/-- What follows the client's list of methods. -/
def chooseMethod (users : Option (List UserConfig)) (methods : List UInt8) :
    Process Failure Unit :=
  let method : UInt8 := if needsAuth users then 0x02 else 0x00
  if method ∉ methods then do
    Process.send [0x05, 0xff]
    Process.fail "client did not offer required auth method"
  else do
    Process.send [0x05, method]
    if needsAuth users then authenticate users else return ()

def handshake (users : Option (List UserConfig)) : Process Failure Unit := do
  let ver ← Process.receive (readU8 endOfFile)
  Process.ensure (ver = 0x05) s!"invalid socks version {ver}"
  let nmethods ← Process.receive (readU8 endOfFile)
  let methods ← Process.receive (Demand.field nmethods.toNat earlyEof)
  chooseMethod users methods.bytes

def readRequestTarget : Demand Failure TargetAddr := do
  let atyp ← readU8 endOfFile
  if atyp = atypIpv4 then
    let octets ← Demand.field 4 earlyEof
    let port ← readU16 endOfFile
    return .ip (.v4 octets port)
  else if atyp = atypDomain then
    let len ← readU8 endOfFile
    let host ← Demand.field len.toNat earlyEof
    let port ← readU16 endOfFile
    match ofUtf8 host.bytes with
    | some host => return .domain host port
    | none => .fail "domain is not utf-8"
  else if atyp = atypIpv6 then
    let octets ← Demand.field 16 earlyEof
    let port ← readU16 endOfFile
    return .ip (.v6 octets port 0 0)
  else .fail s!"unsupported address type {atyp}"

def readRequest : Demand Failure SocksRequest := do
  let ver ← readU8 endOfFile
  let cmd ← readU8 endOfFile
  let rsv ← readU8 endOfFile
  if ver ≠ 0x05 ∨ rsv ≠ 0 then .fail "invalid socks5 request"
  else
    let target ← readRequestTarget
    if cmd = cmdConnect then return .connect target
    else if cmd = cmdUdpAssociate then return .udpAssociate target
    else .fail s!"unsupported socks5 command {cmd}"

def writeReply (status : UInt8) (bind : TargetAddr) : Process Failure Unit := do
  Process.send [version, status, 0]
  let address ← Process.ofExcept (encodeAddr bind)
  Process.send address

end Rtunnel.Socks5
