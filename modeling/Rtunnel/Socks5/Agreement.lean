import Rtunnel.Socks5.Handshake

namespace Rtunnel.Socks5

open Rtunnel.Data Rtunnel.Anytls Rtunnel.Anytls.Uot
open Rtunnel.Anytls.Inbound (UserConfig)

/-! The outbound against the inbound.

The two sides are run on a pair of pipes.  The exchange has four phases, and
each ends with empty pipes; every schedule leads to the same end.
-/

theorem reads_octets_port {width : Nat} (octets : Octets width) (port : UInt16)
    (convert : Octets width → UInt16 → TargetAddr) :
    (Demand.field width earlyEof >>= fun octets => readU16 endOfFile >>= fun port =>
      .done (convert octets port) : Demand Failure TargetAddr).Reads
      (octets.bytes ++ toBe 2 port.toNat) (convert octets port) :=
  (Demand.Reads.field octets).bind ((reads_readU16 port).map (convert octets))

/-- Bytes as a field whose width is announced in one byte. -/
def counted (bytes : List UInt8) (short : bytes.length ≤ 255) :
    Octets (UInt8.ofNat bytes.length).toNat :=
  ⟨bytes, (Nat.mod_eq_of_lt (Nat.lt_succ_of_le short)).symm⟩

variable {target : TargetAddr} {encoded : List UInt8} {outbound : Socks5Outbound}

theorem reads_readRequestTarget (accepted : encodeAddr target = .ok encoded) :
    readRequestTarget.Reads encoded target.onWire := by
  cases target with
  | ip addr =>
      cases addr with
      | v4 ip port =>
          cases accepted
          exact (reads_readU8 atypIpv4).bind
            (reads_octets_port ip port fun ip port => .ip (.v4 ip port))
      | v6 ip port flowinfo scopeId =>
          cases accepted
          exact (reads_readU8 atypIpv6).bind
            (reads_octets_port ip port fun ip port => .ip (.v6 ip port 0 0))
  | domain host port =>
      simp only [encodeAddr] at accepted
      split at accepted
      · next short =>
          cases accepted
          refine (reads_readU8 atypDomain).bind ((reads_readU8 _).bind ?_)
          refine (Demand.Reads.field (counted (utf8Bytes host) short)).bind ?_
          refine fun later => (Demand.advance_bind_of_done (reads_readU16 port later) _).trans ?_
          simp only [counted, ofUtf8_utf8Bytes]
          rfl
      · cases accepted

theorem reads_readRequest (command : Command) (accepted : encodeAddr target = .ok encoded) :
    readRequest.Reads ([version, commandCode command, 0] ++ encoded)
      (.ofCommand command target.onWire) := by
  refine (reads_readU8 version).bind ((reads_readU8 (commandCode command)).bind
    ((reads_readU8 0).bind ?_))
  cases command with
  | connect => exact (reads_readRequestTarget accepted).map SocksRequest.connect
  | udpAssociate => exact (reads_readRequestTarget accepted).map SocksRequest.udpAssociate

/-- The host of a response is copied as it stands. -/
theorem reads_readResponseHost (accepted : encodeAddr target = .ok encoded) :
    ∃ host port, encoded = host ++ toBe 2 (UInt16.toNat port) ∧
      readResponseHost.Reads host host := by
  cases target with
  | ip addr =>
      cases addr with
      | v4 ip port =>
          cases accepted
          exact ⟨atypIpv4 :: ip.bytes, port, rfl, (reads_readU8 atypIpv4).bind
            ((Demand.Reads.field ip).map fun addr => atypIpv4 :: addr.bytes)⟩
      | v6 ip port flowinfo scopeId =>
          cases accepted
          exact ⟨atypIpv6 :: ip.bytes, port, rfl, (reads_readU8 atypIpv6).bind
            ((Demand.Reads.field ip).map fun addr => atypIpv6 :: addr.bytes)⟩
  | domain host port =>
      simp only [encodeAddr] at accepted
      split at accepted
      · next short =>
          cases accepted
          let length := UInt8.ofNat host.utf8ByteSize
          exact ⟨atypDomain :: length :: utf8Bytes host, port, rfl,
            (reads_readU8 atypDomain).bind ((reads_readU8 length).bind
              ((Demand.Reads.field (counted (utf8Bytes host) short)).map fun host =>
                atypDomain :: length :: host.bytes))⟩
      · cases accepted

theorem reads_readResponse (status : UInt8) {bind : TargetAddr} (portable : bind.Portable)
    (accepted : encodeAddr bind = .ok encoded) :
    readResponse.Reads ([version, status, 0] ++ encoded) (status, bind) := by
  have decoded : decodeAddr encoded = .ok (bind, encoded.length) :=
    (decodeAddr_iff_encodeAddr portable).mpr
      ⟨Nat.le_refl _, by rw [List.take_length]; exact accepted⟩
  obtain ⟨host, port, rfl, reads⟩ := reads_readResponseHost accepted
  refine (reads_readU8 version).bind ((reads_readU8 status).bind ((reads_readU8 0).bind
    (reads.bind ?_)))
  refine fun later => (Demand.advance_bind_of_done (reads_readU16 port later) _).trans ?_
  simp only [decoded]
  rfl

section Phases

variable {First Second : Type} {client : Process Failure First}
variable (clientNext : Unit → Process Failure First) (serverNext : Unit → Process Failure Second)

theorem server_reads_byte (byte : UInt8) (later toClient : List UInt8)
    (rest : UInt8 → Process Failure Second) :
    Link.Reaches ⟨client, Process.receive (readU8 endOfFile) >>= rest, byte :: later, toClient⟩
      ⟨client, rest byte, later, toClient⟩ :=
  Link.Reaches.serverReceives (reads_readU8 byte) rest

theorem server_reads_field {bytes : List UInt8} (short : bytes.length ≤ 255)
    (later toClient : List UInt8)
    (rest : Octets (UInt8.ofNat bytes.length).toNat → Process Failure Second) :
    Link.Reaches
      ⟨client, Process.receive (Demand.field (UInt8.ofNat bytes.length).toNat earlyEof) >>= rest,
        bytes ++ later, toClient⟩
      ⟨client, rest (counted bytes short), later, toClient⟩ :=
  Link.Reaches.serverReceives (Demand.Reads.field (counted bytes short)) rest

/-- The inbound reads the one method that the outbound offers. -/
theorem greeting_offered (outbound : Socks5Outbound) (users : Option (List UserConfig)) :
    Link.Reaches
      ⟨outbound.connectControl >>= clientNext, handshake users >>= serverNext, [], []⟩
      ⟨Process.receive (Demand.field 2 earlyEof) >>= fun resp =>
          outbound.acceptMethod resp >>= clientNext,
        chooseMethod users [if outbound.auth then 0x02 else 0x00] >>= serverNext, [], []⟩ := by
  simp only [Socks5Outbound.connectControl, handshake, Process.bind_assoc]
  refine (Link.Reaches.clientSends _ _).trans ?_
  refine (server_reads_byte version _ _ _).trans ?_
  have current : Process.ensure (version = 0x05) s!"invalid socks version {version}" =
      .done () := Process.ensure_of_true rfl _
  rw [current, Process.done_bind]
  refine (server_reads_byte 0x01 _ _ _).trans ?_
  have short : [if outbound.auth then (0x02 : UInt8) else 0x00].length ≤ 255 := by
    rw [List.length_singleton]
    decide
  exact server_reads_field short [] [] fun methods =>
    chooseMethod users methods.bytes >>= serverNext

theorem outbound_reads_answer (outbound : Socks5Outbound) (first second : UInt8)
    (server : Process Failure Second) :
    Link.Reaches
      ⟨Process.receive (Demand.field 2 earlyEof) >>= fun resp =>
          outbound.acceptMethod resp >>= clientNext,
        server, [], [first, second]⟩
      ⟨outbound.acceptMethod ⟨[first, second], rfl⟩ >>= clientNext, server, [], []⟩ :=
  Link.Reaches.clientReceives (Demand.Reads.field ⟨[first, second], rfl⟩) _

theorem greeting_accepted {users : Option (List UserConfig)}
    (same : outbound.auth = needsAuth users) :
    Link.Reaches
      ⟨outbound.connectControl >>= clientNext, handshake users >>= serverNext, [], []⟩
      (if needsAuth users then
        ⟨outbound.sendCredentials >>= clientNext, authenticate users >>= serverNext, [], []⟩
      else ⟨clientNext (), serverNext (), [], []⟩) := by
  refine (greeting_offered clientNext serverNext outbound users).trans ?_
  rw [same]
  cases auth : needsAuth users with
  | true =>
      have chosen : chooseMethod users [0x02] =
          Process.send [0x05, 0x02] >>= fun _ => authenticate users := by
        simp [chooseMethod, auth]
      simp only [if_true, chosen, Process.bind_assoc]
      refine (Link.Reaches.serverSends _ _).trans ?_
      exact outbound_reads_answer clientNext outbound 0x05 0x02 _
  | false =>
      have chosen : chooseMethod users [0x00] =
          Process.send [0x05, 0x00] >>= fun _ => .done () := by
        simp [chooseMethod, auth]
        rfl
      simp only [Bool.false_eq_true, if_false, chosen, Process.bind_assoc]
      refine (Link.Reaches.serverSends _ _).trans ?_
      exact outbound_reads_answer clientNext outbound 0x05 0x00 _

theorem greeting_refused {users : Option (List UserConfig)}
    (different : outbound.auth ≠ needsAuth users) :
    Link.Reaches
      ⟨outbound.connectControl >>= clientNext, handshake users >>= serverNext, [], []⟩
      ⟨.fail "socks5 outbound rejected auth method",
        .fail "client did not offer required auth method", [], []⟩ := by
  refine (greeting_offered clientNext serverNext outbound users).trans ?_
  have chosen : chooseMethod users [if outbound.auth then 0x02 else 0x00] =
      Process.send [0x05, 0xff] >>= fun _ =>
        .fail "client did not offer required auth method" := by
    cases auth : needsAuth users <;> cases offered : outbound.auth <;>
      simp_all [chooseMethod]
  simp only [chosen, Process.bind_assoc]
  refine (Link.Reaches.serverSends _ _).trans ?_
  exact outbound_reads_answer clientNext outbound 0x05 0xff _

/-- The inbound knows the outbound's pair of credentials. -/
def Socks5Outbound.listed (outbound : Socks5Outbound) (users : Option (List UserConfig)) : Bool :=
  users.any fun users => users.any fun user =>
    decide (user.username = outbound.username.getD "") &&
      decide (user.password = outbound.password.getD "")

/-- Credentials that fit their length bytes. -/
structure Socks5Outbound.Short (outbound : Socks5Outbound) : Prop where
  username : (utf8Bytes (outbound.username.getD "")).length ≤ 255
  password : (utf8Bytes (outbound.password.getD "")).length ≤ 255

/-- The inbound reads the credentials as they were configured. -/
theorem credentials_read (short : outbound.Short) (users : Option (List UserConfig))
    (client : Process Failure First) :
    Link.Reaches
      ⟨client, authenticate users >>= serverNext,
        0x01 :: UInt8.ofNat (utf8Bytes (outbound.username.getD "")).length ::
          (utf8Bytes (outbound.username.getD "") ++
            UInt8.ofNat (utf8Bytes (outbound.password.getD "")).length ::
              (utf8Bytes (outbound.password.getD "") ++ [])), []⟩
      ⟨client, Process.send [0x01, if outbound.listed users then 0x00 else 0x01] >>= fun _ =>
        Process.ensure (outbound.listed users) "invalid socks5 credentials" >>= serverNext,
        [], []⟩ := by
  simp only [authenticate, Process.bind_assoc]
  refine (server_reads_byte 0x01 _ _ _).trans ?_
  rw [Process.ensure_of_true rfl, Process.done_bind]
  refine (server_reads_byte _ _ _ _).trans ?_
  refine (server_reads_field short.username _ _ _).trans ?_
  refine (server_reads_byte _ _ _ _).trans ?_
  refine (server_reads_field short.password _ _ _).trans ?_
  simp only [counted, ofUtf8_utf8Bytes, Process.bind_assoc]
  exact .refl _

theorem credentials_sent (short : outbound.Short) (server : Process Failure Second) :
    Link.Reaches
      ⟨outbound.sendCredentials >>= clientNext, server, [], []⟩
      ⟨Process.receive (Demand.field 2 earlyEof) >>= fun resp =>
        Process.ensure (resp.bytes = [0x01, 0x00]) "socks5 outbound authentication failed" >>=
          clientNext, server,
        0x01 :: UInt8.ofNat (utf8Bytes (outbound.username.getD "")).length ::
          (utf8Bytes (outbound.username.getD "") ++
            UInt8.ofNat (utf8Bytes (outbound.password.getD "")).length ::
              (utf8Bytes (outbound.password.getD "") ++ [])), []⟩ := by
  have fits := And.intro short.username short.password
  simp only [Socks5Outbound.sendCredentials, Process.bind_assoc, Process.ensure_of_true fits,
    Process.done_bind]
  refine (Link.Reaches.clientSends _ _).trans ?_
  refine (Link.Reaches.clientSends _ _).trans ?_
  refine (Link.Reaches.clientSends _ _).trans ?_
  refine (Link.Reaches.clientSends _ _).trans ?_
  refine (Link.Reaches.clientSends _ _).trans ?_
  simp only [List.nil_append, List.cons_append, List.append_assoc, List.append_nil]
  exact .refl _

theorem authentication (short : outbound.Short) (users : Option (List UserConfig)) :
    Link.Reaches
      ⟨outbound.sendCredentials >>= clientNext, authenticate users >>= serverNext, [], []⟩
      (if outbound.listed users then ⟨clientNext (), serverNext (), [], []⟩
      else ⟨.fail "socks5 outbound authentication failed", .fail "invalid socks5 credentials",
        [], []⟩) := by
  refine (credentials_sent clientNext short _).trans ?_
  refine (credentials_read serverNext short users _).trans ?_
  refine (Link.Reaches.serverSends _ _).trans ?_
  refine (Link.Reaches.clientReceives (Demand.Reads.field
    ⟨[0x01, if outbound.listed users then 0x00 else 0x01], rfl⟩) _).trans ?_
  cases outbound.listed users with
  | true => exact .refl _
  | false => exact .refl _

theorem request_read (command : Command) (portable : target.Portable)
    (accepted : encodeAddr target = .ok encoded)
    (serverNext : SocksRequest → Process Failure Second) :
    Link.Reaches
      ⟨writeRequest (commandCode command) target >>= clientNext,
        Process.receive readRequest >>= serverNext, [], []⟩
      ⟨clientNext (), serverNext (.ofCommand command target), [], []⟩ := by
  have reads := reads_readRequest command accepted
  rw [target.onWire_eq_iff.mpr portable] at reads
  simp only [writeRequest, accepted, Process.ofExcept, Process.bind_assoc, Process.done_bind]
  refine (Link.Reaches.clientSends _ _).trans ?_
  refine (Link.Reaches.clientSends _ _).trans ?_
  rw [List.nil_append, ← List.append_nil ([version, commandCode command, 0] ++ encoded)]
  exact Link.Reaches.serverReceives reads serverNext

theorem reply_read (status : UInt8) {bind : TargetAddr} (portable : bind.Portable)
    (accepted : encodeAddr bind = .ok encoded)
    (clientNext : UInt8 × TargetAddr → Process Failure First) :
    Link.Reaches
      ⟨Process.receive readResponse >>= clientNext, writeReply status bind >>= serverNext, [], []⟩
      ⟨clientNext (status, bind), serverNext (), [], []⟩ := by
  have reads := reads_readResponse status portable accepted
  simp only [writeReply, accepted, Process.ofExcept, Process.bind_assoc, Process.done_bind]
  refine (Link.Reaches.serverSends _ _).trans ?_
  refine (Link.Reaches.serverSends _ _).trans ?_
  rw [List.nil_append, ← List.append_nil ([version, status, 0] ++ encoded)]
  exact Link.Reaches.clientReceives reads clientNext

end Phases

theorem exists_of_isOk {Value : Type} {result : Except Failure Value} (ok : result.isOk) :
    ∃ value, result = .ok value := by
  cases result with
  | ok value => exact ⟨value, rfl⟩
  | error reason => cases ok

/-- The outbound up to the response, and the application's first bytes. -/
def outboundSide (outbound : Socks5Outbound) (command : Command) (target : TargetAddr)
    (application : List UInt8) : Process Failure (UInt8 × TargetAddr) := do
  outbound.connectControl
  writeRequest (commandCode command) target
  let response ← Process.receive readResponse
  Process.send application
  return response

/-- The inbound up to its reply, and the first bytes that it relays. -/
def inboundSide (users : Option (List UserConfig)) (status : UInt8) (bind : TargetAddr)
    (application : List UInt8) : Process Failure SocksRequest := do
  handshake users
  let request ← Process.receive readRequest
  writeReply status bind
  Process.send application
  return request

def HasUsers (users : Option (List UserConfig)) : Prop := ∃ list, users = some list ∧ list ≠ []

/-- Neither side asks for credentials, or the inbound has a user with those of
the outbound, whose missing parts count as empty. -/
def Accepts (users : Option (List UserConfig)) (outbound : Socks5Outbound) : Prop :=
  (¬ HasUsers users ∧ outbound.username = none ∧ outbound.password = none) ∨
    (HasUsers users ∧ (outbound.username ≠ none ∨ outbound.password ≠ none) ∧
      ∃ list, users = some list ∧ ∃ user ∈ list,
        user.username = outbound.username.getD "" ∧ user.password = outbound.password.getD "")

theorem needsAuth_iff (users : Option (List UserConfig)) :
    needsAuth users = true ↔ HasUsers users := by
  cases users with
  | none => simp [needsAuth, HasUsers]
  | some list => simp [needsAuth, HasUsers]

theorem auth_iff (outbound : Socks5Outbound) :
    outbound.auth = true ↔ outbound.username ≠ none ∨ outbound.password ≠ none := by
  simp [Socks5Outbound.auth, Option.isSome_iff_ne_none]

theorem listed_iff (outbound : Socks5Outbound) (users : Option (List UserConfig)) :
    outbound.listed users = true ↔ ∃ list, users = some list ∧ ∃ user ∈ list,
      user.username = outbound.username.getD "" ∧ user.password = outbound.password.getD "" := by
  cases users with
  | none => simp [Socks5Outbound.listed]
  | some list => simp [Socks5Outbound.listed]

theorem accepts_iff (users : Option (List UserConfig)) (outbound : Socks5Outbound) :
    Accepts users outbound ↔ outbound.auth = needsAuth users ∧
      (needsAuth users = true → outbound.listed users = true) := by
  have missing : (outbound.username = none ∧ outbound.password = none) ↔
      ¬ outbound.auth = true := by
    rw [auth_iff, not_or, not_not, not_not]
  unfold Accepts
  rw [← needsAuth_iff, ← listed_iff, ← auth_iff, missing]
  cases needsAuth users <;> cases outbound.auth <;> simp

section Exchange

variable {users : Option (List UserConfig)} (short : outbound.Short)
include short

/-- The start of the exchange, with whatever follows it. -/
theorem credentials_accepted {First Second : Type} (accepts : Accepts users outbound)
    (clientNext : Unit → Process Failure First) (serverNext : Unit → Process Failure Second) :
    Link.Reaches
      ⟨outbound.connectControl >>= clientNext, handshake users >>= serverNext, [], []⟩
      ⟨clientNext (), serverNext (), [], []⟩ := by
  obtain ⟨same, known⟩ := (accepts_iff users outbound).mp accepts
  refine (greeting_accepted clientNext serverNext same).trans ?_
  cases auth : needsAuth users with
  | false => exact .refl _
  | true =>
      have verdict := authentication clientNext serverNext short users
      rw [if_pos (known auth)] at verdict
      exact verdict

theorem credentials_refused {First Second : Type} (refuses : ¬ Accepts users outbound)
    (clientNext : Unit → Process Failure First) (serverNext : Unit → Process Failure Second) :
    ∃ clientReason serverReason, Link.Reaches
      ⟨outbound.connectControl >>= clientNext, handshake users >>= serverNext, [], []⟩
      ⟨.fail clientReason, .fail serverReason, [], []⟩ := by
  by_cases same : outbound.auth = needsAuth users
  · have greeted := greeting_accepted clientNext serverNext same
    have unknown : ¬ (needsAuth users = true → outbound.listed users = true) :=
      fun known => refuses ((accepts_iff users outbound).mpr ⟨same, known⟩)
    obtain ⟨auth, unlisted⟩ := Classical.not_imp.mp unknown
    rw [if_pos auth] at greeted
    have verdict := authentication clientNext serverNext short users
    rw [if_neg unlisted] at verdict
    exact ⟨_, _, greeted.trans verdict⟩
  · exact ⟨_, _, greeting_refused clientNext serverNext same⟩

theorem exchange_succeeds (accepts : Accepts users outbound) (command : Command)
    (portable : target.Portable) (encodable : encodeAddr target = .ok encoded) (status : UInt8)
    {bind : TargetAddr} (bindPortable : bind.Portable) {bindEncoded : List UInt8}
    (bindEncodable : encodeAddr bind = .ok bindEncoded) (fromClient fromServer : List UInt8) :
    Link.Reaches
      ⟨outboundSide outbound command target fromClient, inboundSide users status bind fromServer,
        [], []⟩
      ⟨.done (status, bind), .done (.ofCommand command target), fromClient, fromServer⟩ := by
  refine (credentials_accepted short accepts _ _).trans ?_
  refine (request_read _ command portable encodable _).trans ?_
  refine (reply_read _ status bindPortable bindEncodable _).trans ?_
  refine (Link.Reaches.clientSends fromClient _).trans ?_
  exact Link.Reaches.serverSends fromServer _

theorem exchange_fails (refuses : ¬ Accepts users outbound) (command : Command)
    (target : TargetAddr) (status : UInt8) (bind : TargetAddr)
    (fromClient fromServer : List UInt8) :
    ∃ clientReason serverReason, Link.Reaches
      ⟨outboundSide outbound command target fromClient, inboundSide users status bind fromServer,
        [], []⟩
      ⟨.fail clientReason, .fail serverReason, [], []⟩ :=
  credentials_refused short refuses _ _

end Exchange

/-- For every configuration of both sides and every schedule: the exchange
succeeds exactly if the credentials are accepted.  Then each side has what the
other one sent, and all that is left in the pipes is application data. -/
theorem outbound_agrees_with_inbound (users : Option (List UserConfig))
    (outbound : Socks5Outbound)
    (shortName : ∀ username ∈ outbound.username, username.utf8ByteSize ≤ 255)
    (shortPassword : ∀ password ∈ outbound.password, password.utf8ByteSize ≤ 255)
    (command : Command) (target : TargetAddr) (portable : target.Portable)
    (encodable : (encodeAddr target).isOk) (status : UInt8) (bind : TargetAddr)
    (bindPortable : bind.Portable) (bindEncodable : (encodeAddr bind).isOk)
    (fromClient fromServer : List UInt8) :
    let start : Link Failure (UInt8 × TargetAddr) SocksRequest :=
      ⟨outboundSide outbound command target fromClient, inboundSide users status bind fromServer,
        [], []⟩
    ((∃ response request toServer toClient count, Settles Link.Moves start
        ⟨.done response, .done request, toServer, toClient⟩ count) ↔ Accepts users outbound) ∧
    (Accepts users outbound → ∃ count, Settles Link.Moves start
      ⟨.done (status, bind), .done (.ofCommand command target), fromClient, fromServer⟩ count) ∧
    (¬ Accepts users outbound → ∃ clientReason serverReason count,
      Settles Link.Moves start ⟨.fail clientReason, .fail serverReason, [], []⟩
        count) := by
  have short : outbound.Short := by
    constructor
    · cases named : outbound.username with
      | none => decide
      | some username => exact shortName username named
    · cases named : outbound.password with
      | none => decide
      | some password => exact shortPassword password named
  obtain ⟨encoded, encodable⟩ := exists_of_isOk encodable
  obtain ⟨bindEncoded, bindEncodable⟩ := exists_of_isOk bindEncodable
  intro start
  have succeeds (accepts : Accepts users outbound) : ∃ count, Settles Link.Moves start
      ⟨.done (status, bind), .done (.ofCommand command target), fromClient, fromServer⟩ count :=
    (exchange_succeeds short accepts command portable encodable status bindPortable
      bindEncodable fromClient fromServer).settles ⟨fun _ _ => rfl, fun _ _ => rfl⟩
  have fails (refuses : ¬ Accepts users outbound) : ∃ clientReason serverReason count,
      Settles Link.Moves start ⟨.fail clientReason, .fail serverReason, [], []⟩
        count := by
    obtain ⟨clientReason, serverReason, reaches⟩ :=
      exchange_fails short refuses command target status bind fromClient fromServer
    exact ⟨clientReason, serverReason, reaches.settles ⟨fun _ _ => rfl, fun _ _ => rfl⟩⟩
  refine ⟨⟨?_, fun accepts => ⟨_, _, _, _, succeeds accepts⟩⟩, succeeds, fails⟩
  rintro ⟨response, request, toServer, toClient, count, settles⟩
  by_contra refuses
  obtain ⟨clientReason, serverReason, others, failed⟩ := fails refuses
  cases settles.unique failed

/-- A user without a name. -/
theorem sample_outbound_agrees_with_inbound :
    ∃ count, Settles Link.Moves
      (⟨outboundSide ⟨none, some "secret"⟩ .connect (.domain "example.org" 443) [22],
        inboundSide (some [⟨"", "secret"⟩]) 0 (.ip (.v4 loopback 0)) [], [], []⟩ : Link _ _ _)
      ⟨.done (0, .ip (.v4 loopback 0)), .done (.connect (.domain "example.org" 443)), [22], []⟩
      count := by
  refine (outbound_agrees_with_inbound (some [⟨"", "secret"⟩]) ⟨none, some "secret"⟩ (by simp)
    ?_ .connect (.domain "example.org" 443) trivial (by decide +kernel) 0
    (.ip (.v4 loopback 0)) trivial rfl [22] []).2.1 ?_
  · rintro password ⟨⟩
    decide +kernel
  · exact .inr ⟨⟨_, rfl, by simp⟩, by simp, _, rfl, _, List.mem_singleton_self _, rfl, rfl⟩

end Rtunnel.Socks5
