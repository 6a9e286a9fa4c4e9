import Sponge.Model.FdAdapter
import Sponge.Network.Sendable
import Sponge.Wire.Adapter

/-!
# Adapters carry segments

What a socket relies on in its adapter, whichever it is: every segment a connection
emits can be written, and what the other end reads from the datagram, if it reads
anything, is this segment up to the ports and the checksum.
-/

namespace Sponge

/-- The segments differ at most in what an adapter writes into one. -/
def Readdressed (segment got : TCPSegment) : Prop :=
  ∃ sport dport cksum, got =
    { segment with
      header := { segment.header with sport := sport, dport := dport, cksum := cksum } }

/-- A connection does not look at the ports and the checksum. -/
theorem Readdressed.segmentReceived {segment got : TCPSegment} (same : Readdressed segment got)
    (c : TCPConnection) : c.segmentReceived got = c.segmentReceived segment := by
  obtain ⟨sport, dport, cksum, rfl⟩ := same
  rfl

/-- An adapter writes every segment that fits, and no other end reads something else. -/
structure FdAdapter.Faithful {α π ω : Type} (adapter : FdAdapter α π ω) : Prop where
  /-- A segment that fits a datagram can be written. -/
  writes : ∀ state segment draw, Sendable segment →
    ∃ datagrams state', adapter.write state segment draw = some (datagrams, state')
  /-- What is read from its datagram is the segment, or nothing. -/
  reads : ∀ state segment draw datagrams state', Sendable segment →
    adapter.write state segment draw = some (datagrams, state') →
    ∀ datagram ∈ datagrams, ∀ reader draw', ∃ got reader',
      adapter.read reader datagram draw' = some (got, reader') ∧
        ∀ seg ∈ got, Readdressed segment seg
  /-- A datagram that is read is counted. -/
  counts : ∀ state datagram draw got state', adapter.read state datagram draw = some (got, state') →
    (adapter.fd state').readCount = (adapter.fd state).readCount + 1

/-- The state of an adapter after it has read some datagrams. -/
def FdAdapter.after {α π ω : Type} (adapter : FdAdapter α π ω) (state : α) :
    List (π × ω) → Option α
  | [] => some state
  | (datagram, draw) :: seen =>
      (adapter.read state datagram draw).bind fun ret => adapter.after ret.2 seen

/-! ## TUN -/

/-- What is unwrapped from a datagram is the segment it carries, or nothing. -/
theorem TCPOverIPv4Adapter.eq_of_unwrapTcpInIp {adapter : TCPOverIPv4Adapter}
    {ipDgram : IPv4Datagram} {tcpSeg got : TCPSegment} (carries : Carries ipDgram tcpSeg)
    (returned : got ∈ (adapter.unwrapTcpInIp ipDgram).1) : got = tcpSeg := by
  cases unwrapped adapter ipDgram with
  | dropped _ ran =>
      rw [ran] at returned
      cases returned
  | opened other _ carried _ ran =>
      rw [ran] at returned
      cases returned
      exact carried.unique carries
  | delivered other _ carried _ ran =>
      rw [ran] at returned
      cases returned
      exact carried.unique carries

namespace TCPOverIPv4OverTunFdAdapter

variable {segment : TCPSegment}

/-- The bytes an adapter writes to the device for a segment. -/
def bytesOut (adapter : TCPOverIPv4OverTunFdAdapter) (segment : TCPSegment) : Bytes :=
  (adapter.datagramOut segment).headerWire (adapter.datagramOut segment).checksum ++
    (adapter.datagramOut segment).payload

theorem write_eq (adapter : TCPOverIPv4OverTunFdAdapter) (sendable : Sendable segment) :
    adapter.write segment =
      some ([adapter.bytesOut segment], { adapter with tun := adapter.tun.registerWrite }) := by
  have doff : segment.header.doff.toNat = 5 := by rw [sendable.doff]; rfl
  have short : segment.payload.length ≤ 1000 := sendable.short
  have consistent : (adapter.datagramOut segment).Consistent :=
    TCPOverIPv4Adapter.consistent_datagramOut doff.ge (by omega)
  rw [write, TCPOverIPv4Adapter.wrapTcpInIp_eq doff.ge, Option.bind_some,
    IPv4Datagram.serialize_eq consistent]
  rfl

theorem length_bytesOut (adapter : TCPOverIPv4OverTunFdAdapter) (sendable : Sendable segment) :
    (adapter.bytesOut segment).length = 40 + segment.payload.length := by
  have doff : segment.header.doff.toNat = 5 := by rw [sendable.doff]; rfl
  have stamped : 5 ≤ (adapter.stamp segment segment.header.cksum).header.doff.toNat := doff.ge
  have header : ((adapter.datagramOut segment).headerWire
      (adapter.datagramOut segment).checksum).length = 20 :=
    IPv4Datagram.length_headerWire (by decide : 5 ≤ (5 : UInt8).toNat) _
  have payload : (adapter.datagramOut segment).payload.length =
      4 * segment.header.doff.toNat + segment.payload.length :=
    TCPSegment.length_wire stamped _
  rw [bytesOut, List.length_append, header, payload]
  omega

/-- What an adapter reads from the device is unwrapped. -/
theorem read_bytesOut (adapter reader : TCPOverIPv4OverTunFdAdapter) (sendable : Sendable segment) :
    ∃ datagram tun, TCPOverIPv4Adapter.Carries datagram
        (adapter.stamp segment (adapter.segmentCksum segment)) ∧
      reader.read (adapter.bytesOut segment) =
        some ((reader.unwrapTcpInIp datagram).1,
          { (reader.unwrapTcpInIp datagram).2 with tun := tun }) := by
  have doff : segment.header.doff.toNat = 5 := by rw [sendable.doff]; rfl
  have short : segment.payload.length ≤ 1000 := sendable.short
  have length := adapter.length_bytesOut sendable
  have consistent : (adapter.datagramOut segment).Consistent :=
    TCPOverIPv4Adapter.consistent_datagramOut doff.ge (by omega)
  have fits : (adapter.bytesOut segment).length ≤ min FileDescriptor.bufferSize (2 ^ 64 - 1) := by
    rw [FileDescriptor.bufferSize]
    omega
  have parsed : IPv4Datagram.parse {} (adapter.bytesOut segment) = (.noError, _) :=
    IPv4Datagram.parse_wire {} consistent _
  refine ⟨_, FileDescriptor.afterRead reader.tun (2 ^ 64 - 1) (adapter.bytesOut segment),
    TCPOverIPv4Adapter.carries_datagramOut doff.ge (by omega) (by omega)
      (adapter.datagramOut segment).checksum, ?_⟩
  rw [read, FileDescriptor.read_eq_some_iff.mpr ⟨fits, rfl, rfl⟩, Option.map_some]
  dsimp only
  rw [parsed]
  rfl

theorem faithful : fdAdapter.Faithful where
  writes adapter _ _ sendable := ⟨_, _, adapter.write_eq sendable⟩
  reads adapter segment _ datagrams _ sendable written datagram mem reader _ := by
    cases (adapter.write_eq sendable).symm.trans written
    obtain rfl := List.mem_singleton.mp mem
    obtain ⟨received, tun, carries, ran⟩ := adapter.read_bytesOut reader sendable
    refine ⟨_, _, ran, fun seg returned => ?_⟩
    rw [TCPOverIPv4Adapter.eq_of_unwrapTcpInIp carries returned]
    exact ⟨_, _, _, rfl⟩
  counts adapter bytes _ got adapter' ran := by
    obtain ⟨⟨str, tun⟩, read, result⟩ := Option.map_eq_some_iff.mp ran
    obtain ⟨_, _, rfl⟩ := FileDescriptor.read_eq_some_iff.mp read
    dsimp only at result
    split at result <;> cases result <;> rfl

end TCPOverIPv4OverTunFdAdapter

/-! ## UDP -/

namespace TCPOverUDPSocketAdapter

variable {segment : TCPSegment}

/-- The segment with the ports of the configuration. -/
def stamp (adapter : TCPOverUDPSocketAdapter) (segment : TCPSegment) : TCPSegment :=
  { segment with header := { segment.header with
    sport := adapter.cfg.source.port
    dport := adapter.cfg.destination.port } }

/-- The datagram an adapter sends for a segment. -/
def datagramOut (adapter : TCPOverUDPSocketAdapter) (segment : TCPSegment) : UDPDatagram where
  source := adapter.address
  destination := adapter.cfg.destination
  payload := (adapter.stamp segment).wire ((adapter.stamp segment).checksum 0)

theorem write_eq (adapter : TCPOverUDPSocketAdapter) (sendable : Sendable segment) :
    adapter.write segment =
      some ([adapter.datagramOut segment],
        { adapter with sock := adapter.sock.registerWrite }) := by
  have doff : 5 ≤ (adapter.stamp segment).header.doff.toNat := by
    change 5 ≤ segment.header.doff.toNat
    rw [sendable.doff]
    decide
  exact congrArg (Option.map _) (TCPSegment.serialize_eq doff 0)

/-- What is read from a payload is the segment in it, or nothing. -/
theorem eq_of_read {adapter adapter' : TCPOverUDPSocketAdapter} {datagram : UDPDatagram}
    {got : Option TCPSegment} {seg seg' : TCPSegment}
    (parsed : TCPSegment.parse {} datagram.payload 0 = (.noError, seg))
    (ran : adapter.read datagram = some (got, adapter')) (returned : seg' ∈ got) : seg' = seg := by
  unfold read at ran
  simp only [parsed, ne_eq, not_true_eq_false, if_false] at ran
  split at ran
  · cases ran
  split at ran
  · cases ran
    cases returned
  split at ran
  · split at ran
    · cases ran
      exact (Option.mem_some_iff.mp returned).symm
    · cases ran
      cases returned
  · cases ran
    exact (Option.mem_some_iff.mp returned).symm

theorem read_counts {adapter adapter' : TCPOverUDPSocketAdapter} {datagram : UDPDatagram}
    {got : Option TCPSegment} (ran : adapter.read datagram = some (got, adapter')) :
    adapter'.sock = adapter.sock.registerRead := by
  unfold read at ran
  dsimp only at ran
  split at ran
  · cases ran
  repeat' split at ran
  all_goals
    cases ran
    rfl

theorem exists_read (adapter : TCPOverUDPSocketAdapter) {datagram : UDPDatagram}
    (fits : datagram.payload.length ≤ mtu) :
    ∃ got adapter', adapter.read datagram = some (got, adapter') := by
  rw [read, if_neg (Nat.not_lt.mpr fits)]
  dsimp only
  split
  · exact ⟨_, _, rfl⟩
  split
  · exact ⟨_, _, rfl⟩
  split
  · split <;> exact ⟨_, _, rfl⟩
  · exact ⟨_, _, rfl⟩

/-- Every reader can read what is sent, and parses the segment. -/
theorem parse_datagramOut (adapter : TCPOverUDPSocketAdapter) (sendable : Sendable segment) :
    (adapter.datagramOut segment).payload.length ≤ mtu ∧
      TCPSegment.parse {} (adapter.datagramOut segment).payload 0 =
        (.noError, { adapter.stamp segment with header := { (adapter.stamp segment).header with
          cksum := (adapter.stamp segment).checksum 0 } }) := by
  have doff : (adapter.stamp segment).header.doff.toNat = 5 := by
    change segment.header.doff.toNat = 5
    rw [sendable.doff]
    rfl
  have short : (adapter.stamp segment).payload.length ≤ 1000 := sendable.short
  have length : (adapter.datagramOut segment).payload.length = _ :=
    TCPSegment.length_wire doff.ge _
  constructor
  · rw [length, mtu]
    omega
  · exact TCPSegment.parse_wire {} doff.ge (by omega) (by omega)

theorem faithful : fdAdapter.Faithful where
  writes adapter _ _ sendable := ⟨_, _, adapter.write_eq sendable⟩
  reads adapter segment _ datagrams _ sendable written datagram mem reader _ := by
    cases (adapter.write_eq sendable).symm.trans written
    obtain rfl := List.mem_singleton.mp mem
    obtain ⟨fits, parsed⟩ := adapter.parse_datagramOut sendable
    obtain ⟨got, reader', ran⟩ := reader.exists_read fits
    refine ⟨got, reader', ran, fun seg returned => ?_⟩
    rw [eq_of_read parsed ran returned]
    exact ⟨_, _, _, rfl⟩
  counts adapter datagram _ got adapter' ran := congrArg FDWrapper.readCount (read_counts ran)

/-- The segment in a datagram, if there is a valid one. -/
def content (datagram : UDPDatagram) : Option TCPSegment :=
  let parsed := TCPSegment.parse {} datagram.payload 0
  if parsed.1 = .noError then some parsed.2 else none

/-- The datagram asks a listening adapter for a connection. -/
def opens (datagram : UDPDatagram) : Bool :=
  (content datagram).any fun seg => seg.header.syn && !seg.header.rst

/-- The adapter takes this address for its peer. -/
def boundTo (adapter : TCPOverUDPSocketAdapter) (peer : Address) : TCPOverUDPSocketAdapter :=
  { adapter with cfg := { adapter.cfg with destination := peer }, listen := false }

/-- Reading from the socket is counted. -/
def counted (adapter : TCPOverUDPSocketAdapter) : TCPOverUDPSocketAdapter :=
  { adapter with sock := adapter.sock.registerRead }

variable {adapter : TCPOverUDPSocketAdapter} {datagram : UDPDatagram}

theorem read_listening (listening : adapter.listen = true)
    (fits : datagram.payload.length ≤ mtu) :
    adapter.read datagram = some (
      if opens datagram then (content datagram, adapter.counted.boundTo datagram.source)
      else (none, adapter.counted)) := by
  have asked : ¬ (¬ adapter.listen = true ∧ datagram.source ≠ adapter.cfg.destination) :=
    fun unrelated => unrelated.1 listening
  rw [read, if_neg (Nat.not_lt.mpr fits), opens, content]
  dsimp only
  rw [if_neg asked]
  by_cases valid : (TCPSegment.parse {} datagram.payload 0).1 = .noError
  · rw [if_neg (not_not.mpr valid), if_pos listening, if_pos valid, Option.any_some]
    simp only [Bool.and_eq_true, Bool.not_eq_true', Bool.not_eq_true]
    split <;> rfl
  · rw [if_pos valid, if_neg valid]
    rfl

theorem read_bound (bound : adapter.listen = false) (fits : datagram.payload.length ≤ mtu) :
    adapter.read datagram = some (
      if datagram.source = adapter.cfg.destination then content datagram else none,
      adapter.counted) := by
  have deaf : ¬ adapter.listen = true := by rw [bound]; exact Bool.false_ne_true
  rw [read, if_neg (Nat.not_lt.mpr fits), content]
  dsimp only
  by_cases related : datagram.source = adapter.cfg.destination
  · rw [if_neg fun unrelated => unrelated.2 related, if_pos related]
    by_cases valid : (TCPSegment.parse {} datagram.payload 0).1 = .noError
    · rw [if_neg (not_not.mpr valid), if_neg deaf, if_pos valid]
      rfl
    · rw [if_pos valid, if_neg valid]
      rfl
  · rw [if_pos ⟨deaf, related⟩, if_neg related]
    rfl

/-- The peer of an adapter that has read some datagrams, if it has one. -/
def peerAfter (adapter : TCPOverUDPSocketAdapter) (seen : List UDPDatagram) : Option Address :=
  if adapter.listen then (seen.find? opens).map UDPDatagram.source
  else some adapter.cfg.destination

/-- The adapter has this peer, or else still listens, and is otherwise as it was. -/
structure HasPeer (adapter state : TCPOverUDPSocketAdapter) (peer : Option Address) : Prop where
  listen : state.listen = peer.isNone
  cfg : state.cfg = { adapter.cfg with destination := peer.getD adapter.cfg.destination }

/-- The first datagram that asks for a connection decides, and no later one. -/
theorem after_hasPeer (adapter : TCPOverUDPSocketAdapter) (seen : List (UDPDatagram × Unit))
    (fits : ∀ datagram ∈ seen, datagram.1.payload.length ≤ mtu) :
    ∃ state, fdAdapter.after adapter seen = some state ∧
      HasPeer adapter state (adapter.peerAfter (seen.map Prod.fst)) := by
  induction seen generalizing adapter with
  | nil =>
      refine ⟨adapter, rfl, ?_⟩
      cases listening : adapter.listen <;> constructor <;> simp [peerAfter, listening]
  | cons datagram seen ih =>
      obtain ⟨first, rest⟩ := List.forall_mem_cons.mp fits
      rw [FdAdapter.after]
      change ∃ state, (adapter.read datagram.1).bind _ = some state ∧ _
      cases listening : adapter.listen with
      | true =>
          rw [read_listening listening first, Option.bind_some]
          cases asks : opens datagram.1 with
          | true =>
              obtain ⟨state, ran, listen, cfg⟩ :=
                ih (adapter.counted.boundTo datagram.1.source) rest
              refine ⟨state, ran, ?_, ?_⟩
              · simpa [peerAfter, listening, asks, boundTo] using listen
              · simpa [peerAfter, listening, asks, boundTo, counted] using cfg
          | false =>
              obtain ⟨state, ran, listen, cfg⟩ := ih adapter.counted rest
              refine ⟨state, ran, ?_, ?_⟩
              · simpa [peerAfter, listening, asks, counted] using listen
              · simpa [peerAfter, listening, asks, counted] using cfg
      | false =>
          rw [read_bound listening first, Option.bind_some]
          obtain ⟨state, ran, listen, cfg⟩ := ih adapter.counted rest
          refine ⟨state, ran, ?_, ?_⟩
          · simpa [peerAfter, listening, counted] using listen
          · simpa [peerAfter, listening, counted] using cfg

/-- What an adapter returns from the next datagram. -/
theorem read_of_hasPeer {state : TCPOverUDPSocketAdapter} {peer : Option Address}
    (hasPeer : HasPeer adapter state peer) (fits : datagram.payload.length ≤ mtu) :
    ∃ state', state'.cfg.lossRateDn = adapter.cfg.lossRateDn ∧ state.read datagram = some (
      if peer.elim (opens datagram) (fun peer => decide (datagram.source = peer)) then
        content datagram
      else none, state') := by
  have loss : state.cfg.lossRateDn = adapter.cfg.lossRateDn := by rw [hasPeer.cfg]
  cases peer with
  | none =>
      refine ⟨if opens datagram then state.counted.boundTo datagram.source else state.counted, ?_,
        (read_listening hasPeer.listen fits).trans ?_⟩
      · split <;> exact loss
      · cases opens datagram <;> rfl
  | some peer =>
      refine ⟨state.counted, loss, (read_bound hasPeer.listen fits).trans ?_⟩
      rw [hasPeer.cfg]
      simp

end TCPOverUDPSocketAdapter

/-! ## Random loss -/

namespace LossyFdAdapter

variable {α π ω : Type} {adapter : FdAdapter α π ω}

/-- Loss takes nothing from what the adapter guarantees. -/
theorem faithful (isFaithful : adapter.Faithful) (config : α → FdAdapterConfig) :
    (fdAdapter adapter config).Faithful where
  writes state segment draw sendable := by
    obtain ⟨datagrams, state', written⟩ := isFaithful.writes state segment draw.1 sendable
    cases dropped : shouldDrop (config state) true draw.2 with
    | true => exact ⟨[], state, if_pos dropped⟩
    | false => exact ⟨datagrams, state', (if_neg (by rw [dropped]; decide)).trans written⟩
  reads state segment draw datagrams state' sendable written datagram mem reader draw' := by
    cases dropped : shouldDrop (config state) true draw.2 with
    | true =>
        cases (if_pos dropped).symm.trans written
        cases mem
    | false =>
        have passed := (if_neg (by rw [dropped]; decide)).symm.trans written
        obtain ⟨got, reader', ran, same⟩ :=
          isFaithful.reads state segment draw.1 datagrams state' sendable passed datagram mem reader
            draw'.1
        refine ⟨_, reader', congrArg (Option.map _) ran, fun seg returned => ?_⟩
        dsimp only at returned
        split at returned
        · cases returned
        · exact same seg returned
  counts state datagram draw got state' ran := by
    obtain ⟨ret, read, result⟩ := Option.map_eq_some_iff.mp ran
    cases result
    exact isFaithful.counts state datagram draw.1 ret.1 ret.2 read

/-- What has been read is as if nothing had been dropped. -/
theorem after_eq (config : α → FdAdapterConfig) (state : α) (seen : List (π × ω × UInt16)) :
    (fdAdapter adapter config).after state seen =
      adapter.after state (seen.map fun datagram => (datagram.1, datagram.2.1)) := by
  induction seen generalizing state with
  | nil => rfl
  | cons datagram seen ih =>
      rw [FdAdapter.after, List.map_cons, FdAdapter.after]
      change ((adapter.read state datagram.1 datagram.2.1).map _).bind _ = _
      cases adapter.read state datagram.1 datagram.2.1 with
      | none => rfl
      | some ret => exact ih ret.2

open TCPOverUDPSocketAdapter in
/--
A UDP adapter behind random loss, after any datagrams and draws: a listening one has
the source of the first valid SYN for its peer, dropped or not, and none before it; a
segment is returned exactly if the datagram holds it, is not dropped, and comes from
the peer or else asks for a connection.
-/
theorem udp_adapter_binds_once (adapter : TCPOverUDPSocketAdapter)
    (seen : List (UDPDatagram × Unit × UInt16))
    (fits : ∀ datagram ∈ seen, datagram.1.payload.length ≤ mtu) :
    ∃ state, (fdAdapter TCPOverUDPSocketAdapter.fdAdapter cfg).after adapter seen = some state ∧
      HasPeer adapter state (adapter.peerAfter (seen.map Prod.fst)) ∧
      ∀ datagram draw seg, datagram.payload.length ≤ mtu →
        ((∃ state', (fdAdapter TCPOverUDPSocketAdapter.fdAdapter cfg).read state datagram draw =
            some (some seg, state')) ↔
          content datagram = some seg ∧ shouldDrop adapter.cfg false draw.2 = false ∧
            (adapter.peerAfter (seen.map Prod.fst)).elim (opens datagram = true)
              (datagram.source = ·)) := by
  have fits' : ∀ datagram ∈ seen.map fun datagram => (datagram.1, datagram.2.1),
      datagram.1.payload.length ≤ mtu := List.forall_mem_map.mpr fits
  obtain ⟨state, ran, hasPeer⟩ := after_hasPeer adapter _ fits'
  rw [List.map_map] at hasPeer
  refine ⟨state, (after_eq cfg adapter seen).trans ran, hasPeer, ?_⟩
  intro datagram draw seg small
  obtain ⟨state', loss, read⟩ := read_of_hasPeer hasPeer small
  change (∃ state', ((state.read datagram).map _) = some (some seg, state')) ↔ _
  rw [read, Option.map_some]
  have drops : shouldDrop state'.cfg false draw.2 = shouldDrop adapter.cfg false draw.2 := by
    rw [shouldDrop, shouldDrop, if_neg Bool.false_ne_true, if_neg Bool.false_ne_true, loss]
  dsimp only
  rw [drops]
  have related : (adapter.peerAfter (seen.map Prod.fst)).elim (opens datagram = true)
      (datagram.source = ·) ↔ (adapter.peerAfter (seen.map Prod.fst)).elim (opens datagram)
        (fun peer => decide (datagram.source = peer)) = true := by
    cases adapter.peerAfter (seen.map Prod.fst) with
    | none => exact Iff.rfl
    | some peer =>
        change datagram.source = peer ↔ decide (datagram.source = peer) = true
        rw [decide_eq_true_eq]
  have same : (Prod.fst ∘ fun datagram : UDPDatagram × Unit × UInt16 =>
      (datagram.1, datagram.2.1)) = Prod.fst := rfl
  rw [related, same]
  cases shouldDrop adapter.cfg false draw.2 <;>
    cases (adapter.peerAfter (seen.map Prod.fst)).elim (opens datagram)
      (fun peer => decide (datagram.source = peer)) <;> simp

/-- A SYN that is dropped has bound the adapter. -/
theorem udp_adapter_binds_once_dropped :
    let syn : UDPDatagram := ⟨⟨1, 10⟩, ⟨2, 20⟩, [0, 10, 0, 20, 0, 0, 0, 0, 0, 0, 0, 0, 80, 2, 0, 0,
      0xaf, 0xdf, 0, 0]⟩
    ∃ state, (fdAdapter TCPOverUDPSocketAdapter.fdAdapter TCPOverUDPSocketAdapter.cfg).after
        { cfg := { lossRateDn := 100 }, listen := true } [(syn, (), 50)] = some state ∧
      state.listen = false ∧ state.cfg.destination = ⟨1, 10⟩ := by
  intro syn
  obtain ⟨state, ran, hasPeer, _⟩ := udp_adapter_binds_once
    { cfg := { lossRateDn := 100 }, listen := true } [(syn, (), 50)] (by decide)
  refine ⟨state, ran, hasPeer.listen.trans (by decide), ?_⟩
  rw [hasPeer.cfg]
  decide

end LossyFdAdapter

end Sponge
