import Sponge.Model.TCPOverIPv4
import Sponge.Wire.RoundTrip

/-!
# The adapters of two ends

What one adapter wraps the other unwraps, and a listening adapter takes the first
SYN that reaches its port for its peer.  A datagram is dropped before the adapter
changes or not at all: the check that follows the change compares the port of the
segment with itself.
-/

namespace Sponge

namespace TCPOverIPv4Adapter

variable {adapter : TCPOverIPv4Adapter} {ipDgram : IPv4Datagram} {tcpSeg : TCPSegment}

/-! ## One datagram -/

/-- The datagram says that it carries a TCP segment, and its payload parses as this one. -/
def Carries (ipDgram : IPv4Datagram) (tcpSeg : TCPSegment) : Prop :=
  ipDgram.header.proto = IPv4Header.protoTcp ∧
    TCPSegment.parse {} ipDgram.payload ipDgram.header.pseudoCksum.toNat = (.noError, tcpSeg)

/-- The segment opens a connection to a port: a SYN, and no RST. -/
def OpensTo (port : UInt16) (tcpSeg : TCPSegment) : Prop :=
  tcpSeg.header.dport = port ∧ tcpSeg.header.syn = true ∧ tcpSeg.header.rst = false

/-- The addresses and ports are those of the connection. -/
def Related (cfg : FdAdapterConfig) (ipDgram : IPv4Datagram) (tcpSeg : TCPSegment) : Prop :=
  (⟨ipDgram.header.src, tcpSeg.header.sport⟩ : Address) = cfg.destination ∧
    (⟨ipDgram.header.dst, tcpSeg.header.dport⟩ : Address) = cfg.source

instance (port : UInt16) (tcpSeg : TCPSegment) : Decidable (OpensTo port tcpSeg) := by
  unfold OpensTo
  infer_instance

instance (cfg : FdAdapterConfig) (ipDgram : IPv4Datagram) (tcpSeg : TCPSegment) :
    Decidable (Related cfg ipDgram tcpSeg) := by
  unfold Related
  infer_instance

theorem unwrapTcpInIp_of_not_carries (foreign : ∀ tcpSeg, ¬ Carries ipDgram tcpSeg) :
    adapter.unwrapTcpInIp ipDgram = (none, adapter) := by
  unfold unwrapTcpInIp
  by_cases proto : ipDgram.header.proto = IPv4Header.protoTcp
  · let parsed := TCPSegment.parse {} ipDgram.payload ipDgram.header.pseudoCksum.toNat
    have failed : parsed.1 ≠ .noError := fun ok => foreign parsed.2 ⟨proto, Prod.ext ok rfl⟩
    simp only [if_pos failed, parsed, ite_self]
  · simp only [ne_eq, proto, not_false_eq_true, if_true, ite_self]

/-- The check after the change never fails. -/
theorem checkPeer_target :
    (adapter.target ipDgram tcpSeg).checkPeer tcpSeg =
      (some tcpSeg, adapter.target ipDgram tcpSeg) :=
  if_neg (not_not.mpr rfl)

theorem unwrapTcpInIp_listening (listening : adapter.listen = true)
    (carries : Carries ipDgram tcpSeg) :
    adapter.unwrapTcpInIp ipDgram =
      if OpensTo adapter.cfg.source.port tcpSeg then (some tcpSeg, adapter.target ipDgram tcpSeg)
      else (none, adapter) := by
  obtain ⟨proto, parsed⟩ := carries
  simp only [unwrapTcpInIp, listening, proto, parsed, checkPeer_target, OpensTo, ite_not, ite_and,
    ne_eq, not_true_eq_false, false_and, if_false, if_true, Bool.not_eq_true]

theorem related_iff (cfg : FdAdapterConfig) :
    Related cfg ipDgram tcpSeg ↔
      ipDgram.header.dst = cfg.source.ipv4Numeric ∧
        ipDgram.header.src = cfg.destination.ipv4Numeric ∧
        tcpSeg.header.dport = cfg.source.port ∧ tcpSeg.header.sport = cfg.destination.port := by
  simp only [Related, Address.ext_iff]
  tauto

theorem unwrapTcpInIp_bound (bound : adapter.listen = false) (carries : Carries ipDgram tcpSeg) :
    adapter.unwrapTcpInIp ipDgram =
      if Related adapter.cfg ipDgram tcpSeg then (some tcpSeg, adapter) else (none, adapter) := by
  obtain ⟨proto, parsed⟩ := carries
  simp only [unwrapTcpInIp, bound, proto, parsed, checkPeer, related_iff, ite_not, ite_and, ne_eq,
    Bool.false_eq_true, not_false_eq_true, true_and, if_false, if_true]

/-- The datagram carries a segment that opens a connection to a port. -/
def Opens (port : UInt16) (ipDgram : IPv4Datagram) : Prop :=
  ∃ tcpSeg, Carries ipDgram tcpSeg ∧ OpensTo port tcpSeg

/-- What a call can do: drop the datagram, take its sender for the peer, or deliver. -/
inductive Unwrapped (adapter : TCPOverIPv4Adapter) (ipDgram : IPv4Datagram) : Prop where
  | dropped (unopened : adapter.listen = true → ¬ Opens adapter.cfg.source.port ipDgram)
      (ran : adapter.unwrapTcpInIp ipDgram = (none, adapter))
  | opened (tcpSeg : TCPSegment) (listening : adapter.listen = true)
      (carries : Carries ipDgram tcpSeg) (opens : OpensTo adapter.cfg.source.port tcpSeg)
      (ran : adapter.unwrapTcpInIp ipDgram = (some tcpSeg, adapter.target ipDgram tcpSeg))
  | delivered (tcpSeg : TCPSegment) (bound : adapter.listen = false)
      (carries : Carries ipDgram tcpSeg) (related : Related adapter.cfg ipDgram tcpSeg)
      (ran : adapter.unwrapTcpInIp ipDgram = (some tcpSeg, adapter))

/-- A datagram carries at most one segment. -/
theorem Carries.unique {other : TCPSegment} (first : Carries ipDgram tcpSeg)
    (second : Carries ipDgram other) : tcpSeg = other :=
  congrArg Prod.snd (first.2.symm.trans second.2)

theorem unwrapped (adapter : TCPOverIPv4Adapter) (ipDgram : IPv4Datagram) :
    Unwrapped adapter ipDgram := by
  by_cases carried : ∃ tcpSeg, Carries ipDgram tcpSeg
  · obtain ⟨tcpSeg, carries⟩ := carried
    cases state : adapter.listen with
    | true =>
        have ran := unwrapTcpInIp_listening state carries
        by_cases opens : OpensTo adapter.cfg.source.port tcpSeg
        · exact .opened tcpSeg state carries opens (ran.trans (if_pos opens))
        · refine .dropped (fun _ opened => ?_) (ran.trans (if_neg opens))
          obtain ⟨other, same, opensTo⟩ := opened
          exact opens (carries.unique same ▸ opensTo)
    | false =>
        have ran := unwrapTcpInIp_bound state carries
        by_cases related : Related adapter.cfg ipDgram tcpSeg
        · exact .delivered tcpSeg state carries related (ran.trans (if_pos related))
        · refine .dropped (fun listening => ?_) (ran.trans (if_neg related))
          exact absurd (state.symm.trans listening) Bool.false_ne_true
  · have foreign := not_exists.mp carried
    refine .dropped (fun _ opened => ?_) (unwrapTcpInIp_of_not_carries foreign)
    obtain ⟨tcpSeg, carries, _⟩ := opened
    exact foreign tcpSeg carries

/-! ## Both ends -/

/-- Each end has the other for its peer. -/
def Mirrored (first second : TCPOverIPv4Adapter) : Prop :=
  first.cfg.source = second.cfg.destination ∧ first.cfg.destination = second.cfg.source

/-- The segment with the ports of the adapter and some checksum. -/
def stamp (adapter : TCPOverIPv4Adapter) (seg : TCPSegment) (cksum : UInt16) : TCPSegment :=
  { seg with header := { seg.header with
    sport := adapter.cfg.source.port
    dport := adapter.cfg.destination.port
    cksum := cksum } }

/-- The header of the datagram in which an adapter wraps a segment. -/
def headerOut (adapter : TCPOverIPv4Adapter) (seg : TCPSegment) : IPv4Header where
  len := UInt16.ofNat (20 + seg.header.doff.toNat * 4 + seg.payload.length)
  src := adapter.cfg.source.ipv4Numeric
  dst := adapter.cfg.destination.ipv4Numeric

/-- The checksum of a segment that an adapter wraps. -/
def segmentCksum (adapter : TCPOverIPv4Adapter) (seg : TCPSegment) : UInt16 :=
  (adapter.stamp seg seg.header.cksum).checksum (adapter.headerOut seg).pseudoCksum.toNat

/-- The datagram in which an adapter wraps a segment. -/
def datagramOut (adapter : TCPOverIPv4Adapter) (seg : TCPSegment) : IPv4Datagram where
  header := adapter.headerOut seg
  payload := (adapter.stamp seg seg.header.cksum).wire (adapter.segmentCksum seg)

theorem wrapTcpInIp_eq {seg : TCPSegment} (valid : 5 ≤ seg.header.doff.toNat) :
    adapter.wrapTcpInIp seg =
      (some (adapter.datagramOut seg), adapter.stamp seg seg.header.cksum) := by
  have stamped : 5 ≤ (adapter.stamp seg seg.header.cksum).header.doff.toNat := valid
  have written := TCPSegment.serialize_eq stamped (adapter.headerOut seg).pseudoCksum.toNat
  refine Prod.ext ?_ rfl
  exact congrArg (Option.map fun payload => IPv4Datagram.mk (adapter.headerOut seg) payload) written

section Exchange

variable {seg : TCPSegment} (valid : 5 ≤ seg.header.doff.toNat) (small : seg.header.doff.toNat ≤ 15)
  (fits : 20 + 4 * seg.header.doff.toNat + seg.payload.length ≤ 65535)

include valid fits

theorem consistent_datagramOut : (adapter.datagramOut seg).Consistent := by
  have len : (adapter.headerOut seg).len.toNat =
      20 + 4 * seg.header.doff.toNat + seg.payload.length := by
    rw [headerOut, UInt16.toNat_ofNat']
    omega
  have size : (adapter.datagramOut seg).payload.length =
      4 * seg.header.doff.toNat + seg.payload.length := TCPSegment.length_wire valid _
  have words : (adapter.headerOut seg).hlen.toNat = 5 := rfl
  have encodable : (adapter.headerOut seg).Encodable :=
    ⟨rfl, words.ge, words.le.trans (by decide), Nat.two_pow_pos 13⟩
  refine ⟨encodable, ?_, ?_⟩
  · change 4 * (adapter.headerOut seg).hlen.toNat ≤ (adapter.headerOut seg).len.toNat
    omega
  · change _ = (adapter.headerOut seg).len.toNat - 4 * (adapter.headerOut seg).hlen.toNat
    omega

include small

/-- The datagram that arrives carries the segment. -/
theorem carries_datagramOut (cksum : UInt16) :
    Carries { adapter.datagramOut seg with
        header := { adapter.headerOut seg with cksum := cksum } }
      (adapter.stamp seg (adapter.segmentCksum seg)) := by
  refine ⟨rfl, ?_⟩
  have pseudo := (adapter.headerOut seg).pseudoCksum_le
  have room : (adapter.headerOut seg).pseudoCksum.toNat +
      65535 * ((4 * seg.header.doff.toNat + seg.payload.length + 1) / 2) + 65535 < 2 ^ 32 := by
    omega
  have stamped : 5 ≤ (adapter.stamp seg seg.header.cksum).header.doff.toNat := valid
  exact TCPSegment.parse_wire {} stamped small room

end Exchange

/--
A segment that one adapter wraps is unwrapped by the other end, with the ports of
the sender and its checksum written into it; a listening end takes the sender for
its peer if the segment is a SYN.
-/
theorem unwrap_wrapped (sender receiver : TCPOverIPv4Adapter) (seg : TCPSegment)
    (valid : 5 ≤ seg.header.doff.toNat) (small : seg.header.doff.toNat ≤ 15)
    (fits : 20 + 4 * seg.header.doff.toNat + seg.payload.length ≤ 65535) :
    ∃ datagram bytes received cksum,
      (sender.wrapTcpInIp seg).1 = some datagram ∧ datagram.serialize = some bytes ∧
      (∀ prior : IPv4Datagram, prior.parse bytes = (.noError, received)) ∧
      (receiver.listen = false → Mirrored sender receiver →
        receiver.unwrapTcpInIp received = (some (sender.stamp seg cksum), receiver)) ∧
      (receiver.listen = true → receiver.cfg.source.port = sender.cfg.destination.port →
        seg.header.syn = true → seg.header.rst = false →
        receiver.unwrapTcpInIp received =
          (some (sender.stamp seg cksum), {
            cfg := { receiver.cfg with
              source := sender.cfg.destination
              destination := sender.cfg.source }
            listen := false })) := by
  let datagram := sender.datagramOut seg
  let cksum := sender.segmentCksum seg
  have wrapped : (sender.wrapTcpInIp seg).1 = some datagram :=
    congrArg Prod.fst (wrapTcpInIp_eq valid)
  have consistent : datagram.Consistent := consistent_datagramOut valid fits
  have carries : Carries { datagram with
      header := { datagram.header with cksum := datagram.checksum } } (sender.stamp seg cksum) :=
    carries_datagramOut valid small fits datagram.checksum
  refine ⟨datagram, _, _, cksum, wrapped, IPv4Datagram.serialize_eq consistent,
    fun prior => IPv4Datagram.parse_wire prior consistent _, ?_, ?_⟩
  · intro bound mirrored
    exact (unwrapTcpInIp_bound bound carries).trans (if_pos mirrored)
  · intro listening port syn rst
    have opens : OpensTo receiver.cfg.source.port (sender.stamp seg cksum) := ⟨port.symm, syn, rst⟩
    refine ((unwrapTcpInIp_listening listening carries).trans (if_pos opens)).trans ?_
    rw [target, port]
    rfl

/-- The hypotheses hold of a SYN with options and an odd payload, sent to a server. -/
theorem unwrap_wrapped_syn :
    let client : TCPOverIPv4Adapter := {
      cfg := { source := ⟨0x0a000001, 1000⟩, destination := ⟨0x0a000002, 80⟩ } }
    let server : TCPOverIPv4Adapter := { cfg := { source := ⟨0, 80⟩ }, listen := true }
    let seg : TCPSegment := { header := { doff := 6, syn := true }, payload := [1, 2, 3] }
    ∃ datagram bytes received cksum,
      (client.wrapTcpInIp seg).1 = some datagram ∧ datagram.serialize = some bytes ∧
      IPv4Datagram.parse {} bytes = (.noError, received) ∧
      server.unwrapTcpInIp received =
        (some (client.stamp seg cksum), {
          cfg := { source := ⟨0x0a000002, 80⟩, destination := ⟨0x0a000001, 1000⟩ } }) := by
  intro client server seg
  obtain ⟨datagram, bytes, received, cksum, wrapped, written, parsed, _, listening⟩ :=
    unwrap_wrapped client server seg (by decide) (by decide) (by decide)
  exact ⟨datagram, bytes, received, cksum, wrapped, written, parsed {}, listening rfl rfl rfl rfl⟩

/-! ## Sequences of datagrams -/

/-- The adapter after a sequence of datagrams. -/
def after (adapter : TCPOverIPv4Adapter) (seen : List IPv4Datagram) : TCPOverIPv4Adapter :=
  seen.foldl (fun adapter ipDgram => (adapter.unwrapTcpInIp ipDgram).2) adapter

/-- An adapter that has its peer keeps it. -/
theorem unwrapTcpInIp_snd_of_bound (bound : adapter.listen = false) (ipDgram : IPv4Datagram) :
    (adapter.unwrapTcpInIp ipDgram).2 = adapter := by
  cases unwrapped adapter ipDgram with
  | dropped _ ran => rw [ran]
  | opened _ listening _ _ _ => exact absurd (bound.symm.trans listening) Bool.false_ne_true
  | delivered _ _ _ _ ran => rw [ran]

theorem after_of_bound (bound : adapter.listen = false) (seen : List IPv4Datagram) :
    adapter.after seen = adapter := by
  induction seen with
  | nil => rfl
  | cons ipDgram seen ih =>
      change ((adapter.unwrapTcpInIp ipDgram).2).after seen = adapter
      rw [unwrapTcpInIp_snd_of_bound bound, ih]

/-- A datagram that opens nothing leaves a listening adapter as it was. -/
theorem unwrapTcpInIp_of_not_opens (listening : adapter.listen = true)
    (unopened : ¬ Opens adapter.cfg.source.port ipDgram) :
    adapter.unwrapTcpInIp ipDgram = (none, adapter) := by
  cases unwrapped adapter ipDgram with
  | dropped _ ran => exact ran
  | opened tcpSeg _ carries opens _ => exact absurd ⟨tcpSeg, carries, opens⟩ unopened
  | delivered _ bound _ _ _ => exact absurd (bound.symm.trans listening) Bool.false_ne_true

theorem after_of_not_opens (listening : adapter.listen = true) {seen : List IPv4Datagram}
    (unopened : ∀ ipDgram ∈ seen, ¬ Opens adapter.cfg.source.port ipDgram) :
    adapter.after seen = adapter := by
  induction seen with
  | nil => rfl
  | cons ipDgram seen ih =>
      have head := unwrapTcpInIp_of_not_opens listening (unopened ipDgram List.mem_cons_self)
      change ((adapter.unwrapTcpInIp ipDgram).2).after seen = adapter
      rw [head]
      exact ih fun later mem => unopened later (List.mem_cons_of_mem _ mem)

/-- The first datagram that opens a connection decides the peer. -/
theorem after_of_opens (listening : adapter.listen = true) {earlier : List IPv4Datagram}
    (unopened : ∀ ipDgram ∈ earlier, ¬ Opens adapter.cfg.source.port ipDgram)
    (carries : Carries ipDgram tcpSeg) (opens : OpensTo adapter.cfg.source.port tcpSeg)
    (later : List IPv4Datagram) :
    adapter.after (earlier ++ ipDgram :: later) = adapter.target ipDgram tcpSeg := by
  have first := (unwrapTcpInIp_listening listening carries).trans (if_pos opens)
  have rest : adapter.after (earlier ++ ipDgram :: later) =
      (((adapter.after earlier).unwrapTcpInIp ipDgram).2).after later := List.foldl_append
  rw [rest, after_of_not_opens listening unopened, first]
  exact after_of_bound rfl later

/-- A sequence of datagrams opens nothing, or there is a first datagram that does. -/
theorem exists_first_opens (port : UInt16) (seen : List IPv4Datagram) :
    (∀ ipDgram ∈ seen, ¬ Opens port ipDgram) ∨
      ∃ earlier first later opening, seen = earlier ++ first :: later ∧
        (∀ ipDgram ∈ earlier, ¬ Opens port ipDgram) ∧ Carries first opening ∧
        OpensTo port opening := by
  induction seen with
  | nil => exact .inl fun _ mem => absurd mem List.not_mem_nil
  | cons ipDgram seen ih =>
      by_cases opens : Opens port ipDgram
      · obtain ⟨opening, carries, opensTo⟩ := opens
        refine .inr ⟨[], ipDgram, seen, opening, rfl, ?_, carries, opensTo⟩
        exact fun _ mem => absurd mem List.not_mem_nil
      · rcases ih with unopened | ⟨earlier, first, later, opening, split, unopened, found⟩
        · exact .inl (List.forall_mem_cons.mpr ⟨opens, unopened⟩)
        · refine .inr ⟨ipDgram :: earlier, first, later, opening, by rw [split]; rfl, ?_, found⟩
          exact List.forall_mem_cons.mpr ⟨opens, unopened⟩

/--
What the next datagram does to an adapter that started to listen and has seen some
datagrams already.
-/
structure BindsOnce (adapter : TCPOverIPv4Adapter) (seen : List IPv4Datagram)
    (ipDgram : IPv4Datagram) : Prop where
  /-- A call that returns nothing changes nothing. -/
  atomic : ((adapter.after seen).unwrapTcpInIp ipDgram).1 = none →
    ((adapter.after seen).unwrapTcpInIp ipDgram).2 = adapter.after seen
  /-- The adapter listens until the first datagram that opens a connection to its port. -/
  listens : (adapter.after seen).listen = true ↔
    ∀ earlier ∈ seen, ¬ Opens adapter.cfg.source.port earlier
  /-- The flag is cleared at the first such datagram and at no other. -/
  clears : ((adapter.after seen).listen = true ∧
      ((adapter.after seen).unwrapTcpInIp ipDgram).2.listen = false) ↔
    (∀ earlier ∈ seen, ¬ Opens adapter.cfg.source.port earlier) ∧
      Opens adapter.cfg.source.port ipDgram
  /-- It is not set again. -/
  cleared : (adapter.after seen).listen = false →
    ((adapter.after seen).unwrapTcpInIp ipDgram).2.listen = false
  /-- The configuration changes only when the flag is cleared. -/
  configures : ((adapter.after seen).unwrapTcpInIp ipDgram).2.cfg ≠ (adapter.after seen).cfg →
    (adapter.after seen).listen = true ∧
      ((adapter.after seen).unwrapTcpInIp ipDgram).2.listen = false
  /-- From then on the peer is the one of the datagram that cleared it. -/
  isolates : ∀ earlier first later opening, seen = earlier ++ first :: later →
    (∀ ipDgram ∈ earlier, ¬ Opens adapter.cfg.source.port ipDgram) →
    Carries first opening → OpensTo adapter.cfg.source.port opening →
    ∀ tcpSeg, ((adapter.after seen).unwrapTcpInIp ipDgram).1 = some tcpSeg →
      Carries ipDgram tcpSeg ∧
        ipDgram.header.src = first.header.src ∧ ipDgram.header.dst = first.header.dst ∧
        tcpSeg.header.sport = opening.header.sport ∧ tcpSeg.header.dport = opening.header.dport

/-- A call that returns nothing changes nothing. -/
theorem unwrapTcpInIp_snd_of_none (nothing : (adapter.unwrapTcpInIp ipDgram).1 = none) :
    (adapter.unwrapTcpInIp ipDgram).2 = adapter := by
  cases unwrapped adapter ipDgram with
  | dropped _ ran => rw [ran]
  | opened tcpSeg _ _ _ ran =>
      rw [ran] at nothing
      cases nothing
  | delivered tcpSeg _ _ _ ran => rw [ran]

/-- An adapter that has its peer delivers the segments related to it. -/
theorem related_of_unwrapTcpInIp (bound : adapter.listen = false)
    (returned : (adapter.unwrapTcpInIp ipDgram).1 = some tcpSeg) :
    Carries ipDgram tcpSeg ∧ Related adapter.cfg ipDgram tcpSeg := by
  cases unwrapped adapter ipDgram with
  | dropped _ ran =>
      rw [ran] at returned
      cases returned
  | opened _ listening _ _ _ => exact absurd (bound.symm.trans listening) Bool.false_ne_true
  | delivered other _ carries related ran =>
      rw [ran] at returned
      cases returned
      exact ⟨carries, related⟩

/-- A datagram clears the flag exactly if it opens a connection to the port. -/
theorem listen_unwrapTcpInIp (listening : adapter.listen = true) :
    (adapter.unwrapTcpInIp ipDgram).2.listen = false ↔ Opens adapter.cfg.source.port ipDgram := by
  cases unwrapped adapter ipDgram with
  | dropped unopened ran =>
      rw [ran, listening]
      exact iff_of_false Bool.noConfusion (unopened listening)
  | opened tcpSeg _ carries opens ran =>
      rw [ran]
      exact iff_of_true rfl ⟨tcpSeg, carries, opens⟩
  | delivered _ bound _ _ _ => exact absurd (bound.symm.trans listening) Bool.false_ne_true

theorem listen_after (listening : adapter.listen = true) (seen : List IPv4Datagram) :
    (adapter.after seen).listen = true ↔
      ∀ earlier ∈ seen, ¬ Opens adapter.cfg.source.port earlier := by
  constructor
  · intro still
    rcases exists_first_opens adapter.cfg.source.port seen with
      unopened | ⟨earlier, first, later, opening, split, unopened, carries, opens⟩
    · exact unopened
    · rw [split, after_of_opens listening unopened carries opens] at still
      cases still
  · intro unopened
    rw [after_of_not_opens listening unopened, listening]

/--
A listening adapter binds once: to the sender of the first datagram that opens a
connection to its port.
-/
theorem binds_once (adapter : TCPOverIPv4Adapter) (listening : adapter.listen = true)
    (seen : List IPv4Datagram) (ipDgram : IPv4Datagram) : adapter.BindsOnce seen ipDgram := by
  have listens := listen_after listening seen
  refine ⟨unwrapTcpInIp_snd_of_none, listens, ?_, ?_, ?_, ?_⟩
  · rw [listens]
    refine and_congr_right fun unopened => ?_
    rw [after_of_not_opens listening unopened]
    exact listen_unwrapTcpInIp listening
  · intro bound
    rw [unwrapTcpInIp_snd_of_bound bound, bound]
  · intro changed
    cases unwrapped (adapter.after seen) ipDgram with
    | dropped _ ran => exact absurd (by rw [ran]) changed
    | opened tcpSeg still _ _ ran => exact ⟨still, by rw [ran]; rfl⟩
    | delivered _ _ _ _ ran => exact absurd (by rw [ran]) changed
  · intro earlier first later opening split unopened carries opens tcpSeg returned
    rw [split, after_of_opens listening unopened carries opens] at returned
    obtain ⟨carried, related⟩ := related_of_unwrapTcpInIp rfl returned
    obtain ⟨dst, src, dport, sport⟩ := (related_iff _).mp related
    exact ⟨carried, src, dst, sport, dport.trans opens.1.symm⟩

/-- A SYN from port 1000 of 10.0.0.1 to port 80 of 10.0.0.2. -/
def synDatagram : IPv4Datagram where
  header := { len := 40, src := 0x0a000001, dst := 0x0a000002 }
  payload := [0x03, 0xe8, 0, 80, 0, 0, 0, 0, 0, 0, 0, 0, 0x50, 0x02, 0, 0, 0x97, 0xa8, 0, 0]

/-- A server on port 80 takes the sender for its peer, and listens no more. -/
theorem binds_once_syn :
    let server : TCPOverIPv4Adapter := { cfg := { source := ⟨0, 80⟩ }, listen := true }
    server.BindsOnce [] synDatagram ∧ server.BindsOnce [synDatagram] synDatagram ∧
      server.after [synDatagram] = {
        cfg := { source := ⟨0x0a000002, 80⟩, destination := ⟨0x0a000001, 1000⟩ }
        listen := false } := by
  intro server
  exact ⟨binds_once server rfl _ _, binds_once server rfl _ _, by decide⟩

end TCPOverIPv4Adapter

end Sponge
