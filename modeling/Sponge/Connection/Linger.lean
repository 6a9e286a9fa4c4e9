import Sponge.Connection.Window

/-!
# Who may skip the linger

The connection decides from the FIN bit of an arriving segment, before its
receiver has looked at it, that the peer has closed first.  This is right if the
segment ends the inbound stream at once.  A FIN that comes ahead of missing data,
outside the window or before the SYN clears the flag all the same, and the local
side may then still be the first to close.
-/

namespace Sponge.TCPConnection

open TCPSender StreamReassembler MachineInt

/-- A FIN is heard, on an active connection, while the outbound stream is open. -/
def HearsFin (c : TCPConnection) : Event → Prop
  | .segmentReceived segment => c.active = true ∧ segment.header.rst = false ∧
      segment.header.fin = true ∧ c.outboundStream.inputEnded = false
  | _ => False

/-- The linger flag is cleared by the FIN bit of an arriving segment, and by nothing else. -/
theorem linger_of_step {c c' : TCPConnection} {event : Event} (next : c.step event = some c') :
    c'.lingerAfterStreamsFinish = false ↔
      c.lingerAfterStreamsFinish = false ∨ c.HearsFin event := by
  cases event with
  | segmentReceived segment =>
      cases received_of_segmentReceived next with
      | ignored inactive => simp [HearsFin, inactive]
      | reset _ isRst => simp [HearsFin, isRst, setErrors]
      | handled isActive noRst _ _ _ _ _ =>
          change c.segmentReceived segment = _ at next
          rw [segmentReceived_eq isActive noRst] at next
          obtain ⟨receiver, _, after⟩ := Option.map_eq_some_iff.mp next
          rw [← after]
          simp only [HearsFin, handled, popAndSendSegments, isActive, noRst, true_and]
          split
          · rename_i heard
            simp [heard]
          · rename_i unheard
            simp only [or_iff_left unheard]
  | tick msSinceLastTick =>
      cases next
      cases c.elapsed msSinceLastTick with
      | gaveUp _ ran =>
          rw [ran]
          exact (or_iff_left id).symm
      | waited _ ran =>
          rw [ran]
          exact (or_iff_left id).symm
  | write _ | endInputStream | connect | read _ | dequeue =>
      cases next
      exact (or_iff_left id).symm

/-! ## The peer closed first -/

/-- A connection, and whether its inbound stream was ever at its end with the outbound one open. -/
structure Watched where
  conn : TCPConnection
  peerFirst : Bool

def Watched.fresh (cfg : TCPConfig) (random : UInt32) : Watched := ⟨new cfg random, false⟩

def Watched.step (w : Watched) (event : Event) : Option Watched := do
  let conn ← w.conn.step event
  some ⟨conn, w.peerFirst || conn.inboundStream.inputEnded && !conn.outboundStream.inputEnded⟩

/-- The linger is skipped exactly if the peer closed first. -/
def Watched.SkipsRightly (w : Watched) : Prop :=
  w.conn.lingerAfterStreamsFinish = false ↔ w.peerFirst = true

/-- With the bytes of `segment` in the window, exactly those up to its end are stored. -/
def CompletesInput (r : TCPReceiver) (segment : TCPSegment) : Prop :=
  ¬ r.Ignores segment ∧ 0 < r.windowSize ∧
    r.reassembler.nextIndex ≤ add64 (r.streamNo segment) segment.payload.length ∧
    ∀ j, r.reassembler.accepted segment.payload (r.streamNo segment) j ≠ none ↔
      r.reassembler.nextIndex ≤ j ∧ j < add64 (r.streamNo segment) segment.payload.length

/-- The first FIN heard while the outbound stream is open does not end the inbound stream. -/
def SkipsEarly (c : TCPConnection) (event : Event) : Prop :=
  c.lingerAfterStreamsFinish = true ∧ c.HearsFin event ∧
    ∀ segment, event = .segmentReceived segment → ¬ CompletesInput c.receiver segment

/-! ## What each call keeps -/

/-- A known end was heard while the outbound stream was open, or that stream is closed. -/
structure Hearing (c : TCPConnection) : Prop where
  stored : Stored c.receiver.reassembler
  eof : c.inboundStream.inputEnded = true → c.receiver.reassembler.eof = true
  heard : c.receiver.reassembler.eof = true → c.outboundStream.inputEnded = false →
    c.lingerAfterStreamsFinish = false

variable {c c' : TCPConnection} {event : Event}

/-- An end the receiver learns of was heard. -/
theorem eof_of_step (hearing : Hearing c) (inRange : c.Representable event)
    (next : c.step event = some c') :
    (c'.inboundStream.inputEnded = true → c'.receiver.reassembler.eof = true) ∧
      (c'.receiver.reassembler.eof = true → c.outboundStream.inputEnded = false →
        c.receiver.reassembler.eof = true ∨ c.HearsFin event) := by
  have moves := moves_of_step next
  rw [inboundStream]
  generalize c'.receiver = r' at moves
  cases moves with
  | stay _ => exact ⟨hearing.eof, fun eof _ => Or.inl eof⟩
  | error _ => exact ⟨hearing.eof, fun eof _ => Or.inl eof⟩
  | read _ => exact ⟨hearing.eof, fun eof _ => Or.inl eof⟩
  | arrive isActive noRst received =>
      cases TCPReceiver.arrived_of_received hearing.stored inRange received with
      | ignored _ => exact ⟨hearing.eof, fun eof _ => Or.inl eof⟩
      | pushed _ reassembler out pushed =>
          have eof_eq := pushed.eof_eq
          constructor
          · intro ended
            rcases pushed.ended_iff.mp ended with before | ⟨_, _, eof, _⟩
            · exact eof_eq.trans (by rw [hearing.eof before, Bool.true_or])
            · exact eof
          · intro eof isOpen
            rcases Bool.or_eq_true_iff.mp (eof_eq.symm.trans eof) with before | isFin
            · exact Or.inl before
            · exact Or.inr ⟨isActive, noRst, isFin, isOpen⟩

theorem outboundEnded_mono (next : c.step event = some c')
    (ended : c.outboundStream.inputEnded = true) : c'.outboundStream.inputEnded = true := by
  refine (steady_inputEnded true).step ended (fun _ => ?_) next
  exact (steady_inputEnded true).fillWindow _ rfl

theorem Hearing.step (hearing : Hearing c) (inRange : c.Representable event)
    (next : c.step event = some c') : Hearing c' := by
  obtain ⟨stored, _⟩ := (moves_of_step next).notBehind hearing.stored inRange
  obtain ⟨eof, heard⟩ := eof_of_step hearing inRange next
  refine ⟨stored, eof, fun known isOpen => (linger_of_step next).mpr ?_⟩
  have wasOpen : c.outboundStream.inputEnded = false := by
    by_contra ended
    rw [outboundEnded_mono next (by simpa using ended)] at isOpen
    cases isOpen
  exact (heard known wasOpen).imp_left fun before => hearing.heard before wasOpen

/-- A FIN that is heard ends the inbound stream exactly if its segment completes the input. -/
theorem inboundEnded_of_hearsFin (hearing : Hearing c) {segment : TCPSegment}
    (inRange : segment.payload.length < 2 ^ 64) (isOpen : c.inboundStream.inputEnded = false)
    (hears : c.HearsFin (.segmentReceived segment))
    (next : c.step (.segmentReceived segment) = some c') :
    c'.inboundStream.inputEnded = true ↔ CompletesInput c.receiver segment := by
  obtain ⟨isActive, noRst, isFin, _⟩ := hears
  cases received_of_segmentReceived next with
  | ignored inactive => exact absurd (inactive.symm.trans isActive) Bool.false_ne_true
  | reset _ isRst => exact absurd (noRst.symm.trans isRst) Bool.false_ne_true
  | handled _ _ _ receiver _ received _ =>
      change receiver.streamOut.inputEnded = true ↔ _
      cases TCPReceiver.arrived_of_received hearing.stored inRange received with
      | ignored ignored =>
          exact iff_of_false (fun ended => absurd (isOpen.symm.trans ended) Bool.false_ne_true)
            fun completes => completes.1 ignored
      | pushed handled reassembler out pushed =>
          rw [isFin] at pushed
          exact (pushed.ended_iff_of_eof isOpen).trans (and_iff_right handled).symm

/-- Without a FIN that is heard, the inbound stream ends late or a FIN was heard before. -/
theorem linger_of_inboundEnded (hearing : Hearing c) (unheard : ¬ c.HearsFin event)
    (inRange : c.Representable event) (next : c.step event = some c')
    (ended : c'.inboundStream.inputEnded = true)
    (isOpen : c'.outboundStream.inputEnded = false) : c.lingerAfterStreamsFinish = false := by
  have hearing' := hearing.step inRange next
  exact ((linger_of_step next).mp (hearing'.heard (hearing'.eof ended) isOpen)).resolve_right
    unheard

/-- One call keeps the flag right unless it skips the linger too early. -/
theorem skipsRightly_step {w w' : Watched} (hearing : Hearing w.conn) (rightly : w.SkipsRightly)
    (inRange : w.conn.Representable event) (next : w.step event = some w') :
    w'.SkipsRightly ↔ ¬ w.conn.SkipsEarly event := by
  obtain ⟨conn, called, rest⟩ := Option.bind_eq_some_iff.mp next
  cases rest
  unfold Watched.SkipsRightly at rightly
  rw [Watched.SkipsRightly, linger_of_step called, rightly, Bool.or_eq_true, Bool.and_eq_true,
    Bool.not_eq_true']
  by_cases hears : w.conn.HearsFin event
  · obtain ⟨segment, rfl⟩ : ∃ segment, event = .segmentReceived segment := by
      cases event with
      | segmentReceived segment => exact ⟨segment, rfl⟩
      | write _ | endInputStream | connect | tick _ | read _ | dequeue => exact hears.elim
    have isOpen := hears.2.2.2
    have outbound := (outboundEnded_of_step called Event.noConfusion).trans isOpen
    rw [SkipsEarly, and_iff_right hears, and_iff_left outbound, iff_true_left (Or.inr hears)]
    cases linger : w.conn.lingerAfterStreamsFinish with
    | false =>
        simp [rightly.mp linger]
    | true =>
        have notFirst : ¬ w.peerFirst = true := fun first => by
          rw [rightly.mpr first] at linger
          cases linger
        have inbound : w.conn.inboundStream.inputEnded = false := by
          by_contra ended
          rw [hearing.heard (hearing.eof (by simpa using ended)) isOpen] at linger
          cases linger
        rw [inboundEnded_of_hearsFin hearing inRange inbound hears called, or_iff_right notFirst]
        simp
  · have fine : ¬ w.conn.SkipsEarly event := fun early => hears early.2.1
    rw [iff_true_right fine, or_iff_left hears]
    refine ⟨Or.inl, fun first => first.elim id fun ended => ?_⟩
    exact rightly.mp (linger_of_inboundEnded hearing hears inRange called ended.1 ended.2)

theorem watching_of_reaches {cfg : TCPConfig} {random : UInt32}
    (bounded : cfg.recvCapacity < 2 ^ 64) {w : Watched}
    (reached : Reaches Watched.step
      (fun w event => w.conn.Representable event ∧ ¬ w.conn.SkipsEarly event)
      (Watched.fresh cfg random) w) : Hearing w.conn ∧ w.SkipsRightly := by
  refine reached.invariant (fun w => Hearing w.conn ∧ w.SkipsRightly)
    ⟨⟨stored_new bounded, fun ended => ?_, fun eof => ?_⟩, ?_⟩ ?_
  · cases ended
  · cases eof
  · exact iff_of_false Bool.noConfusion Bool.noConfusion
  · rintro w event w' ⟨hearing, rightly⟩ ⟨inRange, inTime⟩ next
    refine ⟨?_, (skipsRightly_step hearing rightly inRange next).mpr inTime⟩
    obtain ⟨conn, called, rest⟩ := Option.bind_eq_some_iff.mp next
    cases rest
    exact hearing.step inRange called

/--
In every run in which the first FIN heard with the outbound stream open ends the
inbound stream at once, the linger is skipped exactly if the peer closed first,
and a connection that closed first stays active, absent errors, for ten timeouts
after the last segment; and a call keeps the flag right exactly if it meets that
condition.
-/
theorem linger_skipped_iff_peer_first {cfg : TCPConfig} {random : UInt32}
    (bounded : cfg.recvCapacity < 2 ^ 64) {w : Watched}
    (reached : Reaches Watched.step
      (fun w event => w.conn.Representable event ∧ ¬ w.conn.SkipsEarly event)
      (Watched.fresh cfg random) w) :
    w.SkipsRightly ∧
      (w.peerFirst = false → w.conn.outboundStream.error = false →
        w.conn.inboundStream.error = false →
        w.conn.timeSinceLastSegmentReceived < 10 * w.conn.cfg.rtTimeout.toNat →
        w.conn.active = true) ∧
      ∀ event w', w.conn.Representable event → w.step event = some w' →
        (w'.SkipsRightly ↔ ¬ w.conn.SkipsEarly event) := by
  obtain ⟨hearing, rightly⟩ := watching_of_reaches bounded reached
  refine ⟨rightly, fun notFirst noError noError' recent => ?_, fun event w' inRange next =>
    skipsRightly_step hearing rightly inRange next⟩
  have lingers : w.conn.lingerAfterStreamsFinish = true := by
    by_contra skipped
    rw [rightly.mp (by simpa using skipped)] at notFirst
    cases notFirst
  by_cases finished : w.conn.outboundStream.eof = true ∧ w.conn.inboundStream.eof = true
  · exact (active_of_eof finished.1 finished.2).mpr (Or.inr ⟨lingers, recent⟩)
  · exact (active_of_not_eof finished).mpr ⟨noError, noError'⟩

/-- The local side closes first: with both streams finished the connection is still active. -/
theorem linger_skipped_iff_peer_first_active_close :
    ∃ w, Reaches Watched.step
        (fun w event => w.conn.Representable event ∧ ¬ w.conn.SkipsEarly event)
        (Watched.fresh { fixedIsn := some ⟨0⟩ } 0) w ∧
      w.conn.outboundStream.eof = true ∧ w.conn.inboundStream.eof = true ∧
      w.conn.bytesInFlight = 0 ∧ w.conn.active = true := by
  have start : Reaches Watched.step
    (fun w event => w.conn.Representable event ∧ ¬ w.conn.SkipsEarly event)
    (Watched.fresh { fixedIsn := some ⟨0⟩ } 0) (Watched.fresh { fixedIsn := some ⟨0⟩ } 0) := .refl
  have one := start.tail Event.connect ⟨trivial, fun early => early.2.1⟩ rfl
  have two := one.tail (Event.segmentReceived
    { header := { syn := true, seqno := ⟨7⟩, ack := true, ackno := ⟨1⟩, win := 10 } })
    ⟨Nat.two_pow_pos 64, fun early => absurd early.2.1.2.2.1 (by decide)⟩ rfl
  have three := two.tail Event.endInputStream ⟨trivial, fun early => early.2.1⟩ rfl
  have four := three.tail (Event.segmentReceived
    { header := { fin := true, seqno := ⟨8⟩, ack := true, ackno := ⟨2⟩, win := 10 } })
    ⟨Nat.two_pow_pos 64, fun early => absurd early.2.1.2.2.2 (by decide)⟩ rfl
  exact ⟨_, four, by decide, by decide, by decide,
    (linger_skipped_iff_peer_first (by decide) four).2.1 (by decide) (by decide) (by decide)
      (by decide)⟩

/--
A FIN ahead of a missing byte, then the local close, then the byte: the local
side closed first, and the connection is gone at once.
-/
theorem early_fin_skips_linger :
    ¬ ∀ (cfg : TCPConfig) (random : UInt32) (w : Watched), cfg.recvCapacity < 2 ^ 64 →
      Reaches Watched.step (fun w event => w.conn.Representable event)
        (Watched.fresh cfg random) w →
      w.SkipsRightly ∧
        (w.peerFirst = false → w.conn.outboundStream.error = false →
          w.conn.inboundStream.error = false →
          w.conn.timeSinceLastSegmentReceived < 10 * w.conn.cfg.rtTimeout.toNat →
          w.conn.active = true) := by
  intro rightly
  have start : Reaches Watched.step (fun w event => w.conn.Representable event)
    (Watched.fresh { fixedIsn := some ⟨0⟩ } 0) (Watched.fresh { fixedIsn := some ⟨0⟩ } 0) := .refl
  have one := start.tail (Event.segmentReceived { header := { syn := true, seqno := ⟨7⟩ } })
    (Nat.two_pow_pos 64) rfl
  have two := one.tail (Event.segmentReceived
    { header := { fin := true, seqno := ⟨9⟩, ack := true, ackno := ⟨1⟩, win := 10 } })
    (Nat.two_pow_pos 64) rfl
  have three := two.tail Event.endInputStream trivial rfl
  have four := three.tail (Event.segmentReceived
    { header := { seqno := ⟨8⟩, ack := true, ackno := ⟨2⟩, win := 10 }, payload := [97] })
    (by decide : 1 < 2 ^ 64) rfl
  have five := four.tail (Event.read 1) trivial rfl
  exact absurd ((rightly _ _ _ (by decide) five).2 (by decide) (by decide) (by decide) (by decide))
    (by decide)

end Sponge.TCPConnection
