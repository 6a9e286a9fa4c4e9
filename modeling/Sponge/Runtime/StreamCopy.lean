import Sponge.Model.StreamCopy
import Sponge.Runtime.Socket

/-!
# Everything is copied, in order

Each direction is a lane from a source through a byte stream to a sink.  Whatever the
system reports and however the calls of the loop interleave with what happens at the
other ends, a sink is given a prefix of what was read from its source, and it is told
the end only after all of the source.
-/

namespace Sponge

/-- Nothing can be read from a pipe that is drained. -/
theorem Pipe.Took.nil_of_drained {pipe pipe' : Pipe} {size : Nat} {bytes : Bytes}
    (took : pipe.Took pipe' size bytes) (isDrained : pipe.Drained) : bytes = [] := by
  have split := took.split
  rw [isDrained.1] at split
  exact (List.append_eq_nil_iff.mp split).1

namespace StreamCopy

open EventLoop SpongeSocket

/-! ## Reading and writing -/

section Calls

variable {stream stream' : ByteStream} {fd fd' : FDWrapper} {pipe pipe' : Pipe} {answer : Answer}

/-- What is read from a descriptor is written to the stream. -/
theorem filled (ran : fill stream fd pipe answer = .ok (stream', fd', pipe')) :
    ∃ bytes, pipe.Took pipe' (min FileDescriptor.bufferSize stream.remainingCapacity) bytes ∧
      fd' = FileDescriptor.afterRead fd stream.remainingCapacity bytes ∧
      stream' =
        if fd'.eof then (stream.write bytes).1.endInput else (stream.write bytes).1 := by
  unfold fill at ran
  dsimp only at ran
  split at ran
  · cases ran
  · rename_i bytes _ read
    have took := Pipe.took_of_read read
    rw [FileDescriptor.read_eq_some_iff.mpr ⟨took.bounded, rfl, rfl⟩] at ran
    cases ran
    exact ⟨bytes, took, rfl, rfl⟩

/-- Reading fails only if the system call fails. -/
theorem fill_error {fault : Fault} (threw : fill stream fd pipe answer = .error fault) :
    fault = .systemCall := by
  unfold fill at threw
  dsimp only at threw
  split at threw
  · cases threw
    rfl
  · rename_i read
    rw [FileDescriptor.read_eq_some_iff.mpr ⟨(Pipe.took_of_read read).bounded, rfl, rfl⟩] at threw
    cases threw

/-- What is written to a descriptor is popped from the stream. -/
theorem drained (ran : drain stream fd pipe answer = .ok (stream', fd', pipe')) :
    pipe.shut = false ∧ ∃ count, stream' = stream.popOutput count ∧ fd' = fd.registerWrite ∧
      pipe' = { pipe with delivered := pipe.delivered ++ stream.peekOutput count } := by
  unfold drain at ran
  dsimp only at ran
  split at ran
  · cases ran
  · cases ran
  · rename_i state written
    obtain ⟨fits, taken⟩ := FileDescriptor.taken_of_write written
    rcases Bool.eq_false_or_eq_true pipe.shut with isShut | notShut
    · rw [Pipe.write, if_pos isShut] at ran
      cases ran
    · rw [Pipe.write, if_neg (by rw [notShut]; decide), taken, take_peekOutput _ fits] at ran
      cases ran
      exact ⟨notShut, state.totalBytesWritten, rfl, rfl, rfl⟩

/-- Writing fails only if the system call fails. -/
theorem drain_error {fault : Fault} (threw : drain stream fd pipe answer = .error fault) :
    FromSystem (.callback fault) := by
  unfold drain at threw
  dsimp only at threw
  split at threw
  · cases threw
    trivial
  · rename_i error written
    cases threw
    exact FileDescriptor.ne_outOfRange_of_write written
  · split at threw
    · cases threw
      trivial
    · cases threw

end Calls

/-! ## One direction -/

/--
A stream from a source to a sink.  When the sink is cut off before its end, what is read
from the source from then on is dropped.
-/
structure Lane (source : Pipe) (fd : FDWrapper) (stream : ByteStream) (sink : Pipe)
    (cut : Prop) : Prop where
  order : sink.delivered ++ stream.buffer <+: source.taken
  whole : ¬ cut → sink.delivered ++ stream.buffer = source.taken
  drained : ¬ cut → stream.inputEnded = true → source.Drained
  atEnd : fd.eof = true → stream.inputEnded = true
  cutEnds : cut → stream.inputEnded = true
  finished : sink.shut = true →
    stream.eof = true ∧ source.Drained ∧ sink.delivered = source.taken
  noError : stream.error = false
  capacity : stream.capacity = bufferSize

section Lanes

variable {source source' sink sink' : Pipe} {fd fd' : FDWrapper} {stream stream' : ByteStream}
  {cut cut' : Prop} {answer : Answer}

/-- Only some parts of the ends and of the descriptor matter. -/
theorem Lane.congr (lane : Lane source fd stream sink cut) (taken : source'.taken = source.taken)
    (unread : source'.unread = source.unread) (closed : source'.closed = source.closed)
    (eof : fd'.eof = fd.eof) (delivered : sink'.delivered = sink.delivered)
    (shut : sink'.shut = sink.shut) : Lane source' fd' stream sink' cut := by
  have same : source'.Drained ↔ source.Drained := by
    rw [Pipe.Drained, unread, closed]
    exact Iff.rfl
  refine ⟨?_, fun isWhole => ?_, fun isWhole ended => same.mpr (lane.drained isWhole ended), ?_,
    lane.cutEnds, fun isShut => ?_, lane.noError, lane.capacity⟩
  · rw [delivered, taken]
    exact lane.order
  · rw [delivered, taken]
    exact lane.whole isWhole
  · rw [eof]
    exact lane.atEnd
  · rw [shut] at isShut
    rw [delivered, taken, same]
    exact lane.finished isShut

/-- The sink is cut off, or is known not to be. -/
theorem Lane.recut (lane : Lane source fd stream sink cut) (more : cut → cut')
    (ends : cut' → stream.inputEnded = true) : Lane source fd stream sink cut' :=
  ⟨lane.order, fun isWhole => lane.whole fun isCut => isWhole (more isCut),
    fun isWhole => lane.drained fun isCut => isWhole (more isCut), lane.atEnd, ends, lane.finished,
    lane.noError, lane.capacity⟩

theorem Lane.fill (lane : Lane source fd stream sink cut)
    (ran : fill stream fd source answer = .ok (stream', fd', source')) :
    Lane source' fd' stream' sink cut ∧ (source.Drained → source'.Drained) := by
  obtain ⟨bytes, took, rfl, rfl⟩ := filled ran
  refine ⟨?_, took.drained⟩
  cases ended : stream.inputEnded with
  | true =>
      -- the stream takes nothing more, and there is nothing unless the sink is cut off
      have same : (if (FileDescriptor.afterRead fd stream.remainingCapacity bytes).eof then
          (stream.write bytes).1.endInput else (stream.write bytes).1) = stream := by
        rw [stream.write_of_ended bytes ended]
        split
        · rw [ByteStream.endInput, ← ended]
        · rfl
      rw [same]
      refine ⟨?_, fun isWhole => ?_, fun isWhole _ => took.drained (lane.drained isWhole ended),
        fun _ => ended, lane.cutEnds, fun isShut => ?_, lane.noError, lane.capacity⟩
      · rw [took.taken]
        exact lane.order.trans (List.prefix_append _ _)
      · rw [took.taken, took.nil_of_drained (lane.drained isWhole ended), List.append_nil]
        exact lane.whole isWhole
      · obtain ⟨atEnd, isDrained, all⟩ := lane.finished isShut
        refine ⟨atEnd, took.drained isDrained, ?_⟩
        rw [took.taken, took.nil_of_drained isDrained, List.append_nil]
        exact all
  | false =>
      have isWhole : ¬ cut := fun isCut =>
        absurd (ended.symm.trans (lane.cutEnds isCut)) Bool.false_ne_true
      have accepted := stream.write_count_of_fits bytes ended
        (took.bounded.trans (Nat.min_le_right _ _))
      have buffer : (stream.write bytes).1.buffer = stream.buffer ++ bytes := by
        rw [ByteStream.write_buffer, accepted, List.take_length]
      have all : sink.delivered ++ (stream.write bytes).1.buffer = source'.taken := by
        rw [buffer, took.taken, ← List.append_assoc, lane.whole isWhole]
      have isPart : sink.delivered ++ (stream.write bytes).1.buffer <+: source'.taken := by
        rw [all]
      have notShut : sink.shut ≠ true := fun isShut => by
        obtain ⟨atEnd, _⟩ := lane.finished isShut
        exact absurd (ended.symm.trans ((ByteStream.eof_iff _).mp atEnd).2) Bool.false_ne_true
      have notAtEnd : fd.eof = false := by
        rw [← Bool.not_eq_true]
        exact fun atEnd => absurd (ended.symm.trans (lane.atEnd atEnd)) Bool.false_ne_true
      split
      · rename_i atEnd
        -- the read of nothing says that nothing is left
        have nothing : stream.remainingCapacity > 0 ∧ bytes.length = 0 := by
          rw [FileDescriptor.afterRead, FDWrapper.registerRead, notAtEnd, Bool.false_or,
            decide_eq_true_iff] at atEnd
          exact atEnd
        have isDrained : source.Drained := by
          rcases took.nothing (List.length_eq_zero_iff.mp nothing.2) with zero | isDrained
          · rw [FileDescriptor.bufferSize] at zero
            omega
          · exact isDrained
        exact ⟨isPart, fun _ => all,
          fun _ _ => took.drained isDrained, fun _ => rfl, fun isCut => absurd isCut isWhole,
          fun isShut => absurd isShut notShut, (stream.write_error bytes).trans lane.noError,
          (stream.write_capacity bytes).trans lane.capacity⟩
      · rename_i going
        have stillOpen : (stream.write bytes).1.inputEnded = false :=
          (stream.write_inputEnded bytes).trans ended
        exact ⟨isPart, fun _ => all,
          fun _ ended' => absurd (stillOpen.symm.trans ended') Bool.false_ne_true,
          fun atEnd => absurd atEnd going, fun isCut => absurd isCut isWhole,
          fun isShut => absurd isShut notShut, (stream.write_error bytes).trans lane.noError,
          (stream.write_capacity bytes).trans lane.capacity⟩

theorem Lane.drain (lane : Lane source fd stream sink cut) {used : FDWrapper}
    (ran : drain stream used sink answer = .ok (stream', fd', sink')) :
    Lane source fd stream' sink' cut := by
  obtain ⟨notShut, count, rfl, _, rfl⟩ := StreamCopy.drained ran
  have same : (sink.delivered ++ stream.peekOutput count) ++ (stream.popOutput count).buffer =
      sink.delivered ++ stream.buffer := by
    rw [List.append_assoc, stream.peekOutput_append_buffer]
  refine ⟨?_, fun isWhole => same.trans (lane.whole isWhole), lane.drained, lane.atEnd,
    lane.cutEnds, fun isShut => ?_, lane.noError, lane.capacity⟩
  · rw [same]
    exact lane.order
  · exact absurd (notShut.symm.trans isShut) Bool.false_ne_true

/-- The sink is told the end when there is nothing left. -/
theorem Lane.finish (lane : Lane source fd stream sink cut) (isWhole : ¬ cut)
    (atEnd : stream.eof = true) : Lane source fd stream { sink with shut := true } cut := by
  obtain ⟨empty, ended⟩ := (ByteStream.eof_iff _).mp atEnd
  refine ⟨lane.order, lane.whole, lane.drained, lane.atEnd, lane.cutEnds,
    fun _ => ⟨atEnd, lane.drained isWhole ended, ?_⟩, lane.noError, lane.capacity⟩
  have all := lane.whole isWhole
  rwa [empty, List.append_nil] at all

/-- The stream is ended because the source is drained or the sink is cut off. -/
theorem Lane.endInput (lane : Lane source fd stream sink cut)
    (reason : ¬ cut → source.Drained) : Lane source fd stream.endInput sink cut := by
  refine ⟨lane.order, lane.whole, fun isWhole _ => reason isWhole, fun _ => rfl, fun _ => rfl,
    fun isShut => ?_, lane.noError, lane.capacity⟩
  obtain ⟨atEnd, rest⟩ := lane.finished isShut
  exact ⟨(ByteStream.eof_iff _).mpr ⟨((ByteStream.eof_iff _).mp atEnd).1, rfl⟩, rest⟩

/-- When nothing is left to do on a lane whose source has ended, the sink has been told. -/
theorem Lane.shut_of_idle (lane : Lane source fd stream sink cut) {shutdown : Bool}
    (flag : shutdown = sink.shut)
    (idle : (!stream.bufferEmpty || (stream.eof && !shutdown)) = false)
    (ends : 0 < stream.remainingCapacity → stream.inputEnded = true) : sink.shut = true := by
  obtain ⟨empty, told⟩ := Bool.or_eq_false_iff.mp idle
  have nothing : stream.buffer = [] := by
    rw [← ByteStream.bufferEmpty_iff]
    simpa using empty
  have room : 0 < stream.remainingCapacity := by
    rw [ByteStream.remainingCapacity, nothing, lane.capacity]
    decide
  have atEnd : stream.eof = true := (ByteStream.eof_iff _).mpr ⟨nothing, ends room⟩
  rw [atEnd, Bool.true_and, Bool.not_eq_false'] at told
  exact flag.symm.trans told

/-- More comes to a source that has not ended. -/
theorem Lane.feed (lane : Lane source fd stream sink cut) (isOpen : source.closed = false)
    (data : Bytes) : Lane { source with unread := source.unread ++ data } fd stream sink cut := by
  have notDrained : ¬ source.Drained := fun isDrained =>
    absurd (isOpen.symm.trans isDrained.2) Bool.false_ne_true
  exact ⟨lane.order, lane.whole,
    fun isWhole ended => absurd (lane.drained isWhole ended) notDrained, lane.atEnd, lane.cutEnds,
    fun isShut => absurd (lane.finished isShut).2.1 notDrained, lane.noError, lane.capacity⟩

/-- The source ends. -/
theorem Lane.close (lane : Lane source fd stream sink cut) :
    Lane { source with closed := true } fd stream sink cut := by
  refine ⟨lane.order, lane.whole, fun isWhole ended => ⟨(lane.drained isWhole ended).1, rfl⟩,
    lane.atEnd, lane.cutEnds, fun isShut => ?_, lane.noError, lane.capacity⟩
  obtain ⟨atEnd, isDrained, all⟩ := lane.finished isShut
  exact ⟨atEnd, ⟨isDrained.1, rfl⟩, all⟩

/-- The sink is cut off. -/
theorem Lane.cutOff (lane : Lane source fd stream sink cut) (isCut : cut') :
    Lane source fd stream.endInput sink cut' := by
  refine ⟨lane.order, fun isWhole => absurd isCut isWhole, fun isWhole => absurd isCut isWhole,
    fun _ => rfl, fun _ => rfl, fun isShut => ?_, lane.noError, lane.capacity⟩
  obtain ⟨atEnd, rest⟩ := lane.finished isShut
  exact ⟨(ByteStream.eof_iff _).mpr ⟨((ByteStream.eof_iff _).mp atEnd).1, rfl⟩, rest⟩

end Lanes

/-! ## Both directions -/

/-- The two lanes share the socket; the flags say what has happened to the sinks. -/
structure Sane (rules : List CopyRule) (copy : StreamCopy) : Prop where
  outbound : Lane copy.input copy.inputFd copy.outbound copy.socket (.socketOut ∉ rules)
  inbound : Lane copy.socket copy.socketFd copy.inbound copy.output
    (.outputOut ∉ rules ∧ copy.output.shut = false)
  outboundShutdown : copy.outboundShutdown = copy.socket.shut
  inboundShutdown : copy.inboundShutdown = copy.output.shut
  inputOpen : copy.inputFd.closed = false
  socketOpen : copy.socketFd.closed = false
  outputClosed : copy.outputFd.closed = true → copy.output.shut = true
  inputGone : .inputIn ∉ rules → copy.outbound.inputEnded = true
  socketGone : .socketIn ∉ rules → copy.inbound.inputEnded = true

theorem sane_fresh : Sane allRules {} where
  outbound := ⟨List.prefix_refl _, fun _ => rfl, fun _ ended => absurd ended Bool.false_ne_true,
    fun atEnd => absurd atEnd Bool.false_ne_true, fun isCut => absurd (by decide) isCut,
    fun isShut => absurd isShut Bool.false_ne_true, rfl, rfl⟩
  inbound := ⟨List.prefix_refl _, fun _ => rfl, fun _ ended => absurd ended Bool.false_ne_true,
    fun atEnd => absurd atEnd Bool.false_ne_true, fun isCut => absurd (by decide) isCut.1,
    fun isShut => absurd isShut Bool.false_ne_true, rfl, rfl⟩
  outboundShutdown := rfl
  inboundShutdown := rfl
  inputOpen := rfl
  socketOpen := rfl
  outputClosed := fun isClosed => absurd isClosed Bool.false_ne_true
  inputGone := fun gone => absurd (by decide) gone
  socketGone := fun gone => absurd (by decide) gone

variable {rules : List CopyRule} {copy copy' : StreamCopy} {answer : Answer}

/-- Once the input of a stream has ended, it stays so. -/
theorem ended_of_fill {stream stream' : ByteStream} {fd fd' : FDWrapper} {pipe pipe' : Pipe}
    (ran : fill stream fd pipe answer = .ok (stream', fd', pipe'))
    (ended : stream.inputEnded = true) : stream'.inputEnded = true := by
  obtain ⟨bytes, _, _, rfl⟩ := filled ran
  split
  · rfl
  · exact (stream.write_inputEnded bytes).trans ended

theorem closed_of_fill {stream stream' : ByteStream} {fd fd' : FDWrapper} {pipe pipe' : Pipe}
    (ran : fill stream fd pipe answer = .ok (stream', fd', pipe')) : fd'.closed = fd.closed := by
  obtain ⟨bytes, _, rfl, _⟩ := filled ran
  rfl

theorem Sane.readInput (sane : Sane rules copy) (ran : readInput copy answer = .ok copy') :
    Sane rules copy' ∧ (copy.input.Drained → copy'.input.Drained) ∧
      copy'.socket = copy.socket := by
  unfold StreamCopy.readInput at ran
  split at ran
  · cases ran
  · rename_i filled
    cases ran
    obtain ⟨outbound, drains⟩ := sane.outbound.fill filled
    exact ⟨⟨outbound, sane.inbound, sane.outboundShutdown, sane.inboundShutdown,
      (closed_of_fill filled).trans sane.inputOpen, sane.socketOpen, sane.outputClosed,
      fun gone => ended_of_fill filled (sane.inputGone gone), sane.socketGone⟩, drains, rfl⟩

theorem Sane.readSocket (sane : Sane rules copy) (ran : readSocket copy answer = .ok copy') :
    Sane rules copy' ∧ (copy.socket.Drained → copy'.socket.Drained) ∧
      copy'.input = copy.input := by
  unfold StreamCopy.readSocket at ran
  split at ran
  · cases ran
  · rename_i filled
    cases ran
    obtain ⟨inbound, drains⟩ := sane.inbound.fill filled
    obtain ⟨bytes, took, _, _⟩ := StreamCopy.filled filled
    exact ⟨⟨sane.outbound.congr rfl rfl rfl rfl took.delivered took.shut, inbound,
      sane.outboundShutdown.trans took.shut.symm, sane.inboundShutdown, sane.inputOpen,
      (closed_of_fill filled).trans sane.socketOpen, sane.outputClosed, sane.inputGone,
      fun gone => ended_of_fill filled (sane.socketGone gone)⟩, drains, rfl⟩

theorem Sane.writeSocket (sane : Sane rules copy) (installed : .socketOut ∈ rules)
    (ran : writeSocket copy answer = .ok copy') :
    Sane rules copy' ∧ (copy.socket.Drained → copy'.socket.Drained) ∧
      copy'.input = copy.input := by
  unfold StreamCopy.writeSocket at ran
  split at ran
  · cases ran
  · rename_i written
    have outbound := sane.outbound.drain written
    obtain ⟨notShut, count, rfl, rfl, rfl⟩ := StreamCopy.drained written
    split at ran
    · rename_i atEnd
      split at ran
      · cases ran
        exact ⟨⟨outbound.finish (not_not.mpr installed) atEnd,
          sane.inbound.congr rfl rfl rfl rfl rfl rfl, rfl, sane.inboundShutdown, sane.inputOpen,
          sane.socketOpen, sane.outputClosed, sane.inputGone, sane.socketGone⟩, id, rfl⟩
      · cases ran
    · cases ran
      exact ⟨⟨outbound, sane.inbound.congr rfl rfl rfl rfl rfl rfl, sane.outboundShutdown,
        sane.inboundShutdown, sane.inputOpen, sane.socketOpen, sane.outputClosed, sane.inputGone,
        sane.socketGone⟩, id, rfl⟩

theorem Sane.writeOutput (sane : Sane rules copy) (installed : .outputOut ∈ rules)
    (ran : writeOutput copy answer = .ok copy') :
    Sane rules copy' ∧ copy'.socket = copy.socket ∧ copy'.input = copy.input := by
  unfold StreamCopy.writeOutput at ran
  split at ran
  · cases ran
  · rename_i written
    have inbound := sane.inbound.drain written
    obtain ⟨notShut, count, rfl, rfl, rfl⟩ := StreamCopy.drained written
    have isWhole : ∀ {shut : Prop}, ¬ (CopyRule.outputOut ∉ rules ∧ shut) :=
      fun isCut => isCut.1 installed
    split at ran
    · rename_i atEnd
      split at ran
      · cases ran
        exact ⟨⟨sane.outbound, (inbound.finish isWhole atEnd).recut
          (fun isCut => absurd isCut isWhole) (fun isCut => absurd isCut isWhole),
          sane.outboundShutdown, rfl, sane.inputOpen, sane.socketOpen, fun _ => rfl,
          sane.inputGone, sane.socketGone⟩, rfl, rfl⟩
      · cases ran
    · cases ran
      exact ⟨⟨sane.outbound, inbound, sane.outboundShutdown, sane.inboundShutdown, sane.inputOpen,
        sane.socketOpen, sane.outputClosed, sane.inputGone, sane.socketGone⟩, rfl, rfl⟩

/-- A rule is removed that is no sink's, or the sink has been told the end. -/
theorem Sane.remove (sane : Sane rules copy) {rules' : List CopyRule}
    (socketOut : .socketOut ∈ rules' ↔ .socketOut ∈ rules)
    (outputOut : .outputOut ∈ rules' ↔ .outputOut ∈ rules)
    (inputGone : .inputIn ∉ rules' → copy.outbound.inputEnded = true)
    (socketGone : .socketIn ∉ rules' → copy.inbound.inputEnded = true) : Sane rules' copy := by
  refine ⟨?_, ?_, sane.outboundShutdown, sane.inboundShutdown, sane.inputOpen, sane.socketOpen,
    sane.outputClosed, inputGone, socketGone⟩
  · rw [socketOut]
    exact sane.outbound
  · rw [outputOut]
    exact sane.inbound

/-- The descriptor of the rule has hung up, and it is not ready. -/
def HungUp (poll : Poll CopyRule) (name : CopyRule) : Prop :=
  (poll.reported name).hup = true ∧ (poll.reported name).has (rule name).direction = false

instance (poll : Poll CopyRule) (name : CopyRule) : Decidable (HungUp poll name) :=
  inferInstanceAs (Decidable (_ ∧ _))

theorem Sane.cancelInput (sane : Sane rules copy)
    (reason : ¬ CopyRule.socketOut ∉ rules → copy.input.Drained) :
    Sane (rules.erase .inputIn) (endOutbound copy) := by
  have ended : Sane rules (endOutbound copy) :=
    { sane with
      outbound := sane.outbound.endInput reason
      inputGone := fun _ => rfl }
  exact ended.remove (List.mem_erase_of_ne (by decide)) (List.mem_erase_of_ne (by decide))
    (fun _ => rfl) fun gone => sane.socketGone fun here =>
      gone ((List.mem_erase_of_ne (by decide)).mpr here)

theorem Sane.cancelSocketIn (sane : Sane rules copy)
    (reason : ¬ (CopyRule.outputOut ∉ rules ∧ copy.output.shut = false) →
      copy.socket.Drained) :
    Sane (rules.erase .socketIn) (endInbound copy) := by
  have ended : Sane rules (endInbound copy) :=
    { sane with
      inbound := sane.inbound.endInput reason
      socketGone := fun _ => rfl }
  exact ended.remove (List.mem_erase_of_ne (by decide)) (List.mem_erase_of_ne (by decide))
    (fun gone => sane.inputGone fun here => gone ((List.mem_erase_of_ne (by decide)).mpr here))
    fun _ => rfl

theorem Sane.cancelSocketOut (sane : Sane rules copy) (nodup : rules.Nodup) :
    Sane (rules.erase .socketOut) (endOutbound copy) where
  outbound := sane.outbound.cutOff nodup.not_mem_erase
  inbound := by
    rw [List.mem_erase_of_ne (by decide)]
    exact sane.inbound
  outboundShutdown := sane.outboundShutdown
  inboundShutdown := sane.inboundShutdown
  inputOpen := sane.inputOpen
  socketOpen := sane.socketOpen
  outputClosed := sane.outputClosed
  inputGone := fun _ => rfl
  socketGone := fun gone => sane.socketGone fun here =>
    gone ((List.mem_erase_of_ne (by decide)).mpr here)

theorem Sane.cancelOutput (sane : Sane rules copy) (nodup : rules.Nodup) :
    Sane (rules.erase .outputOut) (endInbound copy) where
  outbound := by
    rw [List.mem_erase_of_ne (by decide)]
    exact sane.outbound
  inbound := by
    rcases Bool.eq_false_or_eq_true copy.output.shut with isShut | notShut
    · -- everything has been written, and the stream had ended
      have ended := sane.inbound.endInput fun _ => (sane.inbound.finished isShut).2.1
      exact ended.recut (fun isCut => absurd (isShut.symm.trans isCut.2) Bool.noConfusion)
        fun _ => rfl
    · exact sane.inbound.cutOff ⟨nodup.not_mem_erase, notShut⟩
  outboundShutdown := sane.outboundShutdown
  inboundShutdown := sane.inboundShutdown
  inputOpen := sane.inputOpen
  socketOpen := sane.socketOpen
  outputClosed := sane.outputClosed
  inputGone := fun gone => sane.inputGone fun here =>
    gone ((List.mem_erase_of_ne (by decide)).mpr here)
  socketGone := fun _ => rfl

/-- A source hangs up with nothing to read when its other end is closed and it is empty. -/
structure Admissible (copy : StreamCopy) (poll : Poll CopyRule) : Prop where
  input : HungUp poll .inputIn → copy.input.Drained
  socket : HungUp poll .socketIn → copy.socket.Drained

instance (copy : StreamCopy) (poll : Poll CopyRule) : Decidable (Admissible copy poll) :=
  decidable_of_iff ((HungUp poll .inputIn → copy.input.Drained) ∧
    (HungUp poll .socketIn → copy.socket.Drained))
    ⟨fun both => ⟨both.1, both.2⟩, fun admissible => ⟨admissible.input, admissible.socket⟩⟩

/-- What a call of the loop keeps. -/
structure Kept (start : StreamCopy) (state : State CopyRule StreamCopy) : Prop where
  sane : Sane state.rules state.world
  nodup : state.rules.Nodup
  input : start.input.Drained → state.world.input.Drained
  socket : start.socket.Drained → state.world.socket.Drained

variable {poll : Poll CopyRule} {asking : List (PollFd CopyRule)} {answers : CopyRule → Answer}
  {start : StreamCopy} {state final : State CopyRule StreamCopy}

theorem Kept.cancel (kept : Kept start state) (admissible : Admissible start poll)
    {name : CopyRule} (due : Due rule poll asking answers state (.cancel name)) :
    Kept start ⟨state.rules.erase name, state.waiting.erase name,
      (rule name).cancel state.world⟩ := by
  have nodup := kept.nodup.erase name
  have sane := kept.sane
  cases name with
  | inputIn =>
      refine ⟨sane.cancelInput fun isWhole => ?_, nodup, kept.input, kept.socket⟩
      rcases due.2.2 with (atEnd | isClosed) | hungUp
      · exact sane.outbound.drained isWhole (sane.outbound.atEnd atEnd.2)
      · exact absurd (sane.inputOpen.symm.trans isClosed) Bool.false_ne_true
      · exact kept.input (admissible.input hungUp.2)
  | socketOut => exact ⟨sane.cancelSocketOut kept.nodup, nodup, kept.input, kept.socket⟩
  | socketIn =>
      refine ⟨sane.cancelSocketIn fun isWhole => ?_, nodup, kept.input, kept.socket⟩
      rcases due.2.2 with (atEnd | isClosed) | hungUp
      · exact sane.inbound.drained isWhole (sane.inbound.atEnd atEnd.2)
      · exact absurd (sane.socketOpen.symm.trans isClosed) Bool.false_ne_true
      · exact kept.socket (admissible.socket hungUp.2)
  | outputOut => exact ⟨sane.cancelOutput kept.nodup, nodup, kept.input, kept.socket⟩

theorem Kept.call (kept : Kept start state) {name : CopyRule} (installed : name ∈ state.rules)
    {world : StreamCopy} {reply : Answer}
    (returned : (rule name).callback state.world reply = .ok world) (waiting : List CopyRule) :
    Kept start ⟨state.rules, waiting, world⟩ := by
  cases name with
  | inputIn =>
      obtain ⟨sane, drains, same⟩ := kept.sane.readInput returned
      exact ⟨sane, kept.nodup, drains ∘ kept.input, same ▸ kept.socket⟩
  | socketOut =>
      obtain ⟨sane, drains, same⟩ := kept.sane.writeSocket installed returned
      exact ⟨sane, kept.nodup, same ▸ kept.input, drains ∘ kept.socket⟩
  | socketIn =>
      obtain ⟨sane, drains, same⟩ := kept.sane.readSocket returned
      exact ⟨sane, kept.nodup, same ▸ kept.input, drains ∘ kept.socket⟩
  | outputOut =>
      obtain ⟨sane, sameSocket, sameInput⟩ := kept.sane.writeOutput installed returned
      exact ⟨sane, kept.nodup, sameInput ▸ kept.input, sameSocket ▸ kept.socket⟩

/-- Whatever turns the rules have. -/
theorem kept_of_passes (sane : Sane rules start) (nodup : rules.Nodup)
    (admissible : Admissible start poll)
    (passes : Passes rule poll asking answers ⟨rules, rules, start⟩ state) :
    Kept start state := by
  refine passes.invariant (Kept start) ⟨sane, nodup, id, id⟩ ?_
  intro state op final kept due next
  cases op with
  | cancel name =>
      cases next
      exact kept.cancel admissible due
  | call name reply =>
      obtain ⟨world, called, rfl⟩ := Option.map_eq_some_iff.mp next
      exact kept.call due.1 (ok_of_toOption called) _

/-! ## Runs -/

/-- The event loop and its world, and whether the function has returned. -/
structure Copying where
  rules : List CopyRule := allRules
  copy : StreamCopy := {}
  returned : Bool := false

namespace Copying

/-- What happens at the other ends, and a round of the loop. -/
inductive Move where
  /-- Something is typed. -/
  | type (data : Bytes)
  | endTyping
  /-- The peer of the socket sends something. -/
  | send (data : Bytes)
  | endSending
  | round (poll : Poll CopyRule) (answers : CopyRule → Answer)

def step (copying : Copying) : Move → Option Copying
  | .type data =>
      let input := copying.copy.input
      some { copying with
        copy := { copying.copy with input := { input with unread := input.unread ++ data } } }
  | .endTyping =>
      some { copying with
        copy := { copying.copy with input := { copying.copy.input with closed := true } } }
  | .send data =>
      let socket := copying.copy.socket
      some { copying with
        copy := { copying.copy with socket := { socket with unread := socket.unread ++ data } } }
  | .endSending =>
      some { copying with
        copy := { copying.copy with socket := { copying.copy.socket with closed := true } } }
  | .round poll answers =>
      match waitNextEvent rule copying.rules copying.copy poll answers with
      | .error _ => none
      | .ok (result, rules, copy) => some { rules, copy, returned := result = .exit }

/-- Nothing comes after the end of a source, and the loop goes on until the function returns. -/
def Possible (copying : Copying) : Move → Prop
  | .type _ => copying.copy.input.closed = false
  | .send _ => copying.copy.socket.closed = false
  | .round poll _ => copying.returned = false ∧ Admissible copying.copy poll
  | _ => True

instance (copying : Copying) : (move : Move) → Decidable (Possible copying move)
  | .type _ | .send _ => inferInstanceAs (Decidable (_ = false))
  | .round _ _ => inferInstanceAs (Decidable (_ ∧ _))
  | .endTyping | .endSending => inferInstanceAs (Decidable True)

/-- Everything that can be reached from the start. -/
def Runs : Copying → Prop := Reaches step Possible {}

variable {copying copying' : Copying} {move : Move}

/-- Nothing is mixed up, and the rules are in the order in which they were added. -/
structure Ordered (copying : Copying) : Prop where
  sane : Sane copying.rules copying.copy
  ordered : copying.rules.Sublist allRules

theorem Ordered.nodup (ordered : Ordered copying) : copying.rules.Nodup :=
  List.Nodup.sublist ordered.ordered (by decide)

/-- A round that has returned. -/
theorem returned_of_round {poll : Poll CopyRule} {answers : CopyRule → Answer}
    (next : step copying (.round poll answers) = some copying') :
    ∃ result rules copy, waitNextEvent rule copying.rules copying.copy poll answers =
        .ok (result, rules, copy) ∧
      copying' = { rules, copy, returned := result = .exit } := by
  rw [Copying.step] at next
  cases outcome : waitNextEvent rule copying.rules copying.copy poll answers with
  | error error =>
      rw [outcome] at next
      cases next
  | ok result =>
      rw [outcome] at next
      cases next
      exact ⟨_, _, _, rfl, rfl⟩

theorem Ordered.step (isOrdered : Ordered copying) (possible : Possible copying move)
    (next : step copying move = some copying') : Ordered copying' := by
  have nodup := isOrdered.nodup
  obtain ⟨sane, ordered⟩ := isOrdered
  cases move with
  | type data =>
      cases next
      exact ⟨{ sane with outbound := sane.outbound.feed possible data }, ordered⟩
  | endTyping =>
      cases next
      exact ⟨{ sane with outbound := sane.outbound.close }, ordered⟩
  | send data =>
      cases next
      exact ⟨{ sane with
        outbound := sane.outbound.congr rfl rfl rfl rfl rfl rfl
        inbound := sane.inbound.feed possible data }, ordered⟩
  | endSending =>
      cases next
      exact ⟨{ sane with
        outbound := sane.outbound.congr rfl rfl rfl rfl rfl rfl
        inbound := sane.inbound.close }, ordered⟩
  | round poll answers =>
      obtain ⟨result, rules, copy, outcome, rfl⟩ := returned_of_round next
      have contract := contract_waitNextEvent rule poll answers copying.rules copying.copy nodup
      rw [outcome] at contract
      obtain ⟨waiting, passes, _⟩ := contract
      have kept := kept_of_passes sane nodup possible.2 passes
      exact ⟨kept.sane, (sublist_of_passes passes).trans ordered⟩

theorem ordered_of_runs (reached : Runs copying) : Ordered copying :=
  reached.invariant Ordered ⟨sane_fresh, List.Sublist.refl _⟩
    fun _ _ _ ordered possible next => ordered.step possible next

/--
In every run: what has been written to the socket is a prefix of what was read from the
standard input, and what has been written to the standard output is a prefix of what was
read from the socket.  As long as the rule of a sink is installed nothing is lost between
the two, and a sink is told the end only when the source has ended, everything of it has
been read, and all of that has been written.
-/
theorem copies_in_order (reached : Runs copying) :
    (copying.copy.socket.delivered <+: copying.copy.input.taken ∧
      (.socketOut ∈ copying.rules →
        copying.copy.socket.delivered ++ copying.copy.outbound.buffer =
          copying.copy.input.taken) ∧
      (copying.copy.socket.shut = true → copying.copy.input.Drained ∧
        copying.copy.socket.delivered = copying.copy.input.taken)) ∧
    copying.copy.output.delivered <+: copying.copy.socket.taken ∧
      (.outputOut ∈ copying.rules →
        copying.copy.output.delivered ++ copying.copy.inbound.buffer =
          copying.copy.socket.taken) ∧
      (copying.copy.output.shut = true → copying.copy.socket.Drained ∧
        copying.copy.output.delivered = copying.copy.socket.taken) := by
  have sane := (ordered_of_runs reached).sane
  refine ⟨⟨?_, ?_, ?_⟩, ?_, ?_, ?_⟩
  · exact (List.prefix_append _ _).trans sane.outbound.order
  · exact fun installed => sane.outbound.whole (not_not.mpr installed)
  · exact fun isShut => (sane.outbound.finished isShut).2
  · exact (List.prefix_append _ _).trans sane.inbound.order
  · exact fun installed => sane.inbound.whole fun isCut => isCut.1 installed
  · exact fun isShut => (sane.inbound.finished isShut).2

/-- Everything is ready; `count` bytes can be read from each source and `taken` written. -/
def serving (count taken : Nat) : Move :=
  .round (.ready fun _ => { readable := true, writable := true })
    fun _ => { count, taken := some taken }

/-- Something comes from both sides, and then the ends. -/
def relay : List (Copying → Move) :=
  [fun _ => .type [104, 105], fun _ => .endTyping, fun _ => .send [111, 107], fun _ => .endSending,
    fun _ => serving 2 0, fun _ => serving 0 2]

/-- Everything that came from both sides has been copied. -/
theorem copies_in_order_relay :
    ∃ copying, Runs copying ∧ copying.copy.socket.delivered = [104, 105] ∧
      copying.copy.input.taken = [104, 105] ∧ copying.copy.output.delivered = [111, 107] ∧
      copying.copy.socket.Drained := by
  have ran : (execute step Possible {} relay).any (fun copying => decide (
      copying.copy.socket.shut = true ∧ copying.copy.output.shut = true ∧
        copying.copy.input.taken = [104, 105] ∧
        copying.copy.socket.taken = [111, 107])) = true := by
    decide +kernel
  obtain ⟨copying, reached, socketShut, outputShut, typed, sent⟩ := exists_reaches ran
  have ⟨⟨_, _, outbound⟩, _, _, inbound⟩ := copies_in_order reached
  exact ⟨copying, reached, (outbound socketShut).2.trans typed, typed,
    (inbound outputShut).2.trans sent, (inbound outputShut).1⟩

/-! ## Returning -/

/-- No sink hangs up while it cannot be written to. -/
def Undisturbed (poll : Poll CopyRule) : Prop :=
  ¬ HungUp poll .socketOut ∧ ¬ HungUp poll .outputOut

instance (poll : Poll CopyRule) : Decidable (Undisturbed poll) :=
  inferInstanceAs (Decidable (_ ∧ _))

/-- The runs in which no sink hangs up. -/
def Undisturbing (copying : Copying) : Move → Prop
  | .round poll answers => Possible copying (.round poll answers) ∧ Undisturbed poll
  | move => Possible copying move

instance (copying : Copying) : (move : Move) → Decidable (Undisturbing copying move)
  | .type _ | .send _ => inferInstanceAs (Decidable (_ = false))
  | .round _ _ => inferInstanceAs (Decidable (_ ∧ _))
  | .endTyping | .endSending => inferInstanceAs (Decidable True)

theorem Undisturbing.possible (undisturbing : Undisturbing copying move) :
    Possible copying move := by
  cases move with
  | round poll answers => exact undisturbing.1
  | type | endTyping | send | endSending => exact undisturbing

/-- The rules of the sinks are installed until the sinks have been told the end. -/
structure Attached (rules : List CopyRule) (copy : StreamCopy) : Prop where
  socket : .socketOut ∈ rules
  output : .outputOut ∉ rules → copy.output.shut = true

/-- Only rule 4 writes to the standard output. -/
theorem output_of_callback {name : CopyRule} {copy copy' : StreamCopy} {answer : Answer}
    (other : name ≠ .outputOut) (returned : (rule name).callback copy answer = .ok copy') :
    copy'.output = copy.output := by
  cases name with
  | inputIn =>
      change readInput copy answer = _ at returned
      unfold readInput at returned
      split at returned <;> cases returned
      rfl
  | socketOut =>
      change writeSocket copy answer = _ at returned
      unfold writeSocket at returned
      split at returned
      · cases returned
      split at returned
      · split at returned <;> cases returned
        rfl
      · cases returned
        rfl
  | socketIn =>
      change readSocket copy answer = _ at returned
      unfold readSocket at returned
      split at returned <;> cases returned
      rfl
  | outputOut => exact absurd rfl other

theorem attached_of_passes {rules : List CopyRule} {start : StreamCopy} {poll : Poll CopyRule}
    {asking : List (PollFd CopyRule)} {answers : CopyRule → Answer}
    {state : State CopyRule StreamCopy} (sane : Sane rules start) (nodup : rules.Nodup)
    (admissible : Admissible start poll) (undisturbed : Undisturbed poll)
    (attached : Attached rules start)
    (passes : Passes rule poll asking answers ⟨rules, rules, start⟩ state) :
    Attached state.rules state.world := by
  refine (passes.invariant (fun state => Kept start state ∧ Attached state.rules state.world)
    ⟨⟨sane, nodup, id, id⟩, attached⟩ ?_).2
  rintro state op final ⟨kept, attached⟩ due next
  cases op with
  | cancel name =>
      cases next
      refine ⟨kept.cancel admissible due, ?_⟩
      have others : name ≠ .socketOut → name ≠ .outputOut →
          ∀ copy : StreamCopy, copy.output = state.world.output →
            Attached (state.rules.erase name) copy := by
        intro notSocket notOutput copy same
        refine ⟨(List.mem_erase_of_ne notSocket.symm).mpr attached.socket, fun gone => ?_⟩
        rw [same]
        exact attached.output fun here => gone ((List.mem_erase_of_ne notOutput.symm).mpr here)
      cases name with
      | inputIn => exact others (by decide) (by decide) _ rfl
      | socketIn => exact others (by decide) (by decide) _ rfl
      | socketOut =>
          rcases due.2.2 with (atEnd | isClosed) | hungUp
          · cases atEnd.1
          · exact absurd (kept.sane.socketOpen.symm.trans isClosed) Bool.false_ne_true
          · exact absurd hungUp.2 undisturbed.1
      | outputOut =>
          refine ⟨(List.mem_erase_of_ne (by decide)).mpr attached.socket, fun _ => ?_⟩
          rcases due.2.2 with (atEnd | isClosed) | hungUp
          · cases atEnd.1
          · exact kept.sane.outputClosed isClosed
          · exact absurd hungUp.2 undisturbed.2
  | call name reply =>
      obtain ⟨world, called, rfl⟩ := Option.map_eq_some_iff.mp next
      have returned := ok_of_toOption called
      refine ⟨kept.call due.1 returned _, attached.socket, fun gone => ?_⟩
      have other : name ≠ .outputOut := fun same => gone (same ▸ due.1)
      rw [output_of_callback other returned]
      exact attached.output gone

theorem attached_of_reaches (reached : Reaches step Undisturbing {} copying) :
    Ordered copying ∧ Attached copying.rules copying.copy := by
  refine reached.invariant (fun copying => Ordered copying ∧ Attached copying.rules copying.copy)
    ⟨⟨sane_fresh, List.Sublist.refl _⟩, by decide, fun gone => absurd (by decide) gone⟩ ?_
  rintro copying move copying' ⟨ordered, attached⟩ undisturbing next
  refine ⟨ordered.step undisturbing.possible next, ?_⟩
  cases move with
  | type | endTyping | send | endSending =>
      cases next
      exact ⟨attached.socket, attached.output⟩
  | round poll answers =>
      obtain ⟨possible, undisturbed⟩ := undisturbing
      obtain ⟨result, rules, copy, outcome, rfl⟩ := returned_of_round next
      have contract := contract_waitNextEvent rule poll answers copying.rules copying.copy
        ordered.nodup
      rw [outcome] at contract
      obtain ⟨waiting, passes, _⟩ := contract
      exact attached_of_passes ordered.sane ordered.nodup possible.2 undisturbed attached passes

/-- Cancelling a rule arouses no interest in those before it. -/
theorem calm_allRules : allRules.Pairwise fun earlier later => ∀ world,
    (rule earlier).interest world = false →
      (rule earlier).interest ((rule later).cancel world) = false := by
  simp only [allRules, List.pairwise_cons, List.forall_mem_cons, List.not_mem_nil,
    IsEmpty.forall_iff, implies_true, List.Pairwise.nil, and_true]
  exact ⟨⟨fun _ => id, fun _ => id, fun _ => id⟩, ⟨fun _ => id, fun _ => id⟩, fun _ => id⟩

/--
In every run in which no sink hangs up, when the loop is left and no signal was caught,
both directions are done: the source has ended, everything of it has been read and
written to the sink, and the sink has been told the end.
-/
theorem returns_when_done (reached : Reaches step Undisturbing {} copying)
    {poll : Poll CopyRule} {answers : CopyRule → Answer} {rules : List CopyRule}
    {copy : StreamCopy}
    (ran : waitNextEvent rule copying.rules copying.copy poll answers = .ok (.exit, rules, copy))
    (uninterrupted : poll ≠ .interrupted) :
    (copy.input.Drained ∧ copy.socket.delivered = copy.input.taken ∧ copy.socket.shut = true) ∧
      copy.socket.Drained ∧ copy.output.delivered = copy.socket.taken ∧
        copy.output.shut = true := by
  obtain ⟨ordered, attached⟩ := attached_of_reaches reached
  obtain ⟨rfl, rfl, quiet⟩ := setUp_of_exit ran uninterrupted
  -- only the first loop has run, and it asks the system for nothing
  have passes : Passes rule .timeout [] answers
      ⟨copying.rules, copying.rules, copying.copy⟩ _ :=
    passes_setUp .timeout [] answers [] copying.rules copying.copy ordered.nodup
  have unreported : ∀ name, ¬ HungUp .timeout name := fun _ hungUp =>
    absurd hungUp.1 Bool.false_ne_true
  have admissible : Admissible copying.copy .timeout :=
    ⟨fun hungUp => absurd hungUp (unreported _), fun hungUp => absurd hungUp (unreported _)⟩
  have sane : Sane (setUp rule copying.rules copying.copy).rules
      (setUp rule copying.rules copying.copy).world :=
    (kept_of_passes ordered.sane ordered.nodup admissible passes).sane
  have installed : Attached (setUp rule copying.rules copying.copy).rules
      (setUp rule copying.rules copying.copy).world :=
    attached_of_passes ordered.sane ordered.nodup admissible ⟨unreported _, unreported _⟩
      attached passes
  have idle := uninterested_setUp quiet (calm_allRules.sublist ordered.ordered)
  have outShut : (setUp rule copying.rules copying.copy).world.socket.shut = true := by
    refine sane.outbound.shut_of_idle sane.outboundShutdown (idle _ installed.socket) ?_
    intro room
    refine sane.inputGone fun here => absurd (idle _ here) ?_
    simp [rule, sane.outbound.noError, sane.inbound.noError, room]
  have inShut : (setUp rule copying.rules copying.copy).world.output.shut = true := by
    by_cases here : .outputOut ∈ (setUp rule copying.rules copying.copy).rules
    · refine sane.inbound.shut_of_idle sane.inboundShutdown (idle _ here) ?_
      intro room
      refine sane.socketGone fun here => absurd (idle _ here) ?_
      simp [rule, sane.outbound.noError, sane.inbound.noError, room]
    · exact installed.output here
  exact ⟨⟨(sane.outbound.finished outShut).2.1, (sane.outbound.finished outShut).2.2, outShut⟩,
    (sane.inbound.finished inShut).2.1, (sane.inbound.finished inShut).2.2, inShut⟩

/-- The loop is left after everything has been copied. -/
theorem returns_when_done_relay :
    ∃ copying rules copy, Reaches step Undisturbing {} copying ∧
      waitNextEvent rule copying.rules copying.copy .timeout (fun _ => {}) =
        .ok (.exit, rules, copy) ∧
      copy.socket.shut = true ∧ copy.output.delivered = copy.socket.taken := by
  have ran : (execute step Undisturbing {} relay).any (fun copying => decide (
      ((waitNextEvent rule copying.rules copying.copy .timeout fun _ => {}).toOption.map
        Prod.fst) = some .exit)) = true := by
    decide +kernel
  obtain ⟨copying, reached, exits⟩ := exists_reaches ran
  obtain ⟨⟨result, rules, copy⟩, returned, rfl⟩ := Option.map_eq_some_iff.mp exits
  have left := ok_of_toOption returned
  have done := returns_when_done reached left nofun
  exact ⟨copying, rules, copy, reached, left, done.1.2.2, done.2.2.1⟩

/-! ## Exceptions -/

/-- A callback that returns has used its descriptor. -/
theorem counted_of_callback {name : CopyRule} {copy copy' : StreamCopy} {answer : Answer}
    (returned : (rule name).callback copy answer = .ok copy') :
    (rule name).serviceCount copy ≠ (rule name).serviceCount copy' := by
  cases name with
  | inputIn =>
      change readInput copy answer = _ at returned
      unfold readInput at returned
      split at returned
      · cases returned
      · rename_i read
        obtain ⟨bytes, _, rfl, _⟩ := filled read
        cases returned
        exact ne_add_one _
  | socketOut =>
      change writeSocket copy answer = _ at returned
      unfold writeSocket at returned
      split at returned
      · cases returned
      · rename_i written
        obtain ⟨_, count, rfl, rfl, rfl⟩ := drained written
        split at returned
        · split at returned <;> cases returned
          exact ne_add_two _
        · cases returned
          exact ne_add_one _
  | socketIn =>
      change readSocket copy answer = _ at returned
      unfold readSocket at returned
      split at returned
      · cases returned
      · rename_i read
        obtain ⟨bytes, _, rfl, _⟩ := filled read
        cases returned
        exact ne_add_one _
  | outputOut =>
      change writeOutput copy answer = _ at returned
      unfold writeOutput at returned
      split at returned
      · cases returned
      · rename_i written
        obtain ⟨_, count, rfl, rfl, rfl⟩ := drained written
        split at returned
        · split at returned <;> cases returned
          exact ne_add_one _
        · cases returned
          exact ne_add_one _

/-- A callback throws only if a system call has failed. -/
theorem fromSystem_of_throw {name : CopyRule} {copy : StreamCopy} {answer : Answer}
    {fault : Fault} (threw : (rule name).callback copy answer = .error fault) :
    FromSystem (.callback fault) := by
  cases name with
  | inputIn =>
      change readInput copy answer = _ at threw
      unfold readInput at threw
      split at threw <;> cases threw
      rename_i read
      rw [fill_error read]
      trivial
  | socketOut =>
      change writeSocket copy answer = _ at threw
      unfold writeSocket at threw
      split at threw
      · cases threw
        exact drain_error (by assumption)
      · split at threw
        · split at threw <;> cases threw
          trivial
        · cases threw
  | socketIn =>
      change readSocket copy answer = _ at threw
      unfold readSocket at threw
      split at threw <;> cases threw
      rename_i read
      rw [fill_error read]
      trivial
  | outputOut =>
      change writeOutput copy answer = _ at threw
      unfold writeOutput at threw
      split at threw
      · cases threw
        exact drain_error (by assumption)
      · split at threw
        · split at threw <;> cases threw
          trivial
        · cases threw

/--
In every run a round throws only for the system: no busy wait is detected, no read
returns more than was asked for, and no access is out of range.
-/
theorem copies_throw_for_the_system (reached : Runs copying) {poll : Poll CopyRule}
    {answers : CopyRule → Answer} {error : Error Fault}
    (threw : waitNextEvent rule copying.rules copying.copy poll answers = .error error) :
    FromSystem error := by
  have contract := contract_waitNextEvent rule poll answers copying.rules copying.copy
    (ordered_of_runs reached).nodup
  rw [threw] at contract
  obtain ⟨state, _, fails⟩ := contract
  cases error with
  | polled => trivial
  | busyWait =>
      obtain ⟨name, _, world, returned, unused, _⟩ := fails
      exact absurd unused (counted_of_callback returned)
  | callback fault =>
      obtain ⟨name, _, threw⟩ := fails
      exact fromSystem_of_throw threw
  | outOfRange => exact fails

/-- Two bytes are typed and read, and one of them is written to the socket. -/
def halfCopied : List (Copying → Move) :=
  [fun _ => .type [104, 105],
    fun _ => .round (.ready fun name => { readable := name = .inputIn }) fun _ => { count := 2 },
    fun _ => .round (.ready fun name => { writable := name = .socketOut })
      fun _ => { taken := some 1 }]

/-- The socket breaks when half of what was typed has been written to it. -/
theorem copies_throw_for_the_system_half_copied :
    ∃ copying fault, Runs copying ∧ copying.copy.input.taken = [104, 105] ∧
      copying.copy.socket.delivered = [104] ∧
      waitNextEvent rule copying.rules copying.copy
        (.ready fun name => { writable := name = .socketOut }) (fun _ => {}) =
          .error (.callback fault) ∧
      FromSystem (.callback fault) := by
  have ran : (execute step Possible {} halfCopied).any (fun copying => decide (
      copying.copy.input.taken = [104, 105] ∧ copying.copy.socket.delivered = [104] ∧
        (match waitNextEvent rule copying.rules copying.copy
            (.ready fun name => { writable := name = .socketOut }) fun _ => {} with
          | .error (.callback _) => true
          | _ => false) = true)) = true := by
    decide +kernel
  obtain ⟨copying, reached, taken, delivered, broke⟩ := exists_reaches ran
  split at broke
  · rename_i fault threw
    exact ⟨copying, fault, reached, taken, delivered, threw,
      copies_throw_for_the_system reached threw⟩
  · cases broke

end Copying

end StreamCopy

end Sponge
