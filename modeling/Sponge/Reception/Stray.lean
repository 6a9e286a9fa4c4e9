import Sponge.Reception.Arrival

/-!
# What a stray segment leaves behind

Two runs of one receiver are compared: one handles an extra segment that no byte
of the window belongs to, the other does not.  The runs differ in the checkpoint,
which every segment overwrites, and a later segment may therefore be placed at
another index.  A segment leaves no trace exactly if it brings nothing that is
taken, does not set off an end that is still pending, and moves the checkpoint
nowhere that matters.
-/

namespace Sponge.TCPReceiver

open MachineInt Fragments FirstWrite StreamReassembler

/-! ## The property -/

/-- Make the calls in order. -/
def Observed.run : Observed → List Call → Option Observed
  | o, [] => some o
  | o, call :: calls => do
      let o' ← o.call call
      o'.run calls

/-- The same bytes delivered, acknowledgment number, unassembled bytes and end. -/
structure Indistinguishable (o o' : Observed) : Prop where
  delivered : o'.readBytes ++ o'.receiver.streamOut.buffer =
    o.readBytes ++ o.receiver.streamOut.buffer
  ackno : o'.receiver.ackno = o.receiver.ackno
  unassembled : o'.receiver.unassembledBytes = o.receiver.unassembledBytes
  ended : o'.receiver.streamOut.inputEnded = o.receiver.streamOut.inputEnded

/-- Whatever calls follow, they return in both states and no difference shows. -/
def SameForever (o o' : Observed) : Prop :=
  ∀ calls : List Call, (∀ call ∈ calls, o.receiver.Representable call) →
    ∃ final final', o.run calls = some final ∧ o'.run calls = some final' ∧
      Indistinguishable final final'

/-- With the segment first or without it, the calls that follow show no difference. -/
def LeavesNoTrace (o : Observed) (segment : TCPSegment) : Prop :=
  ∃ o', o.call (.segment segment) = some o' ∧ SameForever o o'

/-- The sequence number of the payload byte at `place`; a SYN takes one before the payload. -/
def byteSeqno (segment : TCPSegment) (place : Nat) : WrappingInt32 :=
  segment.header.seqno.add (UInt32.ofNat (place + if segment.header.syn then 1 else 0))

/-- No byte of the payload has the sequence number of an index in the window. -/
def Rejects (r : TCPReceiver) (segment : TCPSegment) : Prop :=
  ∀ place < segment.payload.length, ∀ index < r.reassembler.nextIndex + r.windowSize,
    r.reassembler.nextIndex ≤ index → byteSeqno segment place ≠ wrap (index + 1) r.isn

instance (r : TCPReceiver) (segment : TCPSegment) : Decidable (r.Rejects segment) :=
  inferInstanceAs (Decidable (∀ _ < _, ∀ _ < _, _ → _))

/-! ## The condition -/

/-- No byte of the payload is new at the index where the receiver places it. -/
def TakesNothing (r : TCPReceiver) (segment : TCPSegment) : Prop :=
  r.reassembler.accepted segment.payload (r.streamNo segment) = lookup r.reassembler.reassembler

/-- Two checkpoints from which every sequence number unwraps alike. -/
def SameCheckpoint (checkpoint checkpoint' : Nat) : Prop :=
  checkpoint' = checkpoint ∨
    (0 < checkpoint ∧ checkpoint ≤ 2 ^ 31 + 1) ∧ 0 < checkpoint' ∧ checkpoint' ≤ 2 ^ 31 + 1

structure Harmless (r : TCPReceiver) (segment : TCPSegment) : Prop where
  nothing : r.TakesNothing segment
  settled : ¬ EndPending r.reassembler
  checkpoint : SameCheckpoint r.lastStreamNo (r.streamNo segment)

theorem unwrap_of_first (n isn : WrappingInt32) {checkpoint : Nat}
    (first : 0 < checkpoint ∧ checkpoint ≤ 2 ^ 31 + 1) :
    unwrap n isn checkpoint = if offset n isn = 0 then 2 ^ 32 else offset n isn := by
  by_cases ahead : checkpoint ≤ offset n isn
  · rw [unwrap_of_le _ _ ahead, if_neg (by omega)]
  · rw [unwrap_of_lt _ _ (by omega) (by omega)]
    split_ifs <;> omega

theorem SameCheckpoint.unwrap_eq {checkpoint checkpoint' : Nat}
    (same : SameCheckpoint checkpoint checkpoint') (n isn : WrappingInt32) :
    unwrap n isn checkpoint' = unwrap n isn checkpoint := by
  rcases same with rfl | ⟨first, first'⟩
  · rfl
  · rw [unwrap_of_first n isn first, unwrap_of_first n isn first']

theorem exists_unwrap_ne_of_lt (isn : WrappingInt32) {checkpoint checkpoint' : Nat}
    (bound : checkpoint' < 2 ^ 64) (below : checkpoint < checkpoint')
    (apart : ¬ SameCheckpoint checkpoint checkpoint') :
    ∃ n, unwrap n isn checkpoint ≠ unwrap n isn checkpoint' := by
  have bound' : checkpoint < 2 ^ 64 := below.trans bound
  unfold SameCheckpoint at apart
  by_cases low : checkpoint' ≤ 2 ^ 31 + 1
  · -- only the start itself differs from the first half cycle
    refine ⟨wrap 0 isn, ?_⟩
    have zero : offset (wrap 0 isn) isn = 0 := offset_wrap 0 isn
    rw [unwrap_of_le _ _ (by omega), unwrap_of_first _ _ (by omega), zero]
    decide
  by_cases high : checkpoint' + 2 ^ 31 ≤ 2 ^ 64
  · -- the last position counted ahead of the higher one is too far from the lower one
    refine ⟨wrap (checkpoint' + (2 ^ 31 - 1)) isn, ?_⟩
    have window := unwrap_lt (wrap (checkpoint' + (2 ^ 31 - 1)) isn) isn bound'
    rw [unwrap_ahead _ _ bound (by omega) (offset_wrap _ isn), add64_of_lt (by omega)]
    omega
  by_cases far : checkpoint + 2 ^ 31 ≤ checkpoint'
  · refine ⟨wrap checkpoint' isn, ?_⟩
    have window := unwrap_lt (wrap checkpoint' isn) isn bound'
    rw [unwrap_self isn bound]
    omega
  · -- behind a checkpoint of the last cycle the lift wraps around
    refine ⟨wrap checkpoint isn, ?_⟩
    have at_offset := offset_wrap checkpoint isn
    have lifted : liftToCheckpoint (offset (wrap checkpoint isn) isn) checkpoint' =
        checkpoint % 2 ^ 32 := by
      simp only [liftToCheckpoint, maxU32, add64, mul64, at_offset]
      split_ifs <;> omega
    rw [unwrap_self isn bound']
    simp only [unwrap, lifted, maxU32]
    split_ifs <;> omega

theorem exists_unwrap_ne (isn : WrappingInt32) {checkpoint checkpoint' : Nat}
    (bound : checkpoint < 2 ^ 64) (bound' : checkpoint' < 2 ^ 64)
    (apart : ¬ SameCheckpoint checkpoint checkpoint') :
    ∃ n, unwrap n isn checkpoint ≠ unwrap n isn checkpoint' := by
  rcases Nat.lt_trichotomy checkpoint checkpoint' with below | same | above
  · exact exists_unwrap_ne_of_lt isn bound' below apart
  · exact absurd (Or.inl same.symm) apart
  · obtain ⟨n, different⟩ := exists_unwrap_ne_of_lt isn bound above
      fun same => apart (same.imp Eq.symm And.symm)
    exact ⟨n, different.symm⟩

/-! ## Two receivers with the same contents -/

/-- Two receivers after the SYN that differ in the checkpoint and the cut of the fragments. -/
structure Alike (r r' : TCPReceiver) : Prop where
  recived : r.synRecived = true
  recived' : r'.synRecived = true
  isn_eq : r'.isn = r.isn
  same : SameContents r.reassembler r'.reassembler
  stored : Stored r.reassembler
  stored' : Stored r'.reassembler

variable {r r' : TCPReceiver} {segment : TCPSegment}

theorem Alike.indistinguishable (alike : Alike r r') (readBytes : Bytes) :
    Indistinguishable ⟨r, readBytes⟩ ⟨r', readBytes⟩ where
  delivered := by
    dsimp only [streamOut]
    rw [alike.same.output_eq]
  ackno := ackno_congr (alike.recived'.trans alike.recived.symm) alike.isn_eq alike.same.next_eq
    (by rw [streamOut, streamOut, alike.same.output_eq])
  unassembled := alike.same.unassembled_eq alike.stored alike.stored'
  ended := by
    dsimp only [streamOut]
    rw [alike.same.output_eq]

theorem Alike.read (alike : Alike r r') (len : Nat) :
    Alike (r.popStreamOut len) (r'.popStreamOut len) :=
  { alike with
    same := alike.same.read len
    stored := alike.stored.read len
    stored' := alike.stored'.read len }

/-- After the SYN every segment is one push. -/
theorem exists_pushed (recived : r.synRecived = true) (stored : Stored r.reassembler)
    (short : segment.payload.length < 2 ^ 64) :
    ∃ reassembler out,
      r.segmentReceived segment =
        some { r with lastStreamNo := r.streamNo segment, reassembler := reassembler } ∧
      Pushed r.reassembler reassembler segment.payload (r.streamNo segment) segment.header.fin
        out := by
  obtain ⟨r', received, arrived⟩ := exists_arrived stored short
  cases arrived with
  | ignored ignored => exact absurd (ignored.1.symm.trans recived) Bool.false_ne_true
  | pushed _ reassembler out pushed =>
      rw [noteSyn_of_recived recived] at received
      exact ⟨reassembler, out, received, pushed⟩

theorem streamNo_of_recived (recived : r.synRecived = true) (segment : TCPSegment) :
    r.streamNo segment = add64 (unwrap segment.header.seqno r.isn r.lastStreamNo) (2 ^ 64 - 1) := by
  rw [streamNo, if_neg (by simp [recived])]

theorem Alike.streamNo_eq (alike : Alike r r')
    (checkpoint : SameCheckpoint r.lastStreamNo r'.lastStreamNo) (segment : TCPSegment) :
    r'.streamNo segment = r.streamNo segment := by
  rw [streamNo_of_recived alike.recived, streamNo_of_recived alike.recived', alike.isn_eq,
    checkpoint.unwrap_eq]

/-- A segment placed at the same index in both makes the checkpoints equal. -/
theorem Alike.receive (alike : Alike r r')
    (checkpoint : SameCheckpoint r.lastStreamNo r'.lastStreamNo)
    (short : segment.payload.length < 2 ^ 64) :
    ∃ final final', r.segmentReceived segment = some final ∧
      r'.segmentReceived segment = some final' ∧ Alike final final' ∧
      SameCheckpoint final.lastStreamNo final'.lastStreamNo := by
  obtain ⟨reassembler, out, received, pushed⟩ := exists_pushed alike.recived alike.stored short
  obtain ⟨reassembler', out', received', pushed'⟩ :=
    exists_pushed alike.recived' alike.stored' short
  have streamNo := alike.streamNo_eq checkpoint segment
  rw [streamNo] at pushed'
  exact ⟨_, _, received, received',
    ⟨alike.recived, alike.recived', alike.isn_eq, alike.same.push pushed pushed', pushed.stored,
      pushed'.stored⟩, Or.inl streamNo⟩

/-- Receivers that are alike and unwrap alike show no difference in any run. -/
theorem Alike.sameForever (alike : Alike r r')
    (checkpoint : SameCheckpoint r.lastStreamNo r'.lastStreamNo) (readBytes : Bytes) :
    SameForever ⟨r, readBytes⟩ ⟨r', readBytes⟩ := by
  intro calls
  induction calls generalizing r r' readBytes with
  | nil => exact fun _ => ⟨_, _, rfl, rfl, alike.indistinguishable readBytes⟩
  | cons call calls ih =>
      intro inRange
      have first := inRange call (List.mem_cons_self ..)
      have rest := fun call member => inRange call (List.mem_cons_of_mem _ member)
      cases call with
      | segment segment =>
          obtain ⟨final, final', received, received', alike', checkpoint'⟩ :=
            alike.receive checkpoint first
          simp only [Observed.run, Observed.call, received, received']
          exact ih alike' checkpoint' readBytes rest
      | read len =>
          have same : r'.streamOut = r.streamOut := alike.same.output_eq
          simp only [Observed.run, Observed.call, same]
          exact ih (alike.read len) checkpoint _ rest

/-! ## A harmless segment -/

/-- A segment that brings nothing new while no end is pending keeps the contents. -/
theorem exists_alike (recived : r.synRecived = true) (stored : Stored r.reassembler)
    (short : segment.payload.length < 2 ^ 64) (noFin : segment.header.fin = false)
    (nothing : r.TakesNothing segment) (settled : ¬ EndPending r.reassembler) :
    ∃ r', r.segmentReceived segment = some r' ∧ Alike r r' ∧
      r'.lastStreamNo = r.streamNo segment := by
  obtain ⟨reassembler, out, received, pushed⟩ := exists_pushed recived stored short
  rw [noFin] at pushed
  exact ⟨_, received, ⟨recived, recived, rfl, pushed.sameContents stored nothing settled, stored,
    pushed.stored⟩, rfl⟩

theorem Harmless.leavesNoTrace {o : Observed} (harmless : o.receiver.Harmless segment)
    (recived : o.receiver.synRecived = true) (stored : Stored o.receiver.reassembler)
    (short : segment.payload.length < 2 ^ 64) (noFin : segment.header.fin = false) :
    LeavesNoTrace o segment := by
  obtain ⟨r', received, alike, checkpoint⟩ :=
    exists_alike recived stored short noFin harmless.nothing harmless.settled
  refine ⟨⟨r', o.readBytes⟩, by simp [Observed.call, received], alike.sameForever ?_ o.readBytes⟩
  rw [checkpoint]
  exact harmless.checkpoint

/-! ## What a difference shows -/

variable {o o' final final' : Observed}

theorem SameForever.now (same : SameForever o o') : Indistinguishable o o' := by
  obtain ⟨_, _, ran, ran', alike⟩ := same [] (by simp)
  cases ran
  cases ran'
  exact alike

/-- The receiver does not matter to what a string can hold. -/
theorem representable_congr (r r' : TCPReceiver) (call : Call) :
    r'.Representable call ↔ r.Representable call := by
  cases call <;> rfl

theorem SameForever.next (same : SameForever o o') (call : Call)
    (inRange : o.receiver.Representable call) (called : o.call call = some final)
    (called' : o'.call call = some final') : SameForever final final' := by
  intro calls bounded
  obtain ⟨last, last', ran, ran', alike⟩ := same (call :: calls) (by
    intro other member
    rcases List.mem_cons.mp member with rfl | later
    · exact inRange
    · exact (representable_congr _ _ other).mp (bounded other later))
  rw [Observed.run, called] at ran
  rw [Observed.run, called'] at ran'
  exact ⟨last, last', ran, ran', alike⟩

/-- Equal acknowledgment numbers mean equal next indices, up to whole cycles. -/
theorem Indistinguishable.next_mod (alike : Indistinguishable o o')
    (recived : o.receiver.synRecived = true) (recived' : o'.receiver.synRecived = true)
    (isn_eq : o'.receiver.isn = o.receiver.isn) :
    o'.receiver.reassembler.nextIndex % 2 ^ 32 = o.receiver.reassembler.nextIndex % 2 ^ 32 := by
  have ackno := alike.ackno
  rw [TCPReceiver.ackno, TCPReceiver.ackno, recived, recived', isn_eq, alike.ended] at ackno
  have offsets := congrArg (fun n => offset n o.receiver.isn) (Option.some.inj ackno)
  simp only [wrap_add64, offset_wrap, getNextIndex] at offsets
  omega

section Visible

variable {reassembler : StreamReassembler} {out : Bytes} {readBytes : Bytes}

/-- A push that shows nothing moves nothing on. -/
theorem out_eq_nil_of_indistinguishable (recived : r.synRecived = true)
    (stored : Stored r.reassembler) (small : r.reassembler.output.capacity < 2 ^ 31)
    (pushed : Pushed r.reassembler reassembler segment.payload (r.streamNo segment)
      segment.header.fin out)
    (alike : Indistinguishable ⟨r, readBytes⟩
      ⟨{ r with lastStreamNo := r.streamNo segment, reassembler := reassembler }, readBytes⟩) :
    out = [] := by
  have next := alike.next_mod recived recived rfl
  have most := pushed.out_length_le stored
  have window : r.reassembler.output.remainingCapacity ≤ r.reassembler.output.capacity :=
    Nat.sub_le _ _
  dsimp only at next
  rw [pushed.next_eq] at next
  exact List.length_eq_zero_iff.mp (by omega)

/-- What is stored beyond the next index shows in the count of unassembled bytes. -/
theorem takesNothing_of_indistinguishable (stored : Stored r.reassembler)
    (pushed : Pushed r.reassembler reassembler segment.payload (r.streamNo segment)
      segment.header.fin [])
    (alike : Indistinguishable ⟨r, readBytes⟩
      ⟨{ r with lastStreamNo := r.streamNo segment, reassembler := reassembler }, readBytes⟩) :
    r.TakesNothing segment := by
  have fronts : r.reassembler.accepted segment.payload (r.streamNo segment) =
      lookup reassembler.reassembler := by
    funext j
    rw [pushed.front, valueAt_nil, Option.none_or]
  rw [TakesNothing, fronts]
  refine stored.separated.lookup_eq_of_size_le pushed.stored.separated (fun j held => ?_)
    alike.unassembled.le
  obtain ⟨value, present⟩ := Option.ne_none_iff_exists'.mp held
  rw [← fronts, present, accepted]
  split
  · exact assign_of_some _ _ _ _ present
  · exact present

/-- A pending end shows as soon as any segment arrives. -/
theorem settled_of_indistinguishable (noFin : segment.header.fin = false)
    (stored : Stored r.reassembler)
    (pushed : Pushed r.reassembler reassembler segment.payload (r.streamNo segment)
      segment.header.fin [])
    (nothing : r.TakesNothing segment)
    (alike : Indistinguishable ⟨r, readBytes⟩
      ⟨{ r with lastStreamNo := r.streamNo segment, reassembler := reassembler }, readBytes⟩) :
    ¬ EndPending r.reassembler := by
  rintro ⟨isOpen, room, unassembled, eof, atEnd⟩
  rw [noFin] at pushed
  obtain ⟨_, _, sizes⟩ := pushed.nothing_new stored nothing
  have ended : reassembler.output.inputEnded = true := by
    refine pushed.ended_iff.mpr (Or.inr ⟨room, sizes.trans unassembled, ?_, ?_⟩)
    · rw [pushed.eof_eq, eof, Bool.true_or]
    · rw [pushed.next_eq, pushed.eofIndex_eq, atEnd]
      rfl
  have shown := alike.ended
  dsimp only [streamOut] at shown
  rw [ended, isOpen] at shown
  cases shown

end Visible

/-! ## Checkpoints apart -/

/-- A segment at an absolute position. -/
def probe (isn : WrappingInt32) (position : Nat) (payload : Bytes) : TCPSegment :=
  { header := { seqno := wrap position isn }, payload := payload }

/-- Checkpoints that agree up to whole cycles are moved alike by a segment just ahead. -/
theorem streamNo_probe (recived : r.synRecived = true) (bound : r.lastStreamNo < 2 ^ 64)
    (position distance : Nat) (near : distance < 2 ^ 31)
    (residue : position % 2 ^ 32 = (r.lastStreamNo + distance) % 2 ^ 32) (payload : Bytes) :
    r.streamNo (probe r.isn position payload) =
      (r.lastStreamNo + distance + (2 ^ 64 - 1)) % 2 ^ 64 := by
  rw [streamNo_of_recived recived, probe,
    unwrap_ahead _ _ bound near ((offset_wrap position r.isn).trans residue), add64, add64]
  omega

/-- Two receivers with the same contents whose checkpoints are whole cycles apart. -/
structure CyclesApart (r r' : TCPReceiver) : Prop extends Alike r r' where
  bound : r.lastStreamNo < 2 ^ 64
  bound' : r'.lastStreamNo < 2 ^ 64
  residue : r'.lastStreamNo % 2 ^ 32 = r.lastStreamNo % 2 ^ 32
  apart : r'.lastStreamNo ≠ r.lastStreamNo

theorem takesNothing_of_empty (empty : segment.payload = []) : r.TakesNothing segment := by
  rw [TakesNothing, empty, accepted]
  split
  · exact assign_of_no_offer _ fun _ _ _ => valueAt_nil _ _
  · rfl

/-- A segment without payload keeps the contents of both receivers. -/
theorem Alike.bare (alike : Alike r r') (settled : ¬ EndPending r.reassembler)
    (empty : segment.payload = []) (noFin : segment.header.fin = false) :
    ∃ final final', r.segmentReceived segment = some final ∧
      r'.segmentReceived segment = some final' ∧ Alike final final' ∧
      final.lastStreamNo = r.streamNo segment ∧ final'.lastStreamNo = r'.streamNo segment ∧
      Alike r final := by
  have short : segment.payload.length < 2 ^ 64 := by
    rw [empty]
    exact Nat.two_pow_pos 64
  have settled' : ¬ EndPending r'.reassembler :=
    (alike.same.endPending_iff alike.stored alike.stored').not.mpr settled
  obtain ⟨final, received, first, checkpoint⟩ := exists_alike alike.recived alike.stored short noFin
    (takesNothing_of_empty empty) settled
  obtain ⟨final', received', second, checkpoint'⟩ := exists_alike alike.recived' alike.stored' short
    noFin (takesNothing_of_empty empty) settled'
  exact ⟨final, final', received, received',
    ⟨first.recived', second.recived', by rw [second.isn_eq, alike.isn_eq, first.isn_eq],
      first.same.symm.trans (alike.same.trans second.same), first.stored', second.stored'⟩,
    checkpoint, checkpoint', first⟩

/-- Both checkpoints move up by one. -/
theorem CyclesApart.climb (apart : CyclesApart r r') (settled : ¬ EndPending r.reassembler) :
    ∃ final final',
      r.segmentReceived (probe r.isn (r.lastStreamNo + 2) []) = some final ∧
      r'.segmentReceived (probe r.isn (r.lastStreamNo + 2) []) = some final' ∧
      CyclesApart final final' ∧ final.lastStreamNo = (r.lastStreamNo + 1) % 2 ^ 64 ∧
      Alike r final := by
  have bound := apart.bound
  have bound' := apart.bound'
  have residue := apart.residue
  have different := apart.apart
  obtain ⟨final, final', received, received', alike, checkpoint, checkpoint', kept⟩ :=
    apart.bare settled (show (probe r.isn (r.lastStreamNo + 2) []).payload = [] from rfl) rfl
  rw [streamNo_probe apart.recived bound _ 2 (by omega) rfl] at checkpoint
  rw [← apart.isn_eq, streamNo_probe apart.recived' bound' _ 2 (by omega) (by omega)]
    at checkpoint'
  refine ⟨final, final', received, received', ⟨alike, ?_, ?_, ?_, ?_⟩, ?_, kept⟩
  · rw [checkpoint]; omega
  · rw [checkpoint']; omega
  · rw [checkpoint, checkpoint']; omega
  · rw [checkpoint, checkpoint']; omega
  · rw [checkpoint]; omega

/-- At the next index a byte is taken by one receiver only. -/
theorem CyclesApart.shown (apart : CyclesApart r r')
    (small : r.reassembler.output.capacity < 2 ^ 31)
    (room : 0 < r.reassembler.output.remainingCapacity)
    (inRange : r.reassembler.nextIndex + r.reassembler.output.remainingCapacity < 2 ^ 64)
    (atNext : r.lastStreamNo = r.reassembler.nextIndex) (readBytes : Bytes) :
    ¬ SameForever ⟨r, readBytes⟩ ⟨r', readBytes⟩ := by
  intro same
  have residue := apart.residue
  have different := apart.apart
  have bound := apart.bound
  have bound' := apart.bound'
  have short : (probe r.isn (r.lastStreamNo + 1) [0]).payload.length < 2 ^ 64 := by
    change 1 < 2 ^ 64
    omega
  obtain ⟨reassembler, out, received, pushed⟩ := exists_pushed apart.recived apart.stored short
  obtain ⟨reassembler', out', received', pushed'⟩ :=
    exists_pushed apart.recived' apart.stored' short
  have index := streamNo_probe apart.recived bound (r.lastStreamNo + 1) 1 (by omega) rfl [0]
  have index' := streamNo_probe apart.recived' bound' (r.lastStreamNo + 1) 1 (by omega) (by omega)
    [0]
  rw [apart.isn_eq] at index'
  -- the payload is the byte at the next index for one receiver and at another for the other
  have moved : out ≠ [] := by
    rw [ne_eq, pushed.out_eq_nil_iff, ← ne_eq, apart.stored.accepted_next_iff, index]
    change (_ ∧ _ < _ + 1) ∧ _ + 1 < _ ∧ _
    omega
  have stayed : out' = [] := by
    rw [pushed'.out_eq_nil_iff, ← not_ne_iff, apart.stored'.accepted_next_iff, index',
      apart.same.next_eq]
    change ¬ ((_ ∧ _ < _ + 1) ∧ _)
    omega
  have most := pushed.out_length_le apart.stored
  have window : r.reassembler.output.remainingCapacity ≤ r.reassembler.output.capacity :=
    Nat.sub_le _ _
  have final := (same.next (.segment _) short (by simp [Observed.call, received]; rfl)
    (by simp [Observed.call, received']; rfl)).now
  have next := final.next_mod apart.recived apart.recived' apart.isn_eq
  dsimp only at next
  rw [pushed.next_eq, pushed'.next_eq, stayed, apart.same.next_eq] at next
  have positive := List.length_pos_of_ne_nil moved
  rw [List.length_nil] at next
  omega

/-- Checkpoints apart can be moved to the next index, where the difference shows. -/
theorem CyclesApart.visible (apart : CyclesApart r r')
    (small : r.reassembler.output.capacity < 2 ^ 31) (positive : 0 < r.reassembler.output.capacity)
    (inRange : r.reassembler.nextIndex + r.reassembler.output.capacity < 2 ^ 64)
    (settled : ¬ EndPending r.reassembler) (readBytes : Bytes) (steps : Nat)
    (distance : (r.lastStreamNo + steps) % 2 ^ 64 = r.reassembler.nextIndex) :
    ¬ SameForever ⟨r, readBytes⟩ ⟨r', readBytes⟩ := by
  intro same
  induction steps generalizing r r' with
  | zero =>
      -- read everything, so that the window is open
      have read := apart.read r.streamOut.buffer.length
      have output : r'.streamOut = r.streamOut := apart.same.output_eq
      have window : (r.popStreamOut r.streamOut.buffer.length).reassembler.output.remainingCapacity
          = r.reassembler.output.capacity := by
        simp [popStreamOut, StreamReassembler.popStreamOut, ByteStream.remainingCapacity, streamOut]
      have bound := apart.bound
      refine CyclesApart.shown ⟨read, apart.bound, apart.bound', apart.residue, apart.apart⟩ small
        (by omega) ?_ ?_ _ (same.next (.read r.streamOut.buffer.length) trivial rfl ?_)
      · rw [window]
        exact inRange
      · exact (by omega : r.lastStreamNo = r.reassembler.nextIndex)
      · rw [Observed.call, output]
  | succ steps ih =>
      obtain ⟨final, final', received, received', apart', checkpoint, kept⟩ := apart.climb settled
      have next := kept.same.next_eq
      have output := kept.same.output_eq
      refine ih apart' (by rw [output]; exact small) (by rw [output]; exact positive)
        (by rw [output, next]; exact inRange)
        ((kept.same.endPending_iff kept.stored kept.stored').not.mpr settled)
        (by rw [checkpoint, next]; omega) ?_
      refine same.next (.segment (probe r.isn (r.lastStreamNo + 2) [])) ?_ ?_ ?_
      · exact Nat.two_pow_pos 64
      · simp [Observed.call, received]
      · simp [Observed.call, received']

/-- A checkpoint that unwraps some sequence number differently shows in some run. -/
theorem Alike.sameCheckpoint (alike : Alike r r') (bound : r.lastStreamNo < 2 ^ 64)
    (bound' : r'.lastStreamNo < 2 ^ 64) (small : r.reassembler.output.capacity < 2 ^ 31)
    (positive : 0 < r.reassembler.output.capacity)
    (inRange : r.reassembler.nextIndex + r.reassembler.output.capacity < 2 ^ 64)
    (settled : ¬ EndPending r.reassembler) {readBytes : Bytes}
    (same : SameForever ⟨r, readBytes⟩ ⟨r', readBytes⟩) :
    SameCheckpoint r.lastStreamNo r'.lastStreamNo := by
  by_contra apart
  obtain ⟨n, different⟩ := exists_unwrap_ne r.isn bound bound' apart
  obtain ⟨residue, below⟩ := unwrap_mod n r.isn bound
  obtain ⟨residue', below'⟩ := unwrap_mod n r.isn bound'
  obtain ⟨final, final', received, received', alike', checkpoint, checkpoint', kept⟩ :=
    alike.bare settled (show ({ header := { seqno := n } } : TCPSegment).payload = [] from rfl) rfl
  rw [streamNo_of_recived alike.recived, add64] at checkpoint
  rw [streamNo_of_recived alike.recived', alike.isn_eq, add64] at checkpoint'
  dsimp only at checkpoint checkpoint'
  have next := kept.same.next_eq
  have output := kept.same.output_eq
  have nextBound := alike.stored.next_lt
  have cyclesApart : CyclesApart final final' := by
    refine ⟨alike', ?_, ?_, ?_, ?_⟩
    · rw [checkpoint]; omega
    · rw [checkpoint']; omega
    · rw [checkpoint, checkpoint']; omega
    · rw [checkpoint, checkpoint']; omega
  refine cyclesApart.visible (by rw [output]; exact small) (by rw [output]; exact positive)
    (by rw [output, next]; exact inRange)
    ((kept.same.endPending_iff kept.stored kept.stored').not.mpr settled) readBytes
    (r.reassembler.nextIndex + 2 ^ 64 - final.lastStreamNo) ?_
    (same.next (.segment { header := { seqno := n } }) (Nat.two_pow_pos 64) ?_ ?_)
  · have finalBound := cyclesApart.bound
    rw [next]
    omega
  · simp [Observed.call, received]
  · simp [Observed.call, received']

/-- Only a segment that leaves the contents and the checkpoint as they were leaves no trace. -/
theorem harmless_of_leavesNoTrace {o : Observed} (traceless : LeavesNoTrace o segment)
    (recived : o.receiver.synRecived = true) (stored : Stored o.receiver.reassembler)
    (bound : o.receiver.lastStreamNo < 2 ^ 64)
    (small : o.receiver.reassembler.output.capacity < 2 ^ 31)
    (positive : 0 < o.receiver.reassembler.output.capacity)
    (inRange : o.receiver.reassembler.nextIndex + o.receiver.reassembler.output.capacity < 2 ^ 64)
    (short : segment.payload.length < 2 ^ 64) (noFin : segment.header.fin = false) :
    o.receiver.Harmless segment := by
  obtain ⟨r, readBytes⟩ := o
  obtain ⟨o', called, same⟩ := traceless
  obtain ⟨reassembler, out, received, pushed⟩ := exists_pushed recived stored short
  simp only [Observed.call, received] at called
  cases called
  obtain rfl := out_eq_nil_of_indistinguishable recived stored small pushed same.now
  have nothing := takesNothing_of_indistinguishable stored pushed same.now
  have settled := settled_of_indistinguishable noFin stored pushed nothing same.now
  rw [noFin] at pushed
  have alike : Alike r
      { r with lastStreamNo := r.streamNo segment, reassembler := reassembler } :=
    ⟨recived, recived, rfl, pushed.sameContents stored nothing settled, stored, pushed.stored⟩
  exact ⟨nothing, settled, alike.sameCheckpoint bound (r.streamNo_lt segment) small positive
    inRange settled same⟩

/-! ## Rejected segments -/

/-- A segment without SYN is placed where its sequence number says, up to whole cycles. -/
theorem Rejects.takesNothing (rejects : r.Rejects segment) (recived : r.synRecived = true)
    (bound : r.lastStreamNo < 2 ^ 64) (noSyn : segment.header.syn = false) :
    r.TakesNothing segment := by
  rw [TakesNothing, accepted]
  split
  · refine assign_of_no_offer _ fun j fromNext inWindow => (valueAt_eq_none_iff _ _ _).mpr ?_
    by_contra offered
    obtain ⟨residue, below⟩ := unwrap_mod segment.header.seqno r.isn bound
    have index := streamNo_of_recived recived segment
    refine rejects (j - r.streamNo segment) (by omega) j inWindow fromNext
      (eq_of_offset_eq r.isn ?_)
    rw [byteSeqno, noSyn, offset_add, offset_wrap]
    unfold add64 at index
    simp only [Bool.false_eq_true, if_false]
    omega
  · rfl

/-- The checkpoint is a 64-bit number and the reassembler keeps to its invariant. -/
structure Tidy (capacity : Nat) (r : TCPReceiver) : Prop where
  stored : Stored r.reassembler
  capacity_eq : r.reassembler.output.capacity = capacity
  checkpoint : r.lastStreamNo < 2 ^ 64

theorem Tidy.arrived {capacity : Nat} (tidy : Tidy capacity r) (arrived : Arrived r segment r') :
    Tidy capacity r' := by
  cases arrived with
  | ignored _ => exact tidy
  | pushed _ _ _ pushed =>
      exact ⟨pushed.stored, pushed.capacity_eq.trans tidy.capacity_eq, r.streamNo_lt segment⟩

theorem tidy_of_reaches {capacity : Nat} (bounded : capacity < 2 ^ 64)
    (reached : Reaches Observed.call (fun o call => o.receiver.Representable call)
      (Observed.fresh capacity) o) : Tidy capacity o.receiver := by
  refine reached.invariant (fun o => Tidy capacity o.receiver)
    ⟨stored_new bounded, rfl, Nat.two_pow_pos 64⟩ ?_
  rintro ⟨r, readBytes⟩ call final tidy inRange next
  cases call with
  | segment segment =>
      obtain ⟨r', received, arrived⟩ := exists_arrived tidy.stored inRange
      simp only [Observed.call, received] at next
      cases next
      exact tidy.arrived arrived
  | read len =>
      cases next
      exact ⟨tidy.stored.read len, tidy.capacity_eq, tidy.checkpoint⟩

/--
After the SYN, a rejected segment leaves no trace if it is harmless, and only
then as long as the window ends below `2 ^ 64`.  Without SYN it never brings
anything that is taken, so that a pending end and the checkpoint are all that
matters.
-/
theorem rejected_leaves_no_trace {capacity : Nat} (small : capacity < 2 ^ 31)
    (reached : Reaches Observed.call (fun o call => o.receiver.Representable call)
      (Observed.fresh capacity) o) (recived : o.receiver.synRecived = true)
    (segment : TCPSegment) (short : segment.payload.length < 2 ^ 64)
    (noFin : segment.header.fin = false) (rejects : o.receiver.Rejects segment) :
    (o.receiver.Harmless segment → LeavesNoTrace o segment) ∧
      (0 < capacity → o.receiver.reassembler.nextIndex + capacity < 2 ^ 64 →
        LeavesNoTrace o segment → o.receiver.Harmless segment) ∧
      (segment.header.syn = false → o.receiver.TakesNothing segment) := by
  have tidy := tidy_of_reaches (by omega) reached
  have capacity_eq := tidy.capacity_eq
  refine ⟨fun harmless => harmless.leavesNoTrace recived tidy.stored short noFin, ?_, ?_⟩
  · intro positive inRange traceless
    exact harmless_of_leavesNoTrace traceless recived tidy.stored tidy.checkpoint (by omega)
      (by omega) (by omega) short noFin
  · exact rejects.takesNothing recived tidy.checkpoint

/-- A byte sent again is harmless while the checkpoint is in the first half cycle. -/
theorem rejected_leaves_no_trace_sent_again :
    ∃ o, Reaches Observed.call (fun o call => o.receiver.Representable call)
        (Observed.fresh 4) o ∧ o.receiver.streamOut.buffer = [97, 98, 99] ∧
      LeavesNoTrace o { header := { seqno := ⟨9⟩ }, payload := [98] } := by
  have start : Reaches Observed.call (fun o call => o.receiver.Representable call)
    (Observed.fresh 4) (Observed.fresh 4) := .refl
  have one := start.tail (Call.segment { header := { syn := true, seqno := ⟨7⟩ } })
    (by decide) rfl
  have two := one.tail (Call.segment { header := { seqno := ⟨8⟩ }, payload := [97, 98] })
    (by decide) rfl
  have three := two.tail (Call.segment { header := { seqno := ⟨10⟩ }, payload := [99] })
    (by decide) rfl
  have traceless := rejected_leaves_no_trace (by decide) three rfl
    { header := { seqno := ⟨9⟩ }, payload := [98] } (by decide) rfl (by decide)
  exact ⟨_, three, rfl, traceless.1 ⟨traceless.2.2 rfl, fun pending =>
    absurd pending.2.2.2.1 (by decide), Or.inr (by decide)⟩⟩

/-- An empty segment half a cycle ahead: the first byte is then placed one cycle too high. -/
theorem stray_displaces_byte :
    ¬ ∀ (capacity : Nat) (o : Observed), capacity < 2 ^ 31 →
      Reaches Observed.call (fun o call => o.receiver.Representable call)
        (Observed.fresh capacity) o → o.receiver.synRecived = true →
      ∀ segment : TCPSegment, segment.payload.length < 2 ^ 64 → segment.header.fin = false →
        o.receiver.Rejects segment → LeavesNoTrace o segment := by
  intro traceless
  have start : Reaches Observed.call (fun o call => o.receiver.Representable call)
    (Observed.fresh 4) (Observed.fresh 4) := .refl
  have one := start.tail (Call.segment { header := { syn := true, seqno := ⟨7⟩ } })
    (by decide) rfl
  obtain ⟨o', called, same⟩ := traceless 4 _ (by decide) one rfl
    { header := { seqno := ⟨2147483665⟩ } } (by decide) rfl (by decide)
  obtain ⟨final, final', ran, ran', alike⟩ :=
    same [Call.segment { header := { seqno := ⟨8⟩ }, payload := [97] }] (by decide)
  cases called
  have taken : (some final).map (fun o => o.receiver.ackno) = some (some ⟨9⟩) := by
    rw [← ran]
    decide
  have dropped : (some final').map (fun o => o.receiver.ackno) = some (some ⟨8⟩) := by
    rw [← ran']
    decide
  have equal : some (some (⟨9⟩ : WrappingInt32)) = some (some ⟨8⟩) :=
    taken.symm.trans ((congrArg some alike.ackno.symm).trans dropped)
  exact absurd equal (by decide)

end Sponge.TCPReceiver
