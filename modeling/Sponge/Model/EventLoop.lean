import Sponge.Model.Buffer

/-!
# File descriptors and the event loop

The flags and counters of `util/file_descriptor.hh`, `FileDescriptor::read`, and
`util/eventloop.cc`.  Callbacks act on a world and may throw; what the system
answers to the calls they make is an argument.  A rule is known by a name, and the
loop keeps the list of the names of its rules.
-/

namespace Sponge

/-- What is known of a descriptor by all that share it. -/
structure FDWrapper where
  eof : Bool := false
  closed : Bool := false
  readCount : UInt32 := 0
  writeCount : UInt32 := 0
  deriving DecidableEq

namespace FDWrapper

def registerRead (fd : FDWrapper) : FDWrapper := { fd with readCount := fd.readCount + 1 }

def registerWrite (fd : FDWrapper) : FDWrapper := { fd with writeCount := fd.writeCount + 1 }

end FDWrapper

namespace FileDescriptor

/-- `BUFFER_SIZE`: the maximum size of a read. -/
def bufferSize : Nat := 1024 * 1024

/-- Read up to `limit` bytes; `bytes` is what the system call has read. -/
def read (fd : FDWrapper) (limit : Nat) (bytes : Bytes) : Option (Bytes × FDWrapper) :=
  let sizeToRead := min bufferSize limit
  let fd := if limit > 0 ∧ bytes.length = 0 then { fd with eof := true } else fd
  if bytes.length > sizeToRead then none else some (bytes, fd.registerRead)

/-- The descriptor after a read; a read of nothing that might have read something ends it. -/
def afterRead (fd : FDWrapper) (limit : Nat) (bytes : Bytes) : FDWrapper :=
  { fd with eof := fd.eof || decide (limit > 0 ∧ bytes.length = 0) }.registerRead

theorem read_eq_some_iff {fd fd' : FDWrapper} {limit : Nat} {bytes str : Bytes} :
    read fd limit bytes = some (str, fd') ↔
      bytes.length ≤ min bufferSize limit ∧ str = bytes ∧ fd' = afterRead fd limit bytes := by
  have after : (if limit > 0 ∧ bytes.length = 0 then { fd with eof := true } else fd).registerRead =
      afterRead fd limit bytes := by
    rw [afterRead]
    split
    · rename_i atEnd
      rw [decide_eq_true atEnd, Bool.or_true]
    · rename_i going
      rw [decide_eq_false going, Bool.or_false]
  rw [read, after]
  split
  · rename_i tooMuch
    exact iff_of_false (Option.some_ne_none _).symm
      fun fits => absurd fits.1 (Nat.not_le.mpr tooMuch)
  · rename_i fits
    rw [Option.some_inj, Prod.mk.injEq, eq_comm, @eq_comm _ _ fd']
    exact (and_iff_right (Nat.not_lt.mp fits)).symm

end FileDescriptor

namespace EventLoop

/-- Interest in reading or in writing. -/
inductive Direction where
  | In
  | Out
  deriving DecidableEq

variable {κ σ ρ ε : Type}

/-- A condition and what to do when it is met. -/
structure Rule (σ ρ ε : Type) where
  fd : σ → FDWrapper
  direction : Direction
  callback : σ → ρ → Except ε σ
  interest : σ → Bool
  cancel : σ → σ := id

/-- The number of times the descriptor has been read or written. -/
def Rule.serviceCount (rule : Rule σ ρ ε) (world : σ) : UInt32 :=
  match rule.direction with
  | .In => (rule.fd world).readCount
  | .Out => (rule.fd world).writeCount

inductive Result where
  | success
  | timeout
  | exit
  deriving DecidableEq

/-- The exceptions of `wait_next_event`. -/
inductive Error (ε : Type) where
  /-- `EventLoop: error on polled file descriptor`. -/
  | polled
  /-- `EventLoop: busy wait detected`. -/
  | busyWait
  /-- A callback has thrown. -/
  | callback (fault : ε)
  /-- An access outside of `pollfds`. -/
  | outOfRange

/-- What `poll` reports; `err` is `POLLERR` or `POLLNVAL`. -/
structure Revents where
  err : Bool := false
  hup : Bool := false
  readable : Bool := false
  writable : Bool := false
  deriving DecidableEq

/-- An entry of `pollfds`: the descriptor of a rule, and the direction if it is asked for. -/
structure PollFd (κ : Type) where
  fd : κ
  events : Option Direction
  revents : Revents := {}

/-- `revents & events`. -/
def PollFd.ready (entry : PollFd κ) : Bool :=
  match entry.events with
  | some .In => entry.revents.readable
  | some .Out => entry.revents.writable
  | none => false

/-- What `poll` answers: no event, a signal, another failure, or the events of each entry. -/
inductive Poll (κ : Type) where
  | timeout
  | interrupted
  | failed
  | ready (revents : κ → Revents)

/-- The rules that are left, their entries and the world after the first loop. -/
structure SetUp (κ σ : Type) where
  rules : List κ
  pollfds : List (PollFd κ)
  world : σ

/-- The first loop: cancel the rules that are done, and set up an entry for each other one. -/
def setUp (rule : κ → Rule σ ρ ε) : List κ → σ → SetUp κ σ
  | [], world => ⟨[], [], world⟩
  | name :: names, world =>
      let thisRule := rule name
      if thisRule.direction = .In ∧ (thisRule.fd world).eof then
        setUp rule names (thisRule.cancel world)
      else if (thisRule.fd world).closed then setUp rule names (thisRule.cancel world)
      else
        let events := if thisRule.interest world then some thisRule.direction else none
        let rest := setUp rule names world
        { rest with
          rules := name :: rest.rules
          pollfds := { fd := name, events } :: rest.pollfds }

/-- The second loop: go through the rules and, by index, through the results of `poll`. -/
def serve (rule : κ → Rule σ ρ ε) (answer : κ → ρ) (pollfds : List (PollFd κ)) :
    Nat → List κ → σ → Except (Error ε) (List κ × σ)
  | _, [], world => .ok ([], world)
  | idx, name :: names, world =>
      match pollfds[idx]? with
      | none => .error .outOfRange
      | some thisPollfd =>
          let thisRule := rule name
          if thisPollfd.revents.err then .error .polled
          else if thisPollfd.revents.hup ∧ thisPollfd.events.isSome ∧ ¬ thisPollfd.ready then
            -- the rule is erased, and the index moves on with it
            serve rule answer pollfds (idx + 1) names (thisRule.cancel world)
          else if thisPollfd.ready then
            match thisRule.callback world (answer name) with
            | .error fault => .error (.callback fault)
            | .ok world' =>
                if thisRule.serviceCount world = thisRule.serviceCount world' ∧
                    thisRule.interest world' then
                  .error .busyWait
                else
                  (serve rule answer pollfds (idx + 1) names world').map
                    fun rest => (name :: rest.1, rest.2)
          else
            (serve rule answer pollfds (idx + 1) names world).map
              fun rest => (name :: rest.1, rest.2)

/-- Poll once and serve what is ready. -/
def waitNextEvent (rule : κ → Rule σ ρ ε) (names : List κ) (world : σ) (poll : Poll κ)
    (answer : κ → ρ) : Except (Error ε) (Result × List κ × σ) :=
  let start := setUp rule names world
  let serveAll := fun pollfds =>
    (serve rule answer pollfds 0 start.rules start.world).map fun final => (.success, final)
  if ¬ start.pollfds.any fun entry => entry.events.isSome then
    .ok (.exit, start.rules, start.world)
  else
    match poll with
    | .timeout => .ok (.timeout, start.rules, start.world)
    | .interrupted => .ok (.exit, start.rules, start.world)
    -- a failure that is not a signal is dropped, with no event reported
    | .failed => serveAll start.pollfds
    | .ready revents =>
        serveAll (start.pollfds.map fun entry => { entry with revents := revents entry.fd })

end EventLoop

end Sponge
