import Mathlib.Data.List.Nodup
import Sponge.Library.Run
import Sponge.Model.EventLoop

/-!
# What a call of the event loop does

A call gives each rule at most one turn: it cancels the rule, which is then gone,
or it runs the callback.  The index into the results of `poll` stays with the rule
it belongs to, also when rules are erased on the way.
-/

namespace Sponge.EventLoop

variable {κ σ ρ ε : Type}

/-- A call that has returned. -/
theorem ok_of_toOption {result : Except ε σ} {world : σ} (returned : world ∈ result.toOption) :
    result = .ok world := by
  cases result with
  | error error => cases returned
  | ok other =>
      cases returned
      rfl

/-- The descriptor can serve the rule no more. -/
def Rule.Done (rule : Rule σ ρ ε) (world : σ) : Prop :=
  (rule.direction = .In ∧ (rule.fd world).eof = true) ∨ (rule.fd world).closed = true

/-- The report says that the direction is ready. -/
def Revents.has (revents : Revents) : Direction → Bool
  | .In => revents.readable
  | .Out => revents.writable

/-- What `poll` has reported for a rule, if it has reported anything. -/
def Poll.reported (poll : Poll κ) (name : κ) : Revents :=
  match poll with
  | .ready revents => revents name
  | _ => {}

/-- What the loop does with a rule. -/
inductive Turn (κ ρ : Type) where
  | cancel (name : κ)
  | call (name : κ) (answer : ρ)

namespace Turn

def name : Turn κ ρ → κ
  | .cancel name => name
  | .call name _ => name

def cancelled : Turn κ ρ → Option κ
  | .cancel name => some name
  | .call _ _ => none

/-- What a turn does to the world. -/
def perform (rule : κ → Rule σ ρ ε) (world : σ) : Turn κ ρ → Option σ
  | .cancel name => some ((rule name).cancel world)
  | .call name reply => ((rule name).callback world reply).toOption

end Turn

/-- The rules installed, those of them that have not had their turn, and the world. -/
structure State (κ σ : Type) where
  rules : List κ
  waiting : List κ
  world : σ

section Turns

variable (rule : κ → Rule σ ρ ε) (poll : Poll κ) (asking : List (PollFd κ)) (answer : κ → ρ)

/-- The rule has an entry that asks for its direction. -/
def Asks (name : κ) : Prop :=
  ∃ entry ∈ asking, entry.fd = name ∧ entry.events = some (rule name).direction

/--
A rule is cancelled if its descriptor is done, or if it has asked and the descriptor has
hung up with nothing ready; it is called back, with the answer of the system, if it has
asked and is ready.
-/
def Turn.Grounded (world : σ) : Turn κ ρ → Prop
  | .cancel name => (rule name).Done world ∨ Asks rule asking name ∧
      (poll.reported name).hup = true ∧ (poll.reported name).has (rule name).direction = false
  | .call name reply => reply = answer name ∧ Asks rule asking name ∧
      (poll.reported name).has (rule name).direction = true

variable [DecidableEq κ]

def turn (state : State κ σ) : Turn κ ρ → Option (State κ σ)
  | .cancel name =>
      some ⟨state.rules.erase name, state.waiting.erase name, (rule name).cancel state.world⟩
  | .call name reply =>
      ((rule name).callback state.world reply).toOption.map fun world =>
        ⟨state.rules, state.waiting.erase name, world⟩

/-- A rule may have its turn: it is installed, waits for it, and there is a ground. -/
def Due (state : State κ σ) (op : Turn κ ρ) : Prop :=
  op.name ∈ state.rules ∧ op.name ∈ state.waiting ∧
    op.Grounded rule poll asking answer state.world

/-- What has happened when a call throws. -/
def Fails (state : State κ σ) : Error ε → Prop
  | .polled => ∃ name ∈ state.rules, (poll.reported name).err = true
  | .busyWait => ∃ name ∈ state.rules, ∃ world,
      (rule name).callback state.world (answer name) = .ok world ∧
        (rule name).serviceCount state.world = (rule name).serviceCount world ∧
        (rule name).interest world = true
  | .callback fault => ∃ name ∈ state.rules,
      (rule name).callback state.world (answer name) = .error fault
  | .outOfRange => False

/-- The states of a call that starts in `state`. -/
def Passes (state : State κ σ) : State κ σ → Prop :=
  Reaches (turn rule) (Due rule poll asking answer) state

end Turns

/-! ## The first loop -/

section SetUp

variable {rule : κ → Rule σ ρ ε}

/-- A rule that is done is cancelled and leaves no entry. -/
theorem setUp_of_done {name : κ} {world : σ} (done : (rule name).Done world) (names : List κ) :
    setUp rule (name :: names) world = setUp rule names ((rule name).cancel world) := by
  rw [setUp]
  rcases done with atEnd | closed
  · exact if_pos atEnd
  · dsimp only
    rw [if_pos closed, ite_self]

theorem setUp_of_not_done {name : κ} {world : σ} (going : ¬ (rule name).Done world)
    (names : List κ) :
    setUp rule (name :: names) world =
      { setUp rule names world with
        rules := name :: (setUp rule names world).rules
        pollfds :=
          ⟨name, if (rule name).interest world then some (rule name).direction else none, {}⟩ ::
            (setUp rule names world).pollfds } := by
  obtain ⟨reading, isOpen⟩ := not_or.mp going
  rw [setUp]
  dsimp only
  rw [if_neg reading, if_neg isOpen]

theorem sublist_setUp (names : List κ) (world : σ) :
    (setUp rule names world).rules.Sublist names := by
  induction names generalizing world with
  | nil => exact .slnil
  | cons name names ih =>
      by_cases done : (rule name).Done world
      · rw [setUp_of_done done]
        exact (ih _).cons name
      · rw [setUp_of_not_done done]
        exact (ih _).cons_cons name

/-- There is one entry for each rule, in order. -/
theorem fd_setUp (names : List κ) (world : σ) :
    (setUp rule names world).pollfds.map PollFd.fd = (setUp rule names world).rules := by
  induction names generalizing world with
  | nil => rfl
  | cons name names ih =>
      by_cases done : (rule name).Done world
      · rw [setUp_of_done done]
        exact ih _
      · rw [setUp_of_not_done done]
        exact congrArg (name :: ·) (ih _)

/-- An entry asks for the direction of its rule, or for nothing, and reports nothing yet. -/
theorem events_setUp (names : List κ) (world : σ) :
    ∀ entry ∈ (setUp rule names world).pollfds,
      (∀ direction ∈ entry.events, direction = (rule entry.fd).direction) ∧
        entry.revents = {} := by
  induction names generalizing world with
  | nil => exact fun _ mem => absurd mem List.not_mem_nil
  | cons name names ih =>
      by_cases done : (rule name).Done world
      · rw [setUp_of_done done]
        exact ih _
      · rw [setUp_of_not_done done]
        refine List.forall_mem_cons.mpr ⟨⟨fun direction asked => ?_, rfl⟩, ih _⟩
        dsimp only at asked
        split at asked
        · exact (Option.mem_some_iff.mp asked).symm
        · cases asked

theorem nodup_erased {kept names : List κ} {name : κ} (nodup : (kept ++ name :: names).Nodup) :
    (kept ++ names).Nodup :=
  nodup.sublist ((List.sublist_cons_self name names).append_left kept)

variable [DecidableEq κ]

/-- A rule is erased where it stands. -/
theorem erase_middle {kept names : List κ} {name : κ} (nodup : (kept ++ name :: names).Nodup) :
    (kept ++ name :: names).erase name = kept ++ names := by
  have fresh : name ∉ kept := fun old =>
    (List.nodup_append.mp nodup).2.2 name old name List.mem_cons_self rfl
  rw [List.erase_append_right _ fresh, List.erase_cons_head]

/-- Each rule that is done has its turn, and the others still wait for theirs. -/
theorem passes_setUp (poll : Poll κ) (asking : List (PollFd κ)) (answer : κ → ρ)
    (kept names : List κ) (world : σ) (nodup : (kept ++ names).Nodup) :
    Passes rule poll asking answer ⟨kept ++ names, kept ++ names, world⟩
      ⟨kept ++ (setUp rule names world).rules, kept ++ (setUp rule names world).rules,
        (setUp rule names world).world⟩ := by
  induction names generalizing kept world with
  | nil => exact .refl
  | cons name names ih =>
      by_cases done : (rule name).Done world
      · have mem : name ∈ kept ++ name :: names := List.mem_append_right _ List.mem_cons_self
        have cancelled : Passes rule poll asking answer
            ⟨kept ++ name :: names, kept ++ name :: names, world⟩
            ⟨kept ++ names, kept ++ names, (rule name).cancel world⟩ := by
          refine Reaches.refl.tail (.cancel name) ⟨mem, mem, .inl done⟩ ?_
          rw [turn, erase_middle nodup]
        rw [setUp_of_done done]
        exact cancelled.trans (ih kept _ (nodup_erased nodup))
      · rw [setUp_of_not_done done]
        have later := ih (kept ++ [name]) world (by rwa [List.append_assoc])
        rwa [List.append_assoc, List.append_assoc] at later

end SetUp

section Quiet

variable {rule : κ → Rule σ ρ ε}

/-- What the rules to come keep when they are cancelled is kept by the first loop. -/
theorem kept_setUp_of_mem {Holds : σ → Prop} {names : List κ}
    (kept : ∀ name ∈ names, ∀ world, Holds world → Holds ((rule name).cancel world))
    (world : σ) (holds : Holds world) : Holds (setUp rule names world).world := by
  induction names generalizing world with
  | nil => exact holds
  | cons name names ih =>
      obtain ⟨first, rest⟩ := List.forall_mem_cons.mp kept
      by_cases done : (rule name).Done world
      · rw [setUp_of_done done]
        exact ih rest _ (first world holds)
      · rw [setUp_of_not_done done]
        exact ih rest world holds

/-- What every cancelled rule keeps is kept by the first loop. -/
theorem kept_setUp {Holds : σ → Prop}
    (kept : ∀ name world, Holds world → Holds ((rule name).cancel world))
    (names : List κ) (world : σ) (holds : Holds world) : Holds (setUp rule names world).world :=
  kept_setUp_of_mem (fun name _ => kept name) world holds

/-- No entry asks for anything, and cancelling later rules arouses no interest. -/
theorem uninterested_setUp {names : List κ} {world : σ}
    (quiet : ∀ entry ∈ (setUp rule names world).pollfds, entry.events = none)
    (calm : names.Pairwise fun earlier later => ∀ world,
      (rule earlier).interest world = false →
        (rule earlier).interest ((rule later).cancel world) = false) :
    ∀ name ∈ (setUp rule names world).rules,
      (rule name).interest (setUp rule names world).world = false := by
  induction names generalizing world with
  | nil => exact fun _ none => absurd none List.not_mem_nil
  | cons name names ih =>
      obtain ⟨first, rest⟩ := List.pairwise_cons.mp calm
      by_cases done : (rule name).Done world
      · rw [setUp_of_done done] at quiet ⊢
        exact ih quiet rest
      · rw [setUp_of_not_done done] at quiet ⊢
        obtain ⟨silent, others⟩ := List.forall_mem_cons.mp quiet
        refine List.forall_mem_cons.mpr ⟨kept_setUp_of_mem first world ?_, ih others rest⟩
        cases interest : (rule name).interest world with
        | false => rfl
        | true =>
            rw [interest] at silent
            cases silent

/-- No entry asks for anything, so a rule that stays was not interested. -/
theorem uninterested_of_quiet {before after : List κ} {name : κ} {world : σ} (once : name ∉ after)
    (quiet : ∀ entry ∈ (setUp rule (before ++ name :: after) world).pollfds, entry.events = none)
    (stays : name ∈ (setUp rule (before ++ name :: after) world).rules)
    (stable : ∀ other ∈ before, ∀ world,
      (rule name).interest ((rule other).cancel world) = (rule name).interest world) :
    (rule name).interest world = false := by
  have asked : ∀ {interest : Bool} {direction : Direction},
      (if interest then some direction else none) = none → interest = false := by
    intro interest direction nothing
    cases interest with
    | false => rfl
    | true => cases nothing
  induction before generalizing world with
  | nil =>
      by_cases done : (rule name).Done world
      · rw [List.nil_append, setUp_of_done done] at stays
        exact absurd ((sublist_setUp after _).subset stays) once
      · rw [List.nil_append, setUp_of_not_done done] at quiet
        exact asked (quiet _ List.mem_cons_self)
  | cons other before ih =>
      obtain ⟨first, rest⟩ := List.forall_mem_cons.mp stable
      by_cases done : (rule other).Done world
      · rw [List.cons_append, setUp_of_done done] at quiet stays
        rw [← first world]
        exact ih quiet stays rest
      · rw [List.cons_append, setUp_of_not_done done] at quiet stays
        rcases List.mem_cons.mp stays with rfl | later
        · exact asked (quiet _ List.mem_cons_self)
        · exact ih (fun entry mem => quiet entry (List.mem_cons_of_mem _ mem)) later rest

end Quiet

/-! ## The second loop -/

section Serve

variable {rule : κ → Rule σ ρ ε} {poll : Poll κ} {asking : List (PollFd κ)} {answer : κ → ρ}

/-- The entry is one of those that ask, with what `poll` has reported for its rule. -/
structure Entry (rule : κ → Rule σ ρ ε) (poll : Poll κ) (asking : List (PollFd κ))
    (entry : PollFd κ) : Prop where
  asked : ∀ direction ∈ entry.events, direction = (rule entry.fd).direction
  asks : entry.events.isSome = true → Asks rule asking entry.fd
  reported : entry.revents = poll.reported entry.fd

/-- An entry that asks is ready if the direction of its rule is reported. -/
theorem Entry.ready_eq {entry : PollFd κ} (isEntry : Entry rule poll asking entry) :
    entry.ready =
      (entry.events.isSome && (poll.reported entry.fd).has (rule entry.fd).direction) := by
  rw [← isEntry.reported]
  unfold PollFd.ready
  cases asked : entry.events with
  | none => rfl
  | some direction =>
      rw [← isEntry.asked direction asked]
      cases direction <;> rfl

variable [DecidableEq κ]

/--
What a run of the second loop leaves: the rules and the world reached by turns, with
no rule that was ready left waiting, or an exception for a reason.
-/
def Served (rule : κ → Rule σ ρ ε) (poll : Poll κ) (asking : List (PollFd κ)) (answer : κ → ρ)
    (pollfds : List (PollFd κ)) (start : State κ σ) (kept idle : List κ) :
    Except (Error ε) (List κ × σ) → Prop
  | .ok (names, world) => ∃ left,
      Passes rule poll asking answer start ⟨kept ++ names, idle ++ left, world⟩ ∧
        ∀ name ∈ left, ∃ entry ∈ pollfds, entry.fd = name ∧ entry.ready = false
  | .error error => ∃ state, Passes rule poll asking answer start state ∧
      Fails rule poll answer state error

/-- What follows a turn is what follows the state it leads to. -/
theorem Served.after {pollfds : List (PollFd κ)} {start next : State κ σ} {kept idle : List κ}
    {outcome : Except (Error ε) (List κ × σ)}
    (served : Served rule poll asking answer pollfds next kept idle outcome)
    (passes : Passes rule poll asking answer start next) :
    Served rule poll asking answer pollfds start kept idle outcome := by
  cases outcome with
  | error error =>
      obtain ⟨state, later, fails⟩ := served
      exact ⟨state, passes.trans later, fails⟩
  | ok final =>
      obtain ⟨left, later, unready⟩ := served
      exact ⟨left, passes.trans later, unready⟩

/-- A rule that is kept stands before those that are kept of the rest. -/
theorem Served.keep {pollfds : List (PollFd κ)} {start : State κ σ} {kept idle : List κ} {name : κ}
    {outcome : Except (Error ε) (List κ × σ)}
    (served : Served rule poll asking answer pollfds start (kept ++ [name]) idle outcome) :
    Served rule poll asking answer pollfds start kept idle
      (outcome.map fun rest => (name :: rest.1, rest.2)) := by
  cases outcome with
  | error error => exact served
  | ok final =>
      obtain ⟨left, later, unready⟩ := served
      rw [List.append_assoc] at later
      exact ⟨left, later, unready⟩

/-- A rule that was not ready has had no turn. -/
theorem Served.leave {pollfds : List (PollFd κ)} {start : State κ σ} {kept idle : List κ}
    {entry : PollFd κ} {outcome : Except (Error ε) (List κ × σ)} (mem : entry ∈ pollfds)
    (unready : entry.ready = false)
    (served : Served rule poll asking answer pollfds start kept (idle ++ [entry.fd]) outcome) :
    Served rule poll asking answer pollfds start kept idle outcome := by
  cases outcome with
  | error error => exact served
  | ok final =>
      obtain ⟨left, later, others⟩ := served
      rw [List.append_assoc] at later
      exact ⟨entry.fd :: left, later, List.forall_mem_cons.mpr ⟨⟨entry, mem, rfl, unready⟩, others⟩⟩

/-- The second loop, from the entry of its first rule on. -/
theorem served_serve (pollfds : List (PollFd κ))
    (entries : ∀ entry ∈ pollfds, Entry rule poll asking entry) (idx : Nat)
    (kept idle names : List κ) (world : σ) (aligned : (pollfds.drop idx).map PollFd.fd = names)
    (nodup : (kept ++ names).Nodup) (nodupIdle : (idle ++ names).Nodup) :
    Served rule poll asking answer pollfds ⟨kept ++ names, idle ++ names, world⟩ kept idle
      (serve rule answer pollfds idx names world) := by
  induction names generalizing idx kept idle world with
  | nil => exact ⟨[], .refl, fun _ mem => absurd mem List.not_mem_nil⟩
  | cons name names ih =>
      obtain ⟨entry, rest, split, rfl, later⟩ := List.map_eq_cons_iff.mp aligned
      have found : pollfds[idx]? = some entry := by
        rw [← List.head?_drop, split]
        rfl
      have next : (pollfds.drop (idx + 1)).map PollFd.fd = names := by
        rw [← List.tail_drop, split]
        exact later
      have mem : entry ∈ pollfds := List.mem_of_getElem? found
      have isEntry := entries entry mem
      have installed : entry.fd ∈ kept ++ entry.fd :: names :=
        List.mem_append_right _ List.mem_cons_self
      have waits : entry.fd ∈ idle ++ entry.fd :: names :=
        List.mem_append_right _ List.mem_cons_self
      rw [serve, found]
      dsimp only
      split
      · rename_i err
        exact ⟨_, .refl, entry.fd, installed, by rwa [← isEntry.reported]⟩
      split
      · -- the rule is erased from both lists
        rename_i hungUp
        obtain ⟨hup, asked, unready⟩ := hungUp
        refine (ih (idx + 1) kept idle _ next (nodup_erased nodup)
          (nodup_erased nodupIdle)).after ?_
        refine Reaches.refl.tail (.cancel entry.fd)
          ⟨installed, waits, .inr ⟨isEntry.asks asked, ?_, ?_⟩⟩ ?_
        · rwa [← isEntry.reported]
        · simpa [isEntry.ready_eq, asked] using unready
        · rw [turn, erase_middle nodup, erase_middle nodupIdle]
      split
      · -- the rule has its turn and stays
        rename_i ready
        obtain ⟨asked, reported⟩ := Bool.and_eq_true_iff.mp (isEntry.ready_eq.symm.trans ready)
        cases called : (rule entry.fd).callback world (answer entry.fd) with
        | error fault => exact ⟨_, .refl, entry.fd, installed, called⟩
        | ok world' =>
            dsimp only
            split
            · rename_i busy
              exact ⟨_, .refl, entry.fd, installed, world', called, busy⟩
            · refine Served.keep (Served.after (ih (idx + 1) (kept ++ [entry.fd]) idle world' next
                (by rwa [List.append_assoc]) (nodup_erased nodupIdle)) ?_)
              refine Reaches.refl.tail (.call entry.fd (answer entry.fd))
                ⟨installed, waits, rfl, isEntry.asks asked, reported⟩ ?_
              rw [turn, called, erase_middle nodupIdle, List.append_assoc]
              rfl
      · rename_i unready
        have served := ih (idx + 1) (kept ++ [entry.fd]) (idle ++ [entry.fd]) world next
          (by rwa [List.append_assoc]) (by rwa [List.append_assoc])
        rw [List.append_assoc, List.append_assoc] at served
        exact (served.leave mem (by simpa using unready)).keep

end Serve

/-! ## A whole call -/

section Call

variable [DecidableEq κ] (rule : κ → Rule σ ρ ε) (poll : Poll κ) (answer : κ → ρ)

/-- What a call may be trusted to do, for the result it returns or the exception it throws. -/
def Contract (names : List κ) (world : σ) : Except (Error ε) (Result × List κ × σ) → Prop
  | .ok (result, names', world') => ∃ waiting,
      Passes rule poll (setUp rule names world).pollfds answer ⟨names, names, world⟩
        ⟨names', waiting, world'⟩ ∧
      match result with
      | .exit => poll = .interrupted ∨
          ∀ entry ∈ (setUp rule names world).pollfds, entry.events = none
      | .timeout => poll = .timeout
      | .success => ∀ name ∈ waiting, ∃ entry ∈ (setUp rule names world).pollfds,
          entry.fd = name ∧
            (entry.events = none ∨ (poll.reported name).has (rule name).direction = false)
  | .error error => ∃ state,
      Passes rule poll (setUp rule names world).pollfds answer ⟨names, names, world⟩ state ∧
        Fails rule poll answer state error

/-- The entries as `poll` leaves them. -/
theorem contract_serve (names : List κ) (world : σ) (nodup : names.Nodup) :
    Contract rule poll answer names world
      ((serve rule answer
          ((setUp rule names world).pollfds.map fun entry =>
            { entry with revents := poll.reported entry.fd })
          0 (setUp rule names world).rules (setUp rule names world).world).map
        fun final => (.success, final)) := by
  let pollfds := (setUp rule names world).pollfds.map fun entry =>
    { entry with revents := poll.reported entry.fd }
  have entries : ∀ entry ∈ pollfds, Entry rule poll (setUp rule names world).pollfds entry := by
    intro entry mem
    obtain ⟨original, found, rfl⟩ := List.mem_map.mp mem
    have asked := (events_setUp names world original found).1
    refine ⟨asked, fun asks => ?_, rfl⟩
    obtain ⟨direction, events⟩ := Option.isSome_iff_exists.mp asks
    exact ⟨original, found, rfl, events.trans (congrArg some (asked direction events))⟩
  have aligned : (pollfds.drop 0).map PollFd.fd = (setUp rule names world).rules := by
    rw [List.drop_zero, List.map_map]
    exact fd_setUp names world
  have distinct : (setUp rule names world).rules.Nodup := nodup.sublist (sublist_setUp names world)
  have served : Served rule poll (setUp rule names world).pollfds answer pollfds
      ⟨names, names, world⟩ [] []
      (serve rule answer pollfds 0 (setUp rule names world).rules (setUp rule names world).world) :=
    (served_serve pollfds entries 0 [] [] _ _ aligned distinct distinct).after
      (passes_setUp poll _ answer [] names world nodup)
  change Contract rule poll answer names world ((serve rule answer pollfds 0 _ _).map _)
  cases outcome : serve rule answer pollfds 0 (setUp rule names world).rules
      (setUp rule names world).world with
  | error error =>
      rw [outcome] at served
      exact served
  | ok final =>
      rw [outcome] at served
      obtain ⟨left, passes, unready⟩ := served
      refine ⟨left, passes, fun name mem => ?_⟩
      obtain ⟨entry, found, rfl, idle⟩ := unready name mem
      rw [(entries entry found).ready_eq, Bool.and_eq_false_iff, Option.isSome_eq_false_iff,
        Option.isNone_iff_eq_none] at idle
      obtain ⟨original, mem', rfl⟩ := List.mem_map.mp found
      exact ⟨original, mem', rfl, idle⟩

theorem contract_waitNextEvent (names : List κ) (world : σ) (nodup : names.Nodup) :
    Contract rule poll answer names world (waitNextEvent rule names world poll answer) := by
  have passes : Passes rule poll (setUp rule names world).pollfds answer ⟨names, names, world⟩ _ :=
    passes_setUp poll _ answer [] names world nodup
  unfold waitNextEvent
  dsimp only
  split
  · rename_i nothing
    refine ⟨_, passes, .inr fun entry mem => ?_⟩
    simpa using fun asked => nothing (List.any_eq_true.mpr ⟨entry, mem, asked⟩)
  cases poll with
  | timeout => exact ⟨_, passes, rfl⟩
  | interrupted => exact ⟨_, passes, .inl rfl⟩
  | failed =>
      have unreported : (setUp rule names world).pollfds.map
          (fun entry => { entry with revents := Poll.failed.reported entry.fd }) =
            (setUp rule names world).pollfds := by
        refine (List.map_congr_left fun entry mem => ?_).trans (List.map_id _)
        have nothing := (events_setUp names world entry mem).2
        cases entry
        cases nothing
        rfl
      have contract := contract_serve rule .failed answer names world nodup
      rwa [unreported] at contract
  | ready revents => exact contract_serve rule (.ready revents) answer names world nodup

end Call

/-- The loop exits before it has served any rule. -/
theorem setUp_of_exit {rule : κ → Rule σ ρ ε} {poll : Poll κ} {answer : κ → ρ}
    {names names' : List κ} {world world' : σ}
    (ran : waitNextEvent rule names world poll answer = .ok (.exit, names', world'))
    (uninterrupted : poll ≠ .interrupted) :
    names' = (setUp rule names world).rules ∧ world' = (setUp rule names world).world ∧
      ∀ entry ∈ (setUp rule names world).pollfds, entry.events = none := by
  have serves : ∀ {result : Except (Error ε) (List κ × σ)},
      result.map (fun final => (Result.success, final)) ≠ .ok (.exit, names', world') := by
    intro result
    cases result <;> exact fun same => by cases same
  unfold waitNextEvent at ran
  dsimp only at ran
  split at ran
  · rename_i nothing
    cases ran
    refine ⟨rfl, rfl, fun entry mem => ?_⟩
    simpa using fun asked => nothing (List.any_eq_true.mpr ⟨entry, mem, asked⟩)
  · cases poll with
    | timeout => cases ran
    | interrupted => exact absurd rfl uninterrupted
    | failed => exact absurd ran serves
    | ready revents => exact absurd ran serves

/-- Rules are only removed. -/
theorem sublist_of_passes [DecidableEq κ] {rule : κ → Rule σ ρ ε} {poll : Poll κ}
    {asking : List (PollFd κ)} {answer : κ → ρ} {first state : State κ σ}
    (passes : Passes rule poll asking answer first state) :
    state.rules.Sublist first.rules := by
  refine passes.invariant (fun state => state.rules.Sublist first.rules) (.refl _) ?_
  intro state op final sublist _ next
  cases op with
  | cancel name =>
      cases next
      exact List.erase_sublist.trans sublist
  | call name reply =>
      obtain ⟨world, _, rfl⟩ := Option.map_eq_some_iff.mp next
      exact sublist

/-! ## One turn for each rule -/

section Turns

variable {rule : κ → Rule σ ρ ε} {poll : Poll κ} {asking : List (PollFd κ)} {answer : κ → ρ}

/-- Turns one after the other, each with its ground. -/
inductive Performs (rule : κ → Rule σ ρ ε) (poll : Poll κ) (asking : List (PollFd κ))
    (answer : κ → ρ) (world : σ) : List (Turn κ ρ) → σ → Prop where
  | nil : Performs rule poll asking answer world [] world
  | snoc {turns : List (Turn κ ρ)} {before after : σ} {op : Turn κ ρ}
      (earlier : Performs rule poll asking answer world turns before)
      (grounded : op.Grounded rule poll asking answer before)
      (performed : op.perform rule before = some after) :
      Performs rule poll asking answer world (turns ++ [op]) after

/--
The turns of a call: one at most for a rule.  The rules cancelled are those gone, and
the others are left in their order.
-/
structure Turns (rule : κ → Rule σ ρ ε) (poll : Poll κ) (answer : κ → ρ) (names : List κ)
    (world : σ) (turns : List (Turn κ ρ)) (names' : List κ) (world' : σ) : Prop where
  performed : Performs rule poll (setUp rule names world).pollfds answer world turns world'
  once : (turns.map Turn.name).Nodup
  accounted : (turns.filterMap Turn.cancelled ++ names').Perm names
  order : names'.Sublist names

variable [DecidableEq κ]

/-- A rule that has its turn waits no more, and one that is cancelled is gone. -/
theorem perform_of_turn {state final : State κ σ} {op : Turn κ ρ}
    (due : Due rule poll asking answer state op) (next : turn rule state op = some final) :
    op.Grounded rule poll asking answer state.world ∧
      op.perform rule state.world = some final.world ∧
      op.name ∈ state.waiting ∧ final.waiting = state.waiting.erase op.name ∧
      (op.cancelled.toList ++ final.rules).Perm state.rules := by
  obtain ⟨installed, waits, grounded⟩ := due
  cases op with
  | cancel name =>
      cases next
      exact ⟨grounded, rfl, waits, rfl, (List.perm_cons_erase installed).symm⟩
  | call name reply =>
      obtain ⟨world, called, rfl⟩ := Option.map_eq_some_iff.mp next
      exact ⟨grounded, called, waits, rfl, .refl _⟩

/-- The turns of a run; the rules that have had theirs do not wait. -/
theorem turns_of_passes {names : List κ} {world : σ} {state : State κ σ} (nodup : names.Nodup)
    (passes : Passes rule poll (setUp rule names world).pollfds answer ⟨names, names, world⟩
      state) :
    ∃ turns, Turns rule poll answer names world turns state.rules state.world ∧
      state.waiting.Nodup ∧ (∀ name ∈ turns.map Turn.name, name ∉ state.waiting) ∧
      ∀ name ∈ names, name ∉ state.waiting → name ∈ turns.map Turn.name := by
  induction passes with
  | refl =>
      exact ⟨[], ⟨.nil, .nil, .refl _, .refl _⟩, nodup, fun _ mem => absurd mem List.not_mem_nil,
        fun _ mem gone => absurd mem gone⟩
  | tail op earlier due next ih =>
      obtain ⟨turns, isTurns, distinct, served, unserved⟩ := ih
      obtain ⟨grounded, performed, waits, waiting, rules⟩ := perform_of_turn due next
      refine ⟨turns ++ [op], ⟨.snoc isTurns.performed grounded performed, ?_, ?_,
        sublist_of_passes (earlier.tail op due next)⟩, ?_, ?_, ?_⟩
      · rw [List.map_append, List.nodup_append]
        refine ⟨isTurns.once, List.pairwise_singleton _ _, fun first old other mem => ?_⟩
        rw [List.mem_singleton.mp mem]
        rintro rfl
        exact served _ old waits
      · have filtered : [op].filterMap Turn.cancelled = op.cancelled.toList := by
          cases op <;> rfl
        rw [List.filterMap_append, filtered, List.append_assoc]
        exact (rules.append_left _).trans isTurns.accounted
      · rw [waiting]
        exact distinct.erase _
      · rw [waiting, List.map_append]
        intro name mem still
        rcases List.mem_append.mp mem with old | new
        · exact served name old (List.mem_of_mem_erase still)
        · rw [List.mem_singleton.mp new] at still
          exact distinct.not_mem_erase still
      · rw [waiting, List.map_append]
        intro name mem gone
        by_cases this : name = op.name
        · exact List.mem_append_right _ (List.mem_singleton.mpr this)
        · refine List.mem_append_left _ (unserved name mem fun still => gone ?_)
          exact (List.mem_erase_of_ne this).mpr still

end Turns

/-- The entry asks for its direction, and `poll` has reported it. -/
def PollFd.Served (rule : κ → Rule σ ρ ε) (poll : Poll κ) (entry : PollFd κ) : Prop :=
  entry.events.isSome = true ∧ (poll.reported entry.fd).has (rule entry.fd).direction = true

/--
A call gives each rule at most one turn.  It cancels a rule only if its descriptor is
done, or has hung up with nothing ready of what the rule has asked for, and calls it
back only if it has asked and is ready; the rules that stay are those it has not
cancelled, in their order.  After a success every rule that asked and was ready has
had its turn; the loop is left only if no rule asks for anything or a signal was
caught.  It never reads outside of `pollfds`.
-/
theorem each_rule_one_turn [DecidableEq κ] (rule : κ → Rule σ ρ ε) (poll : Poll κ)
    (answer : κ → ρ) (names : List κ) (world : σ) (nodup : names.Nodup) :
    waitNextEvent rule names world poll answer ≠ .error .outOfRange ∧
      ∀ result names' world',
        waitNextEvent rule names world poll answer = .ok (result, names', world') →
        ∃ turns, Turns rule poll answer names world turns names' world' ∧
          match result with
          | .exit => poll = .interrupted ∨
              ∀ entry ∈ (setUp rule names world).pollfds, entry.events = none
          | .timeout => poll = .timeout
          | .success => ∀ entry ∈ (setUp rule names world).pollfds,
              entry.Served rule poll → entry.fd ∈ turns.map Turn.name := by
  have contract := contract_waitNextEvent rule poll answer names world nodup
  constructor
  · intro outside
    rw [outside] at contract
    obtain ⟨_, _, fails⟩ := contract
    exact fails
  · intro result names' world' returned
    rw [returned] at contract
    obtain ⟨waiting, passes, reason⟩ := contract
    obtain ⟨turns, isTurns, _, _, unserved⟩ := turns_of_passes nodup passes
    refine ⟨turns, isTurns, ?_⟩
    cases result with
    | exit => exact reason
    | timeout => exact reason
    | success =>
        intro entry mem served
        have sublist : (setUp rule names world).rules.Sublist names := sublist_setUp names world
        rw [← fd_setUp] at sublist
        refine unserved entry.fd (sublist.subset (List.mem_map_of_mem mem)) fun still => ?_
        -- no two entries are of one rule, so the entry that was not ready is this one
        obtain ⟨other, found, same, unready⟩ := reason entry.fd still
        obtain rfl := List.inj_on_of_nodup_map (nodup.sublist sublist) found mem same
        rcases unready with silent | unreported
        · exact absurd served.1 (by rw [silent]; decide)
        · exact absurd (served.2.symm.trans unreported) Bool.noConfusion

/-- A rule that reads and one that writes, on one descriptor. -/
def readOrWrite (reading : Bool) : Rule FDWrapper Unit Unit where
  fd := id
  direction := if reading then .In else .Out
  callback fd _ := .ok (if reading then fd.registerRead else fd.registerWrite)
  interest _ := true

/-- The descriptor has something to read and has hung up: the rule that writes is cancelled. -/
theorem each_rule_one_turn_hung_up :
    ∃ turns, Turns readOrWrite (.ready fun _ => { hup := true, readable := true }) (fun _ => ())
        [true, false] {} turns [true] { readCount := 1 } ∧
      ∀ entry ∈ (setUp readOrWrite [true, false] {}).pollfds,
        entry.Served readOrWrite (.ready fun _ => { hup := true, readable := true }) →
        entry.fd ∈ turns.map Turn.name :=
  (each_rule_one_turn readOrWrite (.ready fun _ => { hup := true, readable := true }) (fun _ => ())
    [true, false] {} (by decide)).2 .success [true] { readCount := 1 } rfl

end Sponge.EventLoop
