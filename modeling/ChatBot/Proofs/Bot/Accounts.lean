import ChatBot.Proofs.Bot.History

/-!
# What counters account for

Every message that is a command, every entry that leaves the scheduler and every copy that was
accepted is counted once, and handlers are counted for nothing else (`Bot.counters_account`).
-/

namespace ChatBot

/-- Whether a counter is for the runs of a command. -/
def Counter.isHandled : Counter → Bool
  | .handled _ => true
  | _ => false

/-- Whether a counter is for a command that was not found. -/
def Counter.isNotFound : Counter → Bool
  | .error _ code => code == "command_not_found"
  | _ => false

/-- Whether a counter is for an entry that left the scheduler. -/
def Counter.isScheduled : Counter → Bool
  | .fired => true
  | .missed => true
  | c => c.isNotFound

/-- What comes to a bot from outside while it runs: messages and ticks. -/
def Operation.isTraffic : Operation → Bool
  | .receive .. => true
  | .tick .. => true
  | _ => false

/-- Whether a copy was sent, and the backend of a protocol accepted it. -/
def Event.forwards (protocol : String) : Event → Bool
  | .copied d => d.accepted && d.chat.protocol.name == protocol
  | _ => false

/-! ## Moves of counters -/

/-- How often counters of a kind move because of some events. -/
def tally (p : Counter → Bool) (es : List Event) : Nat := (es.flatMap Event.moves).countP p

variable {p : Counter → Bool} {es es' : List Event}

theorem tally_cons (e : Event) (es : List Event) :
    tally p (e :: es) = e.moves.countP p + tally p es := by
  rw [tally, List.flatMap_cons, List.countP_append, tally]

theorem tally_append : tally p (es ++ es') = tally p es + tally p es' := by
  rw [tally, List.flatMap_append, List.countP_append, tally, tally]

theorem tally_eq_zero (h : ∀ e ∈ es, e.moves.countP p = 0) : tally p es = 0 := by
  induction es with
  | nil => rfl
  | cons e es ih =>
    rw [List.forall_mem_cons] at h
    rw [tally_cons, h.1, ih h.2]

theorem tally_eq_zero_of_imp {q : Counter → Bool} (h : ∀ c, q c → p c) (hp : tally p es = 0) :
    tally q es = 0 :=
  Nat.eq_zero_of_le_zero (hp ▸ List.countP_mono_left fun c _ => h c)

theorem tally_isScheduled (es : List Event) : tally Counter.isScheduled es =
    tally (· == .fired) es + tally (· == .missed) es + tally Counter.isNotFound es := by
  simp only [tally]
  induction es.flatMap Event.moves with
  | nil => rfl
  | cons c moves ih =>
    simp only [List.countP_cons, ih]
    cases c with
    | handled | forwarded => rfl
    | fired | missed =>
      simp [Counter.isScheduled, Counter.isNotFound]
      omega
    | error command code => simp [Counter.isScheduled, Counter.isNotFound, Nat.add_assoc]

theorem tally_map_missed (missed : List ScheduledCommand) :
    tally p (missed.map .missed) = if p .missed then missed.length else 0 := by
  induction missed with
  | nil => exact (ite_self 0).symm
  | cons e missed ih =>
    rw [List.map_cons, tally_cons, ih, Event.moves, List.countP_singleton, List.length_cons]
    split
    · exact Nat.add_comm ..
    · rfl

theorem countP_moves_handled (command : String) (outcome : Outcome) :
    (Event.handled command outcome).moves.countP p = (if p (.handled command) then 1 else 0) +
      outcome.code?.elim 0 fun code => if p (.error command code) then 1 else 0 := by
  rw [Event.moves, List.countP_cons, Nat.add_comm]
  cases outcome.code? with
  | none => rfl
  | some code => exact congrArg _ List.countP_singleton

namespace Bot

theorem Recorded.get {b b' : Bot} (h : b.Recorded es b') (c : Counter) :
    b'.counters.get c = b.counters.get c + tally (· == c) es := by
  rw [h.counters, Counters.get_foldl_bump]
  rfl

theorem Recorded.total {b b' : Bot} (h : b.Recorded es b') {family : String → Counter}
    (hfamily : family.Injective) (hp : ∀ c, p c ↔ c ∈ Set.range family) :
    b'.counters.total family = b.counters.total family + tally p es := by
  rw [h.counters, Counters.total_foldl_bump hfamily hp]
  rfl

/-! ## Runs of commands -/

section

-- What is sent moves the counters of copies only.
variable (hp : ∀ protocol, p (.forwarded protocol) = false) (b : Bot)

include hp

theorem tally_map_copied (ds : List Delivery) : tally p (ds.map .copied) = 0 := by
  refine tally_eq_zero fun e he => ?_
  obtain ⟨d, -, rfl⟩ := List.mem_map.1 he
  rw [Event.moves]
  split
  · rw [List.countP_singleton, hp]
    rfl
  · rfl

theorem tally_replyEvents (chat : Chat) (sender : User) (text : String) :
    tally p (b.replyEvents chat sender text) = 0 := by
  unfold replyEvents
  split
  next => rfl
  next k _ =>
    split
    · rfl
    · rw [tally_cons, tally_map_copied hp]
      rfl

theorem tally_runEvents (chat : Chat) (sender : User) (i : Invocation) (now : Instant) :
    tally p (b.runEvents chat sender i now) =
      (Event.handled i.command.name
        (b.handle i (b.context chat sender i) now).1).moves.countP p := by
  rw [runEvents]
  dsimp only
  rw [tally_cons]
  cases answer? _ chat sender _ with
  | none => rfl
  | some text => rw [Option.elim_some, tally_replyEvents hp, Nat.add_zero]

theorem tally_receiveEvents (chat : Chat) (sender : User) (text : String) (urls : List String)
    (now : Instant) : tally p (b.receiveEvents chat sender text urls now) =
      match b.invocation? chat text with
      | .ok none => 0
      | .ok (some i) => tally p (b.runEvents chat sender i now)
      | .error e => (Event.rejected e).moves.countP p := by
  rw [receiveEvents, tally_append, tally_map_copied hp, Nat.zero_add, obeyEvents]
  cases b.invocation? chat text with
  | error e =>
    dsimp only
    rw [tally_cons, tally_replyEvents hp, Nat.add_zero]
  | ok found =>
    cases found with
    | none => rfl
    | some i => rfl

end

/-- Every run of a command is counted under its name. -/
theorem tally_handled_runEvents (b : Bot) (chat : Chat) (sender : User) (i : Invocation)
    (now : Instant) : tally Counter.isHandled (b.runEvents chat sender i now) = 1 := by
  rw [tally_runEvents fun _ => rfl, countP_moves_handled]
  cases (b.handle i (b.context chat sender i) now).1 with
  | silent | reply | failed | crashed => rfl

/-- The run of a command is not counted where entries of the scheduler are. -/
theorem tally_scheduled_runEvents (b : Bot) (chat : Chat) (sender : User) (i : Invocation)
    (now : Instant) : tally Counter.isScheduled (b.runEvents chat sender i now) = 0 := by
  rw [tally_runEvents fun _ => rfl, countP_moves_handled]
  cases (b.handle i (b.context chat sender i) now).1 with
  | silent | reply | failed | crashed => rfl

theorem isScheduled_of_fired (c : Counter) (h : c == .fired) : c.isScheduled := by
  rw [beq_iff_eq.1 h]
  rfl

theorem tally_fired_runEvents (b : Bot) (chat : Chat) (sender : User) (i : Invocation)
    (now : Instant) : tally (· == .fired) (b.runEvents chat sender i now) = 0 :=
  tally_eq_zero_of_imp isScheduled_of_fired (b.tally_scheduled_runEvents chat sender i now)

/-! ## Scheduled commands -/

/-- What fires runs once. -/
theorem tally_handled_firingEvents (clock : Instant) (b : Bot) (es : List ScheduledCommand) :
    tally Counter.isHandled (firingEvents clock b es) =
      tally (· == .fired) (firingEvents clock b es) := by
  induction es generalizing b with
  | nil => rfl
  | cons e es ih =>
    rw [firingEvents, tally_append, tally_append, ih, Nat.add_right_cancel_iff, fireEvents]
    cases b.resolve e.command e.chat with
    | error _ => rfl
    | ok entry =>
      dsimp only
      rw [tally_cons, tally_cons, tally_handled_runEvents, tally_fired_runEvents]
      rfl

/-- An entry that is due fires or is not found. -/
theorem tally_scheduled_firingEvents (clock : Instant) (b : Bot) (es : List ScheduledCommand) :
    tally Counter.isScheduled (firingEvents clock b es) = es.length := by
  induction es generalizing b with
  | nil => rfl
  | cons e es ih =>
    rw [firingEvents, tally_append, ih, List.length_cons, Nat.add_comm, Nat.add_left_cancel_iff,
      fireEvents]
    cases b.resolve e.command e.chat with
    | error _ => rfl
    | ok entry =>
      dsimp only
      rw [tally_cons, tally_scheduled_runEvents]
      rfl

/-! ## Messages and ticks -/

/-- Counts an operation that is a message and runs a command. -/
def commandIn (b : Bot) : Operation → Nat
  | .receive chat _ text _ _ =>
    match b.invocation? chat text with
    | .ok (some _) => 1
    | _ => 0
  | _ => 0

/-- The number of messages among some operations that run a command. -/
def commandsIn : Bot → List Operation → Nat
  | _, [] => 0
  | b, op :: ops => b.commandIn op + (b.perform op).commandsIn ops

/-- A command runs because of a message or because it fired. -/
theorem tally_handled_events (b : Bot) {op : Operation} (hop : op.isTraffic) :
    tally Counter.isHandled (b.events op) = b.commandIn op + tally (· == .fired) (b.events op) := by
  cases op with
  | receive chat sender text urls now =>
    rw [events, tally_receiveEvents (fun _ => rfl), tally_receiveEvents (fun _ => rfl), commandIn]
    cases b.invocation? chat text with
    | error e => rfl
    | ok found =>
      cases found with
      | none => rfl
      | some i =>
        dsimp only
        rw [tally_handled_runEvents, tally_fired_runEvents]
  | tick now clock =>
    have hnone : b.commandIn (.tick now clock) = 0 := rfl
    rw [events, tickEvents, hnone, Nat.zero_add]
    cases b.config.lateness? with
    | none => rfl
    | some lateness =>
      dsimp only
      rw [tally_append, tally_append, tally_map_missed, tally_map_missed,
        tally_handled_firingEvents]
      rfl
  | _ => contradiction

theorem tally_handled_history (b : Bot) {ops : List Operation} (hops : ∀ op ∈ ops, op.isTraffic) :
    tally Counter.isHandled (b.history ops) =
      b.commandsIn ops + tally (· == .fired) (b.history ops) := by
  induction ops generalizing b with
  | nil => rfl
  | cons op ops ih =>
    rw [List.forall_mem_cons] at hops
    rw [history, tally_append, tally_append, commandsIn, tally_handled_events b hops.1, ih _ hops.2]
    omega

/-- Copies are counted under the protocol of the backend that accepted them. -/
theorem tally_forwarded (protocol : String) (es : List Event) :
    tally (· == .forwarded protocol) es = es.countP (Event.forwards protocol) := by
  induction es with
  | nil => rfl
  | cons e es ih =>
    rw [tally_cons, ih, List.countP_cons, Nat.add_comm, Nat.add_left_cancel_iff]
    cases e with
    | handled command outcome =>
      rw [countP_moves_handled]
      cases outcome with
      | silent | reply | failed | crashed => rfl
    | rejected | fired | unknown | missed | sent => rfl
    | copied d =>
      rw [Event.moves, Event.forwards]
      cases d.accepted with
      | false => rfl
      | true => simp [List.countP_singleton]

theorem scheduler_takeDue (b : Bot) (now : Instant) (lateness : Elapsed) :
    (b.takeDue now lateness).2.scheduler = (b.scheduler.takeDue now lateness).2 := by
  unfold takeDue
  dsimp only
  split
  · rfl
  · rfl

/-- What was pending was taken out by a tick, or still is. -/
theorem length_pending_takeDue {b : Bot} (h : b.Sound) (now : Instant) (lateness : Elapsed) :
    b.scheduler.pending.length = (b.takeDue now lateness).1.fire.length +
      (b.takeDue now lateness).1.missed.length +
        (b.takeDue now lateness).2.scheduler.pending.length := by
  obtain ⟨a, hrep⟩ := h.represents
  have hlength := (hrep.pending_perm (.takeDue now lateness)).length_eq
  simp only [Scheduler.perform, Scheduler.Call.added, Scheduler.Answer.handedOut,
    List.length_append, List.length_nil, Nat.add_zero] at hlength
  rw [scheduler_takeDue]
  exact hlength

theorem tally_tickEvents {b : Bot} {lateness : Elapsed}
    (hlateness : b.config.lateness? = some lateness) (now clock : Instant) :
    tally Counter.isScheduled (b.tickEvents now clock) =
      (b.takeDue now lateness).1.missed.length + (b.takeDue now lateness).1.fire.length := by
  rw [tickEvents, hlateness]
  dsimp only
  rw [tally_append, tally_map_missed, tally_scheduled_firingEvents]
  rfl

/-! ## All counters -/

theorem handled_injective : Function.Injective Counter.handled := fun _ _ h => Counter.handled.inj h

theorem isHandled_iff (c : Counter) : c.isHandled ↔ c ∈ Set.range Counter.handled := by
  cases c <;> simp [Counter.isHandled]

theorem notFound_injective :
    Function.Injective fun command => Counter.error command "command_not_found" :=
  fun _ _ h => (Counter.error.inj h).1

theorem isNotFound_iff (c : Counter) :
    c.isNotFound ↔ c ∈ Set.range fun command => Counter.error command "command_not_found" := by
  cases c with
  | error command code =>
    constructor
    · intro h
      exact ⟨command, congrArg _ (beq_iff_eq.1 h).symm⟩
    · rintro ⟨_, h⟩
      cases h
      rfl
  | handled | fired | missed | forwarded => exact iff_of_false nofun nofun

/-- What a message that runs nothing does: it is counted as an error, and something may be sent. -/
theorem receive_of_error {p : Bot} {chat : Chat} {text : String} {e : DispatchError}
    (h : p.invocation? chat text = .error e) (sender : User) (urls : List String) (now : Instant) :
    let after := p.receive chat sender text urls now
    (∀ code, after.counters.get (.error "unknown" code) =
      p.counters.get (.error "unknown" code) + if e.code = code then 1 else 0) ∧
    (∀ command, after.counters.get (.handled command) = p.counters.get (.handled command)) ∧
    after = p.withLog after.counters after.deliveries := by
  intro after
  have hrecorded := (p.records_receive chat sender text urls now).recorded
  refine ⟨fun code => ?_, fun command => ?_, ?_⟩
  · rw [hrecorded.get, tally_receiveEvents fun _ => rfl, h]
    simp [Event.moves, List.countP_singleton]
  · rw [hrecorded.get, tally_receiveEvents fun _ => rfl, h]
    rfl
  · have hheard := p.notes_heard chat sender text urls
    have hinvocation : (p.heard chat sender text urls).invocation? chat text = .error e := by
      rw [hheard]
      exact h
    have hafter : after = ((p.heard chat sender text urls).count (.error "unknown" e.code)).reply
        chat sender e.reply := by
      show p.receive chat sender text urls now = _
      rw [receive_eq_obey, obey, hinvocation]
    have hnotes := hheard.trans (notes_reject _ chat sender e)
    rw [← hafter] at hnotes
    rw [hnotes]
    rfl

/-- What a run of a command is counted as. -/
theorem counters_run (p : Bot) (chat : Chat) (sender : User) (i : Invocation) (now : Instant) :
    let outcome := (p.handle i (p.context chat sender i) now).1
    let after := p.run chat sender i now
    (∀ command, after.counters.get (.handled command) =
      p.counters.get (.handled command) + if i.command.name = command then 1 else 0) ∧
    ∀ command code, after.counters.get (.error command code) =
      p.counters.get (.error command code) +
        if i.command.name = command ∧ outcome.code? = some code then 1 else 0 := by
  intro outcome after
  have hrecorded := (p.records_run chat sender i now).recorded
  refine ⟨fun command => ?_, fun command code => ?_⟩
  · rw [hrecorded.get, tally_runEvents fun _ => rfl, countP_moves_handled]
    cases outcome.code? with
    | none => simp
    | some found => simp
  · rw [hrecorded.get, tally_runEvents fun _ => rfl, countP_moves_handled]
    cases outcome.code? with
    | none => simp
    | some found => simp

/-- **The counters account for everything.** After any messages and ticks, what ran is what the
messages ran and what fired, and what was forwarded is the copies that were accepted, of all that
was sent. A message that is meant as a command but runs none is counted as an error once, and does
nothing else to the state. A run of a command is counted under its name once, and as an error if
that is how it ended. In a tick, each entry that leaves the scheduler is counted as fired, as missed
or as not found. -/
theorem counters_account {b : Bot} (h : Reachable b) :
    (∀ ops : List Operation, (∀ op ∈ ops, op.isTraffic) →
      let after := ops.foldl perform b
      after.counters.total .handled + b.counters.get .fired =
        b.counters.total .handled + b.commandsIn ops + after.counters.get .fired ∧
      (∀ protocol, after.counters.get (.forwarded protocol) =
        b.counters.get (.forwarded protocol) + (b.history ops).countP (Event.forwards protocol)) ∧
      after.deliveries = b.deliveries ++ (b.history ops).filterMap Event.delivery?) ∧
    (∀ (p : Bot) chat sender text urls now e, p.invocation? chat text = .error e →
      let after := p.receive chat sender text urls now
      (∀ code, after.counters.get (.error "unknown" code) =
        p.counters.get (.error "unknown" code) + if e.code = code then 1 else 0) ∧
      (∀ command, after.counters.get (.handled command) = p.counters.get (.handled command)) ∧
      after = p.withLog after.counters after.deliveries) ∧
    (∀ (p : Bot) chat sender i now,
      let outcome := (p.handle i (p.context chat sender i) now).1
      let after := p.run chat sender i now
      (∀ command, after.counters.get (.handled command) =
        p.counters.get (.handled command) + if i.command.name = command then 1 else 0) ∧
      ∀ command code, after.counters.get (.error command code) =
        p.counters.get (.error command code) +
          if i.command.name = command ∧ outcome.code? = some code then 1 else 0) ∧
    ∀ lateness, b.config.lateness? = some lateness → ∀ now clock,
      ∃ after, b.tick? now clock = some after ∧
        after.counters.get .fired + after.counters.get .missed +
            after.counters.total (.error · "command_not_found") +
            (b.takeDue now lateness).2.scheduler.pending.length =
          b.counters.get .fired + b.counters.get .missed +
            b.counters.total (.error · "command_not_found") + b.scheduler.pending.length := by
  refine ⟨fun ops hops => ?_, fun p chat sender text urls now e he =>
    receive_of_error he sender urls now, counters_run, fun lateness hlateness now clock => ?_⟩
  · have hrecorded := b.recorded_history ops
    refine ⟨?_, fun protocol => ?_, hrecorded.deliveries⟩
    · rw [hrecorded.total handled_injective isHandled_iff, hrecorded.get,
        tally_handled_history b hops]
      omega
    · rw [hrecorded.get, tally_forwarded]
  · obtain ⟨after, hafter⟩ : ∃ after, b.tick? now clock = some after :=
      ⟨_, congrArg (Option.map _) hlateness⟩
    have hrecorded := recorded_tick hafter
    have htally := tally_tickEvents hlateness now clock
    rw [tally_isScheduled] at htally
    have hpending := length_pending_takeDue h.sound now lateness
    refine ⟨after, hafter, ?_⟩
    rw [hrecorded.total notFound_injective isNotFound_iff, hrecorded.get, hrecorded.get]
    omega

theorem counters_account_echo :
    let b := echoing.perform (.change (.schedule default default "echo" ["a"] .epoch))
    let said := [Operation.receive default default "!Echo a" [] .epoch].foldl perform b
    said.counters.total .handled = b.counters.total .handled + 1 + said.counters.get .fired ∧
    (b.receive default default "!nope" [] .epoch).counters.get
      (.error "unknown" "command_not_found") = 1 ∧
    (b.run default default ⟨Builtin.echo.toCommand, ["a"]⟩ .epoch).counters.get
      (.handled "echo") = 1 ∧
    ∃ after, b.tick? .epoch .epoch = some after ∧
      after.counters.get .fired + after.counters.get .missed +
          after.counters.total (.error · "command_not_found") +
          (b.takeDue .epoch (.ofSeconds 30)).2.scheduler.pending.length =
        b.counters.total (.error · "command_not_found") + 1 := by
  intro b said
  have hb : Reachable b :=
    reachable_echoing.step (.change (.schedule default default "echo" ["a"] .epoch))
  have hcommand : b.invocation? default "!Echo a" =
      .ok (some ⟨Builtin.echo.toCommand, ["a"]⟩) := by
    rw [invocation?_eq_some_iff, show b.delimiter default = "!" from rfl]
    exact ⟨⟨"echo", ["a"]⟩, _, by cbv, resolve_echoing, rfl⟩
  have hunknown : b.invocation? default "!nope" = .error (.commandNotFound "nope") := by
    have hread : CommandLine.read (b.delimiter default) "!nope" = .ok (some ⟨"nope", []⟩) := by
      rw [show b.delimiter default = "!" from rfl]
      cbv
    have hresolve : b.resolve "nope" default = .error (.commandNotFound "nope") := by
      show echoing.resolve "nope" default = _
      cbv
    rw [invocation?_of_read hread, hresolve]
    rfl
  obtain ⟨hops, herror, hrun, htick⟩ := counters_account hb
  have hcommands : b.commandsIn [.receive default default "!Echo a" [] .epoch] = 1 := by
    rw [commandsIn, commandIn, hcommand]
    rfl
  have hsaid := (hops [.receive default default "!Echo a" [] .epoch] (by decide)).1
  rw [hcommands] at hsaid
  have hpending : b.scheduler.pending.length = 1 := by decide
  refine ⟨hsaid, (herror b default default _ [] .epoch _ hunknown).1 "command_not_found",
    (hrun b default default ⟨Builtin.echo.toCommand, ["a"]⟩ .epoch).1 "echo", ?_⟩
  obtain ⟨after, hafter, htaken⟩ := htick (.ofSeconds 30) rfl .epoch .epoch
  rw [hpending, show b.counters.get .fired = 0 from rfl, show b.counters.get .missed = 0 from rfl,
    Nat.zero_add] at htaken
  exact ⟨after, hafter, htaken⟩

end Bot

end ChatBot
