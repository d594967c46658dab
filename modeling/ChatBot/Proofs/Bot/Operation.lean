import ChatBot.Proofs.Bot.Attempts
import ChatBot.Proofs.Bot.Restoring

/-!
# Operations

What can be asked of a bot, and the bots that come of a new one by it (`Reachable`). All of them are
sound.
-/

namespace ChatBot

/-- What can be asked of a bot. -/
inductive Operation
  | change (c : Change)
  | tick (now clock : Instant)
  | receive (chat : Chat) (sender : User) (text : String) (urls : List String) (now : Instant)
  | run (chat : Chat) (sender : User) (i : Invocation) (now : Instant)
  | reply (chat : Chat) (sender : User) (text : String)
  | send (chat : Chat) (text : String)
  | addCommand (c : Command)
  | addBackend (k : Backend)
  | addVariable (name : String) (v : Variable)
  | scheduleTask (t : Task)
  | refreshChats
  | chatNumber (chat : Chat)
  | shutdown
  | persist
  /-- Restores what a store holds, whatever that is. -/
  | restore (store : Store)

/-- The command under the name that registration gives it. -/
def Command.lowered (c : Command) : Command := { c with name := Text.lowercase c.name }

namespace Bot

/-- The bot after an operation. One that fails leaves it as it was. -/
def perform (b : Bot) : Operation → Bot
  | .change c => (b.attempt c).2
  | .tick now clock => (b.tick? now clock).getD b
  | .receive chat sender text urls now => b.receive chat sender text urls now
  | .run chat sender i now => b.run chat sender i now
  | .reply chat sender text => b.reply chat sender text
  | .send chat text => (b.send chat text).2
  | .addCommand c => (b.addCommand? c.lowered).getD b
  | .addBackend k => (b.addBackend? k).getD b
  | .addVariable name v => (b.addVariable? name v).getD b
  | .scheduleTask t => b.scheduleTask t
  | .refreshChats => b.refreshChats
  | .chatNumber chat => (b.chatNumber chat).2
  | .shutdown => b.shutdown
  | .persist => b.persist
  | .restore store =>
    match { b with store }.restore with
    | .ok restored => restored
    | .error _ => { b with store }

/-- The bots that come of a new one by operations. -/
inductive Reachable : Bot → Prop
  | new (config : Config) (store : Store) : Reachable (.new config store)
  | step {b : Bot} : Reachable b → (op : Operation) → Reachable (b.perform op)

variable {b b' : Bot}

/-! ## Ticks -/

theorem sameState_countMissed (b : Bot) (missed : List ScheduledCommand) :
    SameState b (missed.foldl (fun b _ => b.count .missed) b) :=
  List.foldlRecOn missed _ (.refl b) fun _ h _ _ => h.trans (sameState_count _ _)

/-- The bot when the first command of a tick is to run. -/
def tickStart (b : Bot) (now : Instant) (lateness : Elapsed) : Bot :=
  let (due, b) := b.takeDue now lateness
  due.missed.foldl (fun b _ => b.count .missed) b

theorem sameState_tickStart (b : Bot) (now : Instant) (lateness : Elapsed) :
    SameState (b.takeDue now lateness).2 (b.tickStart now lateness) :=
  sameState_countMissed _ (b.takeDue now lateness).1.missed

/-- The changes that may be attempted in a tick. -/
def TickAttempts (b : Bot) (now clock : Instant) (c : Change) : Prop :=
  ∃ lateness, b.config.lateness? = some lateness ∧
    FireAttempts clock (b.tickStart now lateness) (b.takeDue now lateness).1.fire c

/-- What is due runs by changes. -/
theorem goesBy_runDue (b : Bot) (now clock : Instant) (lateness : Elapsed) :
    let (due, after) := b.takeDue now lateness
    after.GoesBy (FireAttempts clock (b.tickStart now lateness) due.fire)
      (after.runDue clock due) := by
  have hfire := goesBy_foldl_fire clock (b.tickStart now lateness) (b.takeDue now lateness).1.fire
  have hall := (Goes.of_beside (b.sameState_tickStart now lateness)).trans hfire
  exact hall.aside (by constructor <;> rfl)

theorem Sound.takeDue (h : b.Sound) (now : Instant) (lateness : Elapsed) :
    (b.takeDue now lateness).2.Sound := by
  have htaken := h.scheduled (.takeDue now lateness)
  unfold Bot.takeDue
  dsimp only
  split
  · exact htaken.persist
  · exact htaken

/-! ## Registration -/

theorem sameState_addBackend? {k : Backend} (h : b.addBackend? k = some b') : SameState b b' := by
  unfold addBackend? at h
  split at h
  · contradiction
  · cases h
    constructor <;> rfl

theorem sameState_addVariable? {name : String} {v : Variable}
    (h : b.addVariable? name v = some b') : SameState b b' := by
  unfold addVariable? at h
  split at h
  · contradiction
  · cases h
    constructor <;> rfl

theorem Sound.addCommand (h : b.Sound) {c : Command} (hadd : b.addCommand? c.lowered = some b') :
    b'.Sound := by
  obtain ⟨registry, hregistry, rfl⟩ := Option.map_eq_some_iff.1 hadd
  have hname : Text.lowercase c.lowered.name = c.lowered.name := Text.lowercase_lowercase c.name
  exact { h with registry := h.registry.addCommand hname hregistry }

/-! ## All operations -/

/-- The changes that an operation may attempt. -/
def OpAttempts (b : Bot) : Operation → Change → Prop
  | .change c => (· = c)
  | .tick now clock => b.TickAttempts now clock
  | .receive chat sender text urls now => b.ReceiveAttempts chat sender text urls now
  | .run chat sender i now => b.RunAttempts chat sender i now
  | _ => fun _ => False

/-- What an operation can do. All but the few that are listed only go on by the changes that they
attempt. -/
inductive Performed (b : Bot) : Operation → Bot → Prop
  | course {op : Operation} {b' : Bot} : b.GoesBy (b.OpAttempts op) b' → Performed b op b'
  | tick {now clock : Instant} {lateness : Elapsed} {b' : Bot} :
    (b.takeDue now lateness).2.GoesBy (b.TickAttempts now clock) b' →
    Performed b (.tick now clock) b'
  | addCommand {c : Command} {b' : Bot} :
    b.addCommand? c.lowered = some b' → Performed b (.addCommand c) b'
  | scheduleTask {t : Task} : Performed b (.scheduleTask t) (b.scheduleTask t)
  | persist : Performed b .persist b.persist
  | restore {store : Store} {s : Snapshot} :
    Performed b (.restore store) (restoreSnapshot { b with store } s)
  | restoreNothing {store : Store} : Performed b (.restore store) { b with store }

/-- An operation that fails goes nowhere. -/
theorem performed_getD {op : Operation} {found : Option Bot}
    (h : ∀ b', found = some b' → b.Performed op b') : b.Performed op (found.getD b) := by
  cases found with
  | none => exact .course .refl
  | some b' => exact h b' rfl

theorem performed (b : Bot) (op : Operation) : b.Performed op (b.perform op) := by
  cases op with
  | change c => exact .course (.attempt b rfl)
  | tick now clock =>
    refine performed_getD fun b' hb' => ?_
    obtain ⟨lateness, hlateness, rfl⟩ := Option.map_eq_some_iff.1 hb'
    exact .tick ((b.goesBy_runDue now clock lateness).mono fun c hc => ⟨lateness, hlateness, hc⟩)
  | receive chat sender text urls now => exact .course (b.goesBy_receive chat sender text urls now)
  | run chat sender i now => exact .course (b.goesBy_run chat sender i now)
  | reply chat sender text => exact .course (.of_beside (b.sameState_reply chat sender text))
  | send chat text => exact .course (.of_beside (b.sameState_send chat text))
  | addCommand c => exact performed_getD fun b' => .addCommand
  | addBackend k =>
    exact performed_getD fun b' hb' => .course (.of_beside (sameState_addBackend? hb'))
  | addVariable name v =>
    exact performed_getD fun b' hb' => .course (.of_beside (sameState_addVariable? hb'))
  | scheduleTask t => exact .scheduleTask
  | refreshChats => exact .course (.of_beside b.aside_refreshChats.sameState)
  | chatNumber chat => exact .course (.of_beside (b.aside_chatNumber chat).sameState)
  | shutdown => exact .course (.of_beside (by constructor <;> rfl))
  | persist => exact .persist
  | restore store =>
    rw [perform, Bot.restore]
    cases store.load with
    | error e => exact .restoreNothing
    | ok s => exact .restore

theorem sound_new (config : Config) (store : Store) : (new config store).Sound where
  delimiters := nofun
  registry := Registry.bound_empty
  scheduler := ⟨[], rfl⟩
  links := Links.mutual_empty

theorem Performed.sound {op : Operation} (hp : b.Performed op b') (h : b.Sound) : b'.Sound := by
  cases hp with
  | course hp => exact hp.sound h
  | tick hp => exact hp.sound (h.takeDue _ _)
  | addCommand hadd => exact h.addCommand hadd
  | @scheduleTask t => exact h.scheduled (.addTask t)
  | persist => exact h.persist
  | @restore store s =>
    have hstore : Sound { b with store } := { h with }
    exact hstore.restoreSnapshot s
  | restoreNothing => exact { h with }

theorem Reachable.sound (h : Reachable b) : b.Sound := by
  induction h with
  | new config store => exact sound_new config store
  | step _ op ih => exact (performed _ op).sound ih

theorem reachable_echoing : Reachable echoing := by
  have hname : Text.lowercase "echo" = "echo" := by decide
  have hlowered : Builtin.echo.toCommand.lowered = Builtin.echo.toCommand := by
    rw [Command.lowered, show Builtin.echo.toCommand.name = "echo" from rfl, hname]
    rfl
  have h := (Reachable.new .standard default).step (.addCommand Builtin.echo.toCommand)
  rwa [perform, hlowered] at h

/-- That bot with a file that does not exist yet for its store. -/
def filing : Bot := echoing.perform (.restore (.ofMedium (.file none)))

theorem reachable_filing : Reachable filing := reachable_echoing.step _

end Bot

end ChatBot
