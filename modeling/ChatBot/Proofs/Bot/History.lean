import ChatBot.Proofs.Bot.Events
import ChatBot.Proofs.Bot.Recovery

/-!
# The history of a bot

What happens because of a message or a scheduled command is a list of events. The bot counts and
sends what its events say and nothing else, whatever it has counted and sent before
(`Bot.Records`).
-/

namespace ChatBot.Bot

/-! ## Events -/

/-- The events of the run of a command. -/
def runEvents (b : Bot) (chat : Chat) (sender : User) (i : Invocation) (now : Instant) :
    List Event :=
  let (outcome, after) := b.handle i (b.context chat sender i) now
  .handled i.command.name outcome ::
    (after.answer? chat sender outcome).elim [] (after.replyEvents chat sender)

/-- The events of a message once it was copied. -/
def obeyEvents (b : Bot) (chat : Chat) (sender : User) (text : String) (now : Instant) :
    List Event :=
  match b.invocation? chat text with
  | .ok none => []
  | .ok (some i) => b.runEvents chat sender i now
  | .error e => .rejected e :: b.replyEvents chat sender e.reply

/-- The events of a message. -/
def receiveEvents (b : Bot) (chat : Chat) (sender : User) (text : String) (urls : List String)
    (now : Instant) : List Event :=
  (if b.isSelf chat sender then [] else b.copies chat sender text urls).map .copied ++
    b.obeyEvents chat sender text now

/-- The events of a scheduled command that is due. -/
def fireEvents (clock : Instant) (b : Bot) (e : ScheduledCommand) : List Event :=
  match b.resolve e.command e.chat with
  | .error _ => [.unknown e]
  | .ok entry => .fired e :: b.runEvents e.chat e.sender (entry.invoke e.args) clock

/-- The events of scheduled commands that are due, one after the other. -/
def firingEvents (clock : Instant) : Bot → List ScheduledCommand → List Event
  | _, [] => []
  | b, e :: es => fireEvents clock b e ++ firingEvents clock (fire clock b e) es

/-- What a bot does because of a message once that was copied. -/
def obey (b : Bot) (chat : Chat) (sender : User) (text : String) (now : Instant) : Bot :=
  match b.invocation? chat text with
  | .ok none => b
  | .ok (some i) => b.run chat sender i now
  | .error e => (b.count (.error "unknown" e.code)).reply chat sender e.reply

theorem receive_eq_obey (b : Bot) (chat : Chat) (sender : User) (text : String)
    (urls : List String) (now : Instant) :
    b.receive chat sender text urls now =
      (b.heard chat sender text urls).obey chat sender text now := rfl

/-! ## Events do not depend on the log -/

section

variable (b : Bot) (cs : Counters) (ds : List Delivery)

theorem runEvents_withLog (chat : Chat) (sender : User) (i : Invocation) (now : Instant) :
    (b.withLog cs ds).runEvents chat sender i now = b.runEvents chat sender i now := by
  have hcontext : (b.withLog cs ds).context chat sender i = b.context chat sender i := rfl
  unfold runEvents
  rw [hcontext, handle_withLog]
  rfl

theorem obeyEvents_withLog (chat : Chat) (sender : User) (text : String) (now : Instant) :
    (b.withLog cs ds).obeyEvents chat sender text now = b.obeyEvents chat sender text now := by
  have hinvocation : (b.withLog cs ds).invocation? chat text = b.invocation? chat text := rfl
  unfold obeyEvents
  rw [hinvocation]
  split
  next => rfl
  next => exact b.runEvents_withLog cs ds chat sender _ now
  next => rfl

end

/-! ## What is recorded -/

/-- What some events say was counted and sent, and nothing else. -/
structure Recorded (b : Bot) (es : List Event) (b' : Bot) : Prop where
  counters : b'.counters = (es.flatMap Event.moves).foldl Counters.bump b.counters
  deliveries : b'.deliveries = b.deliveries ++ es.filterMap Event.delivery?

namespace Recorded

variable {b p q : Bot} {es es' : List Event}

theorem refl (b : Bot) : b.Recorded [] b := ⟨rfl, (List.append_nil _).symm⟩

theorem of_eq (hcounters : p.counters = b.counters) (hdeliveries : p.deliveries = b.deliveries) :
    b.Recorded [] p := ⟨hcounters, hdeliveries.trans (List.append_nil _).symm⟩

theorem trans (h : b.Recorded es p) (h' : p.Recorded es' q) : b.Recorded (es ++ es') q where
  counters := by
    rw [h'.counters, h.counters, List.flatMap_append, List.foldl_append]
  deliveries := by
    rw [h'.deliveries, h.deliveries, List.filterMap_append, List.append_assoc]

end Recorded

theorem Notes.recorded {b p : Bot} {es : List Event} (h : b.Notes es p) : b.Recorded es p := by
  rw [h]
  exact ⟨rfl, rfl⟩

/-- An action does the same whatever is in the log, and adds to it what the events say. -/
def Records (f : Bot → Bot) (es : List Event) (b : Bot) : Prop :=
  ∀ cs ds, f (b.withLog cs ds) = (f b).withLog ((es.flatMap Event.moves).foldl Counters.bump cs)
    (ds ++ es.filterMap Event.delivery?)

namespace Records

variable {f g : Bot → Bot} {es es' : List Event} {b : Bot}

theorem of_withLog (h : ∀ cs ds, f (b.withLog cs ds) = (f b).withLog cs ds) : Records f [] b := by
  intro cs ds
  rw [h, List.filterMap_nil, List.append_nil]
  rfl

theorem refl (b : Bot) : Records id [] b := .of_withLog fun _ _ => rfl

/-- What an action does on a bot with any log is all that matters. -/
theorem congr (h : ∀ cs ds, f (b.withLog cs ds) = g (b.withLog cs ds)) (hg : Records g es b) :
    Records f es b := by
  intro cs ds
  have hb : f b = g b := h b.counters b.deliveries
  rw [h, hg, hb]

theorem comp (hf : Records f es b) (hg : Records g es' (f b)) :
    Records (g ∘ f) (es ++ es') b := by
  intro cs ds
  rw [Function.comp_apply, hf, hg, Function.comp_apply, List.flatMap_append, List.foldl_append,
    List.filterMap_append, List.append_assoc]

/-- What only notes its events, whatever is in the log, does nothing else. -/
theorem of_notes {noted : Bot → List Event} (h : ∀ p : Bot, p.Notes (noted p) (f p)) (b : Bot)
    (hnoted : ∀ cs ds, noted (b.withLog cs ds) = noted b) : Records f (noted b) b := by
  intro cs ds
  rw [h, hnoted, h b]
  rfl

theorem recorded (h : Records f es b) : b.Recorded es (f b) where
  counters := congrArg Bot.counters (h b.counters b.deliveries)
  deliveries := congrArg Bot.deliveries (h b.counters b.deliveries)

end Records

/-! ## Messages -/

theorem records_run (b : Bot) (chat : Chat) (sender : User) (i : Invocation) (now : Instant) :
    Records (·.run chat sender i now) (b.runEvents chat sender i now) b := by
  have hhandle (cs : Counters) (ds : List Delivery) :=
    b.handle_withLog cs ds i (b.context chat sender i) now
  have hcontext (cs : Counters) (ds : List Delivery) :
    (b.withLog cs ds).context chat sender i = b.context chat sender i := rfl
  have hmade : Records (fun p => (p.handle i (b.context chat sender i) now).2) [] b :=
    .of_withLog fun cs ds => congrArg Prod.snd (hhandle cs ds)
  refine .congr (fun cs ds => ?_)
    (hmade.comp (.of_notes (notes_conclude · chat sender i.command.name
      (b.handle i (b.context chat sender i) now).1) _ fun _ _ => rfl))
  rw [run, hcontext, Function.comp_apply, hhandle]

theorem records_obey (b : Bot) (chat : Chat) (sender : User) (text : String) (now : Instant) :
    Records (·.obey chat sender text now) (b.obeyEvents chat sender text now) b := by
  have hinvocation (cs : Counters) (ds : List Delivery) :
    (b.withLog cs ds).invocation? chat text = b.invocation? chat text := rfl
  unfold obeyEvents
  split
  next h =>
    refine .congr (fun cs ds => ?_) (.refl b)
    rw [obey, hinvocation, h]
    rfl
  next i h =>
    refine .congr (fun cs ds => ?_) (b.records_run chat sender i now)
    rw [obey, hinvocation, h]
  next e h =>
    refine .congr (fun cs ds => ?_)
      (.of_notes (notes_reject · chat sender e) b fun _ _ => rfl)
    rw [obey, hinvocation, h]

/-- What happens because of a message. -/
theorem records_receive (b : Bot) (chat : Chat) (sender : User) (text : String)
    (urls : List String) (now : Instant) :
    Records (·.receive chat sender text urls now)
      (b.receiveEvents chat sender text urls now) b := by
  have hheard : Records (·.heard chat sender text urls) _ b :=
    .of_notes (notes_heard · chat sender text urls) b fun _ _ => rfl
  have hobey := (b.heard chat sender text urls).records_obey chat sender text now
  rw [b.notes_heard chat sender text urls, obeyEvents_withLog,
    ← b.notes_heard chat sender text urls] at hobey
  exact .congr (fun _ _ => rfl) (hheard.comp hobey)

/-! ## Scheduled commands -/

theorem records_fire (clock : Instant) (b : Bot) (e : ScheduledCommand) :
    Records (fire clock · e) (fireEvents clock b e) b := by
  have hresolve (cs : Counters) (ds : List Delivery) :
    (b.withLog cs ds).resolve e.command e.chat = b.resolve e.command e.chat := rfl
  unfold fireEvents
  split
  next error h =>
    refine .congr (fun cs ds => ?_)
      (.of_notes (fun p => Notes.count p (e := .unknown e) rfl) b fun _ _ => rfl)
    rw [fire, hresolve, h, eq_commandNotFound_of_resolve h]
    rfl
  next entry h =>
    have hrun := records_run (b.count .fired) e.chat e.sender (entry.invoke e.args) clock
    rw [show b.count .fired = b.withLog (b.counters.bump .fired) b.deliveries from rfl,
      runEvents_withLog] at hrun
    have hfired : Records _ [.fired e] b :=
      .of_notes (fun p => Notes.count p (e := .fired e) rfl) b fun _ _ => rfl
    refine .congr (fun cs ds => ?_) (hfired.comp hrun)
    rw [fire, hresolve, h]
    rfl

theorem records_foldl_fire (clock : Instant) (b : Bot) (es : List ScheduledCommand) :
    Records (es.foldl (fire clock)) (firingEvents clock b es) b := by
  induction es generalizing b with
  | nil => exact .refl b
  | cons e es ih => exact (records_fire clock b e).comp (ih (fire clock b e))

/-! ## Operations -/

/-- The events of a tick. -/
def tickEvents (b : Bot) (now clock : Instant) : List Event :=
  match b.config.lateness? with
  | none => []
  | some lateness =>
    let due := (b.takeDue now lateness).1
    due.missed.map .missed ++ firingEvents clock (b.tickStart now lateness) due.fire

/-- The events of a message that is sent to a chat. -/
def sendEvents (b : Bot) (chat : Chat) (text : String) : List Event :=
  match b.backend? chat with
  | none => []
  | some k => [.sent (.message chat text (k.delivers chat))]

/-- The events of an operation. -/
def events (b : Bot) : Operation → List Event
  | .tick now clock => b.tickEvents now clock
  | .receive chat sender text urls now => b.receiveEvents chat sender text urls now
  | .run chat sender i now => b.runEvents chat sender i now
  | .reply chat sender text => b.replyEvents chat sender text
  | .send chat text => b.sendEvents chat text
  | _ => []

/-- The events of operations, one after the other. -/
def history : Bot → List Operation → List Event
  | _, [] => []
  | b, op :: ops => b.events op ++ (b.perform op).history ops

theorem recorded_attempt (b : Bot) (c : Change) : b.Recorded [] (b.attempt c).2 := by
  have h : (b.attempt c).2 = (b.attempt c).2.withLog b.counters b.deliveries :=
    congrArg Prod.snd (b.attempt_withLog b.counters b.deliveries c)
  exact .of_eq (congrArg Bot.counters h :) (congrArg Bot.deliveries h :)

theorem recorded_takeDue (b : Bot) (now : Instant) (lateness : Elapsed) :
    b.Recorded [] (b.takeDue now lateness).2 := by
  unfold takeDue
  dsimp only
  split
  · exact .of_eq rfl rfl
  · exact .of_eq rfl rfl

theorem recorded_tickStart (b : Bot) (now : Instant) (lateness : Elapsed) :
    b.Recorded ((b.takeDue now lateness).1.missed.map .missed) (b.tickStart now lateness) := by
  have hmissed (p : Bot) (es : List ScheduledCommand) :
      p.Recorded (es.map .missed) (es.foldl (fun p _ => p.count .missed) p) := by
    induction es generalizing p with
    | nil => exact .refl p
    | cons e es ih => exact (Notes.count p (e := .missed e) rfl).recorded.trans (ih _)
  exact (b.recorded_takeDue now lateness).trans (hmissed _ _)

theorem recorded_tick {b after : Bot} {now clock : Instant}
    (h : b.tick? now clock = some after) : b.Recorded (b.tickEvents now clock) after := by
  obtain ⟨lateness, hlateness, rfl⟩ := Option.map_eq_some_iff.1 h
  have hfired := records_foldl_fire clock (b.tickStart now lateness) (b.takeDue now lateness).1.fire
  rw [tickEvents, hlateness]
  have hall := (b.recorded_tickStart now lateness).trans hfired.recorded
  exact ⟨hall.counters, hall.deliveries⟩

/-- Every operation counts and sends what its events say. -/
theorem recorded_perform (b : Bot) (op : Operation) : b.Recorded (b.events op) (b.perform op) := by
  cases op with
  | change c => exact b.recorded_attempt c
  | tick now clock =>
    rw [perform, events]
    cases h : b.tick? now clock with
    | none =>
      rw [tickEvents, Option.map_eq_none_iff.1 h]
      exact .refl b
    | some after => exact recorded_tick h
  | receive chat sender text urls now =>
    exact (b.records_receive chat sender text urls now).recorded
  | run chat sender i now => exact (b.records_run chat sender i now).recorded
  | reply chat sender text => exact (b.notes_reply chat sender text).recorded
  | send chat text =>
    rw [perform, events, sendEvents, send]
    cases b.backend? chat with
    | none => exact .refl b
    | some k => exact ⟨rfl, rfl⟩
  | addCommand c =>
    rw [perform]
    cases h : b.addCommand? c.lowered with
    | none => exact .refl b
    | some b' =>
      obtain ⟨registry, -, rfl⟩ := Option.map_eq_some_iff.1 h
      exact .of_eq rfl rfl
  | addBackend k =>
    rw [perform, addBackend?]
    split
    · exact .refl b
    · exact .of_eq rfl rfl
  | addVariable name v =>
    rw [perform, addVariable?]
    split
    · exact .refl b
    · exact .of_eq rfl rfl
  | scheduleTask | refreshChats | chatNumber | shutdown | persist => exact .of_eq rfl rfl
  | restore store =>
    rw [perform, Bot.restore]
    cases store.load with
    | error e => exact .of_eq rfl rfl
    | ok s =>
      dsimp only [Except.map]
      rw [restoreSnapshot_eq]
      exact .of_eq rfl rfl

/-- A run of operations counts and sends what its history says. -/
theorem recorded_history (b : Bot) (ops : List Operation) :
    b.Recorded (b.history ops) (ops.foldl perform b) := by
  induction ops generalizing b with
  | nil => exact .refl b
  | cons op ops ih => exact (b.recorded_perform op).trans (ih _)

end ChatBot.Bot
