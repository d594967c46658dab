import ChatBot.Bot.Dispatch

/-!
# The log of a bot

Counters and deliveries are a log: no handler reads it or writes to it, so on a bot with another log
a handler does the same (`Bot.handle_withLog`).
-/

namespace ChatBot.Bot

/-- The bot with other counters and deliveries. -/
def withLog (b : Bot) (cs : Counters) (ds : List Delivery) : Bot :=
  { b with counters := cs, deliveries := ds }

/-- The bot with other counters. -/
def withCounters (b : Bot) (cs : Counters) : Bot := { b with counters := cs }

variable (b : Bot) (cs : Counters) (ds : List Delivery)

@[simp]
theorem registry_withLog : (b.withLog cs ds).registry = b.registry := rfl

@[simp]
theorem links_withLog : (b.withLog cs ds).links = b.links := rfl

@[simp]
theorem timers_withLog : (b.withLog cs ds).timers = b.timers := rfl

@[simp]
theorem readTarget_withLog : (b.withLog cs ds).readTarget = b.readTarget := rfl

/-! ## Changes -/

theorem createAlias_withLog (scope : Scope) (name target : String) (chat : Chat) :
    (b.withLog cs ds).createAlias scope name target chat =
      (b.createAlias scope name target chat).map fun (a, b) => (a, b.withLog cs ds) := by
  unfold createAlias
  rw [readTarget_withLog, registry_withLog]
  split
  next => rfl
  next =>
    dsimp only
    split
    next => rfl
    next => rfl
    next =>
      split
      next => rfl
      next =>
        split
        next => rfl
        next => rfl

theorem setDelimiter_withLog (chat : Chat) (delimiter : String) :
    (b.withLog cs ds).setDelimiter chat delimiter =
      (b.setDelimiter chat delimiter).map (·.withLog cs ds) := by
  unfold setDelimiter
  cases Delimiter.fault? delimiter with
  | some e => rfl
  | none => rfl

theorem stopTimer_withLog (name : String) (now : Instant) :
    (b.withLog cs ds).stopTimer name now =
      ((b.stopTimer name now).1, (b.stopTimer name now).2.withLog cs ds) := by
  unfold stopTimer
  rw [timers_withLog]
  cases b.timers.get? name with
  | none => rfl
  | some started => rfl

/-- A change has no part in the log. -/
theorem attempt_withLog (c : Change) :
    (b.withLog cs ds).attempt c = ((b.attempt c).1, (b.attempt c).2.withLog cs ds) := by
  cases c with
  | setDelimiter chat delimiter =>
    simp only [attempt, setDelimiter_withLog]
    cases b.setDelimiter chat delimiter with
    | error e => rfl
    | ok p => rfl
  | createAlias scope name target chat =>
    simp only [attempt, createAlias_withLog]
    cases b.createAlias scope name target chat with
    | error e => rfl
    | ok p => rfl
  | removeAlias scope name =>
    simp only [attempt, removeAlias, registry_withLog]
    cases b.registry.removeAlias? scope name with
    | none => rfl
    | some r => rfl
  | schedule => rfl
  | unschedule id =>
    simp only [attempt, unschedule, show (b.withLog cs ds).scheduler = b.scheduler from rfl]
    cases b.scheduler.remove? id with
    | none => rfl
    | some r => rfl
  | link x y =>
    simp only [attempt, link]
    rw [links_withLog]
    split
    · rfl
    · cases b.links.isLinked x y with
      | false => rfl
      | true => rfl
  | unlink x y =>
    simp only [attempt, unlink]
    rw [links_withLog]
    cases b.links.isLinked x y with
    | false => rfl
    | true => rfl
  | startTimer name now =>
    simp only [attempt, startTimer]
    rw [timers_withLog]
    split
    · rfl
    · rfl
  | stopTimer name now => simp only [attempt, stopTimer_withLog]

theorem follow_withLog (s : Script) :
    (b.withLog cs ds).follow s = ((b.follow s).1, (b.follow s).2.withLog cs ds) := by
  induction s generalizing b with
  | finish outcome => rfl
  | look next ih => exact ih _ b
  | change c next ih =>
    rw [follow, follow, attempt_withLog]
    exact ih _ _

/-! ## Handlers -/

open Builtin

theorem chatLines_withLog (chats : List Chat) :
    chatLines (b.withLog cs ds) chats =
      ((chatLines b chats).1, (chatLines b chats).2.withLog cs ds) := by
  induction chats generalizing b with
  | nil => rfl
  | cons chat chats ih =>
    have h := ih (b.chatNumber chat).2
    simp only [chatLines]
    rw [show ((b.withLog cs ds).chatNumber chat).2 = (b.chatNumber chat).2.withLog cs ds
      from rfl, h]
    rfl

theorem linksReply_withLog (ctx : Context) :
    linksReply (b.withLog cs ds) ctx =
      ((linksReply b ctx).1, (linksReply b ctx).2.withLog cs ds) := by
  unfold linksReply
  rw [links_withLog]
  split
  next => rfl
  next => rw [chatLines_withLog]

theorem aliasIn_withLog (ctx : Context) (scope : Scope) (args : List String) :
    Builtin.aliasIn (b.withLog cs ds) ctx scope args =
      ((Builtin.aliasIn b ctx scope args).1,
        (Builtin.aliasIn b ctx scope args).2.withLog cs ds) := by
  unfold Builtin.aliasIn
  split
  next name first rest =>
    rw [createAlias_withLog]
    cases b.createAlias scope name (" ".intercalate (first :: rest)) ctx.chat with
    | error e => rfl
    | ok p => rfl
  next => rfl

theorem aliasReply_withLog (ctx : Context) :
    aliasReply (b.withLog cs ds) ctx =
      ((aliasReply b ctx).1, (aliasReply b ctx).2.withLog cs ds) := by
  unfold aliasReply
  split
  · split
    · exact b.aliasIn_withLog cs ds ctx _ _
    · rfl
  · exact b.aliasIn_withLog cs ds ctx _ _

theorem removeFrom_withLog (name : String) (scopes : List Scope) :
    removeFrom (b.withLog cs ds) name scopes =
      ((removeFrom b name scopes).1, (removeFrom b name scopes).2.withLog cs ds) := by
  induction scopes generalizing b with
  | nil => rfl
  | cons scope scopes ih =>
    have h := b.attempt_withLog cs ds (.removeAlias scope name)
    simp only [attempt] at h
    rw [removeFrom, removeFrom, h]
    obtain ⟨gone, p⟩ := b.removeAlias scope name
    cases gone with
    | true => rfl
    | false => exact ih p

theorem removeAll_withLog (scopes : List Scope) (names : List String) :
    removeAll (b.withLog cs ds) scopes names =
      ((removeAll b scopes names).1, (removeAll b scopes names).2.1,
        (removeAll b scopes names).2.2.withLog cs ds) := by
  induction names generalizing b with
  | nil => rfl
  | cons name names ih =>
    simp only [removeAll, removeFrom_withLog, ih]
    split
    · rfl
    · rfl

theorem unaliasReply_withLog (ctx : Context) :
    unaliasReply (b.withLog cs ds) ctx =
      ((unaliasReply b ctx).1, (unaliasReply b ctx).2.withLog cs ds) := by
  unfold unaliasReply
  split
  · rfl
  · dsimp only
    rw [removeAll_withLog]

theorem targetChat_withLog (ctx : Context) :
    targetChat (b.withLog cs ds) ctx =
      ((targetChat b ctx).1, (targetChat b ctx).2.withLog cs ds) := by
  unfold targetChat
  rw [show (b.withLog cs ds).directory = b.directory from rfl]
  split
  next => rfl
  next =>
    split
    next => rfl
    next =>
      dsimp only
      rw [show (b.withLog cs ds).refreshChats.directory = b.refreshChats.directory from rfl]
      split
      · rfl
      · rfl

theorem linkReply_withLog (ctx : Context) :
    linkReply (b.withLog cs ds) ctx =
      ((linkReply b ctx).1, (linkReply b ctx).2.withLog cs ds) := by
  unfold linkReply
  rw [targetChat_withLog]
  obtain ⟨found, p⟩ := targetChat b ctx
  cases found with
  | error text => rfl
  | ok chat =>
    have h := p.attempt_withLog cs ds (.link ctx.chat chat)
    simp only [attempt] at h
    dsimp only
    rw [h]
    obtain ⟨made, q⟩ := p.link ctx.chat chat
    split
    · rfl
    · cases made with
      | true => rfl
      | false => rfl

theorem unlinkReply_withLog (ctx : Context) :
    unlinkReply (b.withLog cs ds) ctx =
      ((unlinkReply b ctx).1, (unlinkReply b ctx).2.withLog cs ds) := by
  unfold unlinkReply
  rw [targetChat_withLog]
  obtain ⟨found, p⟩ := targetChat b ctx
  cases found with
  | error text => rfl
  | ok chat =>
    have h := p.attempt_withLog cs ds (.unlink ctx.chat chat)
    simp only [attempt] at h
    dsimp only
    rw [h]
    obtain ⟨made, q⟩ := p.unlink ctx.chat chat
    cases made with
    | true => rfl
    | false => rfl

theorem setDelimiterReply_withLog (ctx : Context) :
    setDelimiterReply (b.withLog cs ds) ctx =
      ((setDelimiterReply b ctx).1, (setDelimiterReply b ctx).2.withLog cs ds) := by
  unfold setDelimiterReply
  split
  next => rfl
  next delimiter _ =>
    rw [setDelimiter_withLog]
    cases b.setDelimiter ctx.chat delimiter with
    | error e => rfl
    | ok p => rfl

theorem scheduleReply_withLog (ctx : Context) (now : Instant) :
    scheduleReply (b.withLog cs ds) ctx now =
      ((scheduleReply b ctx now).1, (scheduleReply b ctx now).2.withLog cs ds) := by
  unfold scheduleReply
  rw [readTarget_withLog]
  split
  next =>
    split
    next => rfl
    next =>
      split
      next => rfl
      next =>
        split
        next => rfl
        next => rfl
        next => rfl
  next => rfl

theorem unscheduleReply_withLog (ctx : Context) :
    unscheduleReply (b.withLog cs ds) ctx =
      ((unscheduleReply b ctx).1, (unscheduleReply b ctx).2.withLog cs ds) := by
  unfold unscheduleReply
  split
  next => rfl
  next id _ =>
    have h := b.attempt_withLog cs ds (.unschedule id)
    simp only [attempt] at h
    rw [h]
    obtain ⟨made, p⟩ := b.unschedule id
    cases made with
    | true => rfl
    | false => rfl

theorem timerReply_withLog (ctx : Context) (now : Instant) :
    timerReply (b.withLog cs ds) ctx now =
      ((timerReply b ctx now).1, (timerReply b ctx now).2.withLog cs ds) := by
  unfold timerReply
  split
  next action name _ _ =>
    dsimp only
    split
    next =>
      have h := b.attempt_withLog cs ds (.startTimer name now)
      simp only [attempt] at h
      rw [h]
      obtain ⟨made, p⟩ := b.startTimer name now
      cases made with
      | true => rfl
      | false => rfl
    next =>
      rw [show (b.withLog cs ds).checkTimer name now = b.checkTimer name now from rfl]
      cases b.checkTimer name now with
      | none => rfl
      | some elapsed => rfl
    next =>
      rw [stopTimer_withLog]
      obtain ⟨elapsed, p⟩ := b.stopTimer name now
      cases elapsed with
      | none => rfl
      | some elapsed => rfl
    next => rfl
  next => rfl

theorem run_builtin_withLog (c : Builtin) (ctx : Context) (now : Instant) :
    c.run ctx now (b.withLog cs ds) =
      ((c.run ctx now b).1, (c.run ctx now b).2.withLog cs ds) := by
  cases c with
  | help | ping | commands | aliases | chats | exit | events | allEvents => rfl
  | echo =>
    simp only [Builtin.run]
    split
    · rfl
    · rfl
  | «alias» => simp only [Builtin.run, aliasReply_withLog]
  | unalias => simp only [Builtin.run, unaliasReply_withLog]
  | link => simp only [Builtin.run, linkReply_withLog]
  | unlink => simp only [Builtin.run, unlinkReply_withLog]
  | links => simp only [Builtin.run, linksReply_withLog]
  | setDelimiter => simp only [Builtin.run, setDelimiterReply_withLog]
  | schedule => simp only [Builtin.run, scheduleReply_withLog]
  | unschedule => simp only [Builtin.run, unscheduleReply_withLog]
  | timer => simp only [Builtin.run, timerReply_withLog]

/-- A handler has no part in the log. -/
theorem handle_withLog (i : Invocation) (ctx : Context) (now : Instant) :
    (b.withLog cs ds).handle i ctx now =
      ((b.handle i ctx now).1, (b.handle i ctx now).2.withLog cs ds) := by
  unfold handle
  split
  · exact b.run_builtin_withLog cs ds _ ctx now
  · rfl
  · exact b.follow_withLog cs ds _

end ChatBot.Bot
