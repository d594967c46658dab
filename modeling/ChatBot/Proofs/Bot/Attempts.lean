import ChatBot.Proofs.Bot.Course

/-!
# What handlers attempt

A command that every bot has attempts changes of its own kind only, in the chat and for the sender
that it runs for (`Builtin.Attempts`), and a script attempts those that it says. Nothing else is
changed because of a message or a scheduled command.
-/

namespace ChatBot

/-- The scopes whose aliases count where a command runs, the closest one first. -/
def Context.scopes (ctx : Context) : List Scope :=
  .chat ctx.chat :: (ctx.server.map Scope.server).toList

namespace Builtin

/-- The removals that are attempted for some names: those of each name from the first scopes, up to
one that has it. -/
inductive Removal (scopes : List Scope) : Bot → List String → Change → Prop
  | first {b : Bot} {name : String} {names : List String} {before after : List Scope}
    {scope : Scope} : scopes = before ++ scope :: after →
    (∀ s ∈ before, b.registry.alias? s name = none) →
    Removal scopes b (name :: names) (.removeAlias scope name)
  | next {b : Bot} {name : String} {names : List String} {c : Change} :
    Removal scopes (removeFrom b name scopes).2 names c → Removal scopes b (name :: names) c

/-- The changes that a command may attempt. -/
inductive Attempts (b : Bot) (ctx : Context) (now : Instant) : Builtin → Change → Prop
  | chatAlias {name first : String} {rest : List String} : ctx.args = name :: first :: rest →
    Attempts b ctx now .alias
      (.createAlias (.chat ctx.chat) name (" ".intercalate (first :: rest)) ctx.chat)
  | serverAlias {server : Server} {name first : String} {rest : List String} :
    ctx.server = some server → ctx.args = serverFlag :: name :: first :: rest →
    Attempts b ctx now .alias
      (.createAlias (.server server) name (" ".intercalate (first :: rest)) ctx.chat)
  | unalias {c : Change} : Removal ctx.scopes b ctx.args c → Attempts b ctx now .unalias c
  | link {chat : Chat} : chat ≠ ctx.chat → Attempts b ctx now .link (.link ctx.chat chat)
  | unlink {chat : Chat} : Attempts b ctx now .unlink (.unlink ctx.chat chat)
  | setDelimiter {delimiter : String} : ctx.arg? 0 = some delimiter →
    Attempts b ctx now .setDelimiter (.setDelimiter ctx.chat delimiter)
  | schedule {command : String} {args : List String} {time : Instant} : ¬time < now →
    Attempts b ctx now .schedule (.schedule ctx.chat ctx.sender command args time)
  | unschedule {id : Nat} : Attempts b ctx now .unschedule (.unschedule id)
  | startTimer {name : String} : Attempts b ctx now .timer (.startTimer name now)
  | stopTimer {name : String} : Attempts b ctx now .timer (.stopTimer name now)

end Builtin

/-- The changes that a script attempts on a bot. -/
inductive Script.Attempts : Bot → Script → Change → Prop
  | look {b : Bot} {next : Snapshot → Script} {c : Change} :
    Attempts b (next b.snapshot) c → Attempts b (.look next) c
  | now {b : Bot} {c : Change} {next : Bool → Script} : Attempts b (.change c next) c
  | later {b : Bot} {c c' : Change} {next : Bool → Script} :
    Attempts (b.attempt c).2 (next (b.attempt c).1) c' → Attempts b (.change c next) c'

/-- The changes that a handler may attempt. -/
def Handler.Attempts (b : Bot) (ctx : Context) (now : Instant) : Handler → Change → Prop
  | .builtin command => command.Attempts b ctx now
  | .custom _ => fun _ => False
  | .scripted run => (run ctx).Attempts b

namespace Bot

/-- The changes that may be attempted when a command runs. -/
def RunAttempts (b : Bot) (chat : Chat) (sender : User) (i : Invocation) (now : Instant) :
    Change → Prop :=
  i.command.handler.Attempts b (b.context chat sender i) now

/-- The bot after a message was copied, unless it said that itself. -/
def heard (b : Bot) (chat : Chat) (sender : User) (text : String) (urls : List String) : Bot :=
  if b.isSelf chat sender then b else b.forward chat sender text urls

/-- The changes that may be attempted because of a message. -/
def ReceiveAttempts (b : Bot) (chat : Chat) (sender : User) (text : String) (urls : List String)
    (now : Instant) (c : Change) : Prop :=
  ∃ i, (b.heard chat sender text urls).invocation? chat text = .ok (some i) ∧
    (b.heard chat sender text urls).RunAttempts chat sender i now c

/-- The changes that may be attempted when scheduled commands run, one after the other. -/
def FireAttempts (clock : Instant) (b : Bot) : List ScheduledCommand → Change → Prop
  | [], _ => False
  | e :: es, c =>
    (∃ entry, b.resolve e.command e.chat = .ok entry ∧
      (b.count .fired).RunAttempts e.chat e.sender (entry.invoke e.args) clock c) ∨
    FireAttempts clock (fire clock b e) es c

variable {beside : Bot → Bot → Prop} {may : Change → Prop}

open Builtin

/-! ## What changes leave alone -/

/-- A change touches nothing but what is stored. -/
theorem attempt_eq (b : Bot) (c : Change) :
    ∃ store registry scheduler delimiters links timers, (b.attempt c).2 = { b with
      store := store
      registry := registry
      scheduler := scheduler
      delimiters := delimiters
      links := links
      timers := timers } := by
  cases c with
  | setDelimiter chat delimiter =>
    rw [attempt, setDelimiter]
    cases Delimiter.fault? delimiter with
    | some e => exact ⟨_, _, _, _, _, _, rfl⟩
    | none => exact ⟨_, _, _, _, _, _, rfl⟩
  | createAlias scope name target chat =>
    rw [attempt]
    cases hcreate : b.createAlias scope name target chat with
    | error e => exact ⟨_, _, _, _, _, _, rfl⟩
    | ok r =>
      obtain ⟨-, _, _, _, -, -, -, -, hmade⟩ := createAlias_eq_ok_iff.1 hcreate
      dsimp only
      rw [hmade]
      exact ⟨_, _, _, _, _, _, rfl⟩
  | removeAlias scope name =>
    rw [attempt, removeAlias]
    cases b.registry.removeAlias? scope name with
    | none => exact ⟨_, _, _, _, _, _, rfl⟩
    | some r => exact ⟨_, _, _, _, _, _, rfl⟩
  | schedule chat sender command args time => exact ⟨_, _, _, _, _, _, rfl⟩
  | unschedule id =>
    rw [attempt, unschedule]
    cases b.scheduler.remove? id with
    | none => exact ⟨_, _, _, _, _, _, rfl⟩
    | some r => exact ⟨_, _, _, _, _, _, rfl⟩
  | link x y =>
    rw [attempt, link]
    split
    · exact ⟨_, _, _, _, _, _, rfl⟩
    · cases b.links.isLinked x y with
      | false => exact ⟨_, _, _, _, _, _, rfl⟩
      | true => exact ⟨_, _, _, _, _, _, rfl⟩
  | unlink x y =>
    rw [attempt, unlink]
    cases b.links.isLinked x y with
    | false => exact ⟨_, _, _, _, _, _, rfl⟩
    | true => exact ⟨_, _, _, _, _, _, rfl⟩
  | startTimer name now =>
    rw [attempt, startTimer]
    split
    · exact ⟨_, _, _, _, _, _, rfl⟩
    · exact ⟨_, _, _, _, _, _, rfl⟩
  | stopTimer name now =>
    rw [attempt, stopTimer]
    cases b.timers.get? name with
    | none => exact ⟨_, _, _, _, _, _, rfl⟩
    | some started => exact ⟨_, _, _, _, _, _, rfl⟩

/-! ## Commands that change nothing -/

/-- Bots that differ in the numbers of chats at most, and in whether everything has to stop. -/
def Aside (b b' : Bot) : Prop :=
  ∃ directory stopping, b' = { b with directory := directory, stopping := stopping }

/-- A handler goes on by changes that it may make. Beside them it only gives numbers to chats and
asks everything to stop. -/
abbrev ActsBy (may : Change → Prop) (b : Bot) : Bot → Prop := b.Goes Aside may

namespace Aside

variable {b p q : Bot}

theorem refl (b : Bot) : b.Aside b := ⟨b.directory, b.stopping, rfl⟩

theorem trans (h : b.Aside p) (h' : p.Aside q) : b.Aside q := by
  obtain ⟨_, _, rfl⟩ := h
  obtain ⟨directory, stopping, rfl⟩ := h'
  exact ⟨directory, stopping, rfl⟩

theorem sameState (h : b.Aside p) : SameState b p := by
  obtain ⟨_, _, rfl⟩ := h
  constructor <;> rfl

end Aside

theorem aside_refreshChats (b : Bot) : b.Aside b.refreshChats := ⟨_, _, rfl⟩

theorem aside_chatNumber (b : Bot) (chat : Chat) : b.Aside (b.chatNumber chat).2 := ⟨_, _, rfl⟩

theorem aside_chatLines (b : Bot) (chats : List Chat) : b.Aside (chatLines b chats).2 := by
  induction chats generalizing b with
  | nil => exact .refl b
  | cons chat chats ih => exact (b.aside_chatNumber chat).trans (ih _)

theorem aside_linksReply (b : Bot) (ctx : Context) : b.Aside (linksReply b ctx).2 := by
  unfold linksReply
  split
  · exact .refl b
  · exact b.aside_chatLines _

theorem aside_targetChat (b : Bot) (ctx : Context) : b.Aside (targetChat b ctx).2 := by
  unfold targetChat
  split
  next => exact .refl b
  next =>
    split
    next => exact .refl b
    next =>
      dsimp only
      split
      · exact b.aside_refreshChats
      · exact b.aside_refreshChats

/-! ## Commands that change something

Most of them do nothing beside their changes.
-/

theorem goes_aliasIn (b : Bot) (ctx : Context) (scope : Scope) (args : List String)
    (h : ∀ name first rest, args = name :: first :: rest →
      may (.createAlias scope name (" ".intercalate (first :: rest)) ctx.chat)) :
    b.Goes beside may (Builtin.aliasIn b ctx scope args).2 := by
  unfold Builtin.aliasIn
  split
  next name first rest =>
    have hgoes : b.Goes beside may _ := .attempt b (h name first rest rfl)
    rw [attempt] at hgoes
    split
    next heq => rwa [heq] at hgoes
    next => exact .refl
  next => exact .refl

theorem goes_aliasReply (b : Bot) (ctx : Context) (now : Instant) :
    b.Goes beside (Builtin.Attempts b ctx now .alias) (aliasReply b ctx).2 := by
  unfold aliasReply
  split
  next hflag =>
    split
    next server hserver =>
      refine b.goes_aliasIn ctx _ _ fun name first rest hargs => .serverAlias hserver ?_
      obtain ⟨flag, args, hctx⟩ : ∃ flag args, ctx.args = flag :: args :=
        List.exists_cons_of_ne_nil fun hnil => by simp [Context.arg?, hnil] at hflag
      rw [Context.arg?, hctx] at hflag
      rw [hctx] at hargs ⊢
      rw [← Option.some.inj hflag, ← hargs]
      rfl
    next => exact .refl
  next => exact b.goes_aliasIn ctx _ _ fun name first rest hargs => .chatAlias hargs

theorem removeAlias_eq_false {b p : Bot} {scope : Scope} {name : String}
    (h : b.removeAlias scope name = (false, p)) :
    b.registry.alias? scope name = none ∧ p = b := by
  rw [removeAlias] at h
  split at h
  next => cases h
  next hnone =>
    cases h
    exact ⟨Option.map_eq_none_iff.1 hnone, rfl⟩

theorem goes_removeFrom (b : Bot) (name : String) (scopes : List Scope)
    (h : ∀ before scope after, scopes = before ++ scope :: after →
      (∀ s ∈ before, b.registry.alias? s name = none) → may (.removeAlias scope name)) :
    b.Goes beside may (removeFrom b name scopes).2 := by
  induction scopes with
  | nil => exact .refl
  | cons scope scopes ih =>
    rw [removeFrom]
    split
    next heq => exact .of_attempt (c := .removeAlias scope name) (h [] scope scopes rfl nofun) heq
    next heq =>
      -- A scope without the alias leaves the bot as it was, so the next one is tried on the same.
      obtain ⟨hnone, rfl⟩ := removeAlias_eq_false heq
      refine ih fun before scope' after hscopes hbefore =>
        h (scope :: before) scope' after (congrArg _ hscopes) ?_
      exact List.forall_mem_cons.2 ⟨hnone, hbefore⟩

theorem goes_removeAll (b : Bot) (scopes : List Scope) (names : List String) :
    b.Goes beside (Removal scopes b names) (removeAll b scopes names).2.2 := by
  induction names generalizing b with
  | nil => exact .refl
  | cons name names ih =>
    have hfirst : b.Goes beside (Removal scopes b (name :: names)) (removeFrom b name scopes).2 :=
      b.goes_removeFrom name scopes fun _ _ _ => .first
    have hall := hfirst.trans ((ih (removeFrom b name scopes).2).mono fun _ => .next)
    rw [removeAll]
    dsimp only
    split
    · exact hall
    · exact hall

theorem goes_unaliasReply (b : Bot) (ctx : Context) (now : Instant) :
    b.Goes beside (Builtin.Attempts b ctx now .unalias) (unaliasReply b ctx).2 := by
  unfold unaliasReply
  split
  · exact .refl
  · exact (b.goes_removeAll ctx.scopes ctx.args).mono fun _ => .unalias

theorem actsBy_linkReply (b : Bot) (ctx : Context) (now : Instant) :
    b.ActsBy (Builtin.Attempts b ctx now .link) (linkReply b ctx).2 := by
  have htarget : b.ActsBy (Builtin.Attempts b ctx now .link) (targetChat b ctx).2 :=
    .of_beside (b.aside_targetChat ctx)
  unfold linkReply
  split
  next heq => rwa [heq] at htarget
  next chat p heq =>
    rw [heq] at htarget
    split
    next => exact htarget
    next hne =>
      split
      next hlink => exact htarget.trans (.of_attempt (.link hne) hlink)
      next hlink => exact htarget.trans (.of_attempt (.link hne) hlink)

theorem actsBy_unlinkReply (b : Bot) (ctx : Context) (now : Instant) :
    b.ActsBy (Builtin.Attempts b ctx now .unlink) (unlinkReply b ctx).2 := by
  have htarget : b.ActsBy (Builtin.Attempts b ctx now .unlink) (targetChat b ctx).2 :=
    .of_beside (b.aside_targetChat ctx)
  unfold unlinkReply
  split
  next heq => rwa [heq] at htarget
  next chat p heq =>
    rw [heq] at htarget
    split
    next hunlink => exact htarget.trans (.of_attempt .unlink hunlink)
    next hunlink => exact htarget.trans (.of_attempt .unlink hunlink)

theorem goes_setDelimiterReply (b : Bot) (ctx : Context) (now : Instant) :
    b.Goes beside (Builtin.Attempts b ctx now .setDelimiter) (setDelimiterReply b ctx).2 := by
  unfold setDelimiterReply
  split
  next => exact .refl
  next delimiter harg =>
    have hgoes : b.Goes beside (Builtin.Attempts b ctx now .setDelimiter) _ :=
      .attempt b (.setDelimiter harg)
    rw [attempt] at hgoes
    split
    next heq => rwa [heq] at hgoes
    next => exact .refl

theorem goes_scheduleReply (b : Bot) (ctx : Context) (now : Instant) :
    b.Goes beside (Builtin.Attempts b ctx now .schedule) (scheduleReply b ctx now).2 := by
  unfold scheduleReply
  split
  next =>
    split
    next => exact .refl
    next time _ =>
      split
      next => exact .refl
      next htime =>
        split
        next => exact .refl
        next => exact .refl
        next line _ _ => exact .attempt b (Builtin.Attempts.schedule htime)
  next => exact .refl

theorem goes_unscheduleReply (b : Bot) (ctx : Context) (now : Instant) :
    b.Goes beside (Builtin.Attempts b ctx now .unschedule) (unscheduleReply b ctx).2 := by
  unfold unscheduleReply
  split
  next => exact .refl
  next id _ =>
    split
    next heq => exact .of_attempt .unschedule heq
    next heq => exact .of_attempt .unschedule heq

theorem goes_timerReply (b : Bot) (ctx : Context) (now : Instant) :
    b.Goes beside (Builtin.Attempts b ctx now .timer) (timerReply b ctx now).2 := by
  unfold timerReply
  split
  next action name _ _ =>
    dsimp only
    split
    next =>
      split
      next heq => exact .of_attempt .startTimer heq
      next heq => exact .of_attempt .startTimer heq
    next =>
      split
      · exact .refl
      · exact .refl
    next =>
      have hmay : Builtin.Attempts b ctx now .timer (.stopTimer name now) := .stopTimer
      have hgoes : b.Goes beside (Builtin.Attempts b ctx now .timer) _ := .attempt b hmay
      rw [attempt] at hgoes
      split
      next heq => rwa [heq] at hgoes
      next heq => rwa [heq] at hgoes
    next => exact .refl
  next => exact .refl

/-! ## All handlers -/

theorem actsBy_run_builtin (b : Bot) (command : Builtin) (ctx : Context) (now : Instant) :
    b.ActsBy (command.Attempts b ctx now) (command.run ctx now b).2 := by
  cases command with
  | help | ping | commands | aliases | events | allEvents => exact .refl
  | echo =>
    rw [Builtin.run]
    split
    · exact .refl
    · exact .refl
  | chats => exact .of_beside (b.aside_refreshChats.trans (aside_chatNumber _ ctx.chat))
  | exit => exact .of_beside ⟨_, _, rfl⟩
  | «alias» => exact b.goes_aliasReply ctx now
  | unalias => exact b.goes_unaliasReply ctx now
  | link => exact b.actsBy_linkReply ctx now
  | unlink => exact b.actsBy_unlinkReply ctx now
  | links => exact .of_beside (b.aside_linksReply ctx)
  | setDelimiter => exact b.goes_setDelimiterReply ctx now
  | schedule => exact b.goes_scheduleReply ctx now
  | unschedule => exact b.goes_unscheduleReply ctx now
  | timer => exact b.goes_timerReply ctx now

theorem goes_follow (b : Bot) (s : Script) : b.Goes beside (s.Attempts b) (b.follow s).2 := by
  induction s generalizing b with
  | finish outcome => exact .refl
  | look next ih => exact (ih _ b).mono fun _ => .look
  | change c next ih => exact (Goes.attempt b .now).trans ((ih _ _).mono fun _ => .later)

/-- A handler does nothing but to attempt its changes, to give numbers to chats and to ask
everything to stop. -/
theorem actsBy_handle (b : Bot) (i : Invocation) (ctx : Context) (now : Instant) :
    b.ActsBy (i.command.handler.Attempts b ctx now) (b.handle i ctx now).2 := by
  rw [handle]
  cases i.command.handler with
  | builtin command => exact b.actsBy_run_builtin command ctx now
  | custom run => exact .refl
  | scripted run => exact b.goes_follow (run ctx)

theorem goesBy_handle (b : Bot) (i : Invocation) (ctx : Context) (now : Instant) :
    b.GoesBy (i.command.handler.Attempts b ctx now) (b.handle i ctx now).2 :=
  (b.actsBy_handle i ctx now).imp fun _ _ => Aside.sameState

/-! ## Messages and scheduled commands -/

theorem sameState_run (b : Bot) (chat : Chat) (sender : User) (i : Invocation) (now : Instant) :
    SameState (b.handle i (b.context chat sender i) now).2 (b.run chat sender i now) :=
  (sameState_count _ _).trans (sameState_conclude _ chat sender i.command.name _)

theorem goesBy_run (b : Bot) (chat : Chat) (sender : User) (i : Invocation) (now : Instant) :
    b.GoesBy (b.RunAttempts chat sender i now) (b.run chat sender i now) :=
  (b.goesBy_handle i (b.context chat sender i) now).aside (b.sameState_run chat sender i now)

theorem sameState_heard (b : Bot) (chat : Chat) (sender : User) (text : String)
    (urls : List String) : SameState b (b.heard chat sender text urls) := by
  unfold heard
  split
  · exact .refl b
  · exact b.sameState_forward chat sender text urls

/-- A message is copied first, and then it is seen what it runs. -/
theorem receive_eq (b : Bot) (chat : Chat) (sender : User) (text : String) (urls : List String)
    (now : Instant) :
    b.receive chat sender text urls now =
      let b := b.heard chat sender text urls
      match b.invocation? chat text with
      | .ok none => b
      | .ok (some i) => b.run chat sender i now
      | .error e => (b.count (.error "unknown" e.code)).reply chat sender e.reply := rfl

theorem goesBy_receive (b : Bot) (chat : Chat) (sender : User) (text : String)
    (urls : List String) (now : Instant) :
    b.GoesBy (b.ReceiveAttempts chat sender text urls now)
      (b.receive chat sender text urls now) := by
  have hheard : b.GoesBy (b.ReceiveAttempts chat sender text urls now)
      (b.heard chat sender text urls) := .of_beside (b.sameState_heard chat sender text urls)
  rw [receive_eq]
  dsimp only
  split
  next => exact hheard
  next i hi =>
    exact hheard.trans ((goesBy_run _ chat sender i now).mono fun c hc => ⟨i, hi, hc⟩)
  next => exact hheard.aside ((sameState_count _ _).trans (sameState_reply _ chat sender _))

theorem goesBy_foldl_fire (clock : Instant) (b : Bot) (es : List ScheduledCommand) :
    b.GoesBy (FireAttempts clock b es) (es.foldl (fire clock) b) := by
  induction es generalizing b with
  | nil => exact .refl
  | cons e es ih =>
    have hfirst : b.GoesBy (FireAttempts clock b (e :: es)) (fire clock b e) := by
      unfold fire
      split
      next => exact .of_beside (b.sameState_count _)
      next entry hentry =>
        exact (Goes.of_beside (b.sameState_count _)).trans
          ((goesBy_run _ e.chat e.sender _ clock).mono fun c hc => .inl ⟨entry, hentry, hc⟩)
    exact hfirst.trans ((ih (fire clock b e)).mono fun c => .inr)

end Bot

end ChatBot
