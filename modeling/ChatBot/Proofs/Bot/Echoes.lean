import ChatBot.Proofs.Bot.History
import ChatBot.Proofs.Bot.Sends
import ChatBot.Proofs.Bot.Setup

/-!
# A bot and its own messages

A bot sends nothing because of what it said itself, or had itself do later. All that it sends goes
to chats where it is a user. So nothing comes of its messages when they come back to it
(`Bot.never_answers_itself`).
-/

namespace ChatBot

namespace Delivery

/-- What is said by it, if anything. -/
def text : Delivery → String
  | .message _ text _ => text
  | .images _ _ => ""

/-- The images of it. -/
def urls : Delivery → List String
  | .message _ _ _ => []
  | .images _ urls => urls

end Delivery

namespace Bot

variable {b : Bot} {chat : Chat} {self : User}

/-! ## Nothing is sent -/

theorem replyEvents_of_self (h : b.self? chat = some self) (text : String) :
    b.replyEvents chat self text = [] := by
  obtain ⟨k, hk, hself⟩ := Option.map_eq_some_iff.1 h
  rw [replyEvents, hk]
  exact if_pos hself

theorem sent_runEvents_of_self (h : b.self? chat = some self) (i : Invocation) (now : Instant) :
    (b.runEvents chat self i now).filterMap Event.delivery? = [] := by
  have hafter : (b.handle i (b.context chat self i) now).2.self? chat = some self :=
    (b.sameSetup_handle i (b.context chat self i) now).self?_eq.trans h
  rw [runEvents]
  dsimp only
  cases answer? _ chat self _ with
  | none => rfl
  | some text =>
    rw [Option.elim_some, replyEvents_of_self hafter]
    rfl

theorem sent_obeyEvents_of_self (h : b.self? chat = some self) (text : String) (now : Instant) :
    (b.obeyEvents chat self text now).filterMap Event.delivery? = [] := by
  unfold obeyEvents
  split
  next => rfl
  next i _ => exact sent_runEvents_of_self h i now
  next e _ =>
    rw [replyEvents_of_self h]
    rfl

theorem deliveries_receive_of_self (h : b.self? chat = some self) (text : String)
    (urls : List String) (now : Instant) :
    (b.receive chat self text urls now).deliveries = b.deliveries := by
  have hself : b.isSelf chat self = true := by
    rw [isSelf, h, beq_self_eq_true]
  rw [(b.records_receive chat self text urls now).recorded.deliveries, receiveEvents, if_pos hself,
    List.map_nil, List.nil_append, sent_obeyEvents_of_self h, List.append_nil]

theorem deliveries_fire_of_self {e : ScheduledCommand} (h : b.self? e.chat = some e.sender)
    (clock : Instant) : (fire clock b e).deliveries = b.deliveries := by
  rw [(records_fire clock b e).recorded.deliveries, fireEvents]
  cases b.resolve e.command e.chat with
  | error error => exact List.append_nil _
  | ok entry =>
    have hrun := sent_runEvents_of_self h (entry.invoke e.args) clock
    dsimp only
    rw [List.filterMap_cons_none rfl, hrun, List.append_nil]

/-! ## Where something is sent -/

/-- All of it was sent to chats where the bot is a user. -/
def Serves (b : Bot) (ds : List Delivery) : Prop := ∀ d ∈ ds, ∃ self, b.self? d.chat = some self

namespace Serves

variable {p : Bot} {ds ds' : List Delivery}

theorem nil (b : Bot) : b.Serves [] := nofun

theorem append (h : b.Serves ds) (h' : b.Serves ds') : b.Serves (ds ++ ds') :=
  List.forall_mem_append.2 ⟨h, h'⟩

theorem of_sameSetup (h : p.Serves ds) (hsame : SameSetup b p) : b.Serves ds := by
  intro d hd
  rw [← hsame.self?_eq]
  exact h d hd

end Serves

theorem serves_copies (b : Bot) (chat : Chat) (user : User) (text : String) (urls : List String) :
    b.Serves (b.copies chat user text urls) := by
  intro d hd
  obtain ⟨target, -, htarget⟩ := List.mem_flatMap.1 hd
  rw [copyFor] at htarget
  split at htarget
  next => exact absurd htarget List.not_mem_nil
  next k hk =>
    have hchat : d.chat = target := by
      rw [List.mem_cons] at htarget
      rcases htarget with rfl | himages
      · rfl
      · split at himages
        · rw [List.mem_singleton.1 himages]
          rfl
        · exact absurd himages List.not_mem_nil
    rw [hchat, self?, hk]
    exact ⟨_, rfl⟩

theorem serves_replyEvents (b : Bot) (chat : Chat) (sender : User) (text : String) :
    b.Serves ((b.replyEvents chat sender text).filterMap Event.delivery?) := by
  unfold replyEvents
  split
  next => exact .nil b
  next k hk =>
    split
    · exact .nil b
    · have hcopies := b.serves_copies chat (k.bot chat) text []
      rw [← sent_map_copied (b.copies chat (k.bot chat) text [])] at hcopies
      exact List.forall_mem_cons.2 ⟨⟨_, self?_of_backend? hk⟩, hcopies⟩

theorem serves_runEvents (b : Bot) (chat : Chat) (sender : User) (i : Invocation)
    (now : Instant) : b.Serves ((b.runEvents chat sender i now).filterMap Event.delivery?) := by
  have hsame := b.sameSetup_handle i (b.context chat sender i) now
  rw [runEvents]
  dsimp only
  rw [List.filterMap_cons_none rfl]
  cases answer? _ chat sender _ with
  | none => exact .nil b
  | some text => exact (serves_replyEvents _ chat sender text).of_sameSetup hsame

theorem serves_receiveEvents (b : Bot) (chat : Chat) (sender : User) (text : String)
    (urls : List String) (now : Instant) :
    b.Serves ((b.receiveEvents chat sender text urls now).filterMap Event.delivery?) := by
  rw [receiveEvents, List.filterMap_append, sent_map_copied]
  refine .append ?_ ?_
  · split
    · exact .nil b
    · exact b.serves_copies chat sender text urls
  · unfold obeyEvents
    split
    next => exact .nil b
    next i _ => exact b.serves_runEvents chat sender i now
    next e _ => exact b.serves_replyEvents chat sender e.reply

theorem serves_firingEvents (clock : Instant) (b : Bot) (es : List ScheduledCommand) :
    b.Serves ((firingEvents clock b es).filterMap Event.delivery?) := by
  induction es generalizing b with
  | nil => exact .nil b
  | cons e es ih =>
    rw [firingEvents, List.filterMap_append]
    refine .append ?_ ((ih (fire clock b e)).of_sameSetup (sameSetup_fire clock b e))
    unfold fireEvents
    split
    · exact .nil b
    · exact b.serves_runEvents e.chat e.sender _ clock

theorem serves_tickEvents (b : Bot) (now clock : Instant) :
    b.Serves ((b.tickEvents now clock).filterMap Event.delivery?) := by
  unfold tickEvents
  split
  next => exact .nil b
  next lateness _ =>
    have hmissed (es : List ScheduledCommand) :
        (es.map Event.missed).filterMap Event.delivery? = [] := by
      rw [List.filterMap_map]
      exact List.filterMap_none es
    dsimp only
    rw [List.filterMap_append, hmissed, List.nil_append]
    exact (serves_firingEvents clock _ _).of_sameSetup (b.sameSetup_tickStart now lateness)

theorem serves_events (b : Bot) (op : Operation) :
    b.Serves ((b.events op).filterMap Event.delivery?) := by
  cases op with
  | tick now clock => exact b.serves_tickEvents now clock
  | receive chat sender text urls now => exact b.serves_receiveEvents chat sender text urls now
  | run chat sender i now => exact b.serves_runEvents chat sender i now
  | reply chat sender text => exact b.serves_replyEvents chat sender text
  | send chat text =>
    rw [events, sendEvents]
    cases hk : b.backend? chat with
    | none => exact .nil b
    | some k =>
      intro d hd
      rw [List.mem_singleton.1 hd]
      exact ⟨_, self?_of_backend? hk⟩
  | change | addCommand | addBackend | addVariable | scheduleTask | refreshChats | chatNumber
  | shutdown | persist | restore => exact .nil b

/-- Whatever was sent was sent to a chat where the bot is a user. -/
theorem Reachable.serves (h : Reachable b) : b.Serves b.deliveries := by
  induction h with
  | new config store => exact .nil _
  | @step b h op ih =>
    rw [(b.recorded_perform op).deliveries]
    intro d hd
    obtain ⟨self, hself⟩ := ih.append (b.serves_events op) d hd
    obtain ⟨k, hk, -⟩ := Option.map_eq_some_iff.1 hself
    exact ⟨_, self?_of_backend? ((b.setupStep_perform op).backend?_eq hk)⟩

/-! ## Echoes -/

/-- The bot after something that it sent came back to it as a message of its own. -/
def echo (b : Bot) (d : Delivery) (now : Instant) : Bot :=
  match b.self? d.chat with
  | none => b
  | some self => b.receive d.chat self d.text d.urls now

theorem deliveries_echo (b : Bot) (d : Delivery) (now : Instant) :
    (b.echo d now).deliveries = b.deliveries := by
  rw [echo]
  cases h : b.self? d.chat with
  | none => rfl
  | some self => exact deliveries_receive_of_self h d.text d.urls now

/-- **A bot never answers itself.** A message of its own user is neither copied nor answered, and a
scheduled command of it sends nothing, whatever the text is and however the command ends. All that a
bot sent went to chats where it has a user; when any of it comes back, in any order and at any
times, nothing more is sent. -/
theorem never_answers_itself (h : Reachable b) :
    (∀ (p : Bot) chat self, p.self? chat = some self →
      (∀ text urls now, (p.receive chat self text urls now).deliveries = p.deliveries) ∧
      ∀ (e : ScheduledCommand) clock, e.chat = chat → e.sender = self →
        (fire clock p e).deliveries = p.deliveries) ∧
    (∀ d ∈ b.deliveries, ∃ self, b.self? d.chat = some self) ∧
    ∀ echoes : List (Delivery × Instant),
      (echoes.foldl (fun p (d, now) => p.echo d now) b).deliveries = b.deliveries := by
  refine ⟨fun p chat self hself => ⟨deliveries_receive_of_self hself, ?_⟩, h.serves,
    fun echoes => ?_⟩
  · rintro e clock rfl rfl
    exact deliveries_fire_of_self hself clock
  · exact List.foldlRecOn (motive := fun p : Bot => p.deliveries = b.deliveries) echoes _ rfl
      fun p hp e _ => (p.deliveries_echo e.1 e.2).trans hp

theorem never_answers_itself_linked :
    let x : Chat := ⟨⟨"Console"⟩, "x"⟩
    let y : Chat := ⟨⟨"Console"⟩, "y"⟩
    let bot : User := ⟨⟨"Console"⟩, "bot"⟩
    let k : Backend :=
      { protocol := ⟨"Console"⟩, chats := [x, y], bot := fun _ => bot,
        userName := fun _ user => user.name, chatName := Chat.name, delivers := fun _ => true,
        formatting? := none, nickname? := none, sendsImages := true, server? := none,
        others := [] }
    let linked := (echoing.perform (.addBackend k)).perform (.change (.link x y))
    let b := linked.perform (.send x "!Echo a")
    b.deliveries = [.message x "!Echo a" true] ∧
    (b.receive x bot "!Echo a" ["u"] .epoch).deliveries = b.deliveries ∧
    (fire .epoch b ⟨0, .epoch, x, bot, "echo", ["a"]⟩).deliveries = b.deliveries ∧
    ([(.message x "!Echo a" true, .epoch)].foldl (fun p (d, now) => p.echo d now) b).deliveries =
      b.deliveries := by
  intro x y bot k linked b
  have hlinked : Reachable linked :=
    (reachable_echoing.step (.addBackend k)).step (.change (.link x y))
  have hk : linked.backend? x = some k := by
    show (OrderedMap.empty.insert k.protocol k).get? x.protocol = some k
    rw [OrderedMap.get?_insert, if_pos (by decide)]
  have hsent : b.deliveries = [.message x "!Echo a" true] := by
    rw [(linked.recorded_perform (.send x "!Echo a")).deliveries, events, sendEvents, hk]
    rfl
  have hself : b.self? x = some bot :=
    self?_of_backend? ((linked.setupStep_perform (.send x "!Echo a")).backend?_eq hk)
  obtain ⟨hnothing, -, hechoes⟩ := never_answers_itself (hlinked.step (.send x "!Echo a"))
  obtain ⟨hreceive, hfire⟩ := hnothing b x bot hself
  exact ⟨hsent, hreceive _ _ _, hfire ⟨0, .epoch, x, bot, "echo", ["a"]⟩ .epoch rfl rfl,
    hechoes _⟩

end Bot

end ChatBot
