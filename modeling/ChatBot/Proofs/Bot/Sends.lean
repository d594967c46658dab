import ChatBot.Proofs.Bot.Events
import ChatBot.Proofs.Bot.Operation

/-!
# What a message makes a bot send

The copies of a message, the reply to it and the copies of the reply are said here as lists. A bot
that takes a message sends just these, in order (`Bot.receive_sends`).
-/

namespace ChatBot

namespace Bot

/-! ## The lists -/

/-- A reply to a sender other than the bot, and the copies of the reply. -/
def replies (b : Bot) (chat : Chat) (sender : User) (text : String) : List Delivery :=
  match b.backend? chat with
  | none => []
  | some k =>
    if k.bot chat = sender then []
    else .message chat text (k.delivers chat) :: b.copies chat (k.bot chat) text []

/-- What is sent because a message is a command or was meant as one. -/
def answers (b : Bot) (chat : Chat) (sender : User) (text : String) (now : Instant) :
    List Delivery :=
  match b.invocation? chat text with
  | .ok none => []
  | .ok (some i) =>
    let (outcome, after) := b.handle i (b.context chat sender i) now
    (after.answer? chat sender outcome).elim [] (after.replies chat sender)
  | .error e => b.replies chat sender e.reply

/-! ## What is done to the log -/

/-- The bot has sent something and counted, and is as before otherwise. -/
def Logs (b : Bot) (sent : List Delivery) (b' : Bot) : Prop :=
  ∃ cs, b' = b.withLog cs (b.deliveries ++ sent)

namespace Logs

variable {b p q : Bot} {sent sent' : List Delivery}

theorem count (b : Bot) (c : Counter) : b.Logs [] (b.count c) :=
  ⟨b.counters.bump c, by rw [List.append_nil]; rfl⟩

theorem trans (h : b.Logs sent p) (h' : p.Logs sent' q) : b.Logs (sent ++ sent') q := by
  obtain ⟨cs, rfl⟩ := h
  obtain ⟨cs', rfl⟩ := h'
  refine ⟨cs', ?_⟩
  rw [← List.append_assoc]
  rfl

theorem deliveries (h : b.Logs sent p) : p.deliveries = b.deliveries ++ sent := by
  obtain ⟨cs, rfl⟩ := h
  rfl

end Logs

theorem Notes.logs {b p : Bot} {es : List Event} (h : b.Notes es p) :
    b.Logs (es.filterMap Event.delivery?) p := ⟨_, h⟩

variable {b : Bot} {chat : Chat} {sender : User}

theorem sent_map_copied (ds : List Delivery) :
    (ds.map Event.copied).filterMap Event.delivery? = ds := by
  rw [List.filterMap_map]
  exact List.filterMap_some

theorem logs_heard (b : Bot) (chat : Chat) (sender : User) (text : String) (urls : List String) :
    b.Logs (if b.isSelf chat sender then [] else b.copies chat sender text urls)
      (b.heard chat sender text urls) := by
  have hlogs := (b.notes_heard chat sender text urls).logs
  rwa [sent_map_copied] at hlogs

end Bot

end ChatBot
