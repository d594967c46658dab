import ChatBot.Bot

/-!
# Deliveries

What a bot sends: messages to chats, copies to linked chats, and replies, which are copied too. The
bot does not reply to itself.
-/

namespace ChatBot.Bot

/-- Hands a message to a backend. -/
def deliver (b : Bot) (k : Backend) (chat : Chat) (text : String) : Bool × Bot :=
  let accepted := k.delivers chat
  (accepted, { b with deliveries := b.deliveries ++ [.message chat text accepted] })

/-- Hands images to a backend. -/
def deliverImages (b : Bot) (chat : Chat) (urls : List String) : Bot :=
  { b with deliveries := b.deliveries ++ [.images chat urls] }

/-- Sends a message to a chat, if a backend serves it. -/
def send (b : Bot) (chat : Chat) (text : String) : Bool × Bot :=
  match b.backend? chat with
  | some k => b.deliver k chat text
  | none => (false, b)

/-- Copies a message to one linked chat, if a backend serves it. Images are left out where the
backend cannot send them. -/
def copyTo (label text : String) (urls : List String) (b : Bot) (target : Chat) : Bot :=
  match b.backend? target with
  | none => b
  | some k =>
    let (accepted, b) := b.deliver k target (k.inBold label ++ " " ++ text)
    let b := if accepted then b.count (.forwarded target.protocol.name) else b
    if urls ≠ [] ∧ k.sendsImages then b.deliverImages target urls else b

/-- Copies a message to the linked chats, under the name of its sender. -/
def forward (b : Bot) (source : Chat) (sender : User) (text : String) (urls : List String) : Bot :=
  let label := b.displayName source sender ++ ":"
  (b.links.linkedWith source).foldl (copyTo label text urls) b

/-- Answers a sender other than the bot, and copies the answer to the linked chats. -/
def reply (b : Bot) (chat : Chat) (sender : User) (text : String) : Bot :=
  match b.self? chat with
  | none => b
  | some self => if self = sender then b else (b.send chat text).2.forward chat self text []

end ChatBot.Bot
