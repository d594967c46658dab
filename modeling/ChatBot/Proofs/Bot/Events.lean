import ChatBot.Proofs.Bot.Attempts
import ChatBot.Proofs.Bot.Log
import ChatBot.Proofs.Counters

/-!
# Events

What happens to a bot is said by a list of events, and what it counts and sends is what these say.
To deliver a message does nothing else (`Bot.Notes`).
-/

namespace ChatBot

/-- The code under which an outcome that was not meant is counted. -/
def Outcome.code? : Outcome → Option String
  | .silent => none
  | .reply _ => none
  | .failed _ => some "handler_error"
  | .crashed _ => some "handler_panic"

namespace Delivery

def chat : Delivery → Chat
  | .message chat _ _ => chat
  | .images chat _ => chat

/-- Whether it is a message that the backend accepted. -/
def accepted : Delivery → Bool
  | .message _ _ accepted => accepted
  | .images _ _ => false

end Delivery

/-- What happens to a bot. -/
inductive Event
  /-- The handler of a command ran, and ended like this. -/
  | handled (command : String) (outcome : Outcome)
  /-- A message was meant as a command, but none could be run. -/
  | rejected (error : DispatchError)
  /-- A scheduled command is to run now. -/
  | fired (e : ScheduledCommand)
  /-- A scheduled command is due, but nothing is known under its name. -/
  | unknown (e : ScheduledCommand)
  /-- A scheduled command came too late. -/
  | missed (e : ScheduledCommand)
  /-- Something was sent that is no copy. -/
  | sent (d : Delivery)
  /-- A copy was sent to a linked chat. -/
  | copied (d : Delivery)

namespace Event

/-- The counters that an event moves. -/
def moves : Event → List Counter
  | .handled command outcome =>
    .handled command :: (outcome.code?.map fun code => .error command code).toList
  | .rejected error => [.error "unknown" error.code]
  | .fired _ => [.fired]
  | .unknown e => [.error e.command "command_not_found"]
  | .missed _ => [.missed]
  | .sent _ => []
  | .copied d => if d.accepted then [.forwarded d.chat.protocol.name] else []

/-- What is handed to a backend. -/
def delivery? : Event → Option Delivery
  | .sent d => some d
  | .copied d => some d
  | _ => none

end Event

namespace Bot

/-! ## Copies and replies -/

/-- A label between the markers for bold text, if the backend has any. -/
def marked (k : Backend) (label : String) : String :=
  match k.formatting? >>= (·.markers? .bold) with
  | some (opening, closing) => opening ++ label ++ closing
  | none => label

/-- The copy of a message for a chat, if a backend serves that, and of the images if it can send
them. -/
def copyFor (b : Bot) (label text : String) (urls : List String) (target : Chat) :
    List Delivery :=
  match b.backend? target with
  | none => []
  | some k =>
    .message target (marked k label ++ " " ++ text) (k.delivers target) ::
      if urls ≠ [] ∧ k.sendsImages then [.images target urls] else []

/-- The copies of what a user says in a chat. -/
def copies (b : Bot) (chat : Chat) (user : User) (text : String) (urls : List String) :
    List Delivery :=
  (b.links.linkedWith chat).flatMap (b.copyFor (b.displayName chat user ++ ":") text urls)

/-- What is replied with the outcome of a command, if anything. -/
def answer? (b : Bot) (chat : Chat) (sender : User) : Outcome → Option String
  | .silent => none
  | .reply text => some (b.substitute chat sender text)
  | .failed failure => some ("Error while running command! Stack trace:\n" ++ failure.report)
  | .crashed message =>
    some ("Error while running command! Stack trace:\n" ++ message.getD "handler panicked")

/-- The events of a reply. -/
def replyEvents (b : Bot) (chat : Chat) (sender : User) (text : String) : List Event :=
  match b.backend? chat with
  | none => []
  | some k =>
    if k.bot chat = sender then []
    else
      .sent (.message chat text (k.delivers chat)) ::
        (b.copies chat (k.bot chat) text []).map .copied

/-! ## What is noted -/

/-- The bot has counted and sent what some events say, and is as before otherwise. -/
def Notes (b : Bot) (es : List Event) (p : Bot) : Prop :=
  p = b.withLog ((es.flatMap Event.moves).foldl Counters.bump b.counters)
    (b.deliveries ++ es.filterMap Event.delivery?)

namespace Notes

variable {b p q : Bot} {es es' : List Event}

theorem refl (b : Bot) : b.Notes [] b := by
  rw [Notes, List.filterMap_nil, List.append_nil]
  rfl

theorem trans (h : b.Notes es p) (h' : p.Notes es' q) : b.Notes (es ++ es') q := by
  rw [Notes, h', h, List.flatMap_append, List.foldl_append, List.filterMap_append,
    ← List.append_assoc]
  rfl

/-- Counters are moved by an event that sends nothing. -/
theorem count {e : Event} (b : Bot) (h : e.delivery? = none) :
    b.Notes [e] (e.moves.foldl Bot.count b) := by
  have hmoves (cs : List Counter) (p : Bot) :
      cs.foldl Bot.count p = p.withLog (cs.foldl Counters.bump p.counters) p.deliveries := by
    induction cs generalizing p with
    | nil => rfl
    | cons c cs ih => exact ih (p.count c)
  rw [Notes, hmoves, List.flatMap_singleton, List.filterMap_cons_none h, List.filterMap_nil,
    List.append_nil]

/-- Copies do not depend on what was noted already. -/
theorem copyFor_eq (h : b.Notes es p) : p.copyFor = b.copyFor := by
  rw [h]
  rfl

theorem copies_eq (h : b.Notes es p) : p.copies = b.copies := by
  rw [h]
  rfl

end Notes

theorem inBold_eq_marked (k : Backend) (label : String) : k.inBold label = marked k label := by
  unfold Backend.inBold marked
  cases k.formatting? with
  | none => rfl
  | some formatting => rfl

theorem notes_copyTo (label text : String) (urls : List String) (b : Bot) (target : Chat) :
    b.Notes ((b.copyFor label text urls target).map .copied)
      (copyTo label text urls b target) := by
  unfold copyFor copyTo
  cases b.backend? target with
  | none => exact .refl b
  | some k =>
    dsimp only
    rw [inBold_eq_marked]
    set message := marked k label ++ " " ++ text
    have hmessage : b.Notes [.copied (.message target message (k.delivers target))]
        (if (b.deliver k target message).1
          then (b.deliver k target message).2.count (.forwarded target.protocol.name)
          else (b.deliver k target message).2) := by
      unfold deliver
      dsimp only
      cases k.delivers target with
      | false => rfl
      | true => rfl
    have himages (p : Bot) :
        p.Notes [.copied (.images target urls)] (p.deliverImages target urls) := rfl
    split
    · exact hmessage.trans (himages _)
    · exact hmessage

/-- Copying to one chat after the other sends one copy after the other. -/
theorem notes_foldl_copyTo (label text : String) (urls : List String) (b : Bot)
    (targets : List Chat) : b.Notes ((targets.flatMap (b.copyFor label text urls)).map .copied)
      (targets.foldl (copyTo label text urls) b) := by
  induction targets generalizing b with
  | nil => exact .refl b
  | cons target targets ih =>
    have hfirst := notes_copyTo label text urls b target
    have hrest := ih (copyTo label text urls b target)
    rw [hfirst.copyFor_eq] at hrest
    rw [List.flatMap_cons, List.map_append]
    exact hfirst.trans hrest

theorem notes_forward (b : Bot) (chat : Chat) (user : User) (text : String)
    (urls : List String) :
    b.Notes ((b.copies chat user text urls).map .copied) (b.forward chat user text urls) :=
  notes_foldl_copyTo _ text urls b (b.links.linkedWith chat)

theorem notes_heard (b : Bot) (chat : Chat) (sender : User) (text : String)
    (urls : List String) :
    b.Notes ((if b.isSelf chat sender then [] else b.copies chat sender text urls).map .copied)
      (b.heard chat sender text urls) := by
  unfold heard
  split
  · exact .refl b
  · exact b.notes_forward chat sender text urls

theorem notes_reply (b : Bot) (chat : Chat) (sender : User) (text : String) :
    b.Notes (b.replyEvents chat sender text) (b.reply chat sender text) := by
  unfold replyEvents reply self?
  cases hk : b.backend? chat with
  | none => exact .refl b
  | some k =>
    dsimp only [Option.map_some]
    split
    · exact .refl b
    · have hsent : b.Notes [.sent (.message chat text (k.delivers chat))] (b.send chat text).2 := by
        rw [send, hk]
        rfl
      have hcopied := notes_forward (b.send chat text).2 chat (k.bot chat) text []
      rw [hsent.copies_eq] at hcopied
      exact hsent.trans hcopied

/-- The end of the run of a command. -/
theorem notes_conclude (b : Bot) (chat : Chat) (sender : User) (command : String)
    (outcome : Outcome) :
    b.Notes (.handled command outcome ::
        (b.answer? chat sender outcome).elim [] (b.replyEvents chat sender))
      ((b.count (.handled command)).conclude chat sender command outcome) := by
  have hcount := Notes.count b (e := .handled command outcome) rfl
  cases outcome with
  | silent => exact hcount
  | reply text => exact hcount.trans (notes_reply _ chat sender (b.substitute chat sender text))
  | failed failure => exact hcount.trans (notes_reply _ chat sender (trouble failure.report))
  | crashed message =>
    exact hcount.trans (notes_reply _ chat sender (trouble (message.getD "handler panicked")))

/-- A message that is meant as a command but runs none. -/
theorem notes_reject (b : Bot) (chat : Chat) (sender : User) (e : DispatchError) :
    b.Notes (.rejected e :: b.replyEvents chat sender e.reply)
      ((b.count (.error "unknown" e.code)).reply chat sender e.reply) :=
  (Notes.count b (e := .rejected e) rfl).trans (notes_reply _ chat sender e.reply)

end Bot

end ChatBot
