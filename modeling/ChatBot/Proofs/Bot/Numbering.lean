import ChatBot.Proofs.Bot.Setup
import ChatBot.Proofs.Directory
import ChatBot.Proofs.Text.Decimal

/-!
# Numbers of chats in a bot

A few operations ask for the numbers of chats (`Bot.asked`), and the directory of a bot is what came
of that (`Bot.directory_foldl_perform`). So the numbers that are shown once can be used from then on
(`Bot.chats_keep_numbers`).
-/

namespace ChatBot

open Text

/-! ## What is asked for -/

/-- The chats of all backends, in order. -/
def Bot.backendChats (b : Bot) : List Chat :=
  (b.backends.values.flatMap (·.chats)).mergeSort fun c d => (compare c d).isLE

namespace Builtin

/-- The chats whose numbers are asked for to find the chat with a number. -/
def targetAsks (b : Bot) (ctx : Context) : List Chat :=
  match ctx.arg? 0 >>= fun arg => Decimal.readBelow? (Nat.pow 2 32) arg.toList with
  | none => []
  | some n => if (b.directory.get? n).isSome then [] else b.backendChats

/-- The chats whose numbers a command asks for. -/
def asks (b : Bot) (ctx : Context) : Builtin → List Chat
  | .chats => b.backendChats ++ [ctx.chat]
  | .link => targetAsks b ctx
  | .unlink => targetAsks b ctx
  | .links => b.links.linkedWith ctx.chat
  | _ => []

end Builtin

/-- The chats whose numbers a handler asks for. -/
def Handler.asks (b : Bot) (ctx : Context) : Handler → List Chat
  | .builtin command => command.asks b ctx
  | .custom _ => []
  | .scripted _ => []

namespace Bot

/-- The chats whose numbers are asked for when a command runs. -/
def runAsks (b : Bot) (chat : Chat) (sender : User) (i : Invocation) : List Chat :=
  i.command.handler.asks b (b.context chat sender i)

/-- The chats whose numbers are asked for because of a message. -/
def receiveAsks (b : Bot) (chat : Chat) (sender : User) (text : String) (urls : List String) :
    List Chat :=
  let b := b.heard chat sender text urls
  match b.invocation? chat text with
  | .ok none => []
  | .ok (some i) => b.runAsks chat sender i
  | .error _ => []

/-- The chats whose numbers are asked for by a scheduled command that is due. -/
def fireAsks (b : Bot) (e : ScheduledCommand) : List Chat :=
  match b.resolve e.command e.chat with
  | .error _ => []
  | .ok entry => (b.count .fired).runAsks e.chat e.sender (entry.invoke e.args)

/-- The chats whose numbers are asked for by scheduled commands, one after the other. -/
def firingAsks (clock : Instant) : Bot → List ScheduledCommand → List Chat
  | _, [] => []
  | b, e :: es => b.fireAsks e ++ firingAsks clock (fire clock b e) es

/-- The chats whose numbers are asked for in a tick. -/
def tickAsks (b : Bot) (now clock : Instant) : List Chat :=
  match b.config.lateness? with
  | none => []
  | some lateness =>
    firingAsks clock (b.tickStart now lateness) (b.takeDue now lateness).1.fire

/-- The chats whose numbers an operation asks for. -/
def asks (b : Bot) : Operation → List Chat
  | .tick now clock => b.tickAsks now clock
  | .receive chat sender text urls _ => b.receiveAsks chat sender text urls
  | .run chat sender i _ => b.runAsks chat sender i
  | .addBackend k =>
    if b.backends.contains k.protocol then []
    else { b with backends := b.backends.insert k.protocol k }.backendChats
  | .refreshChats => b.backendChats
  | .chatNumber chat => [chat]
  | _ => []

/-- The chats whose numbers operations ask for, one after the other. -/
def asked : Bot → List Operation → List Chat
  | _, [] => []
  | b, op :: ops => b.asks op ++ (b.perform op).asked ops

end Bot

/-! ## Replies about chats -/

namespace Builtin

/-- The line of a chat in the list of chats. The chat of the command is marked. -/
def chatEntry (b : Bot) (ctx : Context) (entry : Nat × Chat) : String :=
  chatLine b entry.1 entry.2 ++ if entry.2 = ctx.chat then " (this chat)" else ""

/-- What is answered and done to link the chat of a command with a chat. -/
def linkWith (b : Bot) (ctx : Context) (chat : Chat) : String × Bot :=
  if chat = ctx.chat then ("A chat cannot be linked with itself.", b)
  else
    ((if (b.link ctx.chat chat).1 then "Linked with " else "Already linked with ") ++
      b.chatName chat ++ ".", (b.link ctx.chat chat).2)

/-- What is answered and done to unlink the chat of a command from a chat. -/
def unlinkFrom (b : Bot) (ctx : Context) (chat : Chat) : String × Bot :=
  ((if (b.unlink ctx.chat chat).1 then "Unlinked from " else "Not linked with ") ++
    b.chatName chat ++ ".", (b.unlink ctx.chat chat).2)

theorem linkReply_eq (b : Bot) (ctx : Context) :
    linkReply b ctx =
      match targetChat b ctx with
      | (.error text, p) => (text, p)
      | (.ok chat, p) => linkWith p ctx chat := by
  rw [linkReply]
  obtain ⟨found, p⟩ := targetChat b ctx
  cases found with
  | error text => rfl
  | ok chat =>
    dsimp only
    rw [linkWith]
    split
    · rfl
    · cases p.link ctx.chat chat with
      | mk made q =>
        cases made with
        | true => rfl
        | false => rfl

theorem unlinkReply_eq (b : Bot) (ctx : Context) :
    unlinkReply b ctx =
      match targetChat b ctx with
      | (.error text, p) => (text, p)
      | (.ok chat, p) => unlinkFrom p ctx chat := by
  rw [unlinkReply]
  obtain ⟨found, p⟩ := targetChat b ctx
  cases found with
  | error text => rfl
  | ok chat =>
    dsimp only
    rw [unlinkFrom]
    cases p.unlink ctx.chat chat with
    | mk made q =>
      cases made with
      | true => rfl
      | false => rfl

end Builtin

namespace Bot

/-! ## Commands -/

variable {b p : Bot} {may : Change → Prop}

theorem directory_attempt (b : Bot) (c : Change) : (b.attempt c).2.directory = b.directory := by
  obtain ⟨_, _, _, _, _, _, hmade⟩ := b.attempt_eq c
  rw [hmade]

/-- What goes on by changes alone asks for no numbers. -/
theorem Goes.directory_eq (h : b.Goes (fun _ _ => False) may p) : p.directory = b.directory := by
  induction h with
  | refl => rfl
  | aside _ hs => contradiction
  | change _ _ ih => exact (directory_attempt _ _).trans ih

theorem directory_refreshChats (b : Bot) :
    b.refreshChats.directory = b.directory.addAll b.backendChats := rfl

open Builtin

theorem directory_chatLines (b : Bot) (chats : List Chat) :
    (chatLines b chats).2.directory = b.directory.addAll chats := by
  induction chats generalizing b with
  | nil => rfl
  | cons chat chats ih => exact ih (b.chatNumber chat).2

theorem directory_chatsReply (b : Bot) (ctx : Context) :
    (chatsReply b ctx).2.directory = b.directory.addAll (Builtin.asks b ctx .chats) := by
  rw [Builtin.asks, Directory.addAll_append, ← directory_refreshChats]
  rfl

theorem directory_linksReply (b : Bot) (ctx : Context) :
    (linksReply b ctx).2.directory = b.directory.addAll (b.links.linkedWith ctx.chat) := by
  unfold linksReply
  split
  next hnil =>
    rw [hnil]
    rfl
  next => exact b.directory_chatLines _

theorem directory_targetChat (b : Bot) (ctx : Context) :
    (targetChat b ctx).2.directory = b.directory.addAll (targetAsks b ctx) := by
  unfold targetChat targetAsks
  cases ctx.arg? 0 >>= fun arg => Decimal.readBelow? (Nat.pow 2 32) arg.toList with
  | none => rfl
  | some n =>
    dsimp only
    cases b.directory.get? n with
    | some chat => rfl
    | none =>
      cases b.refreshChats.directory.get? n with
      | some chat => rfl
      | none => rfl

theorem directory_linkReply (b : Bot) (ctx : Context) :
    (linkReply b ctx).2.directory = (targetChat b ctx).2.directory := by
  rw [linkReply_eq]
  obtain ⟨found, p⟩ := targetChat b ctx
  cases found with
  | error text => rfl
  | ok chat =>
    dsimp only
    rw [linkWith]
    split
    · rfl
    · exact p.directory_attempt (.link ctx.chat chat)

theorem directory_unlinkReply (b : Bot) (ctx : Context) :
    (unlinkReply b ctx).2.directory = (targetChat b ctx).2.directory := by
  rw [unlinkReply_eq]
  obtain ⟨found, p⟩ := targetChat b ctx
  cases found with
  | error text => rfl
  | ok chat => exact p.directory_attempt (.unlink ctx.chat chat)

theorem directory_run_builtin (b : Bot) (command : Builtin) (ctx : Context) (now : Instant) :
    (command.run ctx now b).2.directory = b.directory.addAll (command.asks b ctx) := by
  cases command with
  | help | ping | commands | aliases | events | allEvents | exit => rfl
  | echo =>
    rw [Builtin.run]
    split
    · rfl
    · rfl
  | chats => exact b.directory_chatsReply ctx
  | «alias» => exact (b.goes_aliasReply ctx now).directory_eq
  | unalias => exact (b.goes_unaliasReply ctx now).directory_eq
  | link => exact (b.directory_linkReply ctx).trans (b.directory_targetChat ctx)
  | unlink => exact (b.directory_unlinkReply ctx).trans (b.directory_targetChat ctx)
  | links => exact b.directory_linksReply ctx
  | setDelimiter => exact (b.goes_setDelimiterReply ctx now).directory_eq
  | schedule => exact (b.goes_scheduleReply ctx now).directory_eq
  | unschedule => exact (b.goes_unscheduleReply ctx now).directory_eq
  | timer => exact (b.goes_timerReply ctx now).directory_eq

/-- A handler asks for numbers, and that is all it does to the directory. -/
theorem directory_handle (b : Bot) (i : Invocation) (ctx : Context) (now : Instant) :
    (b.handle i ctx now).2.directory = b.directory.addAll (i.command.handler.asks b ctx) := by
  rw [handle]
  cases i.command.handler with
  | builtin command => exact b.directory_run_builtin command ctx now
  | custom run => rfl
  | scripted run => exact (b.goes_follow (run ctx)).directory_eq

/-! ## Operations -/

theorem Notes.directory_eq {es : List Event} (h : b.Notes es p) : p.directory = b.directory := by
  rw [h]
  rfl

theorem directory_run (b : Bot) (chat : Chat) (sender : User) (i : Invocation) (now : Instant) :
    (b.run chat sender i now).directory = b.directory.addAll (b.runAsks chat sender i) := by
  have hhandle := b.directory_handle i (b.context chat sender i) now
  have hnotes := notes_conclude (b.handle i (b.context chat sender i) now).2 chat sender
    i.command.name (b.handle i (b.context chat sender i) now).1
  exact hnotes.directory_eq.trans hhandle

theorem directory_receive (b : Bot) (chat : Chat) (sender : User) (text : String)
    (urls : List String) (now : Instant) :
    (b.receive chat sender text urls now).directory =
      b.directory.addAll (b.receiveAsks chat sender text urls) := by
  have hheard := (b.notes_heard chat sender text urls).directory_eq
  rw [receive_eq, receiveAsks]
  dsimp only
  cases (b.heard chat sender text urls).invocation? chat text with
  | error e => exact (notes_reject _ chat sender e).directory_eq.trans hheard
  | ok found =>
    cases found with
    | none => exact hheard
    | some i => rw [directory_run, hheard]

theorem directory_fire (clock : Instant) (b : Bot) (e : ScheduledCommand) :
    (fire clock b e).directory = b.directory.addAll (b.fireAsks e) := by
  unfold fire fireAsks
  cases b.resolve e.command e.chat with
  | error error => rfl
  | ok entry => exact directory_run _ e.chat e.sender (entry.invoke e.args) clock

theorem directory_foldl_fire (clock : Instant) (b : Bot) (es : List ScheduledCommand) :
    (es.foldl (fire clock) b).directory = b.directory.addAll (firingAsks clock b es) := by
  induction es generalizing b with
  | nil => rfl
  | cons e es ih =>
    rw [List.foldl_cons, ih, directory_fire, firingAsks, Directory.addAll_append]

theorem directory_tickStart (b : Bot) (now : Instant) (lateness : Elapsed) :
    (b.tickStart now lateness).directory = b.directory := by
  have htaken : (b.takeDue now lateness).2.directory = b.directory := by
    unfold takeDue
    dsimp only
    split
    · rfl
    · rfl
  unfold tickStart
  exact List.foldlRecOn (motive := fun p : Bot => p.directory = b.directory)
    (b.takeDue now lateness).1.missed _ htaken fun _ hp _ _ => hp

theorem directory_tick (b : Bot) (now clock : Instant) :
    ((b.tick? now clock).getD b).directory = b.directory.addAll (b.tickAsks now clock) := by
  unfold tick? tickAsks
  cases b.config.lateness? with
  | none => rfl
  | some lateness =>
    have hfired := directory_foldl_fire clock (b.tickStart now lateness)
      (b.takeDue now lateness).1.fire
    rw [directory_tickStart] at hfired
    exact hfired

/-- An operation asks for numbers, and that is all it does to the directory. -/
theorem directory_perform (b : Bot) (op : Operation) :
    (b.perform op).directory = b.directory.addAll (b.asks op) := by
  cases op with
  | change c => exact b.directory_attempt c
  | tick now clock => exact b.directory_tick now clock
  | receive chat sender text urls now => exact b.directory_receive chat sender text urls now
  | run chat sender i now => exact b.directory_run chat sender i now
  | reply chat sender text => exact (b.notes_reply chat sender text).directory_eq
  | send chat text =>
    rw [perform, send]
    cases b.backend? chat with
    | none => rfl
    | some k => rfl
  | addCommand c =>
    rw [perform]
    cases hadd : b.addCommand? c.lowered with
    | none => rfl
    | some b' =>
      obtain ⟨registry, -, rfl⟩ := Option.map_eq_some_iff.1 hadd
      rfl
  | addBackend k =>
    rw [perform, addBackend?, asks]
    split
    · rfl
    · rfl
  | addVariable name v =>
    rw [perform, addVariable?]
    split
    · rfl
    · rfl
  | scheduleTask | refreshChats | chatNumber | shutdown | persist => rfl
  | restore store =>
    rw [perform, Bot.restore]
    cases store.load with
    | error e => rfl
    | ok s =>
      dsimp only [Except.map]
      rw [restoreSnapshot_eq]
      rfl

/-- The directory of a bot is what came of the numbers that were asked for. -/
theorem directory_foldl_perform (b : Bot) (ops : List Operation) :
    (ops.foldl perform b).directory = b.directory.addAll (b.asked ops) := by
  induction ops generalizing b with
  | nil => rfl
  | cons op ops ih =>
    rw [List.foldl_cons, ih, directory_perform, asked, Directory.addAll_append]

/-! ## Numbers that are shown -/

variable {ctx : Context} {chat : Chat} {n : Nat} {arg : String} {before after calls : List Chat}

/-- A number that was given to a chat means that chat, and no backend is asked. -/
theorem targetChat_of_get? (hget : b.directory.get? n = some chat) (harg : ctx.arg? 0 = some arg)
    (hread : Decimal.readBelow? (Nat.pow 2 32) arg.toList = some n) :
    targetChat b ctx = (.ok chat, b) := by
  rw [targetChat, harg, Option.bind_eq_bind, Option.bind_some, hread]
  dsimp only
  rw [hget]

/-- The chats are listed with their numbers, and the chat of the command is marked. -/
theorem chatsReply_eq (hb : b.directory = Directory.empty.addAll before)
    (hfew : (before ++ Builtin.asks b ctx .chats).eraseDups.length < 2 ^ 32) :
    (chatsReply b ctx).1 = "\n".intercalate
      ((Directory.numbered (before ++ Builtin.asks b ctx .chats).eraseDups).map
        (chatEntry b ctx)) := by
  have hheld := Directory.holds_addAll hfew
  have hsplit : before ++ Builtin.asks b ctx .chats =
      (before ++ b.backendChats) ++ ctx.chat :: [] := (List.append_assoc ..).symm
  have hnumber : b.refreshChats.directory.number ctx.chat =
      ((before ++ Builtin.asks b ctx .chats).eraseDups.idxOf ctx.chat + 1,
        Directory.empty.addAll (before ++ Builtin.asks b ctx .chats)) := by
    rw [directory_refreshChats, hb, ← Directory.addAll_append]
    rw [hsplit] at hfew ⊢
    exact Directory.number_addAll hfew
  have hmem : ctx.chat ∈ (before ++ Builtin.asks b ctx .chats).eraseDups := by
    rw [hsplit]
    exact List.mem_eraseDups.2 (by simp)
  have hcurrent := hheld.get?_eq_some_iff.2 (Directory.mem_numbered_idxOf hmem)
  unfold chatsReply chatNumber
  rw [hnumber]
  dsimp only
  rw [hheld.entries]
  congr 1
  apply List.map_congr_left
  intro entry hentry
  have hthis := hheld.get?_eq_some_iff.2 hentry
  have hiff : entry.1 = (before ++ Builtin.asks b ctx .chats).eraseDups.idxOf ctx.chat + 1 ↔
      entry.2 = ctx.chat := by
    constructor
    · intro hn
      rw [hn, hcurrent] at hthis
      exact (Option.some.inj hthis).symm
    · intro hc
      rw [hc] at hthis
      exact hheld.number_unique hthis hcurrent
  simp only [hiff]
  rfl

/-- **Chats keep their numbers.** If fewer than 2 ^ 32 chats are asked for, then each gets the number
of its place among the different chats, whenever it is asked for, and this number and no other one
finds it. Operations do nothing but ask for numbers, so a number that is shown in a list of chats
makes `link` and `unlink` act on the chat that it is shown for, whatever is asked for in between. -/
theorem chats_keep_numbers (hfew : calls.eraseDups.length < 2 ^ 32) :
    (∀ before chat after, calls = before ++ chat :: after →
      (Directory.empty.addAll before).number chat =
        (calls.eraseDups.idxOf chat + 1, Directory.empty.addAll (before ++ [chat]))) ∧
    (∀ chat ∈ calls, ∀ n, (Directory.empty.addAll calls).get? n = some chat ↔
      n = calls.eraseDups.idxOf chat + 1) ∧
    (∀ n, (Directory.empty.addAll calls).get? n =
      if n = 0 then none else calls.eraseDups[n - 1]?) ∧
    (Directory.empty.addAll calls).entries = Directory.numbered calls.eraseDups ∧
    (∀ config store, (new config store).directory = .empty) ∧
    (∀ (b : Bot) ops, (ops.foldl perform b).directory = b.directory.addAll (b.asked ops)) ∧
    ∀ (b : Bot) ctx before after, b.directory = Directory.empty.addAll before →
      calls = before ++ Builtin.asks b ctx .chats ++ after →
      let shown := Directory.numbered (before ++ Builtin.asks b ctx .chats).eraseDups
      (chatsReply b ctx).1 = "\n".intercalate (shown.map (chatEntry b ctx)) ∧
      ∀ entry ∈ shown, Decimal.readBelow? (Nat.pow 2 32) (Nat.repr entry.1).toList = some entry.1 ∧
        ∀ later ctx' arg, later.directory = (chatsReply b ctx).2.directory.addAll after →
          ctx'.arg? 0 = some arg → Decimal.readBelow? (Nat.pow 2 32) arg.toList = some entry.1 →
          linkReply later ctx' = linkWith later ctx' entry.2 ∧
          unlinkReply later ctx' = unlinkFrom later ctx' entry.2 := by
  have hheld := Directory.holds_addAll hfew
  refine ⟨?_, ?_, hheld.get?_eq, hheld.entries, fun _ _ => rfl, directory_foldl_perform, ?_⟩
  · intro before chat after hcalls
    subst hcalls
    exact Directory.number_addAll hfew
  · intro chat hchat n
    have hget := hheld.get?_eq_some_iff.2
      (Directory.mem_numbered_idxOf (List.mem_eraseDups.2 hchat))
    constructor
    · intro hn
      exact hheld.number_unique hn hget
    · intro hn
      rw [hn]
      exact hget
  · intro b ctx before after hb hcalls shown
    -- What is asked for later comes after what was shown, so the numbers that were shown stay.
    have hsubset : (before ++ Builtin.asks b ctx .chats).eraseDups <+: calls.eraseDups := by
      rw [hcalls]
      exact Directory.eraseDups_isPrefix _ after
    refine ⟨chatsReply_eq hb (Nat.lt_of_le_of_lt hsubset.length_le hfew), ?_⟩
    intro entry hentry
    have hmem := Directory.mem_numbered_of_isPrefix hsubset hentry
    have hle := Directory.le_length_of_mem_numbered hmem
    refine ⟨Decimal.readBelow?_repr (Nat.lt_of_le_of_lt hle hfew), ?_⟩
    intro later ctx' arg hlater harg hread
    rw [directory_chatsReply, hb, ← Directory.addAll_append, ← Directory.addAll_append,
      ← List.append_assoc, ← hcalls] at hlater
    have hget : later.directory.get? entry.1 = some entry.2 := by
      rw [hlater]
      exact hheld.get?_eq_some_iff.2 hmem
    have htarget := targetChat_of_get? hget harg hread
    rw [linkReply_eq, unlinkReply_eq, htarget]
    exact ⟨rfl, rfl⟩

theorem chats_keep_numbers_linked :
    let x : Chat := ⟨⟨"Console"⟩, "x"⟩
    let y : Chat := ⟨⟨"Discord"⟩, "y"⟩
    let z : Chat := ⟨⟨"Matrix"⟩, "z"⟩
    let ctx : Context := ⟨x, default, "chats", [], "!", "", none⟩
    let ctx' : Context := ⟨z, default, "link", ["2"], "!", "", none⟩
    let b := (echoing.chatNumber y).2
    let later := ((chatsReply b ctx).2.chatNumber z).2
    [y, x, z].eraseDups.length < 2 ^ 32 ∧
      (chatsReply b ctx).1 = "1: y [Discord]\n2: x [Console] (this chat)" ∧
      linkReply later ctx' = linkWith later ctx' x := by
  intro x y z ctx ctx' b later
  have hfew : [y, x, z].eraseDups.length < 2 ^ 32 := by decide
  obtain ⟨-, -, -, -, -, -, hshown⟩ := chats_keep_numbers hfew
  have hasks : [y, x, z] = [y] ++ Builtin.asks b ctx .chats ++ [z] := by cbv
  obtain ⟨htext, htargets⟩ := hshown b ctx [y] [z] rfl hasks
  have hlisted : Directory.numbered ([y] ++ Builtin.asks b ctx .chats).eraseDups =
      [(1, y), (2, x)] := by cbv
  rw [hlisted] at htext htargets
  obtain ⟨hread, hacts⟩ := htargets (2, x) (.tail _ (.head _))
  have harg : ctx'.arg? 0 = some (Nat.repr 2) := by decide
  exact ⟨hfew, htext.trans (by cbv), (hacts later ctx' _ rfl harg hread).1⟩

end Bot

end ChatBot
