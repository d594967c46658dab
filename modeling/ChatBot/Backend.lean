import ChatBot.Chat

/-!
# Backends

A backend serves the chats of one protocol. Features that not every protocol has are capabilities; a
missing one is a feature to skip.
-/

namespace ChatBot

inductive Format
  | bold | italic | underline | strikethrough | code
  deriving DecidableEq, Repr

/-- The formats that a backend renders, and the markers around a formatted text. -/
structure Formatting where
  supported : List Format
  markers? : Format → Option (String × String)

/-- A text between the markers of a format, or the plain text if there are none. -/
def Formatting.apply (f : Formatting) (format : Format) (text : String) : String :=
  match f.markers? format with
  | some (opening, closing) => opening ++ text ++ closing
  | none => text

inductive Capability
  | formatting | nicknames | images | mentions | history | readStatus | availability | customEmoji
  | stickers | servers
  deriving DecidableEq, Repr

namespace Capability

def all : List Capability :=
  [.formatting, .nicknames, .images, .mentions, .history, .readStatus, .availability, .customEmoji,
    .stickers, .servers]

def name : Capability → String
  | .formatting => "formatting"
  | .nicknames => "nicknames"
  | .images => "images"
  | .mentions => "mentions"
  | .history => "history"
  | .readStatus => "read_status"
  | .availability => "availability"
  | .customEmoji => "custom_emoji"
  | .stickers => "stickers"
  | .servers => "servers"

/-- The names of some capabilities, without blanks between them. -/
def summary (capabilities : List Capability) : String :=
  if capabilities = [] then "none" else ",".intercalate (capabilities.map name)

end Capability

/-- What a backend answers. -/
structure Backend where
  protocol : Protocol
  chats : List Chat
  bot : Chat → User
  userName : Chat → User → String
  chatName : Chat → String
  /-- Whether a message to a chat can be delivered. -/
  delivers : Chat → Bool
  formatting? : Option Formatting
  nickname? : Option (Chat → User → Option String)
  sendsImages : Bool
  server? : Option (Chat → Option Server)
  /-- Capabilities that are only named. -/
  others : List Capability

namespace Backend

def has (b : Backend) : Capability → Bool
  | .formatting => b.formatting?.isSome
  | .nicknames => b.nickname?.isSome
  | .images => b.sendsImages
  | .servers => b.server?.isSome
  | c => b.others.contains c

def capabilities (b : Backend) : List Capability := Capability.all.filter b.has

/-- The nickname of a user where one is set, and the user name otherwise. -/
def displayName (b : Backend) (chat : Chat) (user : User) : String :=
  match b.nickname? with
  | some nickname => (nickname chat user).getD (b.userName chat user)
  | none => b.userName chat user

/-- A text in bold, where the backend has that. -/
def inBold (b : Backend) (text : String) : String :=
  match b.formatting? with
  | some formatting => formatting.apply .bold text
  | none => text

end Backend

end ChatBot
