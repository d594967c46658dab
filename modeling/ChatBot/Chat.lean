/-!
# Chats, users and servers

Identities are names on a protocol. They are only compared: first by protocol, then by name.
-/

namespace ChatBot

open Std

structure Protocol where
  name : String
  deriving DecidableEq, Repr, Inhabited

/-- The protocol of the commands that every chat has. -/
def Protocol.universal : Protocol := ⟨"Universal"⟩

/-- A conversation. -/
structure Chat where
  protocol : Protocol
  name : String
  deriving DecidableEq, Repr, Inhabited

/-- A participant of chats. -/
structure User where
  protocol : Protocol
  name : String
  deriving DecidableEq, Repr, Inhabited

/-- A group of chats. -/
structure Server where
  protocol : Protocol
  name : String
  deriving DecidableEq, Repr, Inhabited

/-- Where an alias is defined. -/
inductive Scope
  | chat (chat : Chat)
  | server (server : Server)
  deriving DecidableEq, Repr, Inhabited

/-! ## Text -/

/-- The text of a name on a protocol. -/
def qualified (protocol : Protocol) (name : String) : String := protocol.name ++ "/" ++ name

def Chat.text (c : Chat) : String := qualified c.protocol c.name

def User.text (u : User) : String := qualified u.protocol u.name

def Server.text (s : Server) : String := qualified s.protocol s.name

namespace Scope

def protocol : Scope → Protocol
  | .chat c => c.protocol
  | .server s => s.protocol

def text : Scope → String
  | .chat c => "chat " ++ c.text
  | .server s => "server " ++ s.text

end Scope

/-! ## Order -/

/-- The order by a key that determines its owner. -/
theorem lawfulEq_compareOn [Ord β] [LawfulEqOrd β] {key : α → β}
    (injective : ∀ a b, key a = key b → a = b) : LawfulEqCmp (compareOn key) where
  compare_self {a} := by
    show compare (key a) (key a) = .eq
    exact ReflOrd.compare_self
  eq_of_compare {a b} h := injective a b (LawfulEqOrd.eq_of_compare h)

attribute [local instance] lexOrd

def Protocol.order (p : Protocol) : String := p.name

instance : Ord Protocol := ⟨compareOn Protocol.order⟩
instance : TransOrd Protocol := inferInstanceAs (TransCmp (compareOn Protocol.order))
instance : LawfulEqOrd Protocol := lawfulEq_compareOn fun ⟨_⟩ ⟨_⟩ h => congrArg _ h

def Chat.order (c : Chat) : Protocol × String := (c.protocol, c.name)

instance : Ord Chat := ⟨compareOn Chat.order⟩
instance : TransOrd Chat := inferInstanceAs (TransCmp (compareOn Chat.order))
instance : LawfulEqOrd Chat := lawfulEq_compareOn fun ⟨_, _⟩ ⟨_, _⟩ h => by cases h; rfl

/-- Chats come before servers. -/
def Scope.order : Scope → Nat × Protocol × String
  | .chat c => (0, c.protocol, c.name)
  | .server s => (1, s.protocol, s.name)

instance : Ord Scope := ⟨compareOn Scope.order⟩
instance : TransOrd Scope := inferInstanceAs (TransCmp (compareOn Scope.order))
instance : LawfulEqOrd Scope := lawfulEq_compareOn fun
  | .chat ⟨_, _⟩, .chat ⟨_, _⟩, h => by cases h; rfl
  | .server ⟨_, _⟩, .server ⟨_, _⟩, h => by cases h; rfl
  | .chat _, .server _, h => by cases h
  | .server _, .chat _, h => by cases h

end ChatBot
