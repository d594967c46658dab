import ChatBot.Chat
import ChatBot.OrderedMap

/-!
# Links between chats

What is said in a chat is copied to the chats that it is linked with. A link is kept in both chats;
a chat that loses its last link is dropped.
-/

namespace ChatBot

/-- For each linked chat the set of chats that it is linked with. -/
structure Links where
  sets : OrderedMap Chat (OrderedMap Chat Unit)

namespace Links

def empty : Links := ⟨.empty⟩

instance : Inhabited Links := ⟨empty⟩

/-- The set of chats that a chat is linked with. -/
def targets (l : Links) (chat : Chat) : OrderedMap Chat Unit := (l.sets.get? chat).getD .empty

def isLinked (l : Links) (a b : Chat) : Bool := (l.targets a).contains b

/-- The chats that a chat is linked with, in order. -/
def linkedWith (l : Links) (chat : Chat) : List Chat := (l.targets chat).keys

/-- The links with a target in the set of a chat. -/
def add (l : Links) (chat target : Chat) : Links :=
  ⟨l.sets.insert chat ((l.targets chat).insert target ())⟩

/-- The links with two chats in the sets of each other. -/
def join (l : Links) (a b : Chat) : Links := (l.add a b).add b a

/-- The links without a target in the set of a chat. A set that is empty then is dropped. -/
def remove (l : Links) (chat target : Chat) : Links :=
  match l.sets.get? chat with
  | none => l
  | some set =>
    let left := set.erase target
    if left.isEmpty then ⟨l.sets.erase chat⟩ else ⟨l.sets.insert chat left⟩

/-- The links without two chats in the sets of each other. -/
def part (l : Links) (a b : Chat) : Links := (l.remove a b).remove b a

/-- Every chat that has a set, with the chats in it, in order. -/
def groups (l : Links) : List (Chat × List Chat) :=
  l.sets.bindings.map fun (chat, set) => (chat, set.keys)

end Links

end ChatBot
