import ChatBot.Chat
import ChatBot.OrderedMap

/-!
# The directory of chats

Chats get small numbers from 1 on, in the order in which they are first seen, and keep them. The
directory is indexed by number, for finding a chat, and by chat, for finding its number.
-/

namespace ChatBot

structure Directory where
  byNumber : OrderedMap Nat Chat
  numbers : OrderedMap Chat Nat

namespace Directory

def empty : Directory := ⟨.empty, .empty⟩

instance : Inhabited Directory := ⟨empty⟩

/-- The number of the next new chat: the one after the greatest that is taken. Numbers have 32
bits. -/
def nextNumber (d : Directory) : Nat :=
  match d.byNumber.keys.getLast? with
  | none => 1
  | some greatest => (UInt32.ofNat greatest + 1).toNat

/-- The number of a chat, and the directory that has it. -/
def number (d : Directory) (chat : Chat) : Nat × Directory :=
  match d.numbers.get? chat with
  | some n => (n, d)
  | none =>
    let n := d.nextNumber
    (n, ⟨d.byNumber.insert n chat, d.numbers.insert chat n⟩)

def get? (d : Directory) (n : Nat) : Option Chat := d.byNumber.get? n

/-- The chats with their numbers, in the order of their numbers. -/
def entries (d : Directory) : List (Nat × Chat) := d.byNumber.bindings

def size (d : Directory) : Nat := d.byNumber.size

/-- The directory in which all of some chats have numbers. -/
def addAll (d : Directory) (chats : List Chat) : Directory :=
  chats.foldl (fun d chat => (d.number chat).2) d

end Directory

end ChatBot
