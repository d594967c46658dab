import ChatBot.Snapshot.Format

/-!
# Stores

Where a bot keeps its last snapshot. A store counts the attempts to save.
-/

namespace ChatBot

open Text

inductive StoreError
  /-- What is stored is no snapshot. -/
  | malformed
  deriving DecidableEq, Repr

/-- What a store keeps snapshots in. -/
inductive Medium
  | memory (snapshot : Snapshot)
  /-- A file, with its bytes if it exists. -/
  | file (contents : Option ByteArray)
  /-- A directory in place of the file. -/
  | directory

structure Store where
  medium : Medium
  /-- Whether snapshots can be saved. -/
  writable : Bool
  /-- How often a snapshot was to be saved. -/
  saves : Nat

namespace Store

def ofMedium (medium : Medium) : Store := ⟨medium, true, 0⟩

instance : Inhabited Store := ⟨ofMedium (.memory .empty)⟩

/-- The last snapshot that was saved; it is empty if there is none. -/
def load (s : Store) : Except StoreError Snapshot :=
  match s.medium with
  | .memory snapshot => .ok snapshot
  | .file none => .ok .empty
  | .file (some bytes) =>
    match Snapshot.read? (Source.ofBytes bytes) with
    | some snapshot => .ok snapshot
    | none => .error .malformed
  | .directory => .error .malformed

/-- A medium with a snapshot in place of what it kept. -/
def put : Medium → Snapshot → Medium
  | .memory _, s => .memory s
  | .file _, s => .file (some s.write.toUTF8)
  | .directory, _ => .directory

/-- The store after an attempt to save a snapshot. -/
def save (s : Store) (snapshot : Snapshot) : Store :=
  { s with
    medium := if s.writable then put s.medium snapshot else s.medium
    saves := s.saves + 1 }

end Store

end ChatBot
