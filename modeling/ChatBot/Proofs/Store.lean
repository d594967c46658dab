import ChatBot.Proofs.Snapshot.Format
import ChatBot.Store

/-!
# Stored snapshots

What is saved to a file is loaded as it was (`Store.load_save_file`). So saves succeed wherever
there is something to write to (`Store.reliable_iff`).
-/

namespace ChatBot

/-- The numbers of the scheduled commands have 64 bits. -/
def Snapshot.Fits (s : Snapshot) : Prop := ∀ e ∈ s.scheduled, e.id < 2 ^ 64

namespace Store

open Text

/-! ## Files -/

/-- A file that holds the text of a snapshot gives it back. -/
theorem load_written (saves : Nat) {s : Snapshot} (h : s.Fits) :
    (⟨.file (some s.write.toUTF8), true, saves⟩ : Store).load = .ok s := by
  have hread : Snapshot.read? (Source.ofBytes s.write.toUTF8) = some s := by
    rw [Source.ofBytes_toUTF8, Snapshot.read?_write h]
  rw [load]
  dsimp only
  rw [hread]

/-- **What is saved is loaded.** A file gives back the snapshot that was last saved to it, whatever
its texts and times are. Numbers of scheduled commands have 64 bits. -/
theorem load_save_file (contents : Option ByteArray) (saves : Nat) {s : Snapshot}
    (h : ∀ e ∈ s.scheduled, e.id < 2 ^ 64) :
    ((⟨.file contents, true, saves⟩ : Store).save s).load = .ok s := by
  have hsaved : (⟨.file contents, true, saves⟩ : Store).save s =
      ⟨.file (some s.write.toUTF8), true, saves + 1⟩ := rfl
  rw [hsaved, load_written (saves + 1) h]

theorem load_save_file_extremes :
    let chat : Chat := ⟨⟨"Console"⟩, "\x00\x1f\"\\/\n\u007f\u00e9😀"⟩
    let first : Instant := ⟨Instant.firstSecond, 250, by decide⟩
    let last : Instant := ⟨Instant.lastSecond, 1999999999, by decide⟩
    let s : Snapshot :=
      { delimiters := [⟨chat, ""⟩]
        aliases := [⟨.server ⟨⟨"Console"⟩, "s"⟩, "hi", .universal, "echo", ["\x08\x0c\t\r", ""]⟩]
        scheduled := [⟨2 ^ 64 - 1, last, chat, ⟨⟨"Console"⟩, "ann"⟩, "echo", []⟩]
        links := [⟨chat, []⟩, ⟨chat, [chat, chat]⟩]
        timers := [⟨"tea", first⟩, ⟨"", .epoch⟩] }
    (∀ e ∈ s.scheduled, e.id < 2 ^ 64) ∧
      ((⟨.file none, true, 0⟩ : Store).save s).load = .ok s := by
  intro chat first last s
  have h : ∀ e ∈ s.scheduled, e.id < 2 ^ 64 := by simp [s]
  exact ⟨h, load_save_file none 0 h⟩

/-! ## Saves that succeed -/

/-- Saves succeed: what was saved last is what is loaded. -/
def Reliable (s : Store) : Prop := ∀ snapshot : Snapshot, snapshot.Fits →
  (s.save snapshot).load = .ok snapshot

variable {s : Store}

/-- Saves succeed in memory and in files, unless they cannot be written. -/
theorem reliable_iff : s.Reliable ↔ s.writable ∧ s.medium ≠ .directory := by
  obtain ⟨medium, writable, saves⟩ := s
  constructor
  · intro h
    have hempty := h .empty (List.forall_mem_nil _)
    cases writable with
    | false =>
      -- Nothing is written, so the same is loaded after two different snapshots.
      have htimer := h { Snapshot.empty with timers := [⟨"", .epoch⟩] } (List.forall_mem_nil _)
      have hsame := Except.ok.inj (hempty.symm.trans htimer)
      contradiction
    | true =>
      refine ⟨rfl, ?_⟩
      intro hdirectory
      cases hdirectory
      contradiction
  · intro h snapshot hfits
    obtain ⟨hwritable, hmedium⟩ := h
    cases hwritable
    cases medium with
    | memory => rfl
    | file contents => exact load_written (saves + 1) hfits
    | directory => contradiction

/-- Only the last save counts. -/
theorem load_save_save (s : Store) (old new : Snapshot) :
    ((s.save old).save new).load = (s.save new).load := by
  obtain ⟨medium, writable, saves⟩ := s
  cases writable with
  | false => rfl
  | true => cases medium <;> rfl

theorem Reliable.save (h : s.Reliable) (snapshot : Snapshot) : (s.save snapshot).Reliable := by
  intro new hnew
  rw [load_save_save]
  exact h new hnew

end Store

end ChatBot
