import Mathlib
import ChatBot.Bot.Dispatch

/-!
# Pages of help

The pages of help one after the other are all entries (`Builtin.flatMap_pageEntries`). A number asks
for the page that it counts, or is refused if there is no such page (`Builtin.help_pages_partition`).
-/

namespace ChatBot.Builtin

open Text

variable {entries : List Entry} {delimiter arg : String} {n : Nat}

/-! ## Entries -/

theorem pageCount_eq (entries : List Entry) :
    pageCount entries = max 1 (entries.length ⌈/⌉ pageSize) := by
  rw [pageCount, Nat.ceilDiv_eq_add_pred_div]
  rfl

theorem pageCount_pos (entries : List Entry) : 0 < pageCount entries :=
  Nat.lt_of_lt_of_le Nat.one_pos (Nat.le_max_left _ _)

/-- The first pages have the first entries. -/
theorem flatMap_pageEntries_eq_take (entries : List Entry) (n : Nat) :
    (List.range' 1 n).flatMap (pageEntries entries) = entries.take (n * pageSize) := by
  induction n with
  | zero =>
    rw [Nat.zero_mul, List.take_zero]
    rfl
  | succ n ih =>
    have hlast : pageEntries entries (1 + n) = (entries.drop (n * pageSize)).take pageSize := by
      rw [pageEntries, Nat.add_sub_cancel_left]
    rw [List.range'_1_concat, List.flatMap_append, ih, List.flatMap_singleton, hlast,
      Nat.succ_mul, List.take_add]

theorem length_le_pageCount_mul (entries : List Entry) :
    entries.length ≤ pageCount entries * pageSize := by
  rw [pageCount, pageSize]
  omega

theorem flatMap_pageEntries (entries : List Entry) :
    (List.range' 1 (pageCount entries)).flatMap (pageEntries entries) = entries := by
  rw [flatMap_pageEntries_eq_take, List.take_of_length_le (length_le_pageCount_mul entries)]

/-- A page starts at one of the entries, or after them all. -/
theorem offset_le_length (h : n ≤ pageCount entries) : (n - 1) * pageSize ≤ entries.length := by
  rw [pageCount, pageSize] at h
  rw [pageSize]
  omega

/-- The page after a full one starts where that ends. -/
theorem length_pageEntries (hn : n ≠ 0) (h : n < pageCount entries) :
    (pageEntries entries n).length = pageSize := by
  have hnext : n * pageSize ≤ entries.length := offset_le_length (n := n + 1) h
  have hsplit : n * pageSize = (n - 1) * pageSize + pageSize := by
    rw [← Nat.succ_mul, Nat.succ_eq_add_one, Nat.sub_add_cancel (Nat.pos_of_ne_zero hn)]
  rw [pageEntries, List.length_take, List.length_drop]
  omega

/-! ## Replies -/

/-- The reply with some of the entries. -/
def pageText (delimiter : String) (entries : List Entry) (n : Nat) : String :=
  "\n".intercalate (("Help (page " ++ Nat.repr n ++ "/" ++ Nat.repr (pageCount entries) ++ "):") ::
    (pageEntries entries n).map (helpLine delimiter))

/-- The reply when there is no such page. -/
def noPageText (entries : List Entry) (n : Nat) : String :=
  "Page " ++ Nat.repr n ++ " does not exist. " ++
    if pageCount entries = 1 then "There is 1 page."
    else "There are " ++ Nat.repr (pageCount entries) ++ " pages."

theorem helpPage_of_le (hn : n ≠ 0) (h : n ≤ pageCount entries) :
    helpPage delimiter entries n = pageText delimiter entries n :=
  if_neg fun hnone => hnone.elim hn h.not_gt

theorem helpPage_of_lt (h : n = 0 ∨ pageCount entries < n) :
    helpPage delimiter entries n = noPageText entries n :=
  if_pos h

theorem helpReply_of_none {b : Bot} {ctx : Context} (harg : ctx.arg? 0 = none) :
    helpReply b ctx = helpPage ctx.delimiter (b.registry.help ctx.chat ctx.server) 1 := by
  rw [helpReply, harg]

theorem helpReply_of_read {b : Bot} {ctx : Context} (harg : ctx.arg? 0 = some arg)
    (hread : Decimal.readBelow? (Nat.pow 2 64) arg.toList = some n) :
    helpReply b ctx = helpPage ctx.delimiter (b.registry.help ctx.chat ctx.server) n := by
  rw [helpReply, harg]
  dsimp only
  rw [hread]

/-- **The pages of help are the entries.** The pages in their order have all entries that a chat is
helped with, in their order and each once, and all but the last have ten. `help` shows the page that
is asked for with its number and the number of pages, the first one if none is named, and any other
number is refused. The entry that a page starts at is counted without going below the first one or
beyond the end. -/
theorem help_pages_partition (b : Bot) (ctx : Context) (now : Instant) :
    let entries := b.registry.help ctx.chat ctx.server
    let pages := pageCount entries
    pages = max 1 (entries.length ⌈/⌉ 10) ∧
    (List.range' 1 pages).flatMap (pageEntries entries) = entries ∧
    (∀ n, n ≠ 0 → n < pages → (pageEntries entries n).length = 10) ∧
    (∀ n, n ≠ 0 → n ≤ pages → 0 ≤ (n : Int) - 1 ∧ (n - 1) * 10 ≤ entries.length) ∧
    (ctx.arg? 0 = none →
      Builtin.help.run ctx now b = (.reply (pageText ctx.delimiter entries 1), b)) ∧
    ∀ arg n, ctx.arg? 0 = some arg →
      Decimal.readBelow? (Nat.pow 2 64) arg.toList = some n →
      Builtin.help.run ctx now b = (.reply (if n = 0 ∨ pages < n then noPageText entries n
        else pageText ctx.delimiter entries n), b) := by
  intro entries pages
  refine ⟨pageCount_eq entries, flatMap_pageEntries entries, ?_, ?_, ?_, ?_⟩
  · intro n hn hlt
    exact length_pageEntries hn hlt
  · intro n hn hle
    have hpos := Nat.pos_of_ne_zero hn
    exact ⟨by omega, offset_le_length hle⟩
  · intro harg
    rw [run, helpReply_of_none harg, helpPage_of_le Nat.one_ne_zero (pageCount_pos entries)]
    rfl
  · intro arg n harg hread
    rw [run, helpReply_of_read harg hread]
    split
    next hnone =>
      rw [helpPage_of_lt hnone]
      rfl
    next hsome =>
      obtain ⟨hn, hle⟩ := not_or.1 hsome
      rw [helpPage_of_le hn (Nat.le_of_not_lt hle)]
      rfl

end ChatBot.Builtin
