import GpuNvme.Lib.Memory
import Mathlib.Data.List.Basic

/-!
# Physical region pages

How a controller finds the memory of a data transfer from the two PRP entries
of a command: nothing but PRP1 for one page, PRP1 and PRP2 for two, and PRP1
followed by the list at PRP2 for more.  A list that does not end in its page
continues where the last entry of that page points.

The page size is the one programmed into the controller.  Memory is read in
8-byte words by a function of the physical address, so that any host may be
put underneath.
-/

namespace GpuNvme.Lib.Prp

open GpuNvme.Lib.Memory

variable {pageSize : Nat} {word : Address → Address}

/-! ## Interpretation -/

def pageOffset (pageSize : Nat) (address : Address) : Nat :=
  address.toNat % pageSize

/-- Pages touched by `bytes` bytes that start at `first`. -/
def pageCount (pageSize : Nat) (first : Address) (bytes : Nat) : Nat :=
  (pageOffset pageSize first + bytes + pageSize - 1) / pageSize

/-- The entry `position` of a list. -/
def listEntry (word : Address → Address) (list : Address)
    (position : Nat) : Address :=
  word (list + BitVec.ofNat 64 (8 * position))

/--
The first `remaining` pages of a list.  `fuel` bounds the list pages followed;
a list that runs out of it makes no progress and has no meaning.
-/
def listPages (pageSize : Nat) (word : Address → Address) :
    Nat → Address → Nat → Option (List Address)
  | 0, _, _ => none
  | fuel + 1, list, remaining =>
      let slots := (pageSize - pageOffset pageSize list) / 8
      if remaining ≤ slots then
        some ((List.range remaining).map (listEntry word list))
      else
        (listPages pageSize word fuel (listEntry word list (slots - 1))
            (remaining - (slots - 1))).map fun rest =>
          (List.range (slots - 1)).map (listEntry word list) ++ rest

/-- The pages of a transfer of `bytes` bytes, in order. -/
def prpPages (pageSize : Nat) (word : Address → Address)
    (prp1 prp2 : Address) (bytes : Nat) : Option (List Address) :=
  match pageCount pageSize prp1 bytes with
  | 0 | 1 => some [prp1]
  | 2 => some [prp1, prp2]
  | count + 3 =>
      (listPages pageSize word (count + 3) prp2 (count + 2)).map
        fun rest => prp1 :: rest

/-- Where a walk over `remaining` entries begins to read, page by page. -/
def listWalk (pageSize : Nat) (word : Address → Address) :
    Nat → Address → Nat → List Address
  | 0, _, _ => []
  | fuel + 1, list, remaining =>
      let slots := (pageSize - pageOffset pageSize list) / 8
      if remaining ≤ slots then [list]
      else
        list ::
          listWalk pageSize word fuel (listEntry word list (slots - 1))
            (remaining - (slots - 1))

/-- The list pages of a transfer, each by the place its entries begin. -/
def prpLists (pageSize : Nat) (word : Address → Address)
    (prp1 prp2 : Address) (bytes : Nat) : List Address :=
  match pageCount pageSize prp1 bytes with
  | 0 | 1 | 2 => []
  | count + 3 => listWalk pageSize word (count + 3) prp2 (count + 2)

/-- The address is in a list page, where entries may be. -/
def InList (pageSize : Nat) (list address : Address) : Prop :=
  (address - list).toNat < pageSize - pageOffset pageSize list

instance (pageSize : Nat) (list address : Address) :
    Decidable (InList pageSize list address) :=
  inferInstanceAs (Decidable (_ < _))

/-- Transfers of up to two pages have no list. -/
theorem prpLists_eq_nil_iff {prp1 prp2 : Address} {bytes : Nat} :
    prpLists pageSize word prp1 prp2 bytes = [] ↔
      pageCount pageSize prp1 bytes ≤ 2 := by
  unfold prpLists
  split
  · next none => exact iff_of_true rfl (by omega)
  · next one => exact iff_of_true rfl (by omega)
  · next two => exact iff_of_true rfl (by omega)
  · next count more =>
    refine iff_of_false ?_ (by omega)
    dsimp only [listWalk]
    split
    · exact List.cons_ne_nil _ _
    · exact List.cons_ne_nil _ _

/-- The address of byte `position` of a transfer. -/
def dataAddress (pageSize : Nat) (pages : List Address) (position : Nat) :
    Option Address :=
  pages.head?.bind fun first =>
    let place := pageOffset pageSize first + position
    if place < pageSize then some (first + BitVec.ofNat 64 position)
    else
      pages[place / pageSize]?.map fun page =>
        page + BitVec.ofNat 64 (place % pageSize)

/-! ## Transfers into page-aligned buffers -/

theorem pageCount_aligned {first : Address} {bytes count : Nat}
    (aligned : pageOffset pageSize first = 0)
    (above : count * pageSize < bytes)
    (atMost : bytes ≤ (count + 1) * pageSize) :
    pageCount pageSize first bytes = count + 1 := by
  rw [Nat.succ_mul] at atMost
  rw [pageCount, aligned]
  refine Nat.div_eq_of_lt_le ?_ ?_
  · rw [Nat.succ_mul]
    omega
  · rw [Nat.succ_mul, Nat.succ_mul]
    omega

/-- A transfer from the start of a page needs its bytes in whole pages. -/
theorem pageCount_of_aligned {first : Address} {bytes : Nat}
    (aligned : pageOffset pageSize first = 0) (page_pos : 0 < pageSize)
    (bytes_pos : 0 < bytes) :
    pageCount pageSize first bytes = (bytes - 1) / pageSize + 1 := by
  have split := Nat.div_add_mod' (bytes - 1) pageSize
  have rest := Nat.mod_lt (bytes - 1) page_pos
  refine pageCount_aligned aligned ?_ ?_
  · omega
  · rw [Nat.succ_mul]
    omega

/-- A list that ends in its first page is read entry by entry. -/
theorem listPages_of_fits {fuel remaining : Nat} {list : Address}
    (fits : remaining ≤ (pageSize - pageOffset pageSize list) / 8) :
    listPages pageSize word (fuel + 1) list remaining =
      some ((List.range remaining).map (listEntry word list)) := by
  rw [listPages, if_pos fits]

/-- The entry a walk of at least two list slots yields first. -/
theorem listPages_head {fuel remaining : Nat} {list : Address}
    {pages : List Address}
    (some_remaining : 0 < remaining)
    (slots : 2 ≤ (pageSize - pageOffset pageSize list) / 8)
    (walk : listPages pageSize word fuel list remaining = some pages) :
    pages.head? = some (word list) := by
  have first : listEntry word list 0 = word list := by
    simp [listEntry]
  have headOf : ∀ count, 0 < count →
      ((List.range count).map (listEntry word list)).head? =
        some (word list) := by
    intro count positive
    cases count with
    | zero => exact absurd positive (Nat.lt_irrefl 0)
    | succ rest => simp [List.range_succ_eq_map, first]
  cases fuel with
  | zero => simp [listPages] at walk
  | succ fuel =>
      rw [listPages] at walk
      split at walk
      · cases walk
        exact headOf remaining some_remaining
      · obtain ⟨rest, _, rfl⟩ := Option.map_eq_some_iff.mp walk
        rw [List.head?_append,
          headOf _ (Nat.sub_pos_of_lt slots)]
        rfl

/-- Every page that a list gives is a word of memory. -/
theorem listPages_words {fuel remaining : Nat} {list : Address}
    {pages : List Address}
    (walk : listPages pageSize word fuel list remaining = some pages) :
    ∀ page ∈ pages, ∃ address, page = word address := by
  induction fuel generalizing list remaining pages with
  | zero => simp [listPages] at walk
  | succ fuel induction =>
      rw [listPages] at walk
      intro page among
      split at walk
      · cases walk
        obtain ⟨position, -, rfl⟩ := List.mem_map.mp among
        exact ⟨_, rfl⟩
      · obtain ⟨rest, deeper, rfl⟩ := Option.map_eq_some_iff.mp walk
        rcases List.mem_append.mp among with early | late
        · obtain ⟨position, -, rfl⟩ := List.mem_map.mp early
          exact ⟨_, rfl⟩
        · exact induction deeper page late

/-- A transfer inside one page has no use for PRP2. -/
theorem prpPages_one {prp1 prp2 : Address} {bytes : Nat}
    (one : pageCount pageSize prp1 bytes ≤ 1) :
    prpPages pageSize word prp1 prp2 bytes = some [prp1] := by
  rw [prpPages]
  generalize pageCount pageSize prp1 bytes = count at one ⊢
  match count with
  | 0 | 1 => rfl
  | count + 2 => exact absurd one (by omega)

/-- The pages of a transfer after the first are PRP2, or words of memory. -/
theorem prpPages_later {prp1 prp2 : Address} {bytes : Nat}
    {pages : List Address}
    (several : 2 ≤ pageCount pageSize prp1 bytes)
    (walk : prpPages pageSize word prp1 prp2 bytes = some pages) :
    pageCount pageSize prp1 bytes = 2 ∧ pages = [prp1, prp2] ∨
      3 ≤ pageCount pageSize prp1 bytes ∧
        ∀ position page, pages[position + 1]? = some page →
          ∃ address, page = word address := by
  rw [prpPages] at walk
  generalize pageCount pageSize prp1 bytes = count at several walk ⊢
  match count with
  | 0 | 1 => exact absurd several (by decide)
  | 2 =>
      cases walk
      exact .inl ⟨rfl, rfl⟩
  | count + 3 =>
      obtain ⟨rest, list, rfl⟩ := Option.map_eq_some_iff.mp walk
      refine .inr ⟨by omega, ?_⟩
      intro position page found
      rw [List.getElem?_cons_succ] at found
      exact listPages_words list page (List.mem_of_getElem? found)

/--
Two entries and a list page describe any page-aligned transfer of up to one
page more than the list has entries.
-/
theorem prpPages_eq (page : Nat → Address) {prp2 : Address}
    {count bytes : Nat}
    (above : count * pageSize < bytes)
    (atMost : bytes ≤ (count + 1) * pageSize)
    (fits : count ≤ pageSize / 8)
    (aligned : pageOffset pageSize (page 0) = 0)
    (second : count = 1 → prp2 = page 1)
    (list_aligned : 2 ≤ count → pageOffset pageSize prp2 = 0)
    (list :
      2 ≤ count →
        ∀ position, position < count →
          listEntry word prp2 position = page (position + 1)) :
    prpPages pageSize word (page 0) prp2 bytes =
      some ((List.range (count + 1)).map page) := by
  rw [prpPages, pageCount_aligned aligned above atMost]
  match count with
  | 0 => rfl
  | 1 =>
      rw [second rfl]
      rfl
  | count + 2 =>
      have inPage :
          count + 2 ≤ (pageSize - pageOffset pageSize prp2) / 8 := by
        rw [list_aligned (Nat.le_add_left 2 count), Nat.sub_zero]
        exact fits
      have entries :
          (List.range (count + 2)).map (listEntry word prp2) =
            (List.range (count + 2)).map fun position =>
              page (position + 1) := by
        apply List.map_congr_left
        intro position member
        exact list (Nat.le_add_left 2 count) position
          (List.mem_range.mp member)
      have whole :
          (List.range (count + 3)).map page =
            page 0 ::
              (List.range (count + 2)).map fun position =>
                page (position + 1) := by
        rw [List.range_succ_eq_map, List.map_cons, List.map_map]
        rfl
      show (listPages pageSize word (count + 3) prp2 (count + 2)).map _ = _
      rw [listPages_of_fits inPage, entries, whole]
      rfl

/-- The first page of a transfer. -/
theorem prpPages_first {prp1 prp2 : Address} {bytes : Nat}
    {pages : List Address}
    (walk : prpPages pageSize word prp1 prp2 bytes = some pages) :
    pages.head? = some prp1 := by
  rw [prpPages] at walk
  split at walk
  · cases walk
    rfl
  · cases walk
    rfl
  · cases walk
    rfl
  · obtain ⟨rest, _, rfl⟩ := Option.map_eq_some_iff.mp walk
    rfl

/-- The second page of a transfer: PRP2 itself, or what it points to. -/
theorem prpPages_second {prp1 prp2 : Address} {bytes : Nat}
    {pages : List Address}
    (several : 2 ≤ pageCount pageSize prp1 bytes)
    (slots : 2 ≤ (pageSize - pageOffset pageSize prp2) / 8)
    (walk : prpPages pageSize word prp1 prp2 bytes = some pages) :
    pages[1]? =
      some
        (if pageCount pageSize prp1 bytes = 2 then prp2 else word prp2) := by
  rw [prpPages] at walk
  generalize pageCount pageSize prp1 bytes = count at several walk ⊢
  match count with
  | 0 | 1 => exact absurd several (by decide)
  | 2 =>
      cases walk
      rfl
  | count + 3 =>
      obtain ⟨rest, list, rfl⟩ := Option.map_eq_some_iff.mp walk
      have head := listPages_head (Nat.succ_pos _) slots list
      rw [if_neg (by omega), List.getElem?_cons_succ, ← head]
      exact List.head?_eq_getElem?.symm

/--
The page after those that the first list page describes is the first entry of
the next list page, wherever the last slot of the first one points.
-/
theorem prpPages_beyond {prp1 prp2 : Address} {bytes : Nat}
    {pages : List Address}
    (several : 3 ≤ pageCount pageSize prp1 bytes)
    (slots_pos : 0 < (pageSize - pageOffset pageSize prp2) / 8)
    (more :
      (pageSize - pageOffset pageSize prp2) / 8 + 1 <
        pageCount pageSize prp1 bytes)
    (nextSlots :
      2 ≤
        (pageSize -
            pageOffset pageSize
              (listEntry word prp2
                ((pageSize - pageOffset pageSize prp2) / 8 - 1))) / 8)
    (walk : prpPages pageSize word prp1 prp2 bytes = some pages) :
    pages[(pageSize - pageOffset pageSize prp2) / 8]? =
      some
        (word
          (listEntry word prp2
            ((pageSize - pageOffset pageSize prp2) / 8 - 1))) := by
  rw [prpPages] at walk
  generalize pageCount pageSize prp1 bytes = count at several more walk
  generalize slots_eq : (pageSize - pageOffset pageSize prp2) / 8 = slots at *
  match count with
  | 0 | 1 | 2 => exact absurd several (by decide)
  | count + 3 =>
      obtain ⟨listed, list, rfl⟩ := Option.map_eq_some_iff.mp walk
      have continues : ¬count + 2 ≤ slots := by omega
      rw [listPages] at list
      simp only [slots_eq, continues, ↓reduceIte] at list
      obtain ⟨rest, deeper, rfl⟩ := Option.map_eq_some_iff.mp list
      have head := listPages_head (by omega) nextSlots deeper
      obtain ⟨before, rfl⟩ :=
        Nat.exists_eq_succ_of_ne_zero (Nat.pos_iff_ne_zero.mp slots_pos)
      rw [List.getElem?_cons_succ, List.getElem?_append_right (by simp),
        ← head, List.head?_eq_getElem?]
      simp

/-- In a page-aligned transfer byte `position` lies where division puts it. -/
theorem dataAddress_aligned {page : Nat → Address} {count position : Nat}
    (aligned : pageOffset pageSize (page 0) = 0)
    (inside : position < (count + 1) * pageSize) :
    dataAddress pageSize ((List.range (count + 1)).map page) position =
      some
        (page (position / pageSize) +
          BitVec.ofNat 64 (position % pageSize)) := by
  have index : position / pageSize < count + 1 :=
    Nat.div_lt_of_lt_mul (by rwa [Nat.mul_comm])
  have head :
      ((List.range (count + 1)).map page).head? = some (page 0) := by
    simp [List.range_succ_eq_map]
  rw [dataAddress, head]
  simp only [Option.bind_some, aligned, Nat.zero_add]
  by_cases within : position < pageSize
  · rw [if_pos within, Nat.div_eq_of_lt within, Nat.mod_eq_of_lt within]
  · rw [if_neg within, List.getElem?_map, List.getElem?_range index]
    rfl

end GpuNvme.Lib.Prp
