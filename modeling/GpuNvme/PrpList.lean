import GpuNvme.HostEffects
import GpuNvme.LoaderPrpLimits

/-!
# PRP lists outside the loader

`gpunvme_prp_list_alloc` and `gpunvme_prp_list_build` of `dma_alloc.c`.  The
list may be longer than a page, but its entries are stored one after the
other: no page of it ends in a pointer to the next one, and only the first one
has a known address.  What is built describes the buffer as long as the list
stays inside its first page.
-/

namespace GpuNvme.PrpList

open GpuNvme.Controller
open GpuNvme.HostEffects
open GpuNvme.Lib.Memory (Address)
open GpuNvme.Lib.Prp
open GpuNvme.Loader

/-! ## The code -/

/-- `gpunvme_prp_list_t`; `entries` is what `list` points to. -/
structure GpunvmePrpList where
  list : Address
  entries : Nat → Address
  listPhys : Address
  prp1 : Address
  prp2 : Address
  nEntries : Nat
  maxEntries : Nat
  listBytes : Nat

/-- One `pread` of `/proc/self/pagemap`, if it can be opened. -/
def readPagemap (pm : Pagemap) (opens : Bool) (vaddr : Address) :
    PagemapRead :=
  if opens then
    match pm.entry (vaddr.toNat / pm.pageSize) with
    | none => .readFails
    | some bits => .entry bits
  else .openFails

/-- What the host answers to `gpunvme_prp_list_alloc`. -/
structure AllocHost where
  pm : Pagemap
  memalign : Option PoolAddress
  register : Bool
  opens : Bool

/-- `gpunvme_prp_list_alloc`. -/
def gpunvmePrpListAlloc (host : AllocHost) (maxPages : BitVec 32) :
    Host GpunvmePrpList := do
  require (maxPages ≠ 0) .invalidParam
  let nEntries :=
    if maxPages.toNat - 1 = 0 then 1 else maxPages.toNat - 1
  let listBytes := if nEntries * 8 < 4096 then 4096 else nEntries * 8
  match host.memalign with
  | none => .error (.err .nomem)
  | some list =>
      require host.register .nomem
      let listPhys ←
        gpunvmeVirtToPhys host.pm.pageSize list
          (readPagemap host.pm host.opens list)
      pure
        { list := list
          entries := fun _ => 0
          listPhys := listPhys
          prp1 := 0
          prp2 := 0
          nEntries := 0
          maxEntries := nEntries
          listBytes := listBytes }

/-- One page of the loop of `gpunvme_prp_list_build`. -/
def resolvePage (pm : Pagemap) (vaddr : Address) : Host Address :=
  match pm.entry (vaddr.toNat / pm.pageSize) with
  | none => .error (.err .io)
  | some entry =>
      if entry.getLsbD 63 then
        .ok
          ((entry &&& BitVec.ofNat 64 (2 ^ 55 - 1)) *
              BitVec.ofNat 64 pm.pageSize +
            BitVec.ofNat 64 (vaddr.toNat % pm.pageSize))
      else .error (.err .dma)

/-- The loop from page `i` on; what is stored before a failure stays. -/
def storePages (resolve : Nat → Host Address) :
    Nat → Nat → GpunvmePrpList → GpunvmePrpList × Host Unit
  | 0, _, prp => (prp, .ok ())
  | remaining + 1, i, prp =>
      match resolve i with
      | .error failure => (prp, .error failure)
      | .ok phys =>
          storePages resolve remaining (i + 1)
            (if i = 0 then { prp with prp1 := phys }
            else
              { prp with entries := Function.update prp.entries (i - 1) phys })

/-- `n_pages`, computed in `size_t` and stored in 32 bits. -/
def nPagesOf (transferBytes : BitVec 64) (pageSize : BitVec 32) : Nat :=
  (transferBytes.toNat + pageSize.toNat - 1) % 2 ^ 64 / pageSize.toNat %
    2 ^ 32

/-- `gpunvme_prp_list_build`. -/
def gpunvmePrpListBuild (pm : Pagemap) (opens : Bool) (prp : GpunvmePrpList)
    (dataVaddr : Address) (transferBytes : BitVec 64) (pageSize : BitVec 32) :
    GpunvmePrpList × Host Unit :=
  if prp.list = 0 ∨ dataVaddr = 0 ∨ transferBytes = 0 then
    (prp, .error (.err .invalidParam))
  else if pageSize = 0 then (prp, .error .undefined)
  else
    let nPages := nPagesOf transferBytes pageSize
    if (prp.maxEntries + 1) % 2 ^ 32 < nPages then
      (prp, .error (.err .invalidParam))
    else if opens then
      match
        storePages
          (fun i =>
            resolvePage pm (dataVaddr + BitVec.ofNat 64 (i * pageSize.toNat)))
          nPages 0 prp with
      | (stored, .error failure) => (stored, .error failure)
      | (stored, .ok ()) =>
          ({ stored with
              nEntries := if 1 < nPages then nPages - 1 else 0
              prp2 := prp2Of nPages (stored.entries 0) stored.listPhys },
            .ok ())
    else (prp, .error (.err .io))

/-! ## What a list has to say -/

/-- The page of an address is present. -/
def Present (pm : Pagemap) (vaddr : Address) : Prop :=
  ∃ entry, pm.entry (vaddr.toNat / pm.pageSize) = some entry ∧
    entry.getLsbD 63 = true

/-- Pages of 4096 bytes that `bytes` bytes take. -/
def pagesOf (bytes : Nat) : Nat :=
  (bytes + 4095) / 4096

/-- Where page `i` of a buffer is in physical memory. -/
def pageAt (pm : Pagemap) (buffer : Address) (i : Nat) : Address :=
  virtToPhysPagemap pm (buffer + BitVec.ofNat 64 (i * 4096))

/--
A page-aligned, resident buffer of `bytes` bytes beside the resident list, on
a host whose pages hold whole controller pages.
-/
structure Resident (pm : Pagemap) (prp : GpunvmePrpList) (data : Address)
    (bytes : Nat) : Prop where
  hostPage : ccPageSize ∣ pm.pageSize
  aligned : pageOffset ccPageSize data = 0
  dataFits : data.toNat + bytes ≤ 2 ^ 64
  listFits : prp.list.toNat + prp.listBytes ≤ 2 ^ 64
  apart :
    data.toNat + bytes ≤ prp.list.toNat ∨
      prp.list.toNat + prp.listBytes ≤ data.toNat
  data_present :
    ∀ i < pagesOf bytes, Present pm (data + BitVec.ofNat 64 (i * 4096))
  list_present :
    ∀ i < pagesOf prp.listBytes,
      Present pm (prp.list + BitVec.ofNat 64 (i * 4096))

/-- Physical memory holds the entries, wherever the pages of the list are. -/
def HoldsEntries (pm : Pagemap) (prp : GpunvmePrpList)
    (word : Address → Address) : Prop :=
  ∀ i j, j < 512 → 512 * i + j < prp.listBytes / 8 →
    word (pageAt pm prp.list i + BitVec.ofNat 64 (8 * j)) =
      prp.entries (512 * i + j)

/--
Whatever list is allocated and whatever buffer it is built for, the controller
finds the pages of the buffer in order.
-/
def DescribesTransfer (maxPages : BitVec 32) (bytes : BitVec 64) : Prop :=
  ∀ host allocated data opens built word,
    gpunvmePrpListAlloc host maxPages = .ok allocated →
    Resident host.pm allocated data bytes.toNat →
    gpunvmePrpListBuild host.pm opens allocated data bytes 4096 =
      (built, .ok ()) →
    HoldsEntries host.pm built word →
    prpPages ccPageSize word built.prp1 built.prp2 bytes.toNat =
      some ((List.range (pagesOf bytes.toNat)).map (pageAt host.pm data))

/-- `max_entries` and `list_bytes` of a new list. -/
def entriesFor (maxPages : BitVec 32) : Nat :=
  max (maxPages.toNat - 1) 1

def listBytesFor (maxPages : BitVec 32) : Nat :=
  max (entriesFor maxPages * 8) 4096

/--
The list stays in its first page, or the transfer is refused because its page
count, in 32 bits, is above the capacity, or the address space has no room for
the buffer and the list.
-/
def Describable (maxPages : BitVec 32) (bytes : BitVec 64) : Prop :=
  pagesOf bytes.toNat ≤ 513 ∨
    entriesFor maxPages + 1 < pagesOf bytes.toNat % 2 ^ 32 ∨
    2 ^ 52 ≤ pagesOf bytes.toNat + pagesOf (listBytesFor maxPages)

/-! ## Single functions -/

theorem resolvePage_eq_ok_iff {pm : Pagemap} {vaddr phys : Address} :
    resolvePage pm vaddr = .ok phys ↔
      Present pm vaddr ∧ virtToPhysPagemap pm vaddr = phys := by
  unfold resolvePage Present virtToPhysPagemap
  cases pm.entry (vaddr.toNat / pm.pageSize) with
  | none => simp
  | some entry =>
      by_cases present : entry.getLsbD 63 = true
      · simp only [Option.some.injEq, exists_eq_left', present, true_and,
          ↓reduceIte, Except.ok.injEq]
      · simp only [Option.some.injEq, exists_eq_left', present, false_and,
          ↓reduceIte, reduceCtorEq, Bool.false_eq_true]

/-- A lookup of the host is a page of the loop, opening the file apart. -/
theorem gpunvmeVirtToPhys_eq {pm : Pagemap} {vaddr : Address}
    (nonnull : vaddr ≠ 0) :
    gpunvmeVirtToPhys pm.pageSize vaddr (readPagemap pm true vaddr) =
      resolvePage pm vaddr := by
  unfold gpunvmeVirtToPhys readPagemap resolvePage
  rw [if_neg nonnull, if_pos rfl]
  cases pm.entry (vaddr.toNat / pm.pageSize) with
  | none => rfl
  | some entry => rfl

theorem gpunvmeVirtToPhys_eq_ok {pm : Pagemap} {opens : Bool}
    {vaddr phys : Address}
    (found :
      gpunvmeVirtToPhys pm.pageSize vaddr (readPagemap pm opens vaddr) =
        .ok phys) :
    vaddr ≠ 0 ∧ virtToPhysPagemap pm vaddr = phys := by
  have nonnull : vaddr ≠ 0 := by
    rintro rfl
    cases found
  cases opens with
  | false =>
      unfold gpunvmeVirtToPhys at found
      rw [if_neg nonnull] at found
      cases found
  | true =>
      rw [gpunvmeVirtToPhys_eq nonnull] at found
      exact ⟨nonnull, (resolvePage_eq_ok_iff.mp found).2⟩

@[simp]
theorem pageAt_zero (pm : Pagemap) (buffer : Address) :
    pageAt pm buffer 0 = virtToPhysPagemap pm buffer := by
  rw [pageAt, Nat.zero_mul]
  exact congrArg _ (BitVec.add_zero buffer)

/-- What is known of a list that was allocated. -/
structure Allocated (host : AllocHost) (maxPages : BitVec 32)
    (prp : GpunvmePrpList) : Prop where
  nonnull : prp.list ≠ 0
  aligned : pageOffset ccPageSize prp.list = 0
  listPhys_eq : prp.listPhys = pageAt host.pm prp.list 0
  entries_eq : prp.entries = fun _ => 0
  prp1_eq : prp.prp1 = 0
  maxEntries_eq : prp.maxEntries = entriesFor maxPages
  listBytes_eq : prp.listBytes = listBytesFor maxPages

theorem gpunvmePrpListAlloc_eq_ok {host : AllocHost} {maxPages : BitVec 32}
    {prp : GpunvmePrpList}
    (returned : gpunvmePrpListAlloc host maxPages = .ok prp) :
    Allocated host maxPages prp := by
  have entries :
      (if maxPages.toNat - 1 = 0 then 1 else maxPages.toNat - 1) =
        entriesFor maxPages := by
    unfold entriesFor
    split <;> omega
  have bytes :
      (if entriesFor maxPages * 8 < 4096 then 4096
          else entriesFor maxPages * 8) =
        listBytesFor maxPages := by
    unfold listBytesFor
    split <;> omega
  unfold gpunvmePrpListAlloc require at returned
  split at returned
  · next nonzero =>
    cases memory : host.memalign with
    | none =>
        simp only [memory] at returned
        cases returned
    | some list =>
        simp only [memory, entries, bytes] at returned
        cases registers : host.register with
        | false =>
            rw [registers] at returned
            cases returned
        | true =>
            rw [registers] at returned
            cases found :
                gpunvmeVirtToPhys host.pm.pageSize list
                  (readPagemap host.pm host.opens list) with
            | error failure =>
                rw [found] at returned
                cases returned
            | ok listPhys =>
                rw [found] at returned
                cases returned
                obtain ⟨nonnull, phys⟩ := gpunvmeVirtToPhys_eq_ok found
                refine ⟨nonnull, list.property, ?_, rfl, rfl, rfl, rfl⟩
                exact phys.symm.trans (pageAt_zero host.pm list).symm
  · cases returned

section Loop

variable {resolve : Nat → Host Address}

/-- A loop that ends has resolved every page. -/
theorem storePages_resolved {remaining i : Nat} {prp after : GpunvmePrpList}
    (stored : storePages resolve remaining i prp = (after, .ok ())) :
    ∀ p, i ≤ p → p < i + remaining → ∃ phys, resolve p = .ok phys := by
  induction remaining generalizing i prp with
  | zero =>
      intro p atLeast below
      omega
  | succ remaining induction =>
      intro p atLeast below
      unfold storePages at stored
      cases found : resolve i with
      | error failure =>
          rw [found] at stored
          cases stored
      | ok phys =>
          rw [found] at stored
          rcases Nat.eq_or_lt_of_le atLeast with rfl | later
          · exact ⟨phys, found⟩
          · exact induction stored p later (by omega)

variable {page : Nat → Address}

/-- The loop after the first page, whose entries are the ones before it. -/
theorem storePages_succ (remaining i : Nat) (prp : GpunvmePrpList)
    (resolved :
      ∀ p, i + 1 ≤ p → p < i + 1 + remaining → resolve p = .ok (page p)) :
    storePages resolve remaining (i + 1) prp =
      ({ prp with
          entries := fun w =>
            if i ≤ w ∧ w < i + remaining then page (w + 1)
            else prp.entries w },
        .ok ()) := by
  induction remaining generalizing i prp with
  | zero =>
      have nothing : ∀ w, ¬(i ≤ w ∧ w < i + 0) := fun w within => by omega
      simp only [storePages, nothing, ↓reduceIte]
  | succ remaining induction =>
      have here := resolved (i + 1) (Nat.le_refl _) (by omega)
      simp only [storePages, here, Nat.succ_ne_zero, ↓reduceIte,
        Nat.add_sub_cancel]
      rw [induction (i + 1) _ fun p atLeast below =>
        resolved p (by omega) (by omega)]
      congr 2
      funext w
      rcases Nat.lt_trichotomy w i with before | rfl | after
      · rw [if_neg (by omega), if_neg (by omega)]
        exact Function.update_of_ne (Nat.ne_of_lt before) _ _
      · rw [if_neg (by omega), if_pos (by omega)]
        exact Function.update_self _ _ _
      · by_cases within : i + 1 ≤ w ∧ w < i + 1 + remaining
        · rw [if_pos within, if_pos (by omega)]
        · rw [if_neg within, if_neg (by omega)]
          exact Function.update_of_ne (Nat.ne_of_gt after) _ _

/-- The whole loop: the first page to PRP1, the others to the list. -/
theorem storePages_eq (count : Nat) (prp : GpunvmePrpList)
    (resolved : ∀ p < count, resolve p = .ok (page p)) :
    storePages resolve count 0 prp =
      ({ prp with
          prp1 := if count = 0 then prp.prp1 else page 0
          entries := fun w =>
            if w + 1 < count then page (w + 1) else prp.entries w },
        .ok ()) := by
  cases count with
  | zero => rfl
  | succ count =>
      have first := resolved 0 (Nat.succ_pos count)
      simp only [storePages, first, ↓reduceIte]
      rw [storePages_succ count 0 _ fun p _ below =>
        resolved p (by omega)]
      simp only [Nat.zero_le, true_and, Nat.zero_add, Nat.succ_ne_zero,
        ↓reduceIte, Nat.add_lt_add_iff_right]

end Loop

/-- The page count of a transfer that fits the address space. -/
theorem nPagesOf_eq {bytes : BitVec 64}
    (fits : bytes.toNat + 4095 < 2 ^ 64) :
    nPagesOf bytes 4096 = pagesOf bytes.toNat % 2 ^ 32 := by
  have size : (4096 : BitVec 32).toNat = 4096 := rfl
  rw [nPagesOf, pagesOf, size, Nat.add_sub_assoc (by decide),
    Nat.mod_eq_of_lt fits]

/-- The state of a list that was built. -/
structure Built (pm : Pagemap) (data : Address) (nPages : Nat)
    (allocated built : GpunvmePrpList) : Prop where
  list_eq : built.list = allocated.list
  listPhys_eq : built.listPhys = allocated.listPhys
  listBytes_eq : built.listBytes = allocated.listBytes
  prp1_eq :
    built.prp1 = if nPages = 0 then allocated.prp1 else pageAt pm data 0
  entries_eq :
    ∀ w,
      built.entries w =
        if w + 1 < nPages then pageAt pm data (w + 1)
        else allocated.entries w
  prp2_eq :
    built.prp2 = prp2Of nPages (built.entries 0) allocated.listPhys

theorem gpunvmePrpListBuild_eq_ok {pm : Pagemap} {opens : Bool}
    {allocated built : GpunvmePrpList} {data : Address} {bytes : BitVec 64}
    (capacity : allocated.maxEntries + 1 < 2 ^ 32)
    (returned :
      gpunvmePrpListBuild pm opens allocated data bytes 4096 =
        (built, .ok ())) :
    data ≠ 0 ∧ bytes ≠ 0 ∧
      nPagesOf bytes 4096 ≤ allocated.maxEntries + 1 ∧
      Built pm data (nPagesOf bytes 4096) allocated built := by
  unfold gpunvmePrpListBuild at returned
  split at returned
  · cases returned
  · next given =>
    rw [not_or, not_or] at given
    rw [if_neg (by decide), Nat.mod_eq_of_lt capacity] at returned
    dsimp only at returned
    generalize nPagesOf bytes 4096 = nPages at returned ⊢
    split at returned
    · cases returned
    · next room =>
      cases opens with
      | false => cases returned
      | true =>
          rw [if_pos rfl] at returned
          split at returned
          · cases returned
          · next stored loop =>
            have resolved := storePages_resolved loop
            have pages :
                ∀ p < nPages,
                  resolvePage pm
                      (data +
                        BitVec.ofNat 64 (p * (4096 : BitVec 32).toNat)) =
                    .ok (pageAt pm data p) := by
              intro p below
              obtain ⟨phys, found⟩ := resolved p (Nat.zero_le p) (by omega)
              rw [found, ← (resolvePage_eq_ok_iff.mp found).2]
              rfl
            rw [storePages_eq nPages allocated pages] at loop
            cases loop
            cases returned
            exact
              ⟨given.2.1, given.2.2, Nat.le_of_not_lt room, rfl, rfl, rfl,
                rfl, fun _ => rfl, rfl⟩

/-! ## Lists of one page -/

theorem capacity_lt (maxPages : BitVec 32) :
    entriesFor maxPages + 1 < 2 ^ 32 := by
  have small := maxPages.isLt
  unfold entriesFor
  omega

/-- The page count of the code is that of the buffer, modulo its width. -/
theorem Resident.nPagesOf_eq {pm : Pagemap} {prp : GpunvmePrpList}
    {data : Address} {bytes : BitVec 64}
    (resident : Resident pm prp data bytes.toNat) (nonnull : data ≠ 0) :
    nPagesOf bytes 4096 = pagesOf bytes.toNat % 2 ^ 32 := by
  have aligned : data.toNat % 4096 = 0 := resident.aligned
  have fits := resident.dataFits
  have positive : data.toNat ≠ 0 := fun zero =>
    nonnull (BitVec.eq_of_toNat_eq zero)
  exact PrpList.nPagesOf_eq (by omega)

section OnePage

variable {host : AllocHost} {maxPages : BitVec 32}
variable {allocated built : GpunvmePrpList} {data : Address}

/-- A buffer and a list find room only in so many pages. -/
theorem Resident.pages_lt {bytes : Nat}
    (resident : Resident host.pm allocated data bytes)
    (list : Allocated host maxPages allocated) (nonnull : data ≠ 0) :
    pagesOf bytes + pagesOf (listBytesFor maxPages) < 2 ^ 52 := by
  have aligned : data.toNat % 4096 = 0 := resident.aligned
  have list_aligned : allocated.list.toNat % 4096 = 0 := list.aligned
  have data_pos : data.toNat ≠ 0 := fun zero =>
    nonnull (BitVec.eq_of_toNat_eq zero)
  have list_pos : allocated.list.toNat ≠ 0 := fun zero =>
    list.nonnull (BitVec.eq_of_toNat_eq zero)
  have dataFits := resident.dataFits
  have listFits := resident.listFits
  have apart := resident.apart
  rw [list.listBytes_eq] at listFits apart
  unfold pagesOf
  omega

/-- A list inside its first page describes the buffer. -/
theorem Built.describes {bytes count : Nat} {word : Address → Address}
    (stored : Built host.pm data (count + 1) allocated built)
    (list : Allocated host maxPages allocated)
    (resident : Resident host.pm allocated data bytes)
    (count_eq : pagesOf bytes = count + 1) (onePage : count ≤ 512)
    (holds : HoldsEntries host.pm built word) :
    prpPages ccPageSize word built.prp1 built.prp2 bytes =
      some ((List.range (count + 1)).map (pageAt host.pm data)) := by
  unfold pagesOf at count_eq
  rw [stored.prp1_eq, if_neg (Nat.succ_ne_zero count)]
  have many : 2 ≤ count → built.prp2 = pageAt host.pm allocated.list 0 := by
    intro several
    rw [stored.prp2_eq, prp2Of, if_neg (by omega), if_neg (by omega),
      list.listPhys_eq]
  have first_aligned :
      pageOffset ccPageSize (pageAt host.pm data 0) = 0 := by
    rw [pageAt_zero]
    exact virtToPhysPagemap_aligned resident.hostPage resident.aligned
  have list_room : 4096 ≤ built.listBytes := by
    rw [stored.listBytes_eq, list.listBytes_eq]
    exact Nat.le_max_right _ _
  refine
    prpPages_eq (pageAt host.pm data) ?_ ?_ ?_ first_aligned ?_ ?_ ?_
  · show count * 4096 < bytes
    omega
  · show bytes ≤ (count + 1) * 4096
    omega
  · show count ≤ 4096 / 8
    omega
  · rintro rfl
    rw [stored.prp2_eq, prp2Of, if_neg (by decide), if_pos rfl,
      stored.entries_eq, if_pos (by decide)]
  · intro several
    rw [many several, pageAt_zero]
    exact virtToPhysPagemap_aligned resident.hostPage list.aligned
  · intro several position below
    have entry := holds 0 position (by omega) (by omega)
    rw [stored.list_eq] at entry
    rw [many several, listEntry, entry, Nat.mul_zero, Nat.zero_add,
      stored.entries_eq, if_pos (by omega)]

end OnePage

theorem Describable.describesTransfer {maxPages : BitVec 32}
    {bytes : BitVec 64} (describable : Describable maxPages bytes) :
    DescribesTransfer maxPages bytes := by
  intro host allocated data opens built word alloc resident build holds
  have list := gpunvmePrpListAlloc_eq_ok alloc
  obtain ⟨nonnull, nonempty, room, stored⟩ :=
    gpunvmePrpListBuild_eq_ok (list.maxEntries_eq ▸ capacity_lt maxPages)
      build
  rw [resident.nPagesOf_eq nonnull] at room stored
  rw [list.maxEntries_eq] at room
  have bytes_pos : 0 < bytes.toNat :=
    Nat.pos_of_ne_zero fun zero => nonempty (BitVec.eq_of_toNat_eq zero)
  rcases describable with onePage | refused | noRoom
  · have number : pagesOf bytes.toNat % 2 ^ 32 = pagesOf bytes.toNat :=
      Nat.mod_eq_of_lt (by omega)
    obtain ⟨count, count_eq⟩ :
        ∃ count, pagesOf bytes.toNat = count + 1 :=
      Nat.exists_eq_add_one_of_ne_zero (by unfold pagesOf; omega)
    rw [number, count_eq] at stored
    rw [count_eq] at onePage ⊢
    exact stored.describes list resident count_eq (by omega) holds
  · omega
  · exact
      absurd (resident.pages_lt list nonnull) (Nat.not_lt.mpr noRoom)

/-! ## Longer lists -/

theorem offsetPagemap_present (distance vaddr : Address) :
    Present (offsetPagemap distance) vaddr := by
  refine ⟨_, rfl, ?_⟩
  rw [BitVec.getLsbD_ofNat, Nat.testBit_two_pow_add_eq,
    Nat.testBit_lt_two_pow]
  · rfl
  · exact Nat.lt_of_lt_of_le (Nat.mod_lt _ (by decide)) (by decide)

/-- The list is allocated where the host puts it. -/
theorem exists_gpunvmePrpListAlloc {pm : Pagemap} {maxPages : BitVec 32}
    (list : PoolAddress) (pages : maxPages ≠ 0) (nonnull : list.val ≠ 0)
    (present : Present pm list) :
    ∃ prp,
      gpunvmePrpListAlloc ⟨pm, some list, true, true⟩ maxPages = .ok prp ∧
        prp.list = list := by
  have found := resolvePage_eq_ok_iff.mpr ⟨present, rfl⟩
  rw [← gpunvmeVirtToPhys_eq nonnull] at found
  unfold gpunvmePrpListAlloc require
  rw [decide_eq_true pages]
  dsimp only
  rw [found]
  exact ⟨_, rfl, rfl⟩

/-- A transfer of present pages within the capacity is built. -/
theorem exists_gpunvmePrpListBuild {pm : Pagemap} {prp : GpunvmePrpList}
    {data : Address} {bytes : BitVec 64}
    (list : prp.list ≠ 0) (nonnull : data ≠ 0) (nonempty : bytes ≠ 0)
    (capacity : prp.maxEntries + 1 < 2 ^ 32)
    (room : nPagesOf bytes 4096 ≤ prp.maxEntries + 1)
    (present : ∀ vaddr, Present pm vaddr) :
    ∃ built,
      gpunvmePrpListBuild pm true prp data bytes 4096 = (built, .ok ()) := by
  have loop :=
    storePages_eq (nPagesOf bytes 4096) prp fun p _ =>
      resolvePage_eq_ok_iff.mpr
        ⟨present (data + BitVec.ofNat 64 (p * (4096 : BitVec 32).toNat)),
          rfl⟩
  have given : ¬(prp.list = 0 ∨ data = 0 ∨ bytes = 0) :=
    not_or.mpr ⟨list, not_or.mpr ⟨nonnull, nonempty⟩⟩
  unfold gpunvmePrpListBuild
  rw [if_neg given, if_neg (by decide)]
  dsimp only
  rw [Nat.mod_eq_of_lt capacity, if_neg (Nat.not_lt_of_le room),
    if_pos rfl, loop]
  exact ⟨_, rfl⟩

theorem pageAt_offsetPagemap (buffer : Address) (i : Nat) :
    pageAt (offsetPagemap 0) buffer i =
      buffer + BitVec.ofNat 64 (i * 4096) := by
  rw [pageAt, virtToPhysPagemap_offsetPagemap (by decide)]
  exact BitVec.add_zero _

/--
A host on which every page is where its address says: the list in the second
page and after it the data.
-/
structure Identity (maxPages : BitVec 32) (bytes : BitVec 64)
    (data : Address) (allocated built : GpunvmePrpList) : Prop where
  alloc :
    gpunvmePrpListAlloc
        ⟨offsetPagemap 0, some ⟨4096, by decide⟩, true, true⟩ maxPages =
      .ok allocated
  build :
    gpunvmePrpListBuild (offsetPagemap 0) true allocated data bytes 4096 =
      (built, .ok ())
  list_eq : allocated.list = 4096
  data_eq :
    data.toNat = 4096 * (1 + pagesOf (listBytesFor maxPages))
  room :
    pagesOf bytes.toNat + pagesOf (listBytesFor maxPages) < 2 ^ 52

section Identity

variable {maxPages : BitVec 32} {bytes : BitVec 64} {data : Address}
variable {allocated built : GpunvmePrpList}

theorem exists_identity (pages : maxPages ≠ 0)
    (undescribable : ¬Describable maxPages bytes) :
    ∃ data allocated built, Identity maxPages bytes data allocated built := by
  unfold Describable at undescribable
  rw [not_or, not_or] at undescribable
  obtain ⟨long, accepted, room⟩ := undescribable
  obtain ⟨allocated, alloc, list_eq⟩ :=
    @exists_gpunvmePrpListAlloc (offsetPagemap 0) maxPages
      ⟨4096, by decide⟩ pages (by decide) (offsetPagemap_present 0 4096)
  have list := gpunvmePrpListAlloc_eq_ok alloc
  have data_eq :
      (BitVec.ofNat 64
          (4096 * (1 + pagesOf (listBytesFor maxPages)))).toNat =
        4096 * (1 + pagesOf (listBytesFor maxPages)) := by
    rw [BitVec.toNat_ofNat]
    omega
  have nonnull :
      BitVec.ofNat 64 (4096 * (1 + pagesOf (listBytesFor maxPages))) ≠ 0 := by
    intro zero
    have address := congrArg BitVec.toNat zero
    rw [data_eq] at address
    change _ = 0 at address
    omega
  have nonempty : bytes ≠ 0 := by
    rintro rfl
    exact long (by decide)
  have capacity : allocated.maxEntries + 1 < 2 ^ 32 :=
    list.maxEntries_eq ▸ capacity_lt maxPages
  have count : nPagesOf bytes 4096 = pagesOf bytes.toNat % 2 ^ 32 := by
    apply nPagesOf_eq
    unfold pagesOf at room
    omega
  obtain ⟨built, build⟩ :=
    exists_gpunvmePrpListBuild list.nonnull nonnull nonempty capacity
      (by
        rw [count, list.maxEntries_eq]
        exact Nat.le_of_not_lt accepted)
      (offsetPagemap_present 0)
  exact
    ⟨_, allocated, built, alloc, build, list_eq, data_eq,
      Nat.lt_of_not_le room⟩

namespace Identity

variable (identity : Identity maxPages bytes data allocated built)

include identity

theorem listFits :
    4096 + listBytesFor maxPages ≤ data.toNat := by
  rw [identity.data_eq]
  unfold pagesOf
  omega

theorem nonnull : data ≠ 0 := by
  rintro rfl
  have start := identity.data_eq
  change 0 = _ at start
  omega

theorem resident : Resident (offsetPagemap 0) allocated data bytes.toNat := by
  have list := gpunvmePrpListAlloc_eq_ok identity.alloc
  have fits := identity.listFits
  have data_eq := identity.data_eq
  have room := identity.room
  have start : (4096 : Address).toNat = 4096 := rfl
  have inside : data.toNat + bytes.toNat ≤ 2 ^ 64 := by
    unfold pagesOf at data_eq room
    omega
  constructor
  case hostPage => exact Nat.dvd_refl 4096
  case aligned =>
    show data.toNat % 4096 = 0
    omega
  case dataFits => exact inside
  case listFits =>
    rw [identity.list_eq, list.listBytes_eq, start]
    omega
  case apart =>
    rw [identity.list_eq, list.listBytes_eq, start]
    exact .inr fits
  case data_present => exact fun _ _ => offsetPagemap_present 0 _
  case list_present => exact fun _ _ => offsetPagemap_present 0 _

/-- Address of data page `k`. -/
theorem page_toNat {k : Nat} (inside : k < pagesOf bytes.toNat) :
    (pageAt (offsetPagemap 0) data k).toNat = data.toNat + k * 4096 := by
  have data_eq := identity.data_eq
  have room := identity.room
  rw [pageAt_offsetPagemap, BitVec.toNat_add, BitVec.toNat_ofNat]
  omega

end Identity

end Identity

/-- Memory with the entries of the list in it and zeros elsewhere. -/
def listOnly (prp : GpunvmePrpList) (address : Address) : Address :=
  if 4096 ≤ address.toNat ∧ address.toNat < 4096 + prp.listBytes then
    prp.entries ((address.toNat - 4096) / 8)
  else 0

section Misread

variable {maxPages : BitVec 32} {bytes : BitVec 64} {data : Address}
variable {allocated built : GpunvmePrpList}

namespace Identity

variable (identity : Identity maxPages bytes data allocated built)

include identity

theorem stored :
    nPagesOf bytes 4096 = pagesOf bytes.toNat % 2 ^ 32 ∧
      Built (offsetPagemap 0) data (pagesOf bytes.toNat % 2 ^ 32) allocated
        built := by
  have list := gpunvmePrpListAlloc_eq_ok identity.alloc
  obtain ⟨nonnull, _, _, stored⟩ :=
    gpunvmePrpListBuild_eq_ok (list.maxEntries_eq ▸ capacity_lt maxPages)
      identity.build
  have count := identity.resident.nPagesOf_eq nonnull
  exact ⟨count, count ▸ stored⟩

theorem holdsEntries :
    HoldsEntries (offsetPagemap 0) built (listOnly built) := by
  have list := gpunvmePrpListAlloc_eq_ok identity.alloc
  obtain ⟨_, stored⟩ := identity.stored
  have bytes_eq : built.listBytes = listBytesFor maxPages :=
    stored.listBytes_eq.trans list.listBytes_eq
  have list_eq : built.list = 4096 := stored.list_eq.trans identity.list_eq
  have small : listBytesFor maxPages < 2 ^ 36 := by
    have below := capacity_lt maxPages
    unfold listBytesFor
    omega
  intro i j inPage inside
  have address :
      (pageAt (offsetPagemap 0) built.list i +
          BitVec.ofNat 64 (8 * j)).toNat =
        4096 + (i * 4096 + 8 * j) := by
    have start : (4096 : Address).toNat = 4096 := rfl
    rw [pageAt_offsetPagemap, list_eq, BitVec.toNat_add, BitVec.toNat_add,
      BitVec.toNat_ofNat, BitVec.toNat_ofNat, start]
    omega
  unfold listOnly
  rw [address, if_pos (by omega)]
  exact congrArg built.entries (by omega)

/-- Every word is zero or the address of a data page. -/
theorem listOnly_cases (address : Address) :
    listOnly built address = 0 ∨
      ∃ k < pagesOf bytes.toNat,
        listOnly built address = pageAt (offsetPagemap 0) data k := by
  have list := gpunvmePrpListAlloc_eq_ok identity.alloc
  obtain ⟨_, stored⟩ := identity.stored
  unfold listOnly
  split
  · rw [stored.entries_eq]
    split
    · next listed =>
      exact
        .inr
          ⟨_, Nat.lt_of_lt_of_le listed (Nat.mod_le _ _), rfl⟩
    · exact .inl (congrFun list.entries_eq _)
  · exact .inl rfl

/-- What a word of memory points to is aligned and holds zero. -/
theorem listOnly_listOnly (address : Address) :
    pageOffset ccPageSize (listOnly built address) = 0 ∧
      listOnly built (listOnly built address) = 0 := by
  have list := gpunvmePrpListAlloc_eq_ok identity.alloc
  obtain ⟨_, stored⟩ := identity.stored
  have bytes_eq : built.listBytes = listBytesFor maxPages :=
    stored.listBytes_eq.trans list.listBytes_eq
  have fits := identity.listFits
  rcases identity.listOnly_cases address with zero | ⟨k, inside, page⟩
  · rw [zero]
    exact ⟨rfl, if_neg fun within => absurd within.1 (by decide)⟩
  · have place := identity.page_toNat inside
    have data_eq := identity.data_eq
    rw [page]
    constructor
    · show (pageAt (offsetPagemap 0) data k).toNat % 4096 = 0
      omega
    · rw [listOnly, place, if_neg (by omega)]

/-- The entry after the first list page is not the page of the buffer. -/
theorem misread (long : 513 < pagesOf bytes.toNat) :
    prpPages ccPageSize (listOnly built) built.prp1 built.prp2 bytes.toNat ≠
      some
        ((List.range (pagesOf bytes.toNat)).map
          (pageAt (offsetPagemap 0) data)) := by
  intro walk
  have list := gpunvmePrpListAlloc_eq_ok identity.alloc
  obtain ⟨_, stored⟩ := identity.stored
  have first := prpPages_first walk
  rw [List.head?_eq_getElem?, List.getElem?_map,
    List.getElem?_range (by omega), Option.map_some] at first
  have prp1_eq : built.prp1 = pageAt (offsetPagemap 0) data 0 :=
    (Option.some.inj first).symm
  have data_aligned : data.toNat % 4096 = 0 := identity.resident.aligned
  have prp1_aligned : pageOffset ccPageSize built.prp1 = 0 := by
    show built.prp1.toNat % 4096 = 0
    rw [prp1_eq, identity.page_toNat (by omega)]
    omega
  have counted :
      pageCount ccPageSize built.prp1 bytes.toNat =
        pagesOf bytes.toNat - 1 + 1 := by
    unfold pagesOf at long ⊢
    rw [pageCount_of_aligned prp1_aligned (by decide) (by omega)]
    unfold ccPageSize
    omega
  have prp2_aligned : pageOffset ccPageSize built.prp2 = 0 := by
    have listPhys_aligned :
        pageOffset ccPageSize allocated.listPhys = 0 := by
      rw [list.listPhys_eq, pageAt_zero, identity.list_eq]
      exact
        virtToPhysPagemap_aligned identity.resident.hostPage (by decide)
    rw [stored.prp2_eq, prp2Of]
    split
    · rfl
    · next several =>
      split
      · next two =>
        rw [stored.entries_eq, if_pos (by omega)]
        show (pageAt (offsetPagemap 0) data 1).toNat % 4096 = 0
        rw [identity.page_toNat (by omega)]
        omega
      · exact listPhys_aligned
  have slots : (ccPageSize - pageOffset ccPageSize built.prp2) / 8 = 512 := by
    rw [prp2_aligned]
    rfl
  obtain ⟨next_aligned, next_zero⟩ :=
    identity.listOnly_listOnly
      (built.prp2 + BitVec.ofNat 64 (8 * 511))
  have beyond :=
    prpPages_beyond (by omega) (by omega) (by omega)
      (by
        rw [slots]
        show 2 ≤ (ccPageSize - pageOffset ccPageSize
          (listOnly built (built.prp2 + BitVec.ofNat 64 (8 * 511)))) / 8
        rw [next_aligned]
        decide)
      walk
  rw [slots, List.getElem?_map, List.getElem?_range (by omega),
    Option.map_some] at beyond
  have page_eq : pageAt (offsetPagemap 0) data 512 = 0 :=
    (Option.some.inj beyond).trans next_zero
  have place := identity.page_toNat (k := 512) (by omega)
  rw [page_eq] at place
  change 0 = _ at place
  omega

end Identity

end Misread

theorem describable_of_describesTransfer {maxPages : BitVec 32}
    {bytes : BitVec 64} (pages : maxPages ≠ 0)
    (describes : DescribesTransfer maxPages bytes) :
    Describable maxPages bytes := by
  by_contra undescribable
  obtain ⟨data, allocated, built, identity⟩ :=
    exists_identity pages undescribable
  have long : 513 < pagesOf bytes.toNat :=
    Nat.lt_of_not_le fun short => undescribable (.inl short)
  exact
    identity.misread long
      (describes _ allocated data true built (listOnly built) identity.alloc
        identity.resident identity.build identity.holdsEntries)

theorem describesTransfer_iff (maxPages : BitVec 32) (bytes : BitVec 64)
    (pages : maxPages ≠ 0) :
    DescribesTransfer maxPages bytes ↔ Describable maxPages bytes :=
  ⟨describable_of_describesTransfer pages, Describable.describesTransfer⟩

/-- A list for 513 pages is right. -/
theorem describesTransfer_iff_full :
    DescribesTransfer 513 (BitVec.ofNat 64 (513 * 4096)) ↔
      Describable 513 (BitVec.ofNat 64 (513 * 4096)) :=
  describesTransfer_iff 513 (BitVec.ofNat 64 (513 * 4096)) (by decide)

/-- One page more, and the last entry of the full list page is followed. -/
theorem not_describesTransfer_long :
    ¬DescribesTransfer 514 (BitVec.ofNat 64 (514 * 4096)) := by
  intro describes
  have describable : Describable 514 (BitVec.ofNat 64 (514 * 4096)) :=
    describable_of_describesTransfer (by decide) describes
  have pages : pagesOf (BitVec.ofNat 64 (514 * 4096)).toNat = 514 := by
    decide
  have list : pagesOf (listBytesFor 514) = 2 := by decide
  rw [Describable, pages, list] at describable
  have capacity : entriesFor 514 = 513 := by decide
  omega

end GpuNvme.PrpList
