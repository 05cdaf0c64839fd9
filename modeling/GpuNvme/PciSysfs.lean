import GpuNvme.Controller
import GpuNvme.Lib.CText
import Mathlib.Logic.Function.Basic

/-!
# PCI devices in sysfs

Models `src/host/pci_util.c`, `parse_bar1_phys` and `gpunvme_bar1_init` of
`src/host/layer_loader.cu`, and the id table of `kmod/gpunvme_pci.c`: how the
host reads resource lines and class codes, and which devices it and the
kernel module take for NVMe controllers.

The files are given by their text; a file that cannot be opened is none.  The
kernel writes a resource as three numbers of sixteen digits on a line, and a
class code as one number of six digits.
-/

namespace GpuNvme.PciSysfs

open GpuNvme.Controller
open GpuNvme.Lib.CText

/-- What opening and reading a file gives. -/
abbrev File := Option (List Char)

/-! ## Reading -/

/-- `read_sysfs_hex`. -/
def readSysfsHex (file : File) : Option (BitVec 64) :=
  (file.bind (fgets 64)).map fun read => strtoull16 read.1

/-- `sscanf(line, "%llx %llx %llx", ..) != 3` fails. -/
def scanRange (line : List Char) :
    Option (BitVec 64 × BitVec 64 × BitVec 64) :=
  (scanHex line).bind fun start =>
    (scanHex start.2).bind fun stop =>
      (scanHex stop.2).map fun flags => (start.1, stop.1, flags.1)

/-- `parse_bar0_resource`. -/
def parseBar0Resource (file : File) : Option (BitVec 64 × BitVec 64) :=
  (file.bind (fgets 256)).bind fun read =>
    (scanRange read.1).map fun (start, stop, _) =>
      (start, if start ≠ 0 ∧ stop ≠ 0 then stop - start + 1 else 0)

/-- What the functions of `pci_util.c` return when they fail. -/
inductive PciErr where
  | invalidParam
  | pci
deriving DecidableEq

/-- `gpunvme_get_bar_info`; `given` says that no pointer is null. -/
def gpunvmeGetBarInfo (given : Bool) (file : File) :
    Except PciErr (BitVec 64 × BitVec 64) :=
  if given then
    match parseBar0Resource file with
    | none => .error .pci
    | some (phys, size) =>
        if size = 0 then .error .pci else .ok (phys, size)
  else .error .invalidParam

/--
The line of BAR1 in `parse_bar1_phys`, of which two numbers are enough; each
of them is preceded by a literal `0x`, and the space between them is optional.
-/
def scanBar1 (line : List Char) : Option (BitVec 64) :=
  (literal ['0', 'x'] line).bind fun text =>
    (scanHex text).bind fun start =>
      (literal ['0', 'x'] (start.2.dropWhile isSpace)).bind fun text =>
        (scanHex text).map fun _ => start.1

/-- `parse_bar1_phys`. -/
def parseBar1Phys (file : File) : BitVec 64 :=
  (((file.bind (fgets 256)).bind fun first =>
    (fgets 256 first.2).bind fun second => scanBar1 second.1)).getD 0

/-- The fields of the loader that `gpunvme_bar1_init` sets. -/
structure Bar1 where
  bar1Fd : Int
  gpuBar1Phys : BitVec 64
  bar1VramOffset : BitVec 64
  bar1Enabled : Bool
deriving DecidableEq

/--
`gpunvme_bar1_init`; `wc` and `plain` are what opening `resource1_wc` and
`resource1` returns.
-/
def gpunvmeBar1Init (given : Bool) (file : File) (wc plain : Int)
    (staticBar1Offset : BitVec 64) (loader : Bar1) :
    Except GpunvmeErr Unit × Bar1 :=
  if given then
    let bar1Phys := parseBar1Phys file
    if bar1Phys = 0 then (.error .barMap, loader)
    else
      let fd := if wc < 0 then plain else wc
      if fd < 0 then (.error .barMap, loader)
      else (.ok (), ⟨fd, bar1Phys, staticBar1Offset, true⟩)
  else (.error .invalidParam, loader)

/-! ## What the kernel writes -/

/-- A line of the file `resource`. -/
structure Resource where
  start : BitVec 64
  stop : BitVec 64
  flags : BitVec 64
deriving DecidableEq

/-- `0x%016llx 0x%016llx 0x%016llx`. -/
def Resource.line (resource : Resource) : List Char :=
  hexText 16 resource.start.toNat ++
    ' ' :: (hexText 16 resource.stop.toNat ++
      ' ' :: hexText 16 resource.flags.toNat)

def resourceFile (resources : List Resource) : List Char :=
  resources.flatMap fun resource => resource.line ++ ['\n']

theorem resourceFile_cons (resource : Resource) (resources : List Resource) :
    resourceFile (resource :: resources) =
      resource.line ++ '\n' :: resourceFile resources := by
  simp [resourceFile]

/-- The size of a resource that is there; an unused one is all zero. -/
def Resource.size (resource : Resource) : BitVec 64 :=
  if resource.start ≠ 0 ∧ resource.stop ≠ 0 then
    resource.stop - resource.start + 1
  else 0

/-- `0x%06x`, as the file `class` has it. -/
def classText (classCode : BitVec 24) : List Char :=
  hexText 6 classCode.toNat ++ ['\n']

/-! ### Reading it back -/

theorem endsDigits_space (rest : List Char) : EndsDigits (' ' :: rest) :=
  endsDigits_cons (by decide)

theorem endsDigits_newline (rest : List Char) : EndsDigits ('\n' :: rest) :=
  endsDigits_cons (by decide)

/-- A 64-bit number of sixteen digits reads back, after a space or not. -/
theorem scanHex_word (number : BitVec 64) (space : List Char)
    (blank : ∀ c ∈ space, isSpace c = true) {rest : List Char}
    (ends : EndsDigits rest) :
    scanHex (space ++ hexText 16 number.toNat ++ rest) =
      some (number, rest) := by
  rw [scanHex_hexText (by decide) number.isLt (by decide) blank ends,
    BitVec.ofNat_toNat, BitVec.setWidth_eq]

theorem Resource.scanRange_line (resource : Resource) :
    scanRange (resource.line ++ ['\n']) =
      some (resource.start, resource.stop, resource.flags) := by
  have start :=
    scanHex_word resource.start [] (List.forall_mem_nil _)
      (endsDigits_space
        (hexText 16 resource.stop.toNat ++
          ' ' :: (hexText 16 resource.flags.toNat ++ ['\n'])))
  have stop :=
    scanHex_word resource.stop [' '] (List.forall_mem_singleton.mpr rfl)
      (endsDigits_space (hexText 16 resource.flags.toNat ++ ['\n']))
  have flags :=
    scanHex_word resource.flags [' '] (List.forall_mem_singleton.mpr rfl)
      (endsDigits_newline [])
  simp only [List.nil_append, List.cons_append] at start stop flags
  simp only [scanRange, Resource.line, List.append_assoc, List.cons_append,
    start, stop, flags, Option.bind_some, Option.map_some]

theorem Resource.line_oneLine (resource : Resource) :
    '\n' ∉ resource.line := by
  simp [Resource.line, newline_notMem_hexText]

theorem Resource.length_line (resource : Resource) :
    resource.line.length = 56 := by
  simp [Resource.line]

/-- The first line of a resource file is read, and the others are left. -/
theorem fgets_resourceFile (resource : Resource) (resources : List Resource) :
    fgets 256 (resourceFile (resource :: resources)) =
      some (resource.line ++ ['\n'], resourceFile resources) := by
  rw [resourceFile_cons]
  refine fgets_line resource.line_oneLine ?_
  rw [resource.length_line]
  decide

theorem parseBar0Resource_file (bar0 : Resource) (others : List Resource) :
    parseBar0Resource (some (resourceFile (bar0 :: others))) =
      some (bar0.start, bar0.size) := by
  simp only [parseBar0Resource, Option.bind_some, fgets_resourceFile,
    bar0.scanRange_line, Option.map_some]
  rfl

/-- The line of BAR1 gives where BAR1 starts. -/
theorem Resource.scanBar1_line (resource : Resource) :
    scanBar1 (resource.line ++ ['\n']) = some resource.start := by
  have start :=
    @scanHex_digits 16 _ (by decide) resource.start.isLt (by decide) _
      (endsDigits_space
        (hexText 16 resource.stop.toNat ++
          ' ' :: (hexText 16 resource.flags.toNat ++ ['\n'])))
  have stop :=
    @scanHex_digits 16 _ (by decide) resource.stop.isLt (by decide) _
      (endsDigits_space (hexText 16 resource.flags.toNat ++ ['\n']))
  have skipped : ∀ rest,
      (' ' :: (hexText 16 resource.stop.toNat ++ rest)).dropWhile isSpace =
        ['0', 'x'] ++
          ((nibbles 16 resource.stop.toNat).map hexChar ++ rest) := by
    intro rest
    have space : isSpace ' ' = true := by decide
    have digit : isSpace '0' = false := by decide
    simp [hexText, space, digit]
  have first :
      resource.line ++ ['\n'] =
        ['0', 'x'] ++
          ((nibbles 16 resource.start.toNat).map hexChar ++
            ' ' :: (hexText 16 resource.stop.toNat ++
              ' ' :: (hexText 16 resource.flags.toNat ++ ['\n']))) := by
    simp [Resource.line, hexText]
  rw [scanBar1, first, literal_append, Option.bind_some, start]
  simp only [Option.bind_some, skipped, literal_append, stop,
    Option.map_some, BitVec.ofNat_toNat, BitVec.setWidth_eq]

theorem parseBar1Phys_file (bar0 bar1 : Resource) (others : List Resource) :
    parseBar1Phys (some (resourceFile (bar0 :: bar1 :: others))) =
      bar1.start := by
  simp only [parseBar1Phys, Option.bind_some, fgets_resourceFile,
    bar1.scanBar1_line, Option.getD_some]

/--
What the kernel writes about the first two resources of a device is what the
host takes them for: `gpunvme_get_bar_info` gives start and size of the first
where it is in use, and refuses it where it is not, and `gpunvme_bar1_init`
takes over where the second one starts, unless that is nowhere or no file can
be opened.
-/
theorem resources_read (bar0 bar1 : Resource) (others : List Resource)
    (wc plain : Int) (staticBar1Offset : BitVec 64) (loader : Bar1) :
    let file := some (resourceFile (bar0 :: bar1 :: others))
    gpunvmeGetBarInfo true file =
        (if bar0.size = 0 then .error .pci
        else .ok (bar0.start, bar0.size)) ∧
      gpunvmeBar1Init true file wc plain staticBar1Offset loader =
        (if bar1.start ≠ 0 ∧ (0 ≤ wc ∨ 0 ≤ plain) then
          (.ok (),
            ⟨if 0 ≤ wc then wc else plain, bar1.start, staticBar1Offset,
              true⟩)
        else (.error .barMap, loader)) := by
  constructor
  · simp [gpunvmeGetBarInfo, parseBar0Resource_file]
  · simp only [gpunvmeBar1Init, parseBar1Phys_file, if_true]
    by_cases noWc : wc < 0
    · by_cases noPlain : plain < 0
      · simp [noWc, noPlain, Int.not_le.mpr noWc, Int.not_le.mpr noPlain]
      · simp [noWc, noPlain, Int.not_le.mpr noWc, Int.not_lt.mp noPlain]
    · simp [noWc, Int.not_lt.mp noWc]

/-! ## Finding devices -/

/-- `PCI_CLASS_NVME`. -/
def pciClassNvme : BitVec 64 := 0x010802

/-- An entry of `/sys/bus/pci/devices` with the files that are read. -/
structure Dirent where
  name : List Char
  classFile : File
  vendor : File
  device : File
  resource : File
  /-- What `readlink` on `driver` gives. -/
  driver : Option (List Char)
deriving DecidableEq

/-- `gpunvme_pci_dev_t`; the two strings are the arrays they are kept in. -/
structure GpunvmePciDev where
  bdf : List Char
  bar0Phys : BitVec 64
  bar0Size : BitVec 64
  vendorId : BitVec 16
  deviceId : BitVec 16
  driver : List Char
deriving DecidableEq

/-- `strncpy`: what the text leaves of the first characters is zeroed. -/
def strncpy (count : Nat) (text buffer : List Char) : List Char :=
  text.take count ++ List.replicate (count - text.length) '\x00' ++
    buffer.drop count

/-- What follows the last slash, or all of the link. -/
def baseName (link : List Char) : List Char :=
  (link.reverse.takeWhile (· ≠ '/')).reverse

/-- The name of the driver, in an array that is not cleared before. -/
def driverName (link : Option (List Char)) (buffer : List Char) : List Char :=
  match link with
  | some (c :: rest) => strncpy 63 (baseName ((c :: rest).take 255)) buffer
  | _ => ['n', 'o', 'n', 'e', '\x00'] ++ buffer.drop 5

/-- What the loop body makes of the record `devs[count]`. -/
def fillDevice (ent : Dirent) (dev : GpunvmePciDev) : GpunvmePciDev :=
  let bar0 := parseBar0Resource ent.resource
  { bdf := (strncpy 15 ent.name dev.bdf).take 15 ++ ['\x00']
    bar0Phys := (bar0.map Prod.fst).getD dev.bar0Phys
    bar0Size := (bar0.map Prod.snd).getD dev.bar0Size
    vendorId := ((readSysfsHex ent.vendor).getD 0).setWidth 16
    deviceId := ((readSysfsHex ent.device).getD 0).setWidth 16
    driver := driverName ent.driver dev.driver }

/-- The loop body goes on to the record: no dot, and the class of NVMe. -/
def TakenForNvme (ent : Dirent) : Prop :=
  ent.name.head? ≠ some '.' ∧
    ∃ classCode,
      readSysfsHex ent.classFile = some classCode ∧
        classCode >>> 8 = pciClassNvme

instance decidableTakenForNvme (ent : Dirent) : Decidable (TakenForNvme ent) :=
  match equal : readSysfsHex ent.classFile with
  | none => .isFalse (by simp [TakenForNvme, equal])
  | some classCode =>
      decidable_of_iff
        (ent.name.head? ≠ some '.' ∧ classCode >>> 8 = pciClassNvme)
        (by simp [TakenForNvme, equal])

/-- The loop of `gpunvme_find_nvme_devices`, from this count on. -/
def findFrom (maxDevs : Int) :
    List Dirent → Nat → (Nat → GpunvmePciDev) → Nat × (Nat → GpunvmePciDev)
  | [], count, devs => (count, devs)
  | ent :: ents, count, devs =>
      if (count : Int) < maxDevs then
        if TakenForNvme ent then
          findFrom maxDevs ents (count + 1)
            (Function.update devs count (fillDevice ent (devs count)))
        else findFrom maxDevs ents count devs
      else (count, devs)

/-- `gpunvme_find_nvme_devices`; a directory that cannot be opened is none. -/
def gpunvmeFindNvmeDevices (maxDevs : Int) (directory : Option (List Dirent))
    (devs : Nat → GpunvmePciDev) : Nat × (Nat → GpunvmePciDev) :=
  match directory with
  | none => (0, devs)
  | some ents => findFrom maxDevs ents 0 devs

/-- `PCI_CLASS_STORAGE_EXPRESS << 8`, the class of `gpunvme_pci_ids`. -/
def pciIdClass : BitVec 32 := (0x010802 : BitVec 32) <<< 8

/-- The class mask of `gpunvme_pci_ids`. -/
def pciIdClassMask : BitVec 32 := 0xFFFF00

/-- `pci_match_one_device`, as far as `gpunvme_pci_ids` goes. -/
def pciIdMatches (classCode : BitVec 24) : Prop :=
  (pciIdClass ^^^ classCode.setWidth 32) &&& pciIdClassMask = 0

/-! ### What is found -/

/-- The first entries that are taken go to the records from the count on. -/
theorem findFrom_spec (maxDevs : Int) (ents : List Dirent) (count : Nat)
    (devs : Nat → GpunvmePciDev) :
    let taken := ents.filter fun ent => decide (TakenForNvme ent)
    let room := (maxDevs - count).toNat
    (findFrom maxDevs ents count devs).1 = count + min taken.length room ∧
      ∀ index,
        (findFrom maxDevs ents count devs).2 index =
          if index < count then devs index
          else
            match (taken.take room)[index - count]? with
            | some ent => fillDevice ent (devs index)
            | none => devs index := by
  induction ents generalizing count devs with
  | nil => simp [findFrom]
  | cons ent ents induction =>
      dsimp only at induction ⊢
      by_cases more : (count : Int) < maxDevs
      · by_cases nvme : TakenForNvme ent
        · obtain ⟨number, records⟩ :=
            induction (count + 1)
              (Function.update devs count (fillDevice ent (devs count)))
          have room :
              (maxDevs - count).toNat =
                (maxDevs - (count + 1 : Nat)).toNat + 1 := by
            omega
          rw [findFrom, if_pos more, if_pos nvme,
            List.filter_cons_of_pos (by simpa using nvme), room]
          constructor
          · rw [number, List.length_cons]
            omega
          · intro index
            rw [records, List.take_succ_cons]
            rcases Nat.lt_trichotomy index count with before | rfl | after
            · have apart : index ≠ count := Nat.ne_of_lt before
              simp [Nat.lt_succ_of_lt before, before, apart]
            · simp
            · have next : index - count = index - (count + 1) + 1 := by omega
              have apart : index ≠ count := Nat.ne_of_gt after
              rw [if_neg (by omega), if_neg (by omega), next,
                List.getElem?_cons_succ, Function.update_of_ne apart]
        · rw [findFrom, if_pos more, if_neg nvme,
            List.filter_cons_of_neg (by simpa using nvme)]
          exact induction count devs
      · have full : (maxDevs - count).toNat = 0 := by omega
        rw [findFrom, if_neg more, full]
        simp

/-- The class code of the kernel reads back. -/
theorem readSysfsHex_classText (classCode : BitVec 24) :
    readSysfsHex (some (classText classCode)) =
      some (classCode.setWidth 64) := by
  have fits : classCode.toNat < 16 ^ 6 := classCode.isLt
  have line :
      fgets 64 (hexText 6 classCode.toNat ++ ['\n']) =
        some (hexText 6 classCode.toNat ++ ['\n'], []) := by
    refine fgets_line (newline_notMem_hexText _ _) ?_
    rw [length_hexText]
    decide
  simp only [readSysfsHex, classText, Option.bind_some, line, Option.map_some,
    strtoull16_hexText (by decide) fits (by decide) (endsDigits_newline []),
    BitVec.ofNat_toNat]

/-- No class code that the kernel writes has the class of NVMe above it. -/
theorem not_takenForNvme {ent : Dirent}
    (written :
      ∀ text, ent.classFile = some text →
        ∃ classCode, text = classText classCode) :
    ¬TakenForNvme ent := by
  rintro ⟨-, number, read, taken⟩
  cases file : ent.classFile with
  | none =>
      rw [file] at read
      cases read
  | some text =>
      obtain ⟨classCode, rfl⟩ := written text file
      rw [file, readSysfsHex_classText] at read
      cases read
      have bound := classCode.isLt
      have same := congrArg BitVec.toNat taken
      rw [BitVec.toNat_ushiftRight, BitVec.toNat_setWidth,
        Nat.shiftRight_eq_div_pow, Nat.mod_eq_of_lt (by omega)] at same
      have nvme : pciClassNvme.toNat = 67586 := rfl
      omega

/-- The module asks for the class that the shift makes of the code of NVMe. -/
theorem pciIdMatches_iff (classCode : BitVec 24) :
    pciIdMatches classCode ↔ classCode >>> 8 = 0x0802 := by
  have mask : ∀ bit < 32,
      pciIdClassMask.getLsbD bit = decide (8 ≤ bit ∧ bit < 24) := by
    decide
  have asked : ∀ bit < 16,
      pciIdClass.getLsbD (8 + bit) = (0x0802 : BitVec 24).getLsbD bit := by
    decide
  have above : ∀ bit < 24,
      16 ≤ bit → (0x0802 : BitVec 24).getLsbD bit = false := by
    decide
  constructor
  · intro matched
    apply BitVec.eq_of_getLsbD_eq
    intro bit inside
    rw [BitVec.getLsbD_ushiftRight]
    rcases Nat.lt_or_ge bit 16 with low | high
    · have same := congrArg (fun word => word.getLsbD (8 + bit)) matched
      have bounds : 8 ≤ 8 + bit ∧ 8 + bit < 24 := by omega
      have word : 8 + bit < 32 := by omega
      simp only [BitVec.getLsbD_and, BitVec.getLsbD_xor,
        BitVec.getLsbD_setWidth, mask _ word, asked bit low, bounds, word,
        decide_true, and_self, Bool.true_and, Bool.and_true] at same
      have flipped :
          (0x0802 : BitVec 24).getLsbD bit = classCode.getLsbD (8 + bit) := by
        simpa using same
      exact flipped.symm
    · rw [above bit inside high]
      exact BitVec.getLsbD_of_ge _ _ (by omega)
  · intro matched
    apply BitVec.eq_of_getLsbD_eq
    intro bit inside
    rw [BitVec.getLsbD_and, BitVec.getLsbD_xor, mask bit inside]
    by_cases bounds : 8 ≤ bit ∧ bit < 24
    · obtain ⟨low, rfl⟩ := Nat.exists_eq_add_of_le bounds.1
      have same := congrArg (fun word => word.getLsbD low) matched
      simp only [BitVec.getLsbD_ushiftRight] at same
      rw [asked low (by omega), BitVec.getLsbD_setWidth, same]
      simp [inside]
    · simp [bounds]

/--
`gpunvme_find_nvme_devices` fills one record after the other for the first
entries that it takes for NVMe controllers, as many as were asked for, and
leaves the other records alone.  Where the class files are the kernel's, it
finds nothing.
-/
theorem devices_found (maxDevs : Int) (ents : List Dirent)
    (devs : Nat → GpunvmePciDev) :
    let taken := ents.filter fun ent => decide (TakenForNvme ent)
    let found := gpunvmeFindNvmeDevices maxDevs (some ents) devs
    found.1 = min taken.length maxDevs.toNat ∧
      (∀ index,
        found.2 index =
          match (taken.take maxDevs.toNat)[index]? with
          | some ent => fillDevice ent (devs index)
          | none => devs index) ∧
      ((∀ ent ∈ ents, ∀ text, ent.classFile = some text →
          ∃ classCode, text = classText classCode) →
        found = (0, devs)) := by
  obtain ⟨number, records⟩ := findFrom_spec maxDevs ents 0 devs
  simp only [Int.natCast_zero, Int.sub_zero, Nat.zero_add, Nat.not_lt_zero,
    if_false, Nat.sub_zero] at number records
  simp only [gpunvmeFindNvmeDevices]
  refine ⟨number, records, ?_⟩
  intro written
  have none_taken :
      (ents.filter fun ent => decide (TakenForNvme ent)) = [] := by
    rw [List.filter_eq_nil_iff]
    intro ent among
    simpa using not_takenForNvme (written ent among)
  rw [none_taken] at number records
  refine Prod.ext (by simpa using number) (funext fun index => ?_)
  simpa using records index

/-! ## Bus mastering -/

/-- `pwrite` of a little-endian word of which some bytes get through. -/
def writeWord (config : Nat → BitVec 8) (offset : Nat) (word : BitVec 16) :
    Nat → Nat → BitVec 8
  | 0 => config
  | 1 => Function.update config offset (word.setWidth 8)
  | _ =>
      Function.update
        (Function.update config offset (word.setWidth 8))
        (offset + 1) ((word >>> 8).setWidth 8)

/-- `pread` of a little-endian word. -/
def readWord (config : Nat → BitVec 8) (offset : Nat) : BitVec 16 :=
  (config (offset + 1)).setWidth 16 <<< 8 ||| (config offset).setWidth 16

/--
`gpunvme_enable_bus_master` on the configuration space, where `pread` and
`pwrite` return these numbers of bytes.
-/
def gpunvmeEnableBusMaster (opened : Bool) (preads pwrites : Nat)
    (config : Nat → BitVec 8) : Except PciErr Unit × (Nat → BitVec 8) :=
  if opened then
    if preads = 2 then
      let cmd := readWord config 4 ||| 0x06
      let config := writeWord config 4 cmd pwrites
      if pwrites = 2 then (.ok (), config) else (.error .pci, config)
    else (.error .pci, config)
  else (.error .pci, config)

/-- Two bits of the command register are set, whatever else happens to it. -/
theorem gpunvmeEnableBusMaster_ok {opened : Bool} {preads pwrites : Nat}
    {config : Nat → BitVec 8}
    (enabled :
      (gpunvmeEnableBusMaster opened preads pwrites config).1 = .ok ()) :
    (gpunvmeEnableBusMaster opened preads pwrites config).2 =
      Function.update config 4 (config 4 ||| 0x06) := by
  unfold gpunvmeEnableBusMaster at enabled ⊢
  split_ifs at enabled ⊢ with isOpen read written
  subst written
  have low : (readWord config 4 ||| 0x06).setWidth 8 = config 4 ||| 0x06 := by
    apply BitVec.eq_of_getLsbD_eq
    intro bit inside
    have word : bit < 16 := Nat.lt_trans inside (by decide)
    have narrow :
        (0x06 : BitVec 16).getLsbD bit = (0x06 : BitVec 8).getLsbD bit := by
      revert bit
      decide
    rw [BitVec.getLsbD_setWidth, BitVec.getLsbD_or, BitVec.getLsbD_or, narrow]
    simp [readWord, inside, word]
  have high : ((readWord config 4 ||| 0x06) >>> 8).setWidth 8 = config 5 := by
    apply BitVec.eq_of_getLsbD_eq
    intro bit inside
    have word : 8 + bit < 16 := Nat.add_lt_add_left inside 8
    have clear : (0x06 : BitVec 16).getLsbD (8 + bit) = false := by
      revert bit
      decide
    rw [BitVec.getLsbD_setWidth, BitVec.getLsbD_ushiftRight,
      BitVec.getLsbD_or, clear]
    simp [readWord, inside, word]
  simp only [writeWord, low, high]
  refine Function.update_eq_self_iff.mpr ?_
  rw [Function.update_of_ne (by decide)]

end GpuNvme.PciSysfs
