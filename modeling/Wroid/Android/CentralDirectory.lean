import Wroid.Core.Geometry
import Wroid.Lib.Bytes
import Wroid.Lib.Json

/-!
# The central directory of a package

`wroid-android` inspects a package by its ZIP central directory alone.  The directory is a list of
records; each has 46 bytes of numbers, then a name, an extra field and a comment whose lengths are
among the numbers.

Every index, slice and sum of the source is stated with its way to panic.

## Main definitions

* `Header`, `CentralRecord` — the numbers of a record, and a well-formed record.
* `parseCentralEntries` — the parser of the source.

## Main results

* `parseEntry_eq_ok` — when the parser takes a record.
* `parseFrom_eq_ok` — what it makes of the rest of the directory.
* `parseCentralEntries_exact` — **the parser accepts exactly the directories of well-formed
  records and never panics**.
-/

namespace Wroid

open Lib

def isizeMax : ℕ := 9223372036854775807
def usizeMax : ℕ := 18446744073709551615

namespace PackageArchive

def CENTRAL_ENTRY_SIGNATURE : ℕ := 0x02014b50
def MAX_ARCHIVE_ENTRIES : ℕ := 100000
def MAX_ENTRY_NAME_BYTES : ℕ := 4096

inductive PackageInspectionError
  | notAFile (path : String)
  | io (error : IoError)
  | invalidArchive (message : String)
  deriving DecidableEq

/-- How a computation of the parser ends early. -/
inductive Stop
  | panicked
  | failed (error : PackageInspectionError)
  deriving DecidableEq

def invalidArchive {α : Type} (message : String) : Except Stop α :=
  .error (.failed (.invalidArchive message))

/-- `if condition { return Err(..) }` -/
def refuseIf (condition : Prop) [Decidable condition] (message : String) : Except Stop Unit :=
  if condition then invalidArchive message else .ok ()

/-! ### Operations that may panic -/

/-- `bytes[i..]` -/
def sliceFrom (bytes : List UInt8) (i : ℕ) : Except Stop (List UInt8) :=
  if i ≤ bytes.length then .ok (bytes.drop i) else .error .panicked

/-- `bytes[i..j]` -/
def slice (bytes : List UInt8) (i j : ℕ) : Except Stop (List UInt8) :=
  if i ≤ j ∧ j ≤ bytes.length then .ok ((bytes.drop i).take (j - i)) else .error .panicked

/-- `n + k` in `usize` -/
def plus (n k : ℕ) : Except Stop ℕ := if n + k ≤ usizeMax then .ok (n + k) else .error .panicked

/-- `usize::checked_add` -/
def checkedAdd (n k : ℕ) : Option ℕ := if n + k ≤ usizeMax then some (n + k) else none

/-- `Vec::with_capacity` of elements of a size -/
def withCapacity (elementBytes capacity : ℕ) : Except Stop Unit :=
  if capacity * elementBytes ≤ isizeMax then .ok () else .error .panicked

def readUnsigned (width : ℕ) (bytes : List UInt8) (offset : ℕ) : Except Stop ℕ :=
  if offset + width ≤ bytes.length then .ok (field bytes offset width)
  else invalidArchive "truncated ZIP integer"

def readU16 : List UInt8 → ℕ → Except Stop ℕ := readUnsigned 2
def readU32 : List UInt8 → ℕ → Except Stop ℕ := readUnsigned 4

/-! ### The parser -/

structure ArchiveEntry where
  name : String
  encrypted : Bool
  directory : Bool
  deriving DecidableEq, Repr

/-- A `String` of three words and two flags. -/
def ARCHIVE_ENTRY_BYTES : ℕ := 32

/-- `char::is_control` -/
def isControl (c : Char) : Bool :=
  c.val.toNat < 0x20 || 0x7f ≤ c.val.toNat && c.val.toNat ≤ 0x9f

/-- `46 + name_len + extra_len + comment_len` -/
def recordLen (nameLen extraLen commentLen : ℕ) : Option ℕ :=
  ((checkedAdd 46 nameLen).bind (checkedAdd · extraLen)).bind (checkedAdd · commentLen)

/-- One pass of the loop: the entry at the offset, and the offset behind its record. -/
def parseEntry (bytes : List UInt8) (offset count : ℕ) : Except Stop (ArchiveEntry × ℕ) := do
  refuseIf (MAX_ARCHIVE_ENTRIES ≤ count) "truncated ZIP central directory entry"
  let fixed ← plus offset 46
  refuseIf (bytes.length < fixed) "truncated ZIP central directory entry"
  let entry ← sliceFrom bytes offset
  let signature ← readU32 entry 0
  refuseIf (signature ≠ CENTRAL_ENTRY_SIGNATURE) "unexpected record in ZIP central directory"
  let flags ← readU16 entry 8
  let compressedSize ← readU32 entry 20
  let uncompressedSize ← readU32 entry 24
  let nameLen ← readU16 entry 28
  let extraLen ← readU16 entry 30
  let commentLen ← readU16 entry 32
  let diskStart ← readU16 entry 34
  let localOffset ← readU32 entry 42
  refuseIf (nameLen = 0 ∨ MAX_ENTRY_NAME_BYTES < nameLen) "ZIP entry name exceeds safety limits"
  refuseIf (diskStart ≠ 0 ∨ compressedSize = u32Max ∨ uncompressedSize = u32Max ∨
    localOffset = u32Max) "ZIP64 entry metadata is not supported"
  match recordLen nameLen extraLen commentLen with
  | none => invalidArchive "ZIP entry length overflow"
  | some recordLen =>
    refuseIf ((checkedAdd offset recordLen).all (bytes.length < ·) = true)
      "truncated ZIP central directory entry"
    let nameEnd ← plus 46 nameLen
    let nameBytes ← slice entry 46 nameEnd
    refuseIf (0 ∈ nameBytes) "ZIP entry name contains a NUL byte"
    match String.fromUTF8? nameBytes.toByteArray with
    | none => invalidArchive "ZIP entry name is not valid UTF-8"
    | some name =>
      refuseIf (name.toList.any isControl = true) "ZIP entry name contains a control character"
      let next ← plus offset recordLen
      return ({ name, encrypted := flags % 2 ≠ 0, directory := name.toList.getLast? = some '/' },
        next)

/-! ### Well-formed records -/

/-- The numbers a record begins with. -/
@[ext] structure Header where
  signature : UInt32
  versionMadeBy : UInt16
  versionNeeded : UInt16
  flags : UInt16
  method : UInt16
  time : UInt16
  date : UInt16
  crc : UInt32
  compressedSize : UInt32
  uncompressedSize : UInt32
  nameLen : UInt16
  extraLen : UInt16
  commentLen : UInt16
  diskStart : UInt16
  internalAttributes : UInt16
  externalAttributes : UInt32
  localOffset : UInt32

namespace Header

def bytes (h : Header) : List UInt8 :=
  leBytes 4 h.signature.toNat ++ (leBytes 2 h.versionMadeBy.toNat ++
    (leBytes 2 h.versionNeeded.toNat ++ (leBytes 2 h.flags.toNat ++ (leBytes 2 h.method.toNat ++
    (leBytes 2 h.time.toNat ++ (leBytes 2 h.date.toNat ++ (leBytes 4 h.crc.toNat ++
    (leBytes 4 h.compressedSize.toNat ++ (leBytes 4 h.uncompressedSize.toNat ++
    (leBytes 2 h.nameLen.toNat ++ (leBytes 2 h.extraLen.toNat ++ (leBytes 2 h.commentLen.toNat ++
    (leBytes 2 h.diskStart.toNat ++ (leBytes 2 h.internalAttributes.toNat ++
    (leBytes 4 h.externalAttributes.toNat ++ leBytes 4 h.localOffset.toNat)))))))))))))))

@[simp] theorem length_bytes (h : Header) : h.bytes.length = 46 := by
  simp only [bytes, List.length_append, length_leBytes]

/-- The numbers that some bytes begin with. -/
def ofBytes (bytes : List UInt8) : Header where
  signature := .ofNat (field bytes 0 4)
  versionMadeBy := .ofNat (field bytes 4 2)
  versionNeeded := .ofNat (field bytes 6 2)
  flags := .ofNat (field bytes 8 2)
  method := .ofNat (field bytes 10 2)
  time := .ofNat (field bytes 12 2)
  date := .ofNat (field bytes 14 2)
  crc := .ofNat (field bytes 16 4)
  compressedSize := .ofNat (field bytes 20 4)
  uncompressedSize := .ofNat (field bytes 24 4)
  nameLen := .ofNat (field bytes 28 2)
  extraLen := .ofNat (field bytes 30 2)
  commentLen := .ofNat (field bytes 32 2)
  diskStart := .ofNat (field bytes 34 2)
  internalAttributes := .ofNat (field bytes 36 2)
  externalAttributes := .ofNat (field bytes 38 4)
  localOffset := .ofNat (field bytes 42 4)

theorem toNat_ofNat_u16 (bytes : List UInt8) (offset : ℕ) :
    (UInt16.ofNat (field bytes offset 2)).toNat = field bytes offset 2 := by
  rw [UInt16.toNat_ofNat', Nat.mod_eq_of_lt]
  exact field_lt bytes offset 2

theorem toNat_ofNat_u32 (bytes : List UInt8) (offset : ℕ) :
    (UInt32.ofNat (field bytes offset 4)).toNat = field bytes offset 4 := by
  rw [UInt32.toNat_ofNat', Nat.mod_eq_of_lt]
  exact field_lt bytes offset 4

/-- **Bytes begin with the numbers that are read from them.** -/
theorem bytes_ofBytes_append {bytes : List UInt8} (h : 46 ≤ bytes.length) :
    (ofBytes bytes).bytes ++ bytes.drop 46 = bytes := by
  have hfields : ∀ offset width, offset + width ≤ 46 → bytes.drop offset =
      leBytes width (field bytes offset width) ++ bytes.drop (offset + width) := by
    intro offset width hle
    exact drop_eq_leBytes_append (hle.trans h)
  have hbytes : bytes = bytes.drop 0 := rfl
  conv_rhs => rw [hbytes]
  rw [hfields 0 4 (by decide), hfields 4 2 (by decide), hfields 6 2 (by decide),
    hfields 8 2 (by decide), hfields 10 2 (by decide), hfields 12 2 (by decide),
    hfields 14 2 (by decide), hfields 16 4 (by decide), hfields 20 4 (by decide),
    hfields 24 4 (by decide), hfields 28 2 (by decide), hfields 30 2 (by decide),
    hfields 32 2 (by decide), hfields 34 2 (by decide), hfields 36 2 (by decide),
    hfields 38 4 (by decide), hfields 42 4 (by decide)]
  simp only [Header.bytes, ofBytes, toNat_ofNat_u16, toNat_ofNat_u32, List.append_assoc]

end Header

/-- A record the parser is meant to take. -/
structure CentralRecord where
  header : Header
  name : String
  extra : List UInt8
  comment : List UInt8
  signature_eq : header.signature.toNat = CENTRAL_ENTRY_SIGNATURE
  nameLen_eq : header.nameLen.toNat = utf8Size name.toList
  extraLen_eq : header.extraLen.toNat = extra.length
  commentLen_eq : header.commentLen.toNat = comment.length
  name_ne : utf8Size name.toList ≠ 0
  name_le : utf8Size name.toList ≤ MAX_ENTRY_NAME_BYTES
  name_plain : ∀ c ∈ name.toList, isControl c = false
  diskStart_eq : header.diskStart.toNat = 0
  compressedSize_ne : header.compressedSize.toNat ≠ u32Max
  uncompressedSize_ne : header.uncompressedSize.toNat ≠ u32Max
  localOffset_ne : header.localOffset.toNat ≠ u32Max

namespace CentralRecord

def bytes (r : CentralRecord) : List UInt8 :=
  r.header.bytes ++ (utf8Bytes r.name.toList ++ (r.extra ++ r.comment))

def entry (r : CentralRecord) : ArchiveEntry where
  name := r.name
  encrypted := r.header.flags.toNat % 2 ≠ 0
  directory := r.name.toList.getLast? = some '/'

theorem length_bytes (r : CentralRecord) : r.bytes.length =
    46 + r.header.nameLen.toNat + r.header.extraLen.toNat + r.header.commentLen.toNat := by
  simp only [bytes, List.length_append, Header.length_bytes, length_utf8Bytes, r.nameLen_eq,
    r.extraLen_eq, r.commentLen_eq]
  omega

theorem bytes_ne_nil (r : CentralRecord) : r.bytes ≠ [] := by
  intro h
  have hlength := r.length_bytes
  rw [h, List.length_nil] at hlength
  omega

end CentralRecord

/-! ### One record -/

@[simp] theorem refuseIf_bind_eq_ok {α : Type} {condition : Prop} [Decidable condition]
    {message : String} {next : Unit → Except Stop α} {a : α} :
    (refuseIf condition message >>= next) = .ok a ↔ ¬ condition ∧ next () = .ok a := by
  unfold refuseIf invalidArchive
  split_ifs with h
  · simp [h, bind, Except.bind]
  · simp [h, bind, Except.bind]

theorem refuseIf_bind_ne_panicked {α : Type} {condition : Prop} [Decidable condition]
    {message : String} {next : Unit → Except Stop α} (h : ¬ condition → next () ≠ .error .panicked) :
    (refuseIf condition message >>= next) ≠ .error .panicked := by
  unfold refuseIf invalidArchive
  split_ifs with hc
  · simp [bind, Except.bind]
  · exact h hc

theorem invalidArchive_ne_panicked {α : Type} (message : String) :
    (invalidArchive message : Except Stop α) ≠ .error .panicked := by
  simp [invalidArchive]

/-- What is left of a pass once the numbers of the record are read. -/
def takeEntry (h : Header) (tail : List UInt8) (offset count : ℕ) :
    Except Stop (ArchiveEntry × ℕ) := do
  let nameLen := h.nameLen.toNat
  refuseIf (MAX_ARCHIVE_ENTRIES ≤ count) "truncated ZIP central directory entry"
  refuseIf (h.signature.toNat ≠ CENTRAL_ENTRY_SIGNATURE)
    "unexpected record in ZIP central directory"
  refuseIf (nameLen = 0 ∨ MAX_ENTRY_NAME_BYTES < nameLen) "ZIP entry name exceeds safety limits"
  refuseIf (h.diskStart.toNat ≠ 0 ∨ h.compressedSize.toNat = u32Max ∨
    h.uncompressedSize.toNat = u32Max ∨ h.localOffset.toNat = u32Max)
    "ZIP64 entry metadata is not supported"
  refuseIf (tail.length < nameLen + h.extraLen.toNat + h.commentLen.toNat)
    "truncated ZIP central directory entry"
  refuseIf (0 ∈ tail.take nameLen) "ZIP entry name contains a NUL byte"
  match String.fromUTF8? (tail.take nameLen).toByteArray with
  | none => invalidArchive "ZIP entry name is not valid UTF-8"
  | some name =>
    refuseIf (name.toList.any isControl = true) "ZIP entry name contains a control character"
    return ({ name, encrypted := h.flags.toNat % 2 ≠ 0,
              directory := name.toList.getLast? = some '/' },
      offset + (46 + nameLen + h.extraLen.toNat + h.commentLen.toNat))

section Entry

variable {bytes : List UInt8} {offset count : ℕ}

theorem parseEntry_short (hmax : offset + 46 ≤ usizeMax) (hshort : bytes.length < offset + 46) :
    parseEntry bytes offset count = invalidArchive "truncated ZIP central directory entry" := by
  have hplus : plus offset 46 = .ok (offset + 46) := if_pos hmax
  have hrefused : refuseIf (bytes.length < offset + 46) "truncated ZIP central directory entry" =
      invalidArchive "truncated ZIP central directory entry" := if_pos hshort
  unfold parseEntry
  by_cases hcount : MAX_ARCHIVE_ENTRIES ≤ count
  · rw [refuseIf, if_pos hcount]
    rfl
  · rw [refuseIf, if_neg hcount, hplus]
    simp only [bind, Except.bind, hrefused]
    rfl

/-- What may be assumed behind a check. -/
theorem refuseIf_bind_congr {α : Type} {condition condition' : Prop} [Decidable condition]
    [Decidable condition'] {message : String} {next next' : Unit → Except Stop α}
    (hcondition : condition ↔ condition') (h : ¬ condition' → next () = next' ()) :
    (refuseIf condition message >>= next) = (refuseIf condition' message >>= next') := by
  unfold refuseIf
  by_cases hc : condition'
  · rw [if_pos hc, if_pos (hcondition.mpr hc)]
    rfl
  · rw [if_neg hc, if_neg (mt hcondition.mp hc)]
    exact h hc

theorem ok_bind {α β : Type} (a : α) (next : α → Except Stop β) :
    ((.ok a : Except Stop α) >>= next) = next a := rfl

theorem recordLen_eq (h : Header) : recordLen h.nameLen.toNat h.extraLen.toNat h.commentLen.toNat =
    some (46 + h.nameLen.toNat + h.extraLen.toNat + h.commentLen.toNat) := by
  have hname := h.nameLen.toNat_lt
  have hextra := h.extraLen.toNat_lt
  have hcomment := h.commentLen.toNat_lt
  have hwide : 46 + 2 ^ 16 + 2 ^ 16 + 2 ^ 16 ≤ usizeMax := by decide
  rw [recordLen, checkedAdd, if_pos (by omega), Option.bind_some, checkedAdd, if_pos (by omega),
    Option.bind_some, checkedAdd, if_pos (by omega)]

theorem readU16_ok {bytes : List UInt8} {offset value : ℕ} (hlong : offset + 2 ≤ bytes.length)
    (hfield : field bytes offset 2 = value) : readU16 bytes offset = .ok value := by
  rw [readU16, readUnsigned, if_pos hlong, hfield]

theorem readU32_ok {bytes : List UInt8} {offset value : ℕ} (hlong : offset + 4 ≤ bytes.length)
    (hfield : field bytes offset 4 = value) : readU32 bytes offset = .ok value := by
  rw [readU32, readUnsigned, if_pos hlong, hfield]

/-- The numbers the parser reads are those of the header. -/
theorem field_header (h : Header) (tail : List UInt8) :
    field (h.bytes ++ tail) 0 4 = h.signature.toNat ∧
      field (h.bytes ++ tail) 8 2 = h.flags.toNat ∧
      field (h.bytes ++ tail) 20 4 = h.compressedSize.toNat ∧
      field (h.bytes ++ tail) 24 4 = h.uncompressedSize.toNat ∧
      field (h.bytes ++ tail) 28 2 = h.nameLen.toNat ∧
      field (h.bytes ++ tail) 30 2 = h.extraLen.toNat ∧
      field (h.bytes ++ tail) 32 2 = h.commentLen.toNat ∧
      field (h.bytes ++ tail) 34 2 = h.diskStart.toNat ∧
      field (h.bytes ++ tail) 42 4 = h.localOffset.toNat := by
  have hu16 : ∀ (n : UInt16) rest, field (leBytes 2 n.toNat ++ rest) 0 2 = n.toNat := by
    intro n rest
    exact field_leBytes_append_zero n.toNat_lt rest
  have hu32 : ∀ (n : UInt32) rest, field (leBytes 4 n.toNat ++ rest) 0 4 = n.toNat := by
    intro n rest
    exact field_leBytes_append_zero n.toNat_lt rest
  simp (disch := decide) only [Header.bytes, List.append_assoc, field_leBytes_append, hu16, hu32,
    Nat.reduceSub, and_self]

theorem parseEntry_header {h : Header} {tail : List UInt8}
    (hdrop : bytes.drop offset = h.bytes ++ tail) (hlong : offset + 46 ≤ bytes.length)
    (hmax : bytes.length ≤ isizeMax) :
    parseEntry bytes offset count = takeEntry h tail offset count := by
  obtain ⟨hsignature, hflags, hcompressed, huncompressed, hname, hextra, hcomment, hdisk, hlocal⟩ :=
    field_header h tail
  have hentry : (h.bytes ++ tail).length = 46 + tail.length := by
    rw [List.length_append, Header.length_bytes]
  have htail : tail.length = bytes.length - offset - 46 := by
    have hlength := congrArg List.length hdrop
    rw [List.length_drop, hentry] at hlength
    omega
  have hwide : isizeMax + (46 + 2 ^ 16 + 2 ^ 16 + 2 ^ 16) ≤ usizeMax := by decide
  have hname' := h.nameLen.toNat_lt
  have hextra' := h.extraLen.toNat_lt
  have hcomment' := h.commentLen.toNat_lt
  have hplus : plus offset 46 = .ok (offset + 46) := if_pos (by omega)
  have hlong' : refuseIf (bytes.length < offset + 46)
      "truncated ZIP central directory entry" = .ok () := if_neg (by omega)
  have hslice : sliceFrom bytes offset = .ok (h.bytes ++ tail) := by
    rw [sliceFrom, if_pos (by omega), hdrop]
  unfold parseEntry takeEntry
  refine refuseIf_bind_congr Iff.rfl fun _ => ?_
  have hread : ∀ place, place ≤ 46 → place ≤ (h.bytes ++ tail).length := by
    intro place hplace
    rw [hentry]
    exact hplace.trans (Nat.le_add_right 46 _)
  rw [hplus, ok_bind, hlong', ok_bind, hslice, ok_bind,
    readU32_ok (hread (0 + 4) (by decide)) hsignature, ok_bind]
  refine refuseIf_bind_congr Iff.rfl fun _ => ?_
  rw [readU16_ok (hread (8 + 2) (by decide)) hflags, ok_bind,
    readU32_ok (hread (20 + 4) (by decide)) hcompressed, ok_bind,
    readU32_ok (hread (24 + 4) (by decide)) huncompressed, ok_bind,
    readU16_ok (hread (28 + 2) (by decide)) hname, ok_bind,
    readU16_ok (hread (30 + 2) (by decide)) hextra, ok_bind,
    readU16_ok (hread (32 + 2) (by decide)) hcomment, ok_bind,
    readU16_ok (hread (34 + 2) (by decide)) hdisk, ok_bind,
    readU32_ok (hread (42 + 4) (by decide)) hlocal, ok_bind]
  refine refuseIf_bind_congr Iff.rfl fun _ => refuseIf_bind_congr Iff.rfl fun _ => ?_
  rw [recordLen_eq]
  have hadd : checkedAdd offset
      (46 + h.nameLen.toNat + h.extraLen.toNat + h.commentLen.toNat) =
      some (offset + (46 + h.nameLen.toNat + h.extraLen.toNat + h.commentLen.toNat)) :=
    if_pos (by omega)
  simp only [hadd, Option.all_some, decide_eq_true_eq]
  refine refuseIf_bind_congr (by omega) ?_
  intro hfits
  have hplus' : plus 46 h.nameLen.toNat = .ok (46 + h.nameLen.toNat) := if_pos (by omega)
  have hslice' : slice (h.bytes ++ tail) 46 (46 + h.nameLen.toNat) =
      .ok (tail.take h.nameLen.toNat) := by
    rw [slice, if_pos (by omega), List.drop_left' h.length_bytes, Nat.add_sub_cancel_left]
  have hnext : plus offset (46 + h.nameLen.toNat + h.extraLen.toNat + h.commentLen.toNat) =
      .ok (offset + (46 + h.nameLen.toNat + h.extraLen.toNat + h.commentLen.toNat)) :=
    if_pos (by omega)
  rw [hplus', ok_bind, hslice', ok_bind, hnext]
  rfl

/-- No NUL byte is in a text without control characters. -/
theorem zero_notMem_utf8Bytes {name : List Char} (h : ∀ c ∈ name, isControl c = false) :
    0 ∉ utf8Bytes name := by
  refine ascii_not_mem_utf8Bytes (by decide : 0 < 128) ?_
  intro c hc hzero
  have hplain := h c hc
  rw [isControl, hzero] at hplain
  contradiction

/-- Every record is taken. -/
theorem takeEntry_record (record : CentralRecord) (rest : List UInt8)
    (hcount : count < MAX_ARCHIVE_ENTRIES) :
    takeEntry record.header (utf8Bytes record.name.toList ++ (record.extra ++ record.comment) ++ rest)
      offset count = .ok (record.entry, offset + record.bytes.length) := by
  have hname : (utf8Bytes record.name.toList ++ (record.extra ++ record.comment) ++ rest).take
      record.header.nameLen.toNat = utf8Bytes record.name.toList := by
    rw [List.append_assoc, List.take_left' (by rw [length_utf8Bytes, record.nameLen_eq])]
  have htext := fromUTF8?_toByteArray_eq_some.mpr (Eq.refl (utf8Bytes record.name.toList))
  have hle := record.name_le
  have hne := record.name_ne
  have hlong : ¬ (utf8Bytes record.name.toList ++ (record.extra ++ record.comment) ++ rest).length <
      record.header.nameLen.toNat + record.header.extraLen.toNat +
        record.header.commentLen.toNat := by
    simp only [List.length_append, length_utf8Bytes, record.nameLen_eq, record.extraLen_eq,
      record.commentLen_eq]
    omega
  unfold takeEntry
  simp only [hname, htext, refuseIf_bind_eq_ok]
  refine ⟨by omega, not_not.mpr record.signature_eq, ?_, ?_, hlong,
    zero_notMem_utf8Bytes record.name_plain, ?_, ?_⟩
  · rw [record.nameLen_eq]
    omega
  · simp [record.diskStart_eq, record.compressedSize_ne, record.uncompressedSize_ne,
      record.localOffset_ne]
  · simpa using record.name_plain
  · rw [record.length_bytes]
    rfl

/-- Only records are taken. -/
theorem exists_record_of_takeEntry {h : Header} {tail : List UInt8} {entry : ArchiveEntry}
    {next : ℕ} (htaken : takeEntry h tail offset count = .ok (entry, next)) :
    count < MAX_ARCHIVE_ENTRIES ∧ ∃ (record : CentralRecord) (rest : List UInt8),
      h.bytes ++ tail = record.bytes ++ rest ∧ entry = record.entry ∧
        next = offset + record.bytes.length := by
  unfold takeEntry at htaken
  simp only [refuseIf_bind_eq_ok] at htaken
  obtain ⟨hcount, hsignature, hname, hzip64, hlong, -, htaken⟩ := htaken
  cases htext : String.fromUTF8? (tail.take h.nameLen.toNat).toByteArray with
  | none => simp [htext, invalidArchive] at htaken
  | some name =>
    simp only [htext, refuseIf_bind_eq_ok] at htaken
    obtain ⟨hplain, hresult⟩ := htaken
    have hbytes := fromUTF8?_toByteArray_eq_some.mp htext
    have hnameLen : h.nameLen.toNat = utf8Size name.toList := by
      have hlength := congrArg List.length hbytes
      rw [length_utf8Bytes, List.length_take] at hlength
      omega
    simp only [not_or] at hname hzip64
    let record : CentralRecord := {
      header := h
      name := name
      extra := (tail.drop h.nameLen.toNat).take h.extraLen.toNat
      comment := ((tail.drop h.nameLen.toNat).drop h.extraLen.toNat).take h.commentLen.toNat
      signature_eq := not_not.mp hsignature
      nameLen_eq := hnameLen
      extraLen_eq := by
        rw [List.length_take, List.length_drop]
        omega
      commentLen_eq := by
        rw [List.length_take, List.length_drop, List.length_drop]
        omega
      name_ne := hnameLen ▸ hname.1
      name_le := by
        rw [← hnameLen]
        exact not_lt.mp hname.2
      name_plain := by simpa using hplain
      diskStart_eq := not_not.mp hzip64.1
      compressedSize_ne := hzip64.2.1
      uncompressedSize_ne := hzip64.2.2.1
      localOffset_ne := hzip64.2.2.2 }
    refine ⟨not_le.mp hcount, record,
      ((tail.drop h.nameLen.toNat).drop h.extraLen.toNat).drop h.commentLen.toNat, ?_, ?_, ?_⟩
    · simp only [record, CentralRecord.bytes, List.append_assoc, ← hbytes, List.take_append_drop]
    · injection hresult with hpair
      exact (congrArg Prod.fst hpair).symm
    · injection hresult with hpair
      rw [record.length_bytes]
      exact (congrArg Prod.snd hpair).symm

theorem takeEntry_ne_panicked {h : Header} {tail : List UInt8} :
    takeEntry h tail offset count ≠ .error .panicked := by
  unfold takeEntry
  refine refuseIf_bind_ne_panicked fun _ => refuseIf_bind_ne_panicked fun _ =>
    refuseIf_bind_ne_panicked fun _ => refuseIf_bind_ne_panicked fun _ =>
    refuseIf_bind_ne_panicked fun _ => refuseIf_bind_ne_panicked fun _ => ?_
  cases String.fromUTF8? (tail.take h.nameLen.toNat).toByteArray with
  | none => exact invalidArchive_ne_panicked _
  | some name => exact refuseIf_bind_ne_panicked fun _ => by simp [pure, Except.pure]

/-- **The parser takes exactly the well-formed records.** -/
theorem parseEntry_eq_ok (hmax : bytes.length ≤ isizeMax) (hoffset : offset ≤ bytes.length)
    {entry : ArchiveEntry} {next : ℕ} : parseEntry bytes offset count = .ok (entry, next) ↔
      count < MAX_ARCHIVE_ENTRIES ∧ ∃ (record : CentralRecord) (rest : List UInt8),
        bytes.drop offset = record.bytes ++ rest ∧ entry = record.entry ∧
          next = offset + record.bytes.length := by
  have hwide : isizeMax + 46 ≤ usizeMax := by decide
  by_cases hshort : bytes.length < offset + 46
  · rw [parseEntry_short (by omega) hshort]
    constructor
    · intro h
      simp [invalidArchive] at h
    · intro h
      obtain ⟨-, record, rest, hdrop, -, -⟩ := h
      have hlength := congrArg List.length hdrop
      rw [List.length_drop, List.length_append, record.length_bytes] at hlength
      omega
  · have hlong : 46 ≤ (bytes.drop offset).length := by
      rw [List.length_drop]
      omega
    have hheader := (Header.bytes_ofBytes_append hlong).symm
    constructor
    · intro h
      rw [parseEntry_header hheader (by omega) hmax] at h
      rw [hheader]
      exact exists_record_of_takeEntry h
    · intro h
      obtain ⟨hcount, record, rest, hdrop, rfl, rfl⟩ := h
      rw [CentralRecord.bytes, List.append_assoc] at hdrop
      rw [parseEntry_header hdrop (by omega) hmax]
      exact takeEntry_record record rest hcount

theorem parseEntry_ne_panicked (hmax : bytes.length ≤ isizeMax) (hoffset : offset ≤ bytes.length) :
    parseEntry bytes offset count ≠ .error .panicked := by
  have hwide : isizeMax + 46 ≤ usizeMax := by decide
  by_cases hshort : bytes.length < offset + 46
  · rw [parseEntry_short (by omega) hshort]
    exact invalidArchive_ne_panicked _
  · have hlong : 46 ≤ (bytes.drop offset).length := by
      rw [List.length_drop]
      omega
    rw [parseEntry_header (Header.bytes_ofBytes_append hlong).symm (by omega) hmax]
    exact takeEntry_ne_panicked

end Entry

/-! ### The whole directory -/

theorem bind_eq_ok {α β : Type} {x : Except Stop α} {next : α → Except Stop β} {b : β}
    (h : (x >>= next) = .ok b) : ∃ a, x = .ok a ∧ next a = .ok b := by
  cases x with
  | error stop => cases h
  | ok a => exact ⟨a, rfl, h⟩

theorem lt_of_recordLen {nameLen extraLen commentLen len : ℕ}
    (h : recordLen nameLen extraLen commentLen = some len) : 0 < len := by
  simp only [recordLen, checkedAdd, Option.bind_eq_some_iff, Option.ite_none_right_eq_some,
    Option.some.injEq] at h
  obtain ⟨_, ⟨_, ⟨-, rfl⟩, -, rfl⟩, -, rfl⟩ := h
  omega

/-- Every pass gets further. -/
theorem lt_of_parseEntry {bytes : List UInt8} {offset count : ℕ} {entry : ArchiveEntry} {next : ℕ}
    (h : parseEntry bytes offset count = .ok (entry, next)) : offset < next := by
  unfold parseEntry at h
  simp only [refuseIf_bind_eq_ok] at h
  obtain ⟨-, h⟩ := h
  obtain ⟨fixed, -, h⟩ := bind_eq_ok h
  simp only [refuseIf_bind_eq_ok] at h
  obtain ⟨-, h⟩ := h
  obtain ⟨entry', -, h⟩ := bind_eq_ok h
  obtain ⟨signature, -, h⟩ := bind_eq_ok h
  simp only [refuseIf_bind_eq_ok] at h
  obtain ⟨-, h⟩ := h
  obtain ⟨flags, -, h⟩ := bind_eq_ok h
  obtain ⟨compressedSize, -, h⟩ := bind_eq_ok h
  obtain ⟨uncompressedSize, -, h⟩ := bind_eq_ok h
  obtain ⟨nameLen, -, h⟩ := bind_eq_ok h
  obtain ⟨extraLen, -, h⟩ := bind_eq_ok h
  obtain ⟨commentLen, -, h⟩ := bind_eq_ok h
  obtain ⟨diskStart, -, h⟩ := bind_eq_ok h
  obtain ⟨localOffset, -, h⟩ := bind_eq_ok h
  simp only [refuseIf_bind_eq_ok] at h
  obtain ⟨-, -, h⟩ := h
  cases hlen : recordLen nameLen extraLen commentLen with
  | none => simp [hlen, invalidArchive] at h
  | some len =>
    simp only [hlen, refuseIf_bind_eq_ok] at h
    obtain ⟨-, h⟩ := h
    obtain ⟨nameEnd, -, h⟩ := bind_eq_ok h
    obtain ⟨nameBytes, -, h⟩ := bind_eq_ok h
    simp only [refuseIf_bind_eq_ok] at h
    obtain ⟨-, h⟩ := h
    cases htext : String.fromUTF8? nameBytes.toByteArray with
    | none => simp [htext, invalidArchive] at h
    | some name =>
      simp only [htext, refuseIf_bind_eq_ok] at h
      obtain ⟨-, h⟩ := h
      obtain ⟨sum, hsum, h⟩ := bind_eq_ok h
      have hnext : sum = next := by
        injection h with hpair
        exact congrArg Prod.snd hpair
      have hsum' : sum = offset + len := by
        unfold plus at hsum
        split_ifs at hsum
        exact (Except.ok.inj hsum).symm
      have hpos := lt_of_recordLen hlen
      omega

/-- The loop, from an offset and the entries so far. -/
def parseFrom (bytes : List UInt8) (expectedEntries offset : ℕ) (entries : List ArchiveEntry) :
    Except Stop (List ArchiveEntry) :=
  if offset < bytes.length then
    match _h : parseEntry bytes offset entries.length with
    | .error stop => .error stop
    | .ok (entry, next) => parseFrom bytes expectedEntries next (entries ++ [entry])
  else if entries.length ≠ expectedEntries then
    invalidArchive s!"ZIP declared {expectedEntries} entries but contained {entries.length}"
  else .ok entries
termination_by bytes.length - offset
decreasing_by
  have hlt := lt_of_parseEntry _h
  omega

def parseCentralEntries (bytes : List UInt8) (expectedEntries : ℕ) :
    Except Stop (List ArchiveEntry) := do
  withCapacity ARCHIVE_ENTRY_BYTES expectedEntries
  parseFrom bytes expectedEntries 0 []

section Directory

variable {bytes : List UInt8} {expected : ℕ}

/-- What the loop does in one pass. -/
theorem parseFrom_of_lt {offset : ℕ} {entries : List ArchiveEntry} (h : offset < bytes.length) :
    parseFrom bytes expected offset entries =
      (parseEntry bytes offset entries.length).bind fun taken =>
        parseFrom bytes expected taken.2 (entries ++ [taken.1]) := by
  rw [parseFrom, if_pos h]
  split
  · next stop hstop => rw [hstop]; rfl
  · next entry next htaken => rw [htaken]; rfl

/-- What it makes of the end of the directory. -/
theorem parseFrom_of_le {offset : ℕ} {entries : List ArchiveEntry} (h : bytes.length ≤ offset) :
    parseFrom bytes expected offset entries =
      if entries.length ≠ expected then
        invalidArchive s!"ZIP declared {expected} entries but contained {entries.length}"
      else .ok entries := by
  rw [parseFrom, if_neg (not_lt.mpr h)]

/-- **What the loop makes of the rest of the directory.** -/
theorem parseFrom_eq_ok (hmax : bytes.length ≤ isizeMax) {offset : ℕ} (hoffset : offset ≤ bytes.length)
    {entries result : List ArchiveEntry} (hentries : entries.length ≤ MAX_ARCHIVE_ENTRIES) :
    parseFrom bytes expected offset entries = .ok result ↔
      ∃ records : List CentralRecord, bytes.drop offset = records.flatMap CentralRecord.bytes ∧
        result = entries ++ records.map CentralRecord.entry ∧ result.length = expected ∧
        result.length ≤ MAX_ARCHIVE_ENTRIES := by
  induction hleft : bytes.length - offset using Nat.strong_induction_on
    generalizing offset entries with
  | _ left ih =>
  by_cases hmore : offset < bytes.length
  · rw [parseFrom_of_lt hmore]
    constructor
    · intro h
      obtain ⟨taken, htaken, h⟩ := bind_eq_ok h
      obtain ⟨hcount, record, rest, hdrop, hentry, hnext⟩ := (parseEntry_eq_ok hmax hoffset).mp htaken
      have hlength := congrArg List.length hdrop
      have hrecord := record.length_bytes
      rw [List.length_drop, List.length_append] at hlength
      have hcount' : (entries ++ [taken.1]).length ≤ MAX_ARCHIVE_ENTRIES := by
        rw [List.length_append]
        exact hcount
      obtain ⟨records, hrecords, hresult, hbounds⟩ :=
        (ih (bytes.length - taken.2) (by omega) (by omega) hcount' rfl).mp h
      refine ⟨record :: records, ?_, ?_, hbounds⟩
      · rw [List.flatMap_cons, ← hrecords, hnext, ← List.drop_drop, hdrop, List.drop_left]
      · rw [hresult, hentry, List.map_cons, List.append_assoc]
        rfl
    · intro h
      obtain ⟨records, hrecords, hresult, hbounds⟩ := h
      cases records with
      | nil =>
        have hlength := congrArg List.length hrecords
        rw [List.flatMap_nil, List.length_drop, List.length_nil] at hlength
        omega
      | cons record records =>
        have hcount : entries.length < MAX_ARCHIVE_ENTRIES := by
          have hlength := congrArg List.length hresult
          rw [List.length_append, List.map_cons, List.length_cons] at hlength
          omega
        have htaken := (parseEntry_eq_ok hmax hoffset).mpr
          ⟨hcount, record, records.flatMap CentralRecord.bytes, hrecords, rfl, rfl⟩
        have hlength := congrArg List.length hrecords
        have hrecord := record.length_bytes
        rw [List.length_drop, List.flatMap_cons, List.length_append] at hlength
        have hcount' : (entries ++ [record.entry]).length ≤ MAX_ARCHIVE_ENTRIES := by
          rw [List.length_append]
          exact hcount
        rw [htaken]
        refine (ih (bytes.length - (offset + record.bytes.length)) (by omega) (by omega) hcount'
          rfl).mpr ⟨records, ?_, ?_, hbounds⟩
        · rw [← List.drop_drop, hrecords, List.flatMap_cons, List.drop_left]
        · rw [hresult, List.map_cons, List.append_assoc]
          rfl
  · have hend : bytes.drop offset = [] := List.drop_eq_nil_of_le (by omega)
    rw [parseFrom_of_le (by omega), hend]
    constructor
    · intro h
      refine ⟨[], rfl, ?_⟩
      split_ifs at h with hcount
      · simp [invalidArchive] at h
      injection h with h
      rw [← h]
      exact ⟨(List.append_nil entries).symm, not_not.mp hcount, hentries⟩
    · intro h
      obtain ⟨records, hrecords, hresult, hcount, -⟩ := h
      cases records with
      | nil =>
        rw [List.map_nil, List.append_nil] at hresult
        rw [if_neg (not_not.mpr (hresult ▸ hcount)), hresult]
      | cons record records =>
        rw [List.flatMap_cons] at hrecords
        exact absurd (List.append_eq_nil_iff.mp hrecords.symm).1 record.bytes_ne_nil

theorem parseFrom_ne_panicked (hmax : bytes.length ≤ isizeMax) {offset : ℕ}
    (hoffset : offset ≤ bytes.length) {entries : List ArchiveEntry} :
    parseFrom bytes expected offset entries ≠ .error .panicked := by
  induction hleft : bytes.length - offset using Nat.strong_induction_on
    generalizing offset entries with
  | _ left ih =>
  by_cases hmore : offset < bytes.length
  · rw [parseFrom_of_lt hmore]
    cases htaken : parseEntry bytes offset entries.length with
    | error stop =>
      intro h
      cases h
      exact parseEntry_ne_panicked hmax hoffset htaken
    | ok taken =>
      obtain ⟨-, record, rest, hdrop, -, hnext⟩ := (parseEntry_eq_ok hmax hoffset).mp htaken
      have hlength := congrArg List.length hdrop
      have hrecord := record.length_bytes
      rw [List.length_drop, List.length_append] at hlength
      exact ih (bytes.length - taken.2) (by omega) (by omega) rfl
  · rw [parseFrom_of_le (by omega)]
    split_ifs with hcount
    · exact invalidArchive_ne_panicked _
    · simp

/-- **The parser is exact**, for every count whose vector can be allocated. -/
theorem parseCentralEntries_exact (hmax : bytes.length ≤ isizeMax)
    (hcapacity : expected * ARCHIVE_ENTRY_BYTES ≤ isizeMax) :
    parseCentralEntries bytes expected ≠ .error .panicked ∧
      (∀ entries, parseCentralEntries bytes expected = .ok entries ↔
        ∃ records : List CentralRecord, records.length = expected ∧
          expected ≤ MAX_ARCHIVE_ENTRIES ∧ bytes = records.flatMap CentralRecord.bytes ∧
          entries = records.map CentralRecord.entry) ∧
      ∀ records : List CentralRecord, records.length = expected → expected ≤ MAX_ARCHIVE_ENTRIES →
        bytes = records.flatMap CentralRecord.bytes →
        parseCentralEntries bytes expected = .ok (records.map CentralRecord.entry) := by
  have hparse : parseCentralEntries bytes expected = parseFrom bytes expected 0 [] := by
    rw [parseCentralEntries, withCapacity, if_pos hcapacity]
    rfl
  have hexact : ∀ entries, parseCentralEntries bytes expected = .ok entries ↔
      ∃ records : List CentralRecord, records.length = expected ∧
        expected ≤ MAX_ARCHIVE_ENTRIES ∧ bytes = records.flatMap CentralRecord.bytes ∧
        entries = records.map CentralRecord.entry := by
    intro entries
    rw [hparse, parseFrom_eq_ok hmax (Nat.zero_le _) (Nat.zero_le _)]
    constructor
    · intro h
      obtain ⟨records, hrecords, hresult, hcount, hbound⟩ := h
      rw [List.nil_append] at hresult
      rw [hresult, List.length_map] at hcount hbound
      exact ⟨records, hcount, hcount ▸ hbound, hrecords, hresult⟩
    · intro h
      obtain ⟨records, hcount, hbound, hrecords, rfl⟩ := h
      refine ⟨records, hrecords, rfl, ?_, ?_⟩
      · rw [List.length_map, hcount]
      · rw [List.length_map, hcount]
        exact hbound
  refine ⟨?_, hexact, ?_⟩
  · rw [hparse]
    exact parseFrom_ne_panicked hmax (Nat.zero_le _)
  · intro records hcount hbound hrecords
    exact (hexact _).mpr ⟨records, hcount, hbound, hrecords, rfl⟩

end Directory

/-- The record of an encrypted directory `a/`. -/
def sampleRecord : CentralRecord where
  header := ⟨0x02014b50, 20, 20, 1, 0, 0, 0, 0, 0, 0, 2, 1, 0, 0, 0, 0, 7⟩
  name := "a/"
  extra := [0]
  comment := []
  signature_eq := by decide
  nameLen_eq := by decide
  extraLen_eq := by decide
  commentLen_eq := by decide
  name_ne := by decide
  name_le := by decide
  name_plain := by
    intro c hc
    have hchar : c = 'a' ∨ c = '/' := by simpa using hc
    rcases hchar with rfl | rfl
    · decide
    · decide
  diskStart_eq := by decide
  compressedSize_ne := by decide +kernel
  uncompressedSize_ne := by decide +kernel
  localOffset_ne := by decide +kernel

theorem parseCentralEntries_exact_two :
    parseCentralEntries ([sampleRecord, sampleRecord].flatMap CentralRecord.bytes) 2 =
      .ok [⟨"a/", true, true⟩, ⟨"a/", true, true⟩] := by
  have h := @parseCentralEntries_exact ([sampleRecord, sampleRecord].flatMap CentralRecord.bytes) 2
    (by decide +kernel) (by decide)
  have hentries : [sampleRecord, sampleRecord].map CentralRecord.entry =
      [⟨"a/", true, true⟩, ⟨"a/", true, true⟩] := by decide +kernel
  rw [← hentries]
  exact h.2.2 [sampleRecord, sampleRecord] rfl (by decide) rfl

/-- A vector of that many entries cannot be allocated. -/
theorem huge_count_panics : parseCentralEntries [] usizeMax = .error .panicked := by
  rw [parseCentralEntries, withCapacity, if_neg (by decide)]
  rfl

end PackageArchive

end Wroid
