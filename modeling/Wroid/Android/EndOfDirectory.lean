import Wroid.Android.CentralDirectory

/-!
# The end of a package

The place of the central directory is told by the end record of a ZIP file, which is followed by
nothing but a comment.  `wroid-android` looks for the end record backwards from the end of the
file, and takes the first place with the signature and a comment length that reaches the end.

## Main definitions

* `findEocd`, `readCentralDirectory` — the search and the reader of the source.
* `Archive`, `Archive.file` — an archive, and its bytes with a comment.
* `Forged ending place` — the end record and its comment read as an end record at a later place.

## Main results

* `findEocd_append_eq_some` — where the search ends.
* `comment_redirects_iff` — **the comment cannot redirect the inspection exactly if nothing is
  forged**.
-/

namespace Wroid.PackageArchive

open Lib

def EOCD_SIGNATURE : ℕ := 0x06054b50
def EOCD_BYTES : ℕ := 22
def MAX_ZIP_COMMENT : ℕ := u16Max
def MAX_CENTRAL_DIRECTORY_BYTES : ℕ := 64 * 1024 * 1024

/-! ### The search -/

def littleU32 (bytes : List UInt8) : Option ℕ :=
  if 4 ≤ bytes.length then some (field bytes 0 4) else none

/-- `bytes.get(i..i + 2)` as a number -/
def littleU16At (bytes : List UInt8) (i : ℕ) : Option ℕ :=
  if i + 2 ≤ bytes.length then some (field bytes i 2) else none

def isEocd (bytes : List UInt8) (index : ℕ) : Bool :=
  littleU32 (bytes.drop index) = some EOCD_SIGNATURE &&
    (littleU16At bytes (index + 20)).any fun commentLen =>
      index + EOCD_BYTES + commentLen = bytes.length

def findEocd (bytes : List UInt8) : Option ℕ :=
  if bytes.length < EOCD_BYTES then none
  else (List.range (bytes.length - EOCD_BYTES + 1)).reverse.find? (isEocd bytes)

/-! ### The reader -/

/-- The last bytes of the file. -/
def readTail (bytes : List UInt8) (tailLen : ℕ) : Except Stop (List UInt8) :=
  if bytes.length < tailLen then
    .error (.failed (.io ⟨.invalidInput, "Invalid argument (os error 22)"⟩))
  else .ok (bytes.drop (bytes.length - tailLen))

/-- `read_exact` behind a `seek` -/
def readAt (bytes : List UInt8) (offset size : ℕ) : Except Stop (List UInt8) :=
  if bytes.length < offset + size then
    .error (.failed (.io ⟨.unexpectedEof, "failed to fill whole buffer"⟩))
  else .ok ((bytes.drop offset).take size)

/-- `debug_assert_eq!` -/
def assertEq (n k : ℕ) : Except Stop Unit := if n = k then .ok () else .error .panicked

/-- What the end record says about the directory. -/
def readDirectory (eocd : List UInt8) (index tailLen fileSize : ℕ) (bytes : List UInt8) :
    Except Stop (List ArchiveEntry) := do
  let disk ← readU16 eocd 4
  let centralDisk ← readU16 eocd 6
  let diskEntries ← readU16 eocd 8
  let totalEntries ← readU16 eocd 10
  let centralSize ← readU32 eocd 12
  let centralOffset ← readU32 eocd 16
  let commentLen ← readU16 eocd 20
  refuseIf (disk ≠ 0 ∨ centralDisk ≠ 0 ∨ diskEntries ≠ totalEntries)
    "multi-disk ZIP archives are not supported"
  refuseIf (totalEntries = u16Max ∨ centralSize = u32Max ∨ centralOffset = u32Max)
    "ZIP64 package metadata is not supported"
  assertEq (index + EOCD_BYTES + commentLen) tailLen
  refuseIf (MAX_ARCHIVE_ENTRIES < totalEntries ∨ MAX_CENTRAL_DIRECTORY_BYTES < centralSize ∨
    (checkedAdd centralOffset centralSize).all (fileSize < ·) = true)
    "ZIP central directory exceeds safety limits"
  let directory ← readAt bytes centralOffset centralSize
  parseCentralEntries directory totalEntries

/-- The file is what opening it gives, the size what was read of its metadata before. -/
def readCentralDirectory (file : Except IoError (List UInt8)) (fileSize : ℕ) :
    Except Stop (List ArchiveEntry) := do
  refuseIf (fileSize < EOCD_BYTES) "file is too small to be a ZIP archive"
  let tailLen := min fileSize (EOCD_BYTES + MAX_ZIP_COMMENT)
  let bytes ← file.mapError fun error => .failed (.io error)
  let tail ← readTail bytes tailLen
  match findEocd tail with
  | none => invalidArchive "end-of-central-directory record is missing"
  | some index =>
    refuseIf (tail.length < index + EOCD_BYTES) "truncated end-of-central-directory record"
    let eocd ← sliceFrom tail index
    readDirectory eocd index tail.length fileSize bytes

/-! ### Archives -/

/-- An archive without ZIP64 data: what is in front of the directory, the directory, and the number
of its entries.  The directory is any bytes, whether or not they are inspected without an error. -/
structure Archive where
  contents : List UInt8
  directory : List UInt8
  entries : ℕ
  contents_lt : contents.length < u32Max
  directory_lt : directory.length < u32Max
  entries_lt : entries < u16Max

namespace Archive

/-- The end record, for a comment of some length. -/
def endRecord (a : Archive) (commentLen : ℕ) : List UInt8 :=
  leBytes 4 EOCD_SIGNATURE ++ (leBytes 2 0 ++ (leBytes 2 0 ++ (leBytes 2 a.entries ++
    (leBytes 2 a.entries ++ (leBytes 4 a.directory.length ++ (leBytes 4 a.contents.length ++
    leBytes 2 commentLen))))))

/-- The end record and what follows it. -/
def ending (a : Archive) (comment : List UInt8) : List UInt8 :=
  a.endRecord comment.length ++ comment

def file (a : Archive) (comment : List UInt8) : List UInt8 :=
  a.contents ++ (a.directory ++ a.ending comment)

/-- What the inspection reads of the end of the file. -/
def tail (a : Archive) (comment : List UInt8) : List UInt8 :=
  (a.file comment).drop
    ((a.file comment).length - min (a.file comment).length (EOCD_BYTES + MAX_ZIP_COMMENT))

/-- Where the end record of the archive is in the tail. -/
def ownIndex (a : Archive) (comment : List UInt8) : ℕ :=
  (a.tail comment).length - (EOCD_BYTES + comment.length)

/-- What the inspection reports of an archive that is not redirected. -/
def inspect (a : Archive) : Except Stop (List ArchiveEntry) := do
  refuseIf (MAX_CENTRAL_DIRECTORY_BYTES < a.directory.length)
    "ZIP central directory exceeds safety limits"
  parseCentralEntries a.directory a.entries

end Archive

/-- The bytes have the signature of an end record at a place, and what stands there for the length
of a comment reaches the end. -/
def Forged (ending : List UInt8) (place : ℕ) : Prop :=
  field ending place 4 = EOCD_SIGNATURE ∧
    place + EOCD_BYTES + field ending (place + 20) 2 = ending.length

instance (ending : List UInt8) (place : ℕ) : Decidable (Forged ending place) :=
  inferInstanceAs (Decidable (_ ∧ _))

/-! ### Where the search ends -/

/-- A search from above ends at the greatest place. -/
theorem find?_reverse_range_eq_some {p : ℕ → Bool} {n i : ℕ} :
    (List.range n).reverse.find? p = some i ↔
      p i = true ∧ i < n ∧ ∀ j, i < j → j < n → p j = false := by
  induction n with
  | zero => simp
  | succ n ih =>
    rw [List.range_succ, List.reverse_append, List.reverse_singleton, List.singleton_append,
      List.find?_cons]
    cases hn : p n with
    | true =>
      constructor
      · intro h
        obtain rfl := Option.some.inj h
        exact ⟨hn, by omega, fun j hlt hle => absurd hle (by omega)⟩
      · intro h
        obtain ⟨hi, hle, hlast⟩ := h
        by_cases heq : i = n
        · rw [heq]
        · have hfalse := hlast n (by omega) (by omega)
          rw [hn] at hfalse
          contradiction
    | false =>
      rw [ih]
      constructor
      · intro h
        obtain ⟨hi, hlt, hlast⟩ := h
        refine ⟨hi, by omega, ?_⟩
        intro j hj hjle
        by_cases heq : j = n
        · rw [heq, hn]
        · exact hlast j hj (by omega)
      · intro h
        obtain ⟨hi, hle, hlast⟩ := h
        have hne : i ≠ n := by
          intro heq
          rw [heq, hn] at hi
          contradiction
        exact ⟨hi, by omega, fun j hj hjlt => hlast j hj (by omega)⟩

section Search

variable {before ending : List UInt8} {place : ℕ}

theorem isEocd_append (hplace : place + EOCD_BYTES ≤ ending.length) :
    isEocd (before ++ ending) (before.length + place) = true ↔ Forged ending place := by
  have hbytes : EOCD_BYTES = 22 := rfl
  have hlength : (before ++ ending).length = before.length + ending.length := List.length_append
  have hsignature : littleU32 ((before ++ ending).drop (before.length + place)) =
      some (field ending place 4) := by
    have hdrop : (before ++ ending).drop (before.length + place) = ending.drop place := by
      rw [← List.drop_drop, List.drop_left]
    rw [hdrop, littleU32, if_pos (by rw [List.length_drop]; omega), field_drop, add_zero]
  have hcomment : littleU16At (before ++ ending) (before.length + place + 20) =
      some (field ending (place + 20) 2) := by
    rw [littleU16At, if_pos (by omega), field_append (by omega)]
    have hindex : before.length + place + 20 - before.length = place + 20 := by omega
    rw [hindex]
  rw [isEocd, hsignature, hcomment, Option.any_some, Bool.and_eq_true, decide_eq_true_eq,
    decide_eq_true_eq, Option.some_inj, hlength]
  have hend : before.length + place + EOCD_BYTES + field ending (place + 20) 2 =
      before.length + ending.length ↔ place + EOCD_BYTES + field ending (place + 20) 2 =
      ending.length := by omega
  rw [hend]
  rfl

/-- **Where the search ends.** -/
theorem findEocd_append_eq_some (hending : EOCD_BYTES ≤ ending.length) :
    findEocd (before ++ ending) = some before.length ↔
      Forged ending 0 ∧
        ∀ place, 0 < place → place + EOCD_BYTES ≤ ending.length → ¬ Forged ending place := by
  have hlength : (before ++ ending).length = before.length + ending.length := List.length_append
  rw [findEocd, if_neg (by omega), find?_reverse_range_eq_some]
  have hown : isEocd (before ++ ending) before.length = true ↔ Forged ending 0 := by
    have h := @isEocd_append before ending 0 (by omega)
    rwa [add_zero] at h
  rw [hown]
  constructor
  · intro h
    obtain ⟨hforged, -, hlast⟩ := h
    refine ⟨hforged, ?_⟩
    intro place hpos hplace hforged
    have hfalse := hlast (before.length + place) (by omega) (by omega)
    rw [(isEocd_append hplace).mpr hforged] at hfalse
    contradiction
  · intro h
    obtain ⟨hforged, hlast⟩ := h
    refine ⟨hforged, by omega, ?_⟩
    intro index hindex hlt
    have hplace : index - before.length + EOCD_BYTES ≤ ending.length := by omega
    have hnot := mt (@isEocd_append before ending _ hplace).mp (hlast _ (by omega) hplace)
    rw [Nat.add_sub_cancel' hindex.le] at hnot
    exact Bool.eq_false_iff.mpr hnot

end Search

/-! ### What is read of an archive -/

namespace Archive

variable (a : Archive) {comment : List UInt8}

@[simp] theorem length_endRecord (commentLen : ℕ) : (a.endRecord commentLen).length = 22 := by
  simp only [endRecord, List.length_append, length_leBytes]

@[simp] theorem length_ending (comment : List UInt8) :
    (a.ending comment).length = 22 + comment.length := by
  rw [ending, List.length_append, length_endRecord]

/-- The numbers of the end record. -/
theorem field_ending (hcomment : comment.length ≤ MAX_ZIP_COMMENT) :
    field (a.ending comment) 0 4 = EOCD_SIGNATURE ∧ field (a.ending comment) 4 2 = 0 ∧
      field (a.ending comment) 6 2 = 0 ∧ field (a.ending comment) 8 2 = a.entries ∧
      field (a.ending comment) 10 2 = a.entries ∧
      field (a.ending comment) 12 4 = a.directory.length ∧
      field (a.ending comment) 16 4 = a.contents.length ∧
      field (a.ending comment) 20 2 = comment.length := by
  have hentries : ∀ rest, field (leBytes 2 a.entries ++ rest) 0 2 = a.entries :=
    field_leBytes_append_zero (a.entries_lt.trans (by decide))
  have hdirectory : ∀ rest, field (leBytes 4 a.directory.length ++ rest) 0 4 =
      a.directory.length := field_leBytes_append_zero (a.directory_lt.trans (by decide))
  have hcontents : ∀ rest, field (leBytes 4 a.contents.length ++ rest) 0 4 = a.contents.length :=
    field_leBytes_append_zero (a.contents_lt.trans (by decide))
  have hcomment' : ∀ rest, field (leBytes 2 comment.length ++ rest) 0 2 = comment.length :=
    field_leBytes_append_zero (hcomment.trans_lt (by decide))
  have hzero : ∀ rest, field (leBytes 2 0 ++ rest) 0 2 = 0 :=
    field_leBytes_append_zero (by decide)
  have hsignature : ∀ rest, field (leBytes 4 EOCD_SIGNATURE ++ rest) 0 4 = EOCD_SIGNATURE :=
    field_leBytes_append_zero (by decide)
  simp (disch := decide) only [ending, endRecord, List.append_assoc, field_leBytes_append,
    hentries, hdirectory, hcontents, hcomment', hzero, hsignature, Nat.reduceSub, and_self]

/-- The tail ends with the end record and the comment. -/
theorem exists_tail_eq (hcomment : comment.length ≤ MAX_ZIP_COMMENT) :
    ∃ before, a.tail comment = before ++ a.ending comment ∧
      before.length = a.ownIndex comment := by
  have hbytes : EOCD_BYTES = 22 := rfl
  have hfile : (a.file comment).length =
      (a.contents ++ a.directory).length + (22 + comment.length) := by
    rw [file, ← List.append_assoc, List.length_append, length_ending]
  have htail : a.tail comment = (a.contents ++ a.directory).drop ((a.file comment).length -
      min (a.file comment).length (EOCD_BYTES + MAX_ZIP_COMMENT)) ++ a.ending comment := by
    rw [tail]
    generalize hskip : (a.file comment).length -
      min (a.file comment).length (EOCD_BYTES + MAX_ZIP_COMMENT) = skipped
    rw [file, ← List.append_assoc, List.drop_append_of_le_length (by omega)]
  refine ⟨_, htail, ?_⟩
  rw [ownIndex, htail, List.length_append, length_ending]
  omega

theorem length_file (comment : List UInt8) : (a.file comment).length =
    a.contents.length + a.directory.length + 22 + comment.length := by
  rw [file, List.length_append, List.length_append, length_ending]
  omega

theorem readDirectory_ending (hcomment : comment.length ≤ MAX_ZIP_COMMENT) {index tailLen : ℕ}
    (hindex : index + EOCD_BYTES + comment.length = tailLen) :
    readDirectory (a.ending comment) index tailLen (a.file comment).length (a.file comment) =
      a.inspect := by
  obtain ⟨-, hdisk, hcentralDisk, hdiskEntries, hentries, hsize, hoffset, hcommentLen⟩ :=
    a.field_ending hcomment
  have hcontents := a.contents_lt
  have hdirectory := a.directory_lt
  have hcount := a.entries_lt
  have hfile := a.length_file comment
  have hwide : u32Max + u32Max ≤ usizeMax := by decide
  have hfew : u16Max ≤ MAX_ARCHIVE_ENTRIES := by decide
  have hread : ∀ place, place ≤ 22 → place ≤ (a.ending comment).length := by
    intro place hplace
    rw [length_ending]
    omega
  have hend : checkedAdd a.contents.length a.directory.length =
      some (a.contents.length + a.directory.length) := if_pos (by omega)
  have hrefuse : ∀ {condition : Prop} [Decidable condition] {message : String}, ¬ condition →
      refuseIf condition message = .ok () := fun hfalse => if_neg hfalse
  have hassert : assertEq (index + EOCD_BYTES + comment.length) tailLen = .ok () := if_pos hindex
  have hat : readAt (a.file comment) a.contents.length a.directory.length = .ok a.directory := by
    rw [readAt, if_neg (by omega), file, List.drop_left, List.take_left]
  rw [readDirectory, readU16_ok (hread (4 + 2) (by decide)) hdisk, ok_bind,
    readU16_ok (hread (6 + 2) (by decide)) hcentralDisk, ok_bind,
    readU16_ok (hread (8 + 2) (by decide)) hdiskEntries, ok_bind,
    readU16_ok (hread (10 + 2) (by decide)) hentries, ok_bind,
    readU32_ok (hread (12 + 4) (by decide)) hsize, ok_bind,
    readU32_ok (hread (16 + 4) (by decide)) hoffset, ok_bind,
    readU16_ok (hread (20 + 2) (by decide)) hcommentLen, ok_bind,
    hrefuse (by simp), ok_bind, hrefuse (by omega), ok_bind, hassert, ok_bind, inspect]
  refine refuseIf_bind_congr ?_ ?_
  · rw [hend, Option.all_some, decide_eq_true_eq]
    omega
  · intro _
    rw [hat, ok_bind]

/-- **What is reported of an archive whose end record is found.** -/
theorem readCentralDirectory_eq (hcomment : comment.length ≤ MAX_ZIP_COMMENT)
    (hfound : findEocd (a.tail comment) = some (a.ownIndex comment)) :
    readCentralDirectory (.ok (a.file comment)) (a.file comment).length = a.inspect := by
  have hbytes : EOCD_BYTES = 22 := rfl
  obtain ⟨before, htail, hbefore⟩ := a.exists_tail_eq hcomment
  have hlength : (a.tail comment).length = a.ownIndex comment + (22 + comment.length) := by
    rw [htail, List.length_append, length_ending, hbefore]
  have hfile := a.length_file comment
  have hlarge : refuseIf ((a.file comment).length < EOCD_BYTES)
      "file is too small to be a ZIP archive" = .ok () := if_neg (by omega)
  have hread : readTail (a.file comment)
      (min (a.file comment).length (EOCD_BYTES + MAX_ZIP_COMMENT)) = .ok (a.tail comment) :=
    if_neg (by omega)
  have hwhole : refuseIf ((a.tail comment).length < a.ownIndex comment + EOCD_BYTES)
      "truncated end-of-central-directory record" = .ok () := if_neg (by omega)
  have hslice : sliceFrom (a.tail comment) (a.ownIndex comment) = .ok (a.ending comment) := by
    rw [sliceFrom, if_pos (by omega), htail, ← hbefore, List.drop_left]
  rw [readCentralDirectory, hlarge, ok_bind, Except.mapError, ok_bind, hread, ok_bind, hfound]
  simp only [hwhole, ok_bind, hslice]
  exact a.readDirectory_ending hcomment (by omega)

/-- **When the end record of the archive is found.** -/
theorem findEocd_tail_iff (hcomment : comment.length ≤ MAX_ZIP_COMMENT) :
    findEocd (a.tail comment) = some (a.ownIndex comment) ↔
      ∀ place, 0 < place → place ≤ comment.length → ¬ Forged (a.ending comment) place := by
  have hbytes : EOCD_BYTES = 22 := rfl
  obtain ⟨before, htail, hbefore⟩ := a.exists_tail_eq hcomment
  have hlength := a.length_ending comment
  have hown : Forged (a.ending comment) 0 := by
    obtain ⟨hsignature, -, -, -, -, -, -, hcommentLen⟩ := a.field_ending hcomment
    refine ⟨hsignature, ?_⟩
    rw [zero_add, hcommentLen]
    omega
  rw [htail, ← hbefore, findEocd_append_eq_some (by omega)]
  constructor
  · intro h place hpos hplace
    exact h.2 place hpos (by omega)
  · intro h
    exact ⟨hown, fun place hpos hplace => h place hpos (by omega)⟩

/-- Without a comment nothing can be forged. -/
theorem findEocd_tail_nil : findEocd (a.tail []) = some (a.ownIndex []) := by
  rw [a.findEocd_tail_iff (Nat.zero_le _)]
  intro place hpos hplace
  rw [List.length_nil] at hplace
  omega

/-- **The comment cannot redirect the inspection exactly if nothing is forged.** -/
theorem comment_redirects_iff (hcomment : comment.length ≤ MAX_ZIP_COMMENT) :
    (findEocd (a.tail comment) = some (a.ownIndex comment) ∧
        readCentralDirectory (.ok (a.file comment)) (a.file comment).length =
          readCentralDirectory (.ok (a.file [])) (a.file []).length) ↔
      ∀ place, 0 < place → place ≤ comment.length → ¬ Forged (a.ending comment) place := by
  rw [← a.findEocd_tail_iff hcomment]
  constructor
  · intro h
    exact h.1
  · intro hfound
    refine ⟨hfound, ?_⟩
    rw [a.readCentralDirectory_eq hcomment hfound,
      a.readCentralDirectory_eq (Nat.zero_le _) a.findEocd_tail_nil]

/-! ### Covered entries -/

/-- An empty archive with the given archive and its end record in front. -/
def cover (hfile : (a.file []).length < u32Max) : Archive where
  contents := a.contents ++ (a.directory ++ a.endRecord 22)
  directory := []
  entries := 0
  contents_lt := by
    rw [length_file] at hfile
    simp only [List.length_append, length_endRecord]
    simp only [List.length_nil] at hfile
    omega
  directory_lt := by decide
  entries_lt := by decide

/-- The end record of the empty archive, as a comment. -/
def forgedComment (hfile : (a.file []).length < u32Max) : List UInt8 := (a.cover hfile).endRecord 0

theorem length_forgedComment (hfile : (a.file []).length < u32Max) :
    (a.forgedComment hfile).length = 22 := length_endRecord _ 0

theorem file_forgedComment (hfile : (a.file []).length < u32Max) :
    a.file (a.forgedComment hfile) = (a.cover hfile).file [] := by
  rw [file, ending, length_forgedComment]
  simp only [file, ending, forgedComment, cover, List.append_assoc, List.append_nil,
    List.nil_append, List.length_nil]

/-- **The entries of any archive can be hidden by a comment.** -/
theorem readCentralDirectory_forgedComment (hfile : (a.file []).length < u32Max) :
    readCentralDirectory (.ok (a.file (a.forgedComment hfile)))
      (a.file (a.forgedComment hfile)).length = .ok [] := by
  have hdirectory : (a.cover hfile).directory = [] := rfl
  have hentries : (a.cover hfile).entries = 0 := rfl
  have hsmall : refuseIf (MAX_CENTRAL_DIRECTORY_BYTES < (a.cover hfile).directory.length)
      "ZIP central directory exceeds safety limits" = .ok () :=
    if_neg (by rw [hdirectory]; decide)
  have hcapacity : withCapacity ARCHIVE_ENTRY_BYTES 0 = .ok () := if_pos (by decide)
  rw [file_forgedComment, readCentralDirectory_eq _ (Nat.zero_le _) (findEocd_tail_nil _), inspect,
    hsmall, ok_bind, hdirectory, hentries, parseCentralEntries, hcapacity, ok_bind,
    parseFrom_of_le (Nat.zero_le _), if_neg (by decide)]

end Archive

/-- The record of an empty file `a`. -/
def fileRecord : CentralRecord where
  header := ⟨0x02014b50, 20, 20, 0, 0, 0, 0, 0, 0, 0, 1, 0, 0, 0, 0, 0, 0⟩
  name := "a"
  extra := []
  comment := []
  signature_eq := by decide
  nameLen_eq := by decide
  extraLen_eq := by decide
  commentLen_eq := by decide
  name_ne := by decide
  name_le := by decide
  name_plain := by
    intro c hc
    obtain rfl : c = 'a' := by simpa using hc
    decide
  diskStart_eq := by decide
  compressedSize_ne := by decide +kernel
  uncompressedSize_ne := by decide +kernel
  localOffset_ne := by decide +kernel

/-- The archive of an empty file `a`: its local header, then the directory. -/
def fileArchive : Archive where
  contents := leBytes 4 0x04034b50 ++ leBytes 2 20 ++ List.replicate 20 0 ++ leBytes 2 1 ++
    leBytes 2 0 ++ [97]
  directory := fileRecord.bytes
  entries := 1
  contents_lt := by decide +kernel
  directory_lt := by decide +kernel
  entries_lt := by decide

theorem comment_redirects_iff_plain :
    readCentralDirectory (.ok (fileArchive.file [80, 75, 5, 6]))
        (fileArchive.file [80, 75, 5, 6]).length =
      readCentralDirectory (.ok (fileArchive.file [])) (fileArchive.file []).length := by
  refine ((fileArchive.comment_redirects_iff (by decide)).mpr ?_).2
  intro place hpos hplace
  have hplace' : place ≤ 4 := hplace
  interval_cases place
  all_goals decide +kernel

theorem fileArchive_lt : (fileArchive.file []).length < u32Max := by decide +kernel

/-- The comment hides the file. -/
theorem forged_comment_hides :
    readCentralDirectory (.ok (fileArchive.file (fileArchive.forgedComment fileArchive_lt)))
        (fileArchive.file (fileArchive.forgedComment fileArchive_lt)).length = .ok [] ∧
      readCentralDirectory (.ok (fileArchive.file [])) (fileArchive.file []).length =
        .ok [⟨"a", false, false⟩] := by
  refine ⟨fileArchive.readCentralDirectory_forgedComment fileArchive_lt, ?_⟩
  have hsmall : refuseIf (MAX_CENTRAL_DIRECTORY_BYTES < fileArchive.directory.length)
      "ZIP central directory exceeds safety limits" = .ok () := if_neg (by decide +kernel)
  have hcapacity : withCapacity ARCHIVE_ENTRY_BYTES fileArchive.entries = .ok () :=
    if_pos (by decide)
  have hentry : [fileRecord].map CentralRecord.entry = [⟨"a", false, false⟩] := by decide +kernel
  rw [fileArchive.readCentralDirectory_eq (Nat.zero_le _) fileArchive.findEocd_tail_nil,
    Archive.inspect, hsmall, ok_bind, parseCentralEntries, hcapacity, ok_bind,
    parseFrom_eq_ok (by decide +kernel) (Nat.zero_le _) (Nat.zero_le _)]
  exact ⟨[fileRecord], (List.append_nil _).symm, hentry.symm, rfl, by decide⟩

end Wroid.PackageArchive
