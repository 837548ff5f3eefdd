import Wroid.Lib.BitSet
import Wroid.Core.Validate

/-!
# Host keys and mouse buttons

The physical inputs of `wroid-runtime` and the words that hold sets of them.

## Main definitions

* `HostKeyName`, `HostMouseButton`, `RuntimePhysicalInput` — what can be pressed.
* `HostKeyName.parse` — the key a profile's name stands for.
* `ModifierMask` — a set of keys in a 64-bit word.

## Main results

* `parse_eq_some` — a name is parsed as the key whose canonical name it has.
* `exists_parse` — **the names the validator accepts are the names the runtime parses.**
-/

namespace Wroid

open Lib

/-- A key that a profile can name; the order is that of the bits in a `ModifierMask`. -/
inductive HostKeyName
  | num0 | num1 | num2 | num3 | num4 | num5 | num6 | num7 | num8 | num9
  | a | b | c | d | e | f | g | h | i | j | k | l | m
  | n | o | p | q | r | s | t | u | v | w | x | y | z
  | space | tab | shift | ctrl | alt | up | left | down | right | esc
  deriving DecidableEq, Repr

namespace HostKeyName

/-- The names of a profile, in the order of the keys. -/
def PROFILE_NAMES : List (String × HostKeyName) :=
  [("0", num0), ("1", num1), ("2", num2), ("3", num3), ("4", num4), ("5", num5), ("6", num6),
    ("7", num7), ("8", num8), ("9", num9), ("a", a), ("b", b), ("c", c), ("d", d), ("e", e),
    ("f", f), ("g", g), ("h", h), ("i", i), ("j", j), ("k", k), ("l", l), ("m", m), ("n", n),
    ("o", o), ("p", p), ("q", q), ("r", r), ("s", s), ("t", t), ("u", u), ("v", v), ("w", w),
    ("x", x), ("y", y), ("z", z), ("space", space), ("tab", tab), ("shift", shift),
    ("ctrl", ctrl), ("alt", alt), ("up", up), ("left", left), ("down", down), ("right", right),
    ("esc", esc)]

def parse (value : String) : Option HostKeyName :=
  (PROFILE_NAMES.find? fun entry => asciiLower (trim rustBlank value) == asciiLower entry.1).map
    Prod.snd

def index (key : HostKeyName) : ℕ := key.ctorIdx

/-- The canonical spelling of a key in a profile. -/
def profileName (key : HostKeyName) : String := (PROFILE_NAMES.getD key.index ("", num0)).1

theorem index_lt (key : HostKeyName) : key.index < 46 := by cases key <;> decide

theorem index_injective : Function.Injective index := by
  intro key key' h
  rw [← ofNat_ctorIdx key, ← ofNat_ctorIdx key']
  exact congrArg ofNat h

theorem mem_profileNames (key : HostKeyName) : (key.profileName, key) ∈ PROFILE_NAMES := by
  cases key <;> decide

theorem names_nodup : (PROFILE_NAMES.map Prod.fst).Nodup := by decide

theorem names_eq : PROFILE_NAMES.map Prod.fst = supportedKeyNames := rfl

theorem asciiLower_names : ∀ entry ∈ PROFILE_NAMES, asciiLower entry.1 = entry.1 := by decide

/-- **A name is parsed as the key whose canonical name it has.** -/
theorem parse_eq_some {value : String} {key : HostKeyName} :
    parse value = some key ↔ canonicalKey value = key.profileName := by
  rw [parse, Option.map_eq_some_iff]
  constructor
  · rintro ⟨entry, hfind, rfl⟩
    have hmem := List.mem_of_find?_eq_some hfind
    have hname := List.find?_some hfind
    rw [beq_iff_eq, asciiLower_names _ hmem] at hname
    obtain ⟨name, key⟩ := entry
    have hkey : name = key.profileName := by
      have : ∀ entry ∈ PROFILE_NAMES, entry.1 = entry.2.profileName := by decide
      exact this _ hmem
    exact hname.trans hkey
  · intro hname
    have hmem := mem_profileNames key
    obtain ⟨entry, hfind⟩ : ∃ entry, PROFILE_NAMES.find? (fun entry =>
        asciiLower (trim rustBlank value) == asciiLower entry.1) = some entry := by
      rw [← Option.isSome_iff_exists, List.find?_isSome]
      exact ⟨_, hmem, by
        rw [beq_iff_eq, asciiLower_names _ hmem]
        exact hname⟩
    refine ⟨entry, hfind, ?_⟩
    have hmem' := List.mem_of_find?_eq_some hfind
    have hsame := List.find?_some hfind
    rw [beq_iff_eq, asciiLower_names _ hmem'] at hsame
    exact congrArg Prod.snd
      (List.inj_on_of_nodup_map names_nodup hmem' hmem (hsame.symm.trans hname))

/-- **The names the validator accepts are the names the runtime parses.** -/
theorem exists_parse {value : String} : (∃ key, parse value = some key) ↔ knownKeyName value := by
  simp only [parse_eq_some, knownKeyName, List.contains_iff_mem]
  rw [← names_eq, List.mem_map]
  constructor
  · rintro ⟨key, hkey⟩
    exact ⟨_, mem_profileNames key, hkey.symm⟩
  · rintro ⟨⟨name, key⟩, hmem, hname⟩
    have : ∀ entry ∈ PROFILE_NAMES, entry.1 = entry.2.profileName := by decide
    exact ⟨key, hname.symm.trans (this _ hmem)⟩

theorem profileName_injective : Function.Injective profileName := by
  intro key key' h
  have := List.inj_on_of_nodup_map names_nodup (mem_profileNames key) (mem_profileNames key') h
  exact congrArg Prod.snd this

end HostKeyName

/-- A set of keys, one bit each. -/
structure ModifierMask where
  bits : BitVec 64
  deriving DecidableEq

namespace ModifierMask

def EMPTY : ModifierMask := ⟨0⟩

def fromKey (key : HostKeyName) : ModifierMask := ⟨BitVec.twoPow 64 key.index⟩

def contains (mask : ModifierMask) (key : HostKeyName) : Bool := hasBit mask.bits key.index

def insert (mask : ModifierMask) (key : HostKeyName) : ModifierMask :=
  ⟨mask.bits ||| BitVec.twoPow 64 key.index⟩

def remove (mask : ModifierMask) (key : HostKeyName) : ModifierMask :=
  ⟨mask.bits &&& ~~~BitVec.twoPow 64 key.index⟩

def intersects (mask other : ModifierMask) : Bool := mask.bits &&& other.bits != 0#64

variable {mask other : ModifierMask} {key key' : HostKeyName}

theorem index_lt_word (key : HostKeyName) : key.index < 64 := by
  have := key.index_lt
  omega

theorem index_eq_iff : key.index = key'.index ↔ key = key' :=
  HostKeyName.index_injective.eq_iff

@[simp] theorem contains_empty : EMPTY.contains key = false := hasBit_zero

@[simp] theorem contains_insert :
    (mask.insert key).contains key' = (mask.contains key' || decide (key = key')) := by
  rw [contains, insert, hasBit_insert (index_lt_word key), contains]
  simp only [index_eq_iff]

@[simp] theorem contains_remove :
    (mask.remove key).contains key' = (mask.contains key' && decide (key ≠ key')) := by
  rw [contains, remove, hasBit_remove (index_lt_word key), contains]
  simp only [ne_eq, index_eq_iff]

@[simp] theorem intersects_empty_left : EMPTY.intersects other = false := by
  simp [intersects, EMPTY]

@[simp] theorem intersects_empty_right : mask.intersects EMPTY = false := by
  simp [intersects, EMPTY]

theorem intersects_iff : mask.intersects other = true ↔
    ∃ i, hasBit mask.bits i = true ∧ hasBit other.bits i = true := by
  rw [intersects, bne_iff_ne, and_ne_zero]

@[simp] theorem intersects_fromKey : (fromKey key).intersects other = other.contains key := by
  rw [Bool.eq_iff_iff, intersects_iff]
  have hbit : ∀ i, hasBit (BitVec.twoPow 64 key.index) i = decide (key.index = i) := by
    intro i
    have := hasBit_insert (m := 0#64) (j := i) (index_lt_word key)
    simpa using this
  constructor
  · rintro ⟨i, hi, hother⟩
    rw [fromKey, hbit, decide_eq_true_eq] at hi
    rwa [contains, hi]
  · exact fun h => ⟨key.index, by simp [fromKey, hbit], h⟩

@[simp] theorem intersects_insert :
    (mask.insert key).intersects other = (mask.intersects other || other.contains key) := by
  have hbit : ∀ i, hasBit (mask.bits ||| BitVec.twoPow 64 key.index) i =
      (hasBit mask.bits i || decide (key.index = i)) := fun i => hasBit_insert (index_lt_word key)
  rw [Bool.eq_iff_iff, Bool.or_eq_true, intersects_iff, intersects_iff]
  constructor
  · rintro ⟨i, hi, hother⟩
    rw [insert, hbit, Bool.or_eq_true, decide_eq_true_eq] at hi
    rcases hi with hi | rfl
    · exact .inl ⟨i, hi, hother⟩
    · exact .inr hother
  · rintro (⟨i, hi, hother⟩ | hother)
    · exact ⟨i, by simp [insert, hbit, hi], hother⟩
    · exact ⟨key.index, by simp [insert, hbit], hother⟩

end ModifierMask

inductive HostMouseButton
  | left
  | right
  | middle
  | side
  | extra
  deriving DecidableEq, Repr

namespace HostMouseButton

def NAMES : List (String × HostMouseButton) :=
  [("left", left), ("right", right), ("middle", middle), ("side", side), ("extra", extra)]

def parse (value : String) : Option HostMouseButton :=
  (NAMES.find? fun entry => asciiLower (trim rustBlank value) == asciiLower entry.1).map Prod.snd

def index (button : HostMouseButton) : ℕ := button.ctorIdx

theorem index_lt (button : HostMouseButton) : button.index < 8 := by cases button <;> decide

theorem index_injective : Function.Injective index := by
  intro x y h
  rw [← ofNat_ctorIdx x, ← ofNat_ctorIdx y]
  exact congrArg ofNat h

theorem exists_parse {value : String} :
    (∃ button, parse value = some button) ↔ canonicalKey value ∈ supportedButtonNames := by
  have hlower : ∀ entry ∈ NAMES, asciiLower entry.1 = entry.1 := by decide
  have hnames : NAMES.map Prod.fst = supportedButtonNames := rfl
  simp only [parse, Option.map_eq_some_iff, exists_comm (α := HostMouseButton),
    exists_and_left, exists_eq', and_true]
  rw [← Option.isSome_iff_exists, List.find?_isSome, ← hnames, List.mem_map]
  constructor
  · rintro ⟨entry, hmem, h⟩
    rw [beq_iff_eq, hlower _ hmem] at h
    exact ⟨entry, hmem, h.symm⟩
  · rintro ⟨entry, hmem, h⟩
    exact ⟨entry, hmem, by rw [beq_iff_eq, hlower _ hmem, h]; rfl⟩

end HostMouseButton

/-- A physical input of the host. -/
inductive RuntimePhysicalInput
  | key (key : HostKeyName)
  | mouseButton (button : HostMouseButton)
  deriving DecidableEq, Repr

/-- The physical inputs that the names of a profile input stand for; a name without a
meaning stands for none. -/
def resolvedPhysicalInputs (input : InputV2) : List RuntimePhysicalInput :=
  let key := fun value => (HostKeyName.parse value).map RuntimePhysicalInput.key
  match input with
  | .key value => [key value].reduceOption
  | .keyCluster up left down right => [key up, key left, key down, key right].reduceOption
  | .mouseButton button =>
    [(HostMouseButton.parse button).map RuntimePhysicalInput.mouseButton].reduceOption
  | .mouseMove => []

end Wroid
