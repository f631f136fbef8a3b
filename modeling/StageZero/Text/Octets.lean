/-! Octets as text: strict decoding, and a lossy one for showing names that are not text. -/
namespace StageZero.Text

abbrev Octets := List UInt8

def octets (text : String) : Octets := text.toUTF8.data.toList

/-- Whether there is a zero octet. What ends at the first zero, as the system's own texts do, cannot
hold one. -/
def holdsZero (bytes : Octets) : Bool := 0 ∈ bytes

/-- The text that the octets encode, if they are well-formed UTF-8. -/
def text? (bytes : Octets) : Option String := String.fromUTF8? bytes.toByteArray

theorem text?_eq_some_iff {bytes : Octets} {text : String} : text? bytes = some text ↔ octets text = bytes := by
  have whole : bytes.toByteArray.data.toList = bytes := by simp
  rw [text?, String.fromUTF8?]
  constructor
  · intro read
    split at read
    case isTrue =>
      cases read
      exact whole
    case isFalse => cases read
  · rintro rfl
    have same : (octets text).toByteArray = text.toByteArray := by
      ext1
      simp [octets]
    rw [dif_pos (same ▸ text.isValidUTF8)]
    exact congrArg some (String.toByteArray_inj.mp same)

@[simp] theorem text?_octets (text : String) : text? (octets text) = some text := text?_eq_some_iff.mpr rfl

theorem octets_inj {text other : String} : octets text = octets other ↔ text = other := by
  rw [← text?_eq_some_iff, text?_octets, Option.some.injEq, eq_comm]

theorem octets_append (front back : String) : octets (front ++ back) = octets front ++ octets back := by
  simp [octets]

/-- How many octets follow a lead octet, and the range of the first of them. -/
def tail? (lead : UInt8) : Option (Nat × UInt8 × UInt8) :=
  if lead < 0x80 then some (0, 0x80, 0xBF)
  else if lead < 0xC2 then none
  else if lead < 0xE0 then some (1, 0x80, 0xBF)
  else if lead = 0xE0 then some (2, 0xA0, 0xBF)
  else if lead = 0xED then some (2, 0x80, 0x9F)
  else if lead < 0xF0 then some (2, 0x80, 0xBF)
  else if lead = 0xF0 then some (3, 0x90, 0xBF)
  else if lead < 0xF4 then some (3, 0x80, 0xBF)
  else if lead = 0xF4 then some (3, 0x80, 0x8F)
  else none

/-- The value of a lead octet's own bits when `count` octets follow it. -/
def leadBits (count : Nat) (lead : UInt8) : Nat :=
  match count with
  | 0 => lead.toNat
  | 1 => lead.toNat % 32
  | 2 => lead.toNat % 16
  | _ => lead.toNat % 8

/-- What is owed of a character: octets still to come, the range of the next, the bits so far. -/
structure Pending where
  owed : Nat
  first : UInt8
  last : UInt8
  bits : Nat

def replacement : Char := '\uFFFD'

/-- A lead octet alone: a character, the start of one, or nothing that UTF-8 allows. -/
def lead (byte : UInt8) : List Char × Option Pending :=
  match tail? byte with
  | none => ([replacement], none)
  | some (0, _, _) => ([Char.ofNat byte.toNat], none)
  | some (count, first, last) => ([], some ⟨count, first, last, leadBits count byte⟩)

/-- Decodes with one replacement character for each longest part that begins a character and does
not complete it. -/
def lossyFrom : Option Pending → Octets → List Char
  | none, [] => []
  | some _, [] => [replacement]
  | none, byte :: rest =>
    let next := lead byte
    next.1 ++ lossyFrom next.2 rest
  | some pending, byte :: rest =>
    if pending.first ≤ byte ∧ byte ≤ pending.last then
      let bits := pending.bits * 64 + byte.toNat % 64
      if pending.owed = 1 then Char.ofNat bits :: lossyFrom none rest
      else lossyFrom (some ⟨pending.owed - 1, 0x80, 0xBF, bits⟩) rest
    else
      let next := lead byte
      replacement :: next.1 ++ lossyFrom next.2 rest

def lossy (bytes : Octets) : String := String.ofList (lossyFrom none bytes)

end StageZero.Text
