import UltimateEnigma.Py.Struct

set_option autoImplicit false

namespace Py

/-- A `float`, by its bit pattern. -/
abbrev Binary64 := BitVec 64

namespace Binary64

def isNaN (value : Binary64) : Bool :=
  decide (0x7ff0000000000000 < value.toNat % 2 ^ 63)

/-- The order of the numbers that are not NaN; both zeros have the same place. -/
def place (value : Binary64) : Int :=
  if value.toNat < 2 ^ 63 then value.toNat else -(value.toNat - 2 ^ 63 : Int)

/-- `left < right`. -/
def lt (left right : Binary64) : Bool :=
  !left.isNaN && !right.isNaN && decide (left.place < right.place)

/-- `struct.pack(">d", value)`. -/
def pack (value : Binary64) : Bytes := packBE 8 value.toNat

@[simp] theorem pack_length (value : Binary64) : value.pack.length = 8 := packBE_length 8 _

theorem pack_injective {left right : Binary64} (same : left.pack = right.pack) : left = right := by
  have leftFits : left.toNat < 256 ^ 8 := left.isLt
  have rightFits : right.toNat < 256 ^ 8 := right.isLt
  exact BitVec.eq_of_toNat_eq (packBE_injective leftFits rightFits same)

/-- What has expired by one moment has expired at every later one. -/
theorem lt_of_lt_of_not_lt {limit now later : Binary64} (expired : limit.lt now = true)
    (number : later.isNaN = false) (onward : later.lt now = false) :
    limit.lt later = true := by
  simp only [lt, Bool.and_eq_true, Bool.not_eq_true', decide_eq_true_eq] at expired ⊢
  simp only [lt, Bool.and_eq_false_iff, Bool.not_eq_false', decide_eq_false_iff_not] at onward
  obtain ⟨⟨limitNumber, nowNumber⟩, below⟩ := expired
  refine ⟨⟨limitNumber, number⟩, ?_⟩
  rcases onward with (laterNaN | nowNaN) | notBelow
  · rw [number] at laterNaN
    cases laterNaN
  · rw [nowNumber] at nowNaN
    cases nowNaN
  · omega

end Binary64

/-- What `json.loads` makes. -/
inductive Json where
  | null
  | bool (value : Bool)
  | int (value : Int)
  | float (value : Binary64)
  | str (value : String)
  | list (items : List Json)
  | dict (items : List (String × Json))

/-- A `dict` with text keys. -/
abbrev JsonDict := List (String × Json)

/-- `bool(value)`. -/
def Json.truthy : Json → Bool
  | .null => false
  | .bool value => value
  | .int value => value != 0
  | .float value => value != 0 && value != BitVec.ofNat 64 (2 ^ 63)
  | .str value => value != ""
  | .list items => !items.isEmpty
  | .dict items => !items.isEmpty

/-- Data that survives as JSON text: there are no floats, and the keys of a dictionary differ. -/
inductive Json.Portable : Json → Prop where
  | null : Portable .null
  | bool (value : Bool) : Portable (.bool value)
  | int (value : Int) : Portable (.int value)
  | str (value : String) : Portable (.str value)
  | list {items : List Json} (each : ∀ item ∈ items, Portable item) : Portable (.list items)
  | dict {items : JsonDict} (distinct : (items.map Prod.fst).Nodup)
      (each : ∀ item ∈ items, Portable item.2) : Portable (.dict items)

/-- `json.dumps` and `json.loads`, which raises on what is not JSON. -/
structure JsonText where
  dumps : Json → String
  loads : String → Option Json

/-- Portable data is found again in the text that was made of it. -/
def JsonText.Keeps (text : JsonText) (value : Json) : Prop :=
  value.Portable → text.loads (text.dumps value) = some value

/-- Conversions of the interpreter and of SQLite between numbers and texts. -/
structure Conversions where
  /-- `float(text)`, which raises on text that is no number -/
  floatOfText : String → Option Binary64
  /-- `float(number)`, which raises when the number is too large -/
  floatOfInt : Int → Option Binary64
  /-- `str(value)` -/
  str : Json → String
  /-- The text that a column of text affinity stores for a float -/
  realText : Binary64 → String
  /-- `value + number` -/
  plus : Binary64 → Int → Binary64

end Py
