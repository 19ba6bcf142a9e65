set_option autoImplicit false

namespace Py

variable {ε α β : Type}

/-- The reader accepts this data as exactly the values that are written so, and what it raises
otherwise is a refusal. -/
structure ReadsExactly (Writes : α → β → Prop) (Refusal : ε → Prop) (read : β → Except ε α)
    (data : β) : Prop where
  accepts (value : α) : read data = .ok value ↔ Writes value data
  refuses (raised : ε) : read data = .error raised → Refusal raised

/-- Writer and reader are inverse to each other on the domain, and the reader accepts nothing
else. -/
structure ExactCodec (Domain : α → Prop) (Refusal : ε → Prop) (write : α → Except ε β)
    (read : β → Except ε α) : Prop where
  read_write (value : α) : Domain value → ∃ data, write value = .ok data ∧ read data = .ok value
  write_read (data : β) (value : α) : read data = .ok value → Domain value ∧ write value = .ok data
  refuses (data : β) (raised : ε) : read data = .error raised → Refusal raised

section Reading

variable {Writes : α → β → Prop} {Refusal : ε → Prop} {read : β → Except ε α} {data : β}

/-- Data that is accepted has to be written as its one value. -/
theorem readsExactly_of_ok {value : α} (accepted : read data = .ok value) :
    ReadsExactly Writes Refusal read data ↔ ∀ other, Writes other data ↔ other = value := by
  constructor
  · intro exactly other
    rw [← exactly.accepts other, accepted]
    constructor
    · intro same
      cases same
      rfl
    · rintro rfl
      rfl
  · intro written
    constructor
    · intro other
      rw [written other, accepted]
      constructor
      · intro same
        cases same
        rfl
      · rintro rfl
        rfl
    · intro raised impossible
      rw [accepted] at impossible
      cases impossible

/-- Data that is not accepted must not be written at all. -/
theorem readsExactly_of_error {raised : ε} (refused : read data = .error raised) :
    ReadsExactly Writes Refusal read data ↔ Refusal raised ∧ ∀ value, ¬ Writes value data := by
  constructor
  · intro exactly
    refine ⟨exactly.refuses raised refused, ?_⟩
    intro value written
    have accepted := (exactly.accepts value).mpr written
    rw [refused] at accepted
    cases accepted
  · rintro ⟨refusal, unwritten⟩
    constructor
    · intro value
      rw [refused]
      refine iff_of_false ?_ (unwritten value)
      intro impossible
      cases impossible
    · intro other same
      rw [refused] at same
      cases same
      exact refusal

end Reading

end Py
