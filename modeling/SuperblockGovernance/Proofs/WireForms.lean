/-
Exact binary forms. A form is exact on a class of values when it reads a value off just those
octets that begin with the written value, and only a value of the class. So every value has
one spelling, and what is read can be written again. Forms that are combined of exact ones
are exact. The lengths of strings are the one place where a number could be spelt in several
ways; there a spelling in more octets than it takes is refused.
-/

import SuperblockGovernance.Wire.Form

namespace SuperblockGovernance.Wire

/-! ### The first octets -/

theorem takeOctets_eq_some_iff {count : Nat} {input octets rest : Octets} :
    takeOctets count input = some (octets, rest) ↔
      octets.length = count ∧ input = octets ++ rest := by
  rw [takeOctets]
  constructor
  · intro taken
    split at taken
    · rename_i enough
      rw [List.splitAt_eq] at taken
      cases taken
      exact ⟨List.length_take_of_le enough, (List.take_append_drop count input).symm⟩
    · cases taken
  · rintro ⟨rfl, rfl⟩
    rw [if_pos (by rw [List.length_append]; omega), List.splitAt_eq, List.take_left,
      List.drop_left]

namespace Form

variable {α β : Type}

/-- The form reads a value of the class, and what follows it, off just the octets that begin with
the value as it is written. -/
def Exact (form : Form α) (fits : α → Prop) : Prop :=
  ∀ input value rest,
    form.read input = some (value, rest) ↔ fits value ∧ input = form.write value ++ rest

/-- Values that are written alike are the same. -/
theorem Exact.write_injective {form : Form α} {fits : α → Prop} (exact : form.Exact fits)
    {first second : α} (firstFits : fits first) (secondFits : fits second)
    (same : form.write first = form.write second) : first = second := by
  have one := (exact (form.write first ++ []) first []).mpr ⟨firstFits, rfl⟩
  have other := (exact (form.write first ++ []) second []).mpr ⟨secondFits, by rw [same]⟩
  rw [one] at other
  cases other
  rfl

theorem Exact.congr {form : Form α} {fits others : α → Prop} (exact : form.Exact fits)
    (same : ∀ value, fits value ↔ others value) : form.Exact others :=
  fun input value rest => (exact input value rest).trans (and_congr_left' (same value))

/-! ### Combined forms -/

theorem exact_pair {first : Form α} {second : Form β} {firstFits : α → Prop}
    {secondFits : β → Prop} (firstExact : first.Exact firstFits)
    (secondExact : second.Exact secondFits) :
    (first.pair second).Exact fun value => firstFits value.1 ∧ secondFits value.2 := by
  rintro input ⟨left, right⟩ rest
  simp only [pair, Option.bind_eq_bind, Option.bind_eq_some_iff, Option.pure_def,
    Option.some.injEq, Prod.mk.injEq, Prod.exists, firstExact _ _ _, secondExact _ _ _]
  constructor
  · rintro ⟨_, after, ⟨leftFits, rfl⟩, _, _, ⟨rightFits, rfl⟩, ⟨rfl, rfl⟩, rfl⟩
    exact ⟨⟨leftFits, rightFits⟩, (List.append_assoc _ _ _).symm⟩
  · rintro ⟨⟨leftFits, rightFits⟩, rfl⟩
    exact ⟨left, _, ⟨leftFits, List.append_assoc _ _ _⟩, right, rest, ⟨rightFits, rfl⟩, ⟨rfl, rfl⟩,
      rfl⟩

/-- Values that correspond one to one to others. -/
theorem exact_map {form : Form α} {fits : α → Prop} {build : α → β} {parts : β → α}
    (exact : form.Exact fits) (rebuilt : ∀ value, build (parts value) = value)
    (parted : ∀ value, fits value → parts (build value) = value) :
    (form.map build parts).Exact fun value => fits (parts value) := by
  intro input value rest
  simp only [map, Option.bind_eq_bind, Option.bind_eq_some_iff, Option.pure_def,
    Option.some.injEq, Prod.mk.injEq, Prod.exists, exact _ _ _]
  constructor
  · rintro ⟨found, _, ⟨foundFits, rfl⟩, rfl, rfl⟩
    rw [parted found foundFits]
    exact ⟨foundFits, rfl⟩
  · rintro ⟨valueFits, rfl⟩
    exact ⟨parts value, rest, ⟨valueFits, rfl⟩, rebuilt value, rfl⟩

/-- One octet that selects, when no two octets select the same. -/
theorem exact_choice {write : α → UInt8} {read : UInt8 → Option α}
    (selects : ∀ octet value, read octet = some value ↔ octet = write value) :
    (choice write read).Exact fun _ => True := by
  intro input value rest
  cases input with
  | nil => simp [choice]
  | cons octet after =>
    simp only [choice, Option.map_eq_some_iff, selects, Prod.mk.injEq, true_and,
      List.cons_append, List.nil_append, List.cons.injEq]
    constructor
    · rintro ⟨found, rfl, rfl, rfl⟩
      exact ⟨rfl, rfl⟩
    · rintro ⟨rfl, rfl⟩
      exact ⟨value, rfl, rfl, rfl⟩

/-! ### Numbers -/

theorem exact_number (width : Nat) : (number width).Exact (· < 256 ^ width) := by
  intro input value rest
  simp only [number, Option.bind_eq_bind, Option.bind_eq_some_iff, Option.pure_def,
    Option.some.injEq, Prod.mk.injEq, Prod.exists, takeOctets_eq_some_iff]
  constructor
  · rintro ⟨digits, _, ⟨rfl, rfl⟩, rfl, rfl⟩
    rw [Octets.littleEndian_ofLittleEndian]
    exact ⟨Octets.ofLittleEndian_lt digits, rfl⟩
  · rintro ⟨bound, rfl⟩
    refine ⟨Octets.littleEndian width value, rest, ⟨Octets.length_littleEndian width value, rfl⟩,
      ?_, rfl⟩
    rw [Octets.ofLittleEndian_littleEndian, Nat.mod_eq_of_lt bound]

theorem exact_word64 : word64.Exact fun _ => True := by
  have exact := exact_map (exact_number 8) (fun value => UInt64.ofNat_toNat)
    fun value bound => UInt64.toNat_ofNat_of_lt' bound
  exact exact.congr fun value => iff_true_intro value.toNat_lt

/-! ### Lengths -/

/-- A number of several octets has the mark of the first of them. -/
theorem readMarked_cons_iff {width least length : Nat} {first : UInt8} {after rest : Octets}
    (positive : 0 < width) :
    readMarked width least (first :: after) = some (length, rest) ↔
      least ≤ length ∧ 4 * length + first.toNat % 4 < 256 ^ width ∧
        first :: after = Octets.littleEndian width (4 * length + first.toNat % 4) ++ rest := by
  simp only [readMarked, Option.bind_eq_bind, Option.bind_eq_some_iff, Prod.exists,
    takeOctets_eq_some_iff]
  constructor
  · rintro ⟨digits, _, ⟨rfl, same⟩, read⟩
    split at read
    · rename_i enough
      cases read
      obtain ⟨_, others, rfl⟩ := List.exists_cons_of_length_pos positive
      obtain ⟨rfl, rfl⟩ := List.cons.inj same
      have marked : 4 * (Octets.ofLittleEndian (first :: others) / 4) + first.toNat % 4 =
          Octets.ofLittleEndian (first :: others) := by
        rw [Octets.ofLittleEndian]
        omega
      rw [marked, Octets.littleEndian_ofLittleEndian]
      exact ⟨enough, Octets.ofLittleEndian_lt _, rfl⟩
    · cases read
  · rintro ⟨enough, bound, same⟩
    refine ⟨_, rest, ⟨Octets.length_littleEndian width _, same⟩, ?_⟩
    have number : (4 * length + first.toNat % 4) / 4 = length := by omega
    rw [Octets.ofLittleEndian_littleEndian, Nat.mod_eq_of_lt bound, number, if_pos enough]

/-- Any length that is read is written as it was read. -/
theorem writeLength_of_readLength {input rest : Octets} {value : Nat}
    (read : readLength input = some (value, rest)) :
    value < 2 ^ 32 ∧ input = writeLength value ++ rest := by
  cases input with
  | nil => cases read
  | cons first after =>
    rw [readLength] at read
    split at read
    · rename_i mark
      obtain ⟨_, bound, same⟩ := (readMarked_cons_iff (by decide)).mp read
      rw [mark] at bound same
      rw [writeLength, if_pos (by omega)]
      exact ⟨by omega, same⟩
    · rename_i mark
      obtain ⟨least, bound, same⟩ := (readMarked_cons_iff (by decide)).mp read
      rw [mark] at bound same
      rw [writeLength, if_neg (by omega), if_pos (by omega)]
      exact ⟨by omega, same⟩
    · rename_i mark
      obtain ⟨least, bound, same⟩ := (readMarked_cons_iff (by decide)).mp read
      rw [mark] at bound same
      rw [writeLength, if_neg (by omega), if_neg (by omega), if_pos (by omega)]
      exact ⟨by omega, same⟩
    · split at read
      · rename_i first_eq
        obtain ⟨⟨digits, others⟩, taken, kept⟩ := Option.bind_eq_some_iff.mp read
        obtain ⟨size, rfl⟩ := takeOctets_eq_some_iff.mp taken
        dsimp only at kept
        split at kept
        · rename_i least
          cases kept
          have bound := Octets.ofLittleEndian_lt digits
          have whole := Octets.littleEndian_ofLittleEndian digits
          rw [size] at bound whole
          rw [writeLength, if_neg (by omega), if_neg (by omega), if_neg (by omega), whole, first_eq]
          exact ⟨by omega, rfl⟩
        · cases kept
      · cases read

theorem mark_ofNat (value : Nat) {mark : Nat} (small : mark < 4) :
    (UInt8.ofNat (4 * value + mark)).toNat % 4 = mark := by
  rw [UInt8.toNat_ofNat']
  omega

theorem readMarked_littleEndian (width : Nat) {least value mark : Nat} (rest : Octets)
    (enough : least ≤ value) (small : mark < 4) (bound : 4 * value + mark < 256 ^ (width + 1)) :
    readMarked (width + 1) least
      (Octets.littleEndian (width + 1) (4 * value + mark) ++ rest) = some (value, rest) := by
  refine (readMarked_cons_iff (Nat.succ_pos width)).mpr ⟨enough, ?_, ?_⟩
  · rw [mark_ofNat value small]
    exact bound
  · rw [mark_ofNat value small]
    rfl

/-- A length that was written is read, whatever follows. -/
theorem readLength_writeLength {value : Nat} (bound : value < 2 ^ 32) (rest : Octets) :
    readLength (writeLength value ++ rest) = some (value, rest) := by
  rw [writeLength]
  split
  · rename_i small
    show readLength (UInt8.ofNat (4 * value + 0) :: rest) = _
    rw [readLength, mark_ofNat value (by decide)]
    exact readMarked_littleEndian 0 rest (Nat.zero_le value) (by decide) (by omega)
  split
  · rename_i least most
    show readLength (UInt8.ofNat (4 * value + 1) :: _) = _
    rw [readLength, mark_ofNat value (by decide)]
    exact readMarked_littleEndian 1 rest (by omega) (by decide) (by omega)
  split
  · rename_i least most
    show readLength (UInt8.ofNat (4 * value + 2) :: _) = _
    rw [readLength, mark_ofNat value (by decide)]
    exact readMarked_littleEndian 3 rest (by omega) (by decide) (by omega)
  · rename_i least
    have taken : takeOctets 4 (Octets.littleEndian 4 value ++ rest) =
        some (Octets.littleEndian 4 value, rest) :=
      takeOctets_eq_some_iff.mpr ⟨Octets.length_littleEndian 4 value, rfl⟩
    have number : Octets.ofLittleEndian (Octets.littleEndian 4 value) = value := by
      rw [Octets.ofLittleEndian_littleEndian]
      exact Nat.mod_eq_of_lt bound
    show ((takeOctets 4 (Octets.littleEndian 4 value ++ rest)).bind fun taken =>
      if 2 ^ 30 ≤ Octets.ofLittleEndian taken.1 then
        some (Octets.ofLittleEndian taken.1, taken.2)
      else none) = _
    rw [taken]
    show (if 2 ^ 30 ≤ Octets.ofLittleEndian _ then some (Octets.ofLittleEndian _, rest) else none) =
      some (value, rest)
    rw [number, if_pos (by omega)]

theorem exact_length : length.Exact (· < 2 ^ 32) := by
  intro input value rest
  refine ⟨writeLength_of_readLength, ?_⟩
  rintro ⟨bound, rfl⟩
  exact readLength_writeLength bound rest

/-! ### Strings -/

theorem exact_octets : octets.Exact (·.length < 2 ^ 32) := by
  intro input value rest
  simp only [octets, Option.bind_eq_bind, Option.bind_eq_some_iff, Prod.exists,
    takeOctets_eq_some_iff]
  constructor
  · rintro ⟨_, _, read, rfl, rfl⟩
    obtain ⟨bound, rfl⟩ := (exact_length _ _ _).mp read
    exact ⟨bound, (List.append_assoc _ _ _).symm⟩
  · rintro ⟨bound, rfl⟩
    refine ⟨value.length, value ++ rest, ?_, rfl, rfl⟩
    rw [List.append_assoc]
    exact (exact_length _ _ _).mpr ⟨bound, rfl⟩

theorem exact_text : text.Exact fun value => (Octets.ofText value).length < 2 ^ 32 := by
  intro input value rest
  simp only [text, Option.bind_eq_bind, Option.bind_eq_some_iff, Option.pure_def,
    Option.some.injEq, Prod.mk.injEq, Prod.exists, exact_octets _ _ _]
  constructor
  · rintro ⟨_, _, ⟨bound, rfl⟩, _, denoted, rfl, rfl⟩
    rw [Octets.ofText_of_toText? denoted]
    exact ⟨bound, rfl⟩
  · rintro ⟨bound, rfl⟩
    exact ⟨Octets.ofText value, rest, ⟨bound, rfl⟩, value, Octets.toText?_ofText value, rfl, rfl⟩

end Form

end SuperblockGovernance.Wire
