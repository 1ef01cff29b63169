/-
# Attributes in a datagram

A message carries attributes one after another: a kind, the length of the value, the value, and
padding up to a multiple of four bytes.  A reader walks over them until it meets the kind it
wants.  The message says how long it is, and the datagram may hold fewer bytes than that.

What the reader takes is the first attribute of the kind it wants, exactly when all before it
are there in full and the message reaches that far.
-/

import Mathlib.Data.List.Basic

namespace CameraStack.Lib.Attributes

/-- Bytes as they come from the network. -/
abbrev Bytes := List UInt8

/-- `struct.pack("!H", n)`. -/
def be16 (n : ℕ) : Bytes := [UInt8.ofNat (n / 256), UInt8.ofNat n]

/-- `struct.unpack("!H", …)`. -/
def unpack16 (high low : UInt8) : ℕ := 256 * high.toNat + low.toNat

/-- The length with the padding: `n + (-n % 4)`. -/
def padded (n : ℕ) : ℕ := n + (4 - n % 4) % 4

/-- An attribute, with the bytes that pad it. -/
structure Attribute where
  kind : ℕ
  value : Bytes
  padding : Bytes
  kind_lt : kind < 65536
  length_lt : value.length < 65536
  aligned : value.length + padding.length = padded value.length

/-- The bytes of an attribute. -/
def Attribute.encode (a : Attribute) : Bytes :=
  be16 a.kind ++ be16 a.value.length ++ a.value ++ a.padding

/-- The bytes of attributes. -/
def encodeAll (as : List Attribute) : Bytes := as.flatMap Attribute.encode

theorem unpack16_lt (high low : UInt8) : unpack16 high low < 65536 := by
  have hhigh := high.toNat_lt
  have hlow := low.toNat_lt
  rw [unpack16]
  omega

theorem be16_unpack16 (high low : UInt8) : be16 (unpack16 high low) = [high, low] := by
  have hlow := low.toNat_lt
  have hdiv : unpack16 high low / 256 = high.toNat := by
    rw [unpack16]
    omega
  have hcast : UInt8.ofNat (unpack16 high low) = low := by
    apply UInt8.toNat_inj.mp
    rw [UInt8.toNat_ofNat', unpack16]
    omega
  rw [be16, hdiv, hcast, UInt8.ofNat_toNat]

theorem unpack16_be16 {n : ℕ} (hn : n < 65536) :
    unpack16 (UInt8.ofNat (n / 256)) (UInt8.ofNat n) = n := by
  rw [unpack16, UInt8.toNat_ofNat', UInt8.toNat_ofNat']
  omega

theorem be16_append (n : ℕ) (rest : Bytes) :
    be16 n ++ rest = UInt8.ofNat (n / 256) :: UInt8.ofNat n :: rest := rfl

theorem length_encode (a : Attribute) : a.encode.length = 4 + padded a.value.length := by
  have haligned := a.aligned
  simp only [Attribute.encode, be16, List.length_append, List.length_cons, List.length_nil]
  omega

theorem encodeAll_cons (a : Attribute) (as : List Attribute) :
    encodeAll (a :: as) = a.encode ++ encodeAll as := List.flatMap_cons

section Walk

variable {ρ : Type} (short done : ρ) (wanted : ℕ) (take : ℕ → Bytes → ρ)

/-- Walk over the attributes; `left` counts the bytes that the message still has, by its own
account.  The bytes may run out, the message may end, or the kind that is wanted is met. -/
def walk (left : ℕ) (rest : Bytes) : ρ :=
  if left < 4 then done
  else
    match rest with
    | k :: k' :: n :: n' :: more =>
        if unpack16 k k' = wanted then take (unpack16 n n') more
        else walk (left - 4 - padded (unpack16 n n')) (more.drop (padded (unpack16 n n')))
    | _ => short
termination_by left

variable {short done wanted take}

/-- The attribute that is wanted is met. -/
theorem walk_wanted {left len : ℕ} (hleft : 4 ≤ left) (hwanted : wanted < 65536)
    (hlen : len < 65536) (more : Bytes) :
    walk short done wanted take left (be16 wanted ++ be16 len ++ more) = take len more := by
  rw [List.append_assoc, be16_append, be16_append, walk, if_neg (by omega)]
  simp only [unpack16_be16 hwanted, unpack16_be16 hlen, if_true]

/-- An attribute of another kind is skipped. -/
theorem walk_skip {a : Attribute} (ha : a.kind ≠ wanted) (left : ℕ) (rest : Bytes) :
    walk short done wanted take (a.encode.length + left) (a.encode ++ rest) =
      walk short done wanted take left rest := by
  have hlength := length_encode a
  have hdrop : (a.value ++ a.padding ++ rest).drop (padded a.value.length) = rest := by
    rw [← a.aligned, ← List.length_append, List.drop_left]
  have hencode : a.encode ++ rest =
      UInt8.ofNat (a.kind / 256) :: UInt8.ofNat a.kind :: UInt8.ofNat (a.value.length / 256) ::
        UInt8.ofNat a.value.length :: (a.value ++ a.padding ++ rest) := by
    simp [Attribute.encode, be16]
  rw [hencode, walk, if_neg (by omega)]
  simp only [unpack16_be16 a.kind_lt, unpack16_be16 a.length_lt, if_neg ha, hdrop]
  congr 1
  omega

theorem walk_skipAll {as : List Attribute} (has : ∀ a ∈ as, a.kind ≠ wanted) (left : ℕ)
    (rest : Bytes) :
    walk short done wanted take ((encodeAll as).length + left) (encodeAll as ++ rest) =
      walk short done wanted take left rest := by
  induction as with
  | nil => rw [encodeAll, List.flatMap_nil, List.length_nil, Nat.zero_add, List.nil_append]
  | cons a as ih =>
      obtain ⟨ha, hrest⟩ := List.forall_mem_cons.mp has
      rw [encodeAll_cons, List.length_append, Nat.add_assoc, List.append_assoc, walk_skip ha,
        ih hrest]

/-- The attribute at the front of bytes that go on behind it. -/
theorem exists_attribute {k k' n n' : UInt8} {more : Bytes}
    (hmore : padded (unpack16 n n') ≤ more.length) :
    ∃ a : Attribute, a.kind = unpack16 k k' ∧ a.value.length = unpack16 n n' ∧
      k :: k' :: n :: n' :: more = a.encode ++ more.drop (padded (unpack16 n n')) := by
  have hle : unpack16 n n' ≤ padded (unpack16 n n') := Nat.le_add_right _ _
  have hvalue : (more.take (unpack16 n n')).length = unpack16 n n' := by
    rw [List.length_take]
    omega
  use
    { kind := unpack16 k k'
      value := more.take (unpack16 n n')
      padding := (more.take (padded (unpack16 n n'))).drop (unpack16 n n')
      kind_lt := unpack16_lt k k'
      length_lt := Nat.lt_of_le_of_lt (Nat.le_of_eq hvalue) (unpack16_lt n n')
      aligned := by
        rw [hvalue, List.length_drop, List.length_take]
        omega }
  have hsplit : more.take (unpack16 n n') ++
      (more.take (padded (unpack16 n n'))).drop (unpack16 n n') =
        more.take (padded (unpack16 n n')) := by
    have htake := List.take_append_drop (unpack16 n n') (more.take (padded (unpack16 n n')))
    rwa [List.take_take, Nat.min_eq_left hle] at htake
  apply And.intro rfl
  apply And.intro hvalue
  rw [Attribute.encode]
  dsimp only
  rw [hvalue, be16_unpack16, be16_unpack16, List.append_assoc _ (more.take (unpack16 n n')),
    hsplit]
  simp

/-- What the reader takes is the first attribute of the kind it wants. -/
theorem walk_eq_iff (hwanted : wanted < 65536) {r : ρ} (hshort : r ≠ short) (hdone : r ≠ done)
    (left : ℕ) (rest : Bytes) :
    walk short done wanted take left rest = r ↔
      ∃ as len more, (∀ a ∈ as, a.kind ≠ wanted) ∧ len < 65536 ∧
        rest = encodeAll as ++ (be16 wanted ++ be16 len ++ more) ∧
          (encodeAll as).length + 4 ≤ left ∧ take len more = r := by
  constructor
  · intro h
    induction left using Nat.strongRecOn generalizing rest with
    | _ left ih =>
        unfold walk at h
        by_cases hleft : left < 4
        · rw [if_pos hleft] at h
          exact absurd h.symm hdone
        rw [if_neg hleft] at h
        split at h
        · next k k' n n' more =>
            by_cases hkind : unpack16 k k' = wanted
            · rw [if_pos hkind] at h
              use [], unpack16 n n', more
              rw [← hkind, be16_unpack16, be16_unpack16]
              exact ⟨by simp, unpack16_lt n n', rfl, by simpa [encodeAll] using hleft, h⟩
            · rw [if_neg hkind] at h
              obtain ⟨as, len, tail, has, hlen, hrest, hreach, htake⟩ := ih _ (by omega) _ h
              -- the attribute that is wanted comes later, so this one is there in full
              have hpos : 0 < (more.drop (padded (unpack16 n n'))).length := by
                rw [hrest, be16_append, List.cons_append, List.length_append, List.length_cons]
                omega
              rw [List.length_drop] at hpos
              obtain ⟨a, hka, hva, hsplit⟩ := @exists_attribute k k' n n' more (by omega)
              have hlength := length_encode a
              rw [hva] at hlength
              use a :: as, len, tail
              apply And.intro
              · exact List.forall_mem_cons.mpr (And.intro (hka ▸ hkind) has)
              · apply And.intro hlen
                rw [encodeAll_cons, List.length_append, List.append_assoc, hsplit, hrest]
                exact ⟨rfl, by omega, htake⟩
        · exact absurd h.symm hshort
  · rintro ⟨as, len, more, has, hlen, rfl, hreach, rfl⟩
    obtain ⟨extra, rfl⟩ := Nat.exists_eq_add_of_le hreach
    rw [Nat.add_assoc, walk_skipAll has]
    exact walk_wanted (Nat.le_add_right 4 extra) hwanted hlen more

end Walk

end CameraStack.Lib.Attributes
