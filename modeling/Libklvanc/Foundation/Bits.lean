import Mathlib

/-!
# Bit strings, most significant bit first

The bits of a number in a field of `w` bits, most significant bit first (`Bits.ofNat`), the number a
bit string denotes (`Bits.toNat`), and the bit string of a list of octets (`Bits.ofBytes`). A field
is read back from its own bits modulo `2 ^ w` (`toNat_ofNat`), fields concatenate
(`ofNat_add`), and octets are determined by their bits (`ofBytes_injective`).
`Bits.bigEndian k n` is the octet form of a field of `8 * k` bits (`ofBytes_bigEndian`).
-/

namespace Bits

/-- The low `w` bits of `n`, most significant bit first. -/
def ofNat : ℕ → ℕ → List Bool
  | 0, _ => []
  | w + 1, n => n.testBit w :: ofNat w n

/-- The number denoted by a bit string, most significant bit first. -/
def toNat (bs : List Bool) : ℕ :=
  bs.foldl (fun acc b => 2 * acc + b.toNat) 0

/-- The bits of a list of octets, each most significant bit first. -/
def ofBytes (l : List (BitVec 8)) : List Bool :=
  l.flatMap fun b => ofNat 8 b.toNat

/-- Fields one behind the other, each a value and a width. -/
def ofFields (fields : List (ℕ × ℕ)) : List Bool :=
  fields.flatMap fun f => ofNat f.2 f.1

/-- The fields of the given widths that begin a bit string. -/
def toFields : List ℕ → List Bool → List (ℕ × ℕ)
  | [], _ => []
  | w :: ws, bs => (toNat (bs.take w), w) :: toFields ws (bs.drop w)

/-- The octets of a field of `8 * k` bits, most significant octet first. -/
def bigEndian : ℕ → ℕ → List (BitVec 8)
  | 0, _ => []
  | k + 1, n => BitVec.ofNat 8 (n >>> (8 * k)) :: bigEndian k n

/-- The octets of a bit string of whole octets. -/
def toBytes (bs : List Bool) : List (BitVec 8) := bigEndian (bs.length / 8) (toNat bs)

/-! ### Lengths -/

@[simp] theorem ofNat_length (w n : ℕ) : (ofNat w n).length = w := by
  induction w with
  | zero => rfl
  | succ w ih => simp [ofNat, ih]

@[simp] theorem ofBytes_nil : ofBytes [] = [] := rfl

@[simp] theorem ofBytes_cons (b : BitVec 8) (l : List (BitVec 8)) :
    ofBytes (b :: l) = ofNat 8 b.toNat ++ ofBytes l := rfl

@[simp] theorem ofBytes_append (l l' : List (BitVec 8)) :
    ofBytes (l ++ l') = ofBytes l ++ ofBytes l' := by
  simp [ofBytes]

@[simp] theorem ofBytes_length (l : List (BitVec 8)) : (ofBytes l).length = 8 * l.length := by
  induction l with
  | nil => rfl
  | cons b l ih => simp [ih]; omega

@[simp] theorem bigEndian_length (k n : ℕ) : (bigEndian k n).length = k := by
  induction k with
  | zero => rfl
  | succ k ih => simp [bigEndian, ih]

/-! ### Fields -/

/-- The number of a bit string continued on the right. -/
theorem toNat_append (bs cs : List Bool) :
    toNat (bs ++ cs) = toNat bs * 2 ^ cs.length + toNat cs := by
  unfold toNat
  rw [List.foldl_append]
  generalize bs.foldl (fun acc b => 2 * acc + b.toNat) 0 = m
  induction cs using List.reverseRecOn with
  | nil => simp
  | append_singleton cs c ih =>
    simp only [List.foldl_append, List.foldl_cons, List.foldl_nil, ih, List.length_append,
      List.length_singleton, pow_succ]
    ring

@[simp] theorem toNat_nil : toNat [] = 0 := rfl

/-- The number of a bit string split off its first bit. -/
theorem toNat_cons (b : Bool) (bs : List Bool) :
    toNat (b :: bs) = b.toNat * 2 ^ bs.length + toNat bs := by
  have h := toNat_append [b] bs
  simpa [toNat] using h

/-- A bit string denotes a number of at most its own width. -/
theorem toNat_lt (bs : List Bool) : toNat bs < 2 ^ bs.length := by
  induction bs with
  | nil => simp
  | cons b bs ih =>
    rw [toNat_cons, List.length_cons, pow_succ]
    cases b <;> simp <;> omega

/-- A field of `w` bits holds its value modulo `2 ^ w`. -/
theorem toNat_ofNat (w n : ℕ) : toNat (ofNat w n) = n % 2 ^ w := by
  induction w with
  | zero => simp [ofNat, Nat.mod_one]
  | succ w ih =>
    rw [ofNat, toNat_cons, ofNat_length, ih, Nat.mod_pow_succ, Nat.testBit_eq_decide_div_mod_eq]
    rcases Nat.mod_two_eq_zero_or_one (n / 2 ^ w) with h | h
    · simp [h]
    · simp [h]
      omega

/-- Only the low `w` bits of the value enter a field of `w` bits. -/
theorem ofNat_mod (w n : ℕ) : ofNat w (n % 2 ^ w) = ofNat w n := by
  suffices h : ∀ v, v ≤ w → ofNat v (n % 2 ^ w) = ofNat v n from h w le_rfl
  intro v
  induction v with
  | zero => intro _; rfl
  | succ v ih =>
    intro hv
    rw [ofNat, ofNat, ih (by omega), Nat.testBit_mod_two_pow]
    simp [show v < w by omega]

/-- A field of `a + b` bits is the field of its high `a` bits and that of its low `b` bits. -/
theorem ofNat_add (a b n : ℕ) : ofNat (a + b) n = ofNat a (n >>> b) ++ ofNat b n := by
  induction a with
  | zero => simp [ofNat]
  | succ a ih =>
    rw [show a + 1 + b = (a + b) + 1 by omega, ofNat, ofNat, ih, Nat.testBit_shiftRight]
    simp [Nat.add_comm]

/-- A bit string is the field of the number it denotes. -/
theorem ofNat_toNat (bs : List Bool) : ofNat bs.length (toNat bs) = bs := by
  induction bs using List.reverseRecOn with
  | nil => rfl
  | append_singleton bs b ih =>
    have hb : ofNat 1 (toNat bs * 2 ^ 1 + toNat [b]) = [b] := by
      cases b <;> simp [ofNat, toNat, Nat.testBit_zero, Nat.add_mod]
    have hs : (toNat bs * 2 ^ 1 + toNat [b]) >>> 1 = toNat bs := by
      rw [Nat.shiftRight_eq_div_pow]
      cases b
      · simp [toNat]
      · simp [toNat]
        omega
    rw [List.length_append, List.length_singleton, toNat_append, List.length_singleton, ofNat_add,
      hs, ih, hb]

/-- The first bits of a bit string, as a field. -/
lemma eq_ofNat_append {w : ℕ} {bs : List Bool} (h : w ≤ bs.length) :
    bs = ofNat w (toNat (bs.take w)) ++ bs.drop w := by
  have hfield := ofNat_toNat (bs.take w)
  rw [List.length_take, min_eq_left h] at hfield
  rw [hfield, List.take_append_drop]

/-- The first bits of a bit string denote a number of at most their width. -/
lemma toNat_take_lt (w : ℕ) (bs : List Bool) : toNat (bs.take w) < 2 ^ w :=
  (toNat_lt _).trans_le (Nat.pow_le_pow_right (by norm_num) (List.length_take_le _ _))

/-- Fields of one width with equal bits hold equal numbers. -/
theorem mod_eq_of_ofNat_eq {w m n : ℕ} (h : ofNat w m = ofNat w n) : m % 2 ^ w = n % 2 ^ w := by
  rw [← toNat_ofNat, ← toNat_ofNat, h]

@[simp] lemma ofFields_nil : ofFields [] = [] := rfl

@[simp] lemma ofFields_cons (v w : ℕ) (fields : List (ℕ × ℕ)) :
    ofFields ((v, w) :: fields) = ofNat w v ++ ofFields fields := rfl

@[simp] lemma ofFields_append (l l' : List (ℕ × ℕ)) :
    ofFields (l ++ l') = ofFields l ++ ofFields l' := by
  simp [ofFields]

/-- The bits of fields are as many as their widths add up to. -/
lemma ofFields_length (fields : List (ℕ × ℕ)) :
    (ofFields fields).length = (fields.map Prod.snd).sum := by
  simp [ofFields, List.length_flatMap]

/-- Records of fields of one length. -/
lemma ofFields_flatMap_length {α : Type} {f : α → List (ℕ × ℕ)} {k : ℕ} {l : List α}
    (h : ∀ a ∈ l, (ofFields (f a)).length = k) :
    (ofFields (l.flatMap f)).length = k * l.length := by
  induction l with
  | nil => rfl
  | cons a l ih =>
    obtain ⟨ha, hl⟩ := List.forall_mem_cons.mp h
    rw [List.flatMap_cons, ofFields_append, List.length_append, ha, ih hl, List.length_cons]
    ring

/-- Octets are fields of eight bits. -/
lemma ofFields_octets (l : List (BitVec 8)) :
    ofFields (l.map fun b => (b.toNat, 8)) = ofBytes l := by
  rw [ofFields, ofBytes, List.flatMap_map]

/-- A bit string is split into fields. -/
lemma ofFields_toFields {ws : List ℕ} {bs : List Bool} (h : ws.sum ≤ bs.length) :
    ofFields (toFields ws bs) ++ bs.drop ws.sum = bs := by
  induction ws generalizing bs with
  | nil => rfl
  | cons w ws ih =>
    rw [List.sum_cons] at h ⊢
    rw [toFields, ofFields_cons, List.append_assoc, ← List.drop_drop,
      ih (by rw [List.length_drop]; omega), ← eq_ofNat_append (by omega)]

/-! ### Octets -/

/-- An octet is determined by its eight bits. -/
theorem ofNat_eight_injective {b c : BitVec 8} (h : ofNat 8 b.toNat = ofNat 8 c.toNat) : b = c := by
  have hm := mod_eq_of_ofNat_eq h
  rw [Nat.mod_eq_of_lt b.isLt, Nat.mod_eq_of_lt c.isLt] at hm
  exact BitVec.eq_of_toNat_eq hm

/-- A list of octets is determined by its bits. -/
theorem ofBytes_injective {l l' : List (BitVec 8)} (h : ofBytes l = ofBytes l') : l = l' := by
  induction l generalizing l' with
  | nil =>
    have hl := congrArg List.length h
    simp only [ofBytes_length, List.length_nil] at hl
    exact (List.eq_nil_of_length_eq_zero (by omega)).symm
  | cons b l ih =>
    cases l' with
    | nil =>
      have hl := congrArg List.length h
      simp at hl
    | cons c l' =>
      rw [ofBytes_cons, ofBytes_cons] at h
      obtain ⟨hb, ht⟩ := List.append_inj h (by simp)
      rw [ofNat_eight_injective hb, ih ht]

/-- The octets of a field of `8 * k` bits carry the bits of that field. -/
theorem ofBytes_bigEndian (k n : ℕ) : ofBytes (bigEndian k n) = ofNat (8 * k) n := by
  induction k with
  | zero => rfl
  | succ k ih =>
    rw [bigEndian, ofBytes_cons, ih, BitVec.toNat_ofNat, ofNat_mod,
      show 8 * (k + 1) = 8 + 8 * k by omega, ofNat_add]

/-- The octets of a bit string carry its bits. -/
lemma ofBytes_toBytes {bs : List Bool} (h : 8 ∣ bs.length) : ofBytes (toBytes bs) = bs := by
  rw [toBytes, ofBytes_bigEndian, Nat.mul_div_cancel' h, ofNat_toNat]

/-- The octets of a bit string are an eighth of its bits. -/
@[simp] lemma toBytes_length (bs : List Bool) : (toBytes bs).length = bs.length / 8 :=
  bigEndian_length _ _

/-- Storing an octet replaces the field that stands in its place. -/
lemma ofBytes_set {l : List (BitVec 8)} {pre post : List Bool} {v i : ℕ} (b : BitVec 8)
    (h : ofBytes l = pre ++ (ofNat 8 v ++ post)) (hpre : pre.length = 8 * i) :
    ofBytes (l.set i b) = pre ++ (ofNat 8 b.toNat ++ post) := by
  have hlen := congrArg List.length h
  simp only [ofBytes_length, List.length_append, ofNat_length] at hlen
  have hi : i < l.length := by omega
  have hsplit : l = l.take i ++ l[i] :: l.drop (i + 1) := by simp
  rw [hsplit, ofBytes_append, ofBytes_cons] at h
  obtain ⟨htake, hrest⟩ := List.append_inj h (by simp [hpre]; omega)
  obtain ⟨-, hdrop⟩ := List.append_inj hrest (by simp)
  rw [List.set_eq_take_append_cons_drop, if_pos hi, ofBytes_append, ofBytes_cons, htake, hdrop]

end Bits
