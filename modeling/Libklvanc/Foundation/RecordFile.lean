import Mathlib

/-!
# Files of records

A file is a list, and records are written to it one behind the other with a code that is
prefix-free: what begins with the code of a record does so for one record only (`PrefixCode`). Every
file is then, in one way, the codes of some records and a rest that begins with none
(`exists_records`, `records_unique`).

A filter copies the records that pass a test and drops the rest (`Filtered`). Filtering a filtered
file with another test is filtering with both (`Filtered.trans`).
-/

namespace RecordFile

variable {ρ α : Type} (encode : ρ → List α)

/-- No code is empty, and what begins with the code of a record does so for one record only. -/
structure PrefixCode : Prop where
  ne_nil : ∀ r, encode r ≠ []
  inj : ∀ r r' l l', encode r ++ l = encode r' ++ l' → r = r' ∧ l = l'

/-- The list begins with the code of no record. -/
def IsRest (l : List α) : Prop := ∀ r l', l ≠ encode r ++ l'

/-- The file consists of the codes of the records and a rest. -/
def HasRecords (file : List α) (rs : List ρ) : Prop :=
  ∃ rest, file = rs.flatMap encode ++ rest ∧ IsRest encode rest

/-- The file `out` consists of the codes of the records of `file` that pass the test. -/
def Filtered (p : ρ → Bool) (file out : List α) : Prop :=
  ∃ rs, HasRecords encode file rs ∧ out = (rs.filter p).flatMap encode

variable {encode}

/-- There are no more records than elements. -/
lemma length_le_length_flatMap (hcode : PrefixCode encode) (rs : List ρ) :
    rs.length ≤ (rs.flatMap encode).length := by
  induction rs with
  | nil => exact le_rfl
  | cons r rs ih =>
    have hpos : 0 < (encode r).length := List.length_pos_iff.mpr (hcode.ne_nil r)
    rw [List.flatMap_cons, List.length_append, List.length_cons]
    omega

/-- Every file consists of the codes of some records and a rest. -/
theorem exists_records (hcode : PrefixCode encode) (file : List α) :
    ∃ rs, HasRecords encode file rs := by
  induction hn : file.length using Nat.strong_induction_on generalizing file with
  | h n ih =>
    by_cases hrest : IsRest encode file
    · exact ⟨[], file, rfl, hrest⟩
    · obtain ⟨r, l', rfl⟩ : ∃ r l', file = encode r ++ l' := by
        unfold IsRest at hrest
        push Not at hrest
        exact hrest
      have hpos : 0 < (encode r).length := List.length_pos_iff.mpr (hcode.ne_nil r)
      rw [List.length_append] at hn
      obtain ⟨rs, rest, hl', hrest'⟩ := ih l'.length (by omega) l' rfl
      exact ⟨r :: rs, rest, by rw [hl', List.flatMap_cons, List.append_assoc], hrest'⟩

/-- The records of a file are unique. -/
theorem records_unique (hcode : PrefixCode encode) {file : List α} {rs rs' : List ρ}
    (h : HasRecords encode file rs) (h' : HasRecords encode file rs') : rs = rs' := by
  obtain ⟨rest, hfile, hrest⟩ := h
  obtain ⟨rest', hfile', hrest'⟩ := h'
  rw [hfile] at hfile'
  clear hfile
  induction rs generalizing rs' with
  | nil =>
    cases rs' with
    | nil => rfl
    | cons r' rs' =>
      rw [List.flatMap_nil, List.nil_append, List.flatMap_cons, List.append_assoc] at hfile'
      exact absurd hfile' (hrest r' _)
  | cons r rs ih =>
    cases rs' with
    | nil =>
      rw [List.flatMap_nil, List.nil_append, List.flatMap_cons, List.append_assoc] at hfile'
      exact absurd hfile'.symm (hrest' r _)
    | cons r' rs' =>
      rw [List.flatMap_cons, List.flatMap_cons, List.append_assoc, List.append_assoc] at hfile'
      obtain ⟨rfl, htail⟩ := hcode.inj r r' _ _ hfile'
      rw [ih htail]

/-- A file of codes alone has no rest. -/
lemma hasRecords_flatMap (hcode : PrefixCode encode) (rs : List ρ) :
    HasRecords encode (rs.flatMap encode) rs := by
  refine ⟨[], (List.append_nil _).symm, fun r l' h => ?_⟩
  exact hcode.ne_nil r (List.append_eq_nil_iff.mp h.symm).1

namespace Filtered

variable {p q : ρ → Bool} {file out out' : List α}

/-- What is filtered from a file is unique. -/
lemma unique (hcode : PrefixCode encode) (h : Filtered encode p file out)
    (h' : Filtered encode p file out') : out = out' := by
  obtain ⟨rs, hrs, rfl⟩ := h
  obtain ⟨rs', hrs', rfl⟩ := h'
  rw [records_unique hcode hrs hrs']

/-- Filtering twice is filtering with both tests. -/
theorem trans (hcode : PrefixCode encode) (h : Filtered encode p file out)
    (h' : Filtered encode q out out') : Filtered encode (fun r => p r && q r) file out' := by
  obtain ⟨rs, hrs, rfl⟩ := h
  obtain ⟨rs', hrs', rfl⟩ := h'
  obtain rfl := records_unique hcode hrs' (hasRecords_flatMap hcode (rs.filter p))
  refine ⟨rs, hrs, ?_⟩
  rw [List.filter_filter]
  exact congrArg _ (List.filter_congr fun r _ => Bool.and_comm _ _)

end Filtered

end RecordFile
